import DdsBridge.Readers

/-!
# The maps of the reader registry stay in step

Subscribers, subscriptions and reader keys describe the same readers, as long as no session
subscribes twice to a topic and type with different QoS: the second subscription overwrites the
entry through which the first would have been found again.
-/

namespace DdsBridge

open ReaderRegistry

def DdsReader.key (reader : DdsReader) : ReaderKey :=
  ReaderKey.new reader.topic.topicName reader.topic.typeName reader.qosNormalized

/-- The reader keys in use correspond one to one to the live readers, each key made from its reader's
own topic, type and QoS. -/
def KeysInv (reg : ReaderRegistry) : Prop :=
  ∀ key r, reg.keyToReader.lookup key = some r ↔ ∃ reader, reg.readers.lookup r = some reader ∧ reader.key = key

structure RepInv (reg : ReaderRegistry) : Prop where
  subscribed : ∀ r reader s, reg.readers.lookup r = some reader → (s ∈ reader.subscribers ↔
    reg.sessionSubscriptions.lookup (s, reader.topic.topicName, reader.topic.typeName) = some r)
  nonempty : ∀ r reader, reg.readers.lookup r = some reader → ∃ s, s ∈ reader.subscribers
  keys : KeysInv reg

/-- With it, every subscription leads to a live reader of its topic and type. -/
structure RegistryInv (reg : ReaderRegistry) : Prop extends RepInv reg where
  live : ∀ s topicName typeName r,
    reg.sessionSubscriptions.lookup (s, topicName, typeName) = some r →
      ∃ reader, reg.readers.lookup r = some reader ∧ reader.topic.topicName = topicName ∧
        reader.topic.typeName = typeName

inductive ReaderCall where
  | subscribe (rc : Int32) (topic : Topic) (qos : Option DdsQos) (qosSet : QosSet) (sessionId : UInt64)
  | unsubscribe (topicName typeName : String) (sessionId : UInt64)
  | removeSession (sessionId : UInt64)

def ReaderRegistry.call (reg : ReaderRegistry) : ReaderCall → ReaderRegistry
  | .subscribe rc topic qos qosSet sessionId => (subscribe rc topic qos qosSet sessionId).after reg
  | .unsubscribe topicName typeName sessionId => (reg.unsubscribe topicName typeName sessionId).2
  | .removeSession sessionId => reg.removeSession sessionId

def CallStep (reg : ReaderRegistry) (call : ReaderCall) (reg' : ReaderRegistry) : Prop :=
  reg' = reg.call call

/-- A session that is subscribed to the topic and type subscribes with the same reader key, and the
counter does not return to the id of a live reader. -/
def KeepsReader (reg : ReaderRegistry) : ReaderCall → Prop
  | .subscribe rc topic _ qosSet sessionId =>
    let held := reg.sessionSubscriptions.lookup (sessionId, topic.topicName, topic.typeName)
    match reg.keyToReader.lookup (ReaderKey.new topic.topicName topic.typeName qosSet) with
    | some r => held = none ∨ held = some r
    | none => 0 ≤ rc → held = none ∧ reg.readers.lookup reg.nextReaderId = none
  | .unsubscribe .. => True
  | .removeSession _ => True

/-! ## Subscribing -/

theorem normalize_normalize (qos : QosSet) : qos.normalize.normalize = qos.normalize := by
  simp [QosSet.normalize, List.filter_filter]

@[simp] theorem ReaderKey.new_normalize (topicName typeName : String) (qos : QosSet) :
    ReaderKey.new topicName typeName qos.normalize = ReaderKey.new topicName typeName qos := by
  simp only [ReaderKey.new, normalize_normalize]

section
variable {reg : ReaderRegistry} {rc : Int32} {topic : Topic} {qos : Option DdsQos} {qosSet : QosSet}
  {s : UInt64}

/-- The three ways a subscription goes: a shared reader, an error, a new reader. -/
theorem subscribe_cases (reg : ReaderRegistry) (rc : Int32) (topic : Topic) (qos : Option DdsQos)
    (qosSet : QosSet) (s : UInt64) : let key := ReaderKey.new topic.topicName topic.typeName qosSet
    (∃ r reader, reg.shared key = some (r, reader) ∧
      subscribe rc topic qos qosSet s reg = .ok (r, reg.join r reader topic s)) ∨
    (reg.shared key = none ∧ rc < 0 ∧
      subscribe rc topic qos qosSet s reg = .err (.createReader rc, reg)) ∨
    (reg.shared key = none ∧ 0 ≤ rc ∧ ∃ reader, reader.topic = topic ∧
      reader.qosNormalized = qosSet.normalize ∧ reader.subscribers = ∅ ∧
      reader.readerId = reg.nextReaderId ∧ reader.handle = ⟨rc, qos⟩ ∧
      subscribe rc topic qos qosSet s reg = .ok (reader.readerId, reg.add key reader topic s)) := by
  intro key
  unfold subscribe
  cases h : reg.shared key with
  | some p =>
    refine .inl ⟨p.1, p.2, rfl, ?_⟩
    simp only [Prog.bind_apply, Prog.get, Res.ok_bind]
    rw [show reg.shared _ = some p from h]
    rfl
  | none =>
    by_cases hrc : rc < 0
    · refine .inr (.inl ⟨rfl, hrc, ?_⟩)
      simp only [Prog.bind_apply, Prog.get, Res.ok_bind]
      rw [show reg.shared _ = none from h]
      simp only [Prog.bind_apply, DdsReader.new, if_pos hrc]
      rfl
    · refine .inr (.inr ⟨rfl, Int32.not_lt.mp hrc, ?_⟩)
      refine ⟨{ readerId := reg.nextReaderId, handle := ⟨rc, qos⟩, topic, qosNormalized := qosSet.normalize,
                subscribers := ∅ }, rfl, rfl, rfl, rfl, rfl, ?_⟩
      simp only [Prog.bind_apply, Prog.get, Res.ok_bind]
      rw [show reg.shared _ = none from h]
      simp only [Prog.bind_apply, DdsReader.new, if_neg hrc]
      rfl

theorem shared_eq_some {key : ReaderKey} {r : UInt64} {reader : DdsReader} :
    reg.shared key = some (r, reader) ↔
      reg.keyToReader.lookup key = some r ∧ reg.readers.lookup r = some reader := by
  unfold shared
  cases h : reg.keyToReader.lookup key with
  | none => simp
  | some r' =>
    simp only [Option.map_eq_some_iff, Prod.mk.injEq, Option.some.injEq]
    refine ⟨fun h => ?_, fun h => ?_⟩
    · obtain ⟨_, hr, rfl, rfl⟩ := h
      exact ⟨rfl, hr⟩
    · obtain ⟨rfl, hr⟩ := h
      exact ⟨reader, hr, rfl, rfl⟩

theorem shared_eq_none (hinv : KeysInv reg) {key : ReaderKey} :
    reg.shared key = none ↔ reg.keyToReader.lookup key = none := by
  unfold shared
  cases h : reg.keyToReader.lookup key with
  | none => simp
  | some r =>
    obtain ⟨reader, hr, _⟩ := (hinv key r).mp h
    simp [hr]

/-! ### A shared reader -/

theorem join_readers (r : UInt64) (reader : DdsReader) (a : UInt64) :
    (reg.join r reader topic s).readers.lookup a =
      if a = r then some { reader with subscribers := reader.subscribers.insert s () }
      else reg.readers.lookup a :=
  Table.lookup_insert_eq _ _ _ _

theorem join_subscriptions (r : UInt64) (reader : DdsReader) (a : UInt64 × String × String) :
    (reg.join r reader topic s).sessionSubscriptions.lookup a =
      if a = (s, topic.topicName, topic.typeName) then some r else reg.sessionSubscriptions.lookup a :=
  Table.lookup_insert_eq _ _ _ _

theorem join_keysInv (hinv : KeysInv reg) {r : UInt64} {reader : DdsReader}
    (hr : reg.readers.lookup r = some reader) : KeysInv (reg.join r reader topic s) := by
  intro key a
  rw [join_readers]
  apply (hinv key a).trans
  by_cases ha : a = r
  · subst ha
    simp [hr, DdsReader.key]
  · simp [ha]

theorem join_inv (hinv : RegistryInv reg) {r : UInt64} {reader : DdsReader}
    (hr : reg.readers.lookup r = some reader) (ht : reader.topic.topicName = topic.topicName)
    (hT : reader.topic.typeName = topic.typeName)
    (hheld : reg.sessionSubscriptions.lookup (s, topic.topicName, topic.typeName) = none ∨
      reg.sessionSubscriptions.lookup (s, topic.topicName, topic.typeName) = some r) :
    RegistryInv (reg.join r reader topic s) where
  subscribed := by
    intro a x s' hx
    rw [join_readers] at hx
    rw [join_subscriptions]
    by_cases ha : a = r
    · subst ha
      rw [if_pos rfl] at hx
      cases hx
      have hold := hinv.subscribed a reader s' hr
      simp only [AList.mem_insert, ht, hT, Prod.mk.injEq, and_true] at hold ⊢
      by_cases hs : s' = s
      · simp [hs]
      · simp [hs, hold]
    · rw [if_neg ha] at hx
      rw [hinv.subscribed a x s' hx]
      by_cases hkey : (s', x.topic.topicName, x.topic.typeName) = (s, topic.topicName, topic.typeName)
      · -- the session's one subscription there is to `r`, not to `a`
        rw [if_pos hkey, hkey]
        rcases hheld with h | h
        · simp [h, Ne.symm ha]
        · simp [h, Ne.symm ha]
      · rw [if_neg hkey]
  nonempty := by
    intro a x hx
    rw [join_readers] at hx
    by_cases ha : a = r
    · rw [if_pos ha] at hx
      cases hx
      exact ⟨s, by simp [AList.mem_insert]⟩
    · rw [if_neg ha] at hx
      exact hinv.nonempty a x hx
  keys := join_keysInv hinv.keys hr
  live := by
    intro s' t T a h
    rw [join_subscriptions] at h
    rw [join_readers]
    by_cases hkey : (s', t, T) = (s, topic.topicName, topic.typeName)
    · rw [if_pos hkey] at h
      cases h
      simp only [Prod.mk.injEq] at hkey
      exact ⟨_, if_pos rfl, ht.trans hkey.2.1.symm, hT.trans hkey.2.2.symm⟩
    · rw [if_neg hkey] at h
      obtain ⟨x, hx, hxt⟩ := hinv.live s' t T a h
      by_cases ha : a = r
      · subst ha
        rw [hr] at hx
        cases hx
        exact ⟨_, if_pos rfl, hxt⟩
      · exact ⟨x, by rw [if_neg ha, hx], hxt⟩

/-! ### A new reader -/

theorem add_readers (key : ReaderKey) (reader : DdsReader) (a : UInt64) :
    (reg.add key reader topic s).readers.lookup a =
      if a = reader.readerId then some { reader with subscribers := reader.subscribers.insert s () }
      else reg.readers.lookup a :=
  Table.lookup_insert_eq _ _ _ _

theorem add_keys (key : ReaderKey) (reader : DdsReader) (a : ReaderKey) :
    (reg.add key reader topic s).keyToReader.lookup a =
      if a = key then some reader.readerId else reg.keyToReader.lookup a :=
  Table.lookup_insert_eq _ _ _ _

theorem add_subscriptions (key : ReaderKey) (reader : DdsReader) (a : UInt64 × String × String) :
    (reg.add key reader topic s).sessionSubscriptions.lookup a =
      if a = (s, topic.topicName, topic.typeName) then some reader.readerId
      else reg.sessionSubscriptions.lookup a :=
  Table.lookup_insert_eq _ _ _ _

theorem add_keysInv (hinv : KeysInv reg) {key : ReaderKey} {reader : DdsReader} (hkey : reader.key = key)
    (hnew : reg.keyToReader.lookup key = none) (hfree : reg.readers.lookup reader.readerId = none) :
    KeysInv (reg.add key reader topic s) := by
  intro k a
  rw [add_readers, add_keys]
  by_cases hk : k = key
  · rw [if_pos hk, hk]
    by_cases ha : a = reader.readerId
    · simp only [ha, if_true, true_iff]
      exact ⟨_, rfl, hkey⟩
    · have hno := (hinv key a).not.mp (by simp [hnew])
      simp only [ha, if_false, Option.some.injEq, Ne.symm ha, false_iff]
      exact hno
  · rw [if_neg hk]
    by_cases ha : a = reader.readerId
    · have hno : reg.keyToReader.lookup k ≠ some a := by
        intro h
        obtain ⟨y, hy, _⟩ := (hinv k a).mp h
        rw [ha, hfree] at hy
        cases hy
      simp only [ha, if_true] at hno ⊢
      apply iff_of_false hno
      intro h
      obtain ⟨y, hy, hyk⟩ := h
      cases hy
      exact hk (hyk.symm.trans hkey)
    · rw [if_neg ha]
      exact hinv k a

theorem add_inv (hinv : RegistryInv reg) {key : ReaderKey} {reader : DdsReader}
    (ht : reader.topic = topic) (hsubs : reader.subscribers = ∅) (hkey : reader.key = key)
    (hnew : reg.keyToReader.lookup key = none) (hfree : reg.readers.lookup reader.readerId = none)
    (hheld : reg.sessionSubscriptions.lookup (s, topic.topicName, topic.typeName) = none) :
    RegistryInv (reg.add key reader topic s) where
  subscribed := by
    intro a x s' hx
    rw [add_readers] at hx
    rw [add_subscriptions]
    by_cases ha : a = reader.readerId
    · rw [if_pos ha] at hx
      cases hx
      have hno : reg.sessionSubscriptions.lookup (s', topic.topicName, topic.typeName) ≠ some a := by
        intro h
        obtain ⟨y, hy, _⟩ := hinv.live _ _ _ _ h
        rw [ha, hfree] at hy
        cases hy
      have hmem : s' ∈ reader.subscribers.insert s () ↔ s' = s := by
        rw [AList.mem_insert, hsubs]
        simp [AList.notMem_empty]
      subst ht
      rw [ha] at hno ⊢
      by_cases hs : s' = s
      · simp [hs]
      · simp [hmem, hs, hno]
    · rw [if_neg ha] at hx
      rw [hinv.subscribed a x s' hx]
      by_cases hk : (s', x.topic.topicName, x.topic.typeName) = (s, topic.topicName, topic.typeName)
      · rw [if_pos hk, hk, hheld]
        simp [Ne.symm ha]
      · rw [if_neg hk]
  nonempty := by
    intro a x hx
    rw [add_readers] at hx
    by_cases ha : a = reader.readerId
    · rw [if_pos ha] at hx
      cases hx
      exact ⟨s, by simp [AList.mem_insert]⟩
    · rw [if_neg ha] at hx
      exact hinv.nonempty a x hx
  keys := add_keysInv hinv.keys hkey hnew hfree
  live := by
    intro s' t T a h
    rw [add_subscriptions] at h
    rw [add_readers]
    by_cases hk : (s', t, T) = (s, topic.topicName, topic.typeName)
    · rw [if_pos hk] at h
      cases h
      simp only [Prod.mk.injEq] at hk
      exact ⟨_, if_pos rfl, by simp [ht, hk], by simp [ht, hk]⟩
    · rw [if_neg hk] at h
      obtain ⟨x, hx, hxt⟩ := hinv.live s' t T a h
      have ha : a ≠ reader.readerId := by
        rintro rfl
        rw [hfree] at hx
        cases hx
      exact ⟨x, by rw [if_neg ha, hx], hxt⟩

theorem subscribe_inv (hinv : RegistryInv reg)
    (hok : KeepsReader reg (.subscribe rc topic qos qosSet s)) :
    RegistryInv ((subscribe rc topic qos qosSet s).after reg) := by
  rcases subscribe_cases reg rc topic qos qosSet s with
    ⟨r, reader, hsh, he⟩ | ⟨-, -, he⟩ | ⟨hsh, hrc, reader, ht, hq, hsubs, hid, -, he⟩
  · obtain ⟨hkey, hr⟩ := shared_eq_some.mp hsh
    obtain ⟨y, hy, hyk⟩ := (hinv.keys _ r).mp hkey
    rw [hr] at hy
    cases hy
    simp only [KeepsReader, hkey] at hok
    simp only [Prog.after, he]
    exact join_inv hinv hr (congrArg ReaderKey.topicName hyk) (congrArg ReaderKey.typeName hyk) hok
  · simpa only [Prog.after, he] using hinv
  · have hkey := (shared_eq_none hinv.keys).mp hsh
    simp only [KeepsReader, hkey] at hok
    obtain ⟨hheld, hfree⟩ := hok hrc
    simp only [Prog.after, he]
    refine add_inv hinv ht hsubs ?_ hkey (by rw [hid]; exact hfree) hheld
    rw [DdsReader.key, ht, hq, ReaderKey.new_normalize]

end

end DdsBridge
