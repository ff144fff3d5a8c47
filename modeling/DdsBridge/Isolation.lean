import DdsBridge.NoPanic
import DdsBridge.ReaderFrame
import DdsBridge.WriterInvariant

/-!
# Sessions do not interfere

A request makes at most one call on each registry, in the name of its own session. In a bridge whose
subscriptions lead to live readers and whose writers stand in the lists of their owners, such a call
leaves the writers and the subscriptions of every other session alone. Both counters must not have come
back to an id in use: a reader that is registered under the id of another one takes its place.
-/

namespace DdsBridge

open BridgeInner Prog ReaderRegistry

/-! ## What a request does to the registries -/

/-- A topic that is new is filed under its names. -/
def FilesTopics (s t : BridgeInner) : Prop :=
  ∀ key topic, t.participant.topics.lookup key = some topic →
    s.participant.topics.lookup key = some topic ∨ (topic.topicName, topic.typeName) = key

structure SameRegistries (s t : BridgeInner) : Prop where
  writers : t.writers = s.writers
  readers : t.readers = s.readers
  sessionSenders : t.sessionSenders = s.sessionSenders
  topics : FilesTopics s t

theorem FilesTopics.refl (s : BridgeInner) : FilesTopics s s := fun _ _ h => .inl h

theorem FilesTopics.trans {s t u : BridgeInner} (h : FilesTopics s t) (h' : FilesTopics t u) : FilesTopics s u := by
  intro key topic hu
  rcases h' key topic hu with ht | hnamed
  · exact h key topic ht
  · exact .inr hnamed

instance : Std.Refl SameRegistries where
  refl s := ⟨rfl, rfl, rfl, .refl s⟩

instance : IsTrans BridgeInner SameRegistries where
  trans _ _ _ h h' := ⟨h'.writers.trans h.writers, h'.readers.trans h.readers,
    h'.sessionSenders.trans h.sessionSenders, h.topics.trans h'.topics⟩

/-- At most one call on each registry, by the session; a writer is registered under the next id. -/
structure RequestEffect (sid : UInt64) (s t : BridgeInner) : Prop where
  writers : t.writers = s.writers ∨
    (∃ writer, writer.writerId = s.writers.nextWriterId ∧ t.writers = s.writers.call (.register writer sid)) ∨
    ∃ writerId, t.writers = s.writers.call (.delete writerId sid)
  readers : t.readers = s.readers ∨
    (∃ rc topic qos qosSet, t.readers = s.readers.call (.subscribe rc topic qos qosSet sid)) ∨
    ∃ topicName typeName, t.readers = s.readers.call (.unsubscribe topicName typeName sid)
  sessionSenders : t.sessionSenders = s.sessionSenders
  topics : FilesTopics s t

section
variable {sid : UInt64} {s t u : BridgeInner}

theorem SameRegistries.effect (h : SameRegistries s t) : RequestEffect sid s t :=
  ⟨.inl h.writers, .inl h.readers, h.sessionSenders, h.topics⟩

theorem SameRegistries.before (h : SameRegistries s t) (he : RequestEffect sid t u) : RequestEffect sid s u := by
  obtain ⟨hw, hr, hs, ht⟩ := he
  rw [h.writers] at hw
  rw [h.readers] at hr
  exact ⟨hw, hr, hs.trans h.sessionSenders, h.topics.trans ht⟩

theorem RequestEffect.and_then (he : RequestEffect sid s t) (h : SameRegistries t u) : RequestEffect sid s u := by
  obtain ⟨hw, hr, hs, ht⟩ := he
  rw [← h.writers] at hw
  rw [← h.readers] at hr
  exact ⟨hw, hr, h.sessionSenders.trans hs, ht.trans h.topics⟩

end

section
variable {ε α β : Type} {sid : UInt64}

theorem same_then {m : Prog BridgeInner ε α} {f : α → Prog BridgeInner ε β} (hm : Within SameRegistries m)
    (hf : ∀ a, Within (RequestEffect sid) (f a)) : Within (RequestEffect sid) (m >>= f) :=
  hm.comp hf (fun _ _ h => h.effect) fun _ _ _ h he => h.before he

theorem then_same {m : Prog BridgeInner ε α} {f : α → Prog BridgeInner ε β} (hm : Within (RequestEffect sid) m)
    (hf : ∀ a, Within SameRegistries (f a)) : Within (RequestEffect sid) (m >>= f) :=
  hm.comp hf (fun _ _ he => he) fun _ _ _ he h => he.and_then h

theorem effect_of_same {m : Prog BridgeInner ε α} (hm : Within SameRegistries m) : Within (RequestEffect sid) m :=
  fun s => wp_mono (hm s) (fun _ _ h => h.effect) (fun _ _ h => h.effect) id

end

section
variable (dds : DdsReturns) (sid : UInt64) (r : UInt32)

theorem same_parsed {α : Type} (x : Res ProtocolError α) : Within SameRegistries (parsed r x) :=
  (within_ofRes x).mapErr _

theorem same_getOrCreateTopic (topicName typeName : String) (isKeyed : Bool) (keys : KeyDescriptors) :
    Within SameRegistries (getOrCreateTopic dds r topicName typeName isKeyed keys) := by
  refine Within.mapErr (fun s => ?_) _
  have hsame : SameRegistries s s := Std.Refl.refl s
  unfold onParticipant DdsParticipant.getOrCreateTopic
  rw [wp_zoom, wp_bind, wp_get]
  cases s.participant.topics.lookup (topicName, typeName) with
  | some topic => exact hsame
  | none =>
    simp only [wp_bind, wp_require, wp_pure, wp_modify, wp_ofRes]
    refine ⟨fun _ => ⟨fun _ _ => ⟨fun _ => ⟨rfl, rfl, rfl, fun key topic h => ?_⟩, fun _ => hsame⟩, fun _ _ => hsame,
      fun _ => trivial⟩, fun _ => hsame⟩
    simp only [Table.lookup_insert_eq] at h
    by_cases hkey : key = (topicName, typeName)
    · rw [if_pos hkey] at h
      cases h
      exact .inr hkey.symm
    · rw [if_neg hkey] at h
      exact .inl h

theorem same_executeWriteOp (writer : DdsWriter) (op : WriteOp) :
    Within SameRegistries (executeWriteOp dds r writer op) := (within_ofRes _).mapErr _

theorem same_sendAll (msg : Bytes) (sids : List UInt64) (inner : BridgeInner) :
    SameRegistries inner (sids.foldl (sendTo msg) inner) := by
  induction sids generalizing inner with
  | nil => exact Std.Refl.refl inner
  | cons sid sids ih =>
    have hsent : SameRegistries inner (sendTo msg inner sid) := by
      unfold sendTo
      cases inner.sessionSenders.lookup sid with
      | none => exact Std.Refl.refl inner
      | some sender => exact ⟨rfl, rfl, rfl, .refl _⟩
    exact IsTrans.trans _ _ _ hsent (ih _)

theorem same_notification (resp : Bytes) (mode : WriteMode) :
    Within SameRegistries (respWithDisposeNotification sid resp mode) := by
  refine within_get.bind fun inner => ?_
  cases disposedTopic inner mode with
  | none => exact within_pure _
  | some p => exact (within_modify (R := SameRegistries) (same_sendAll _ _)).bind fun _ => within_pure _

theorem effect_subscribe (rc : Int32) (topic : Topic) (qos : Option DdsQos) (qosSet : QosSet) :
    Within (RequestEffect sid) (orDdsError r (onReaders (ReaderRegistry.subscribe rc topic qos qosSet sid))) := by
  refine Within.mapErr (fun s => ?_) _
  unfold onReaders
  rw [wp_zoom]
  have heffect : ∀ t, t = ReaderRegistry.call s.readers (.subscribe rc topic qos qosSet sid) →
      RequestEffect sid s { s with readers := t } :=
    fun t ht => ⟨.inl rfl, .inr (.inl ⟨rc, topic, qos, qosSet, ht⟩), rfl, .refl _⟩
  exact wp_mono (wp_after _ s.readers) (fun _ => heffect) (fun _ => heffect) id

theorem effect_unsubscribe (payload : Bytes) : Within (RequestEffect sid) (handleUnsubscribe sid r payload) := by
  refine same_then (same_parsed r _) fun unsub s => ?_
  have hleft : RequestEffect sid s
      { s with readers := (s.readers.unsubscribe unsub.topicName unsub.typeName sid).2 } :=
    ⟨.inl rfl, .inr (.inr ⟨_, _, rfl⟩), rfl, .refl _⟩
  simp only [wp_bind, wp_get, wp_modify, wp_require, wp_pure]
  exact ⟨fun _ => hleft, fun _ => hleft⟩

theorem effect_createWriter (topic : Topic) (qos : QosSet) :
    Within (RequestEffect sid) (createWriter dds sid r topic qos) := by
  intro s
  unfold createWriter orDdsError
  simp only [wp_bind, wp_get, wp_mapErr, wp_ofRes, wp_modify, wp_pure]
  have hsame : RequestEffect sid s s := SameRegistries.effect (Std.Refl.refl s)
  refine ⟨fun writer hw => ?_, fun _ _ => hsame, fun _ => trivial⟩
  unfold DdsWriter.new at hw
  split at hw
  · cases hw
  · cases hw
    exact ⟨.inr (.inl ⟨_, rfl, rfl⟩), .inl rfl, rfl, .refl _⟩

theorem effect_implicitWriter (topicName typeName : String) (qos : QosSet) (keys : KeyDescriptors) :
    Within (RequestEffect sid) (implicitWriter dds sid r topicName typeName qos keys) := by
  refine same_then within_get fun inner => ?_
  by_cases h : inner.writers.findByTopic sid topicName typeName qos.normalize = none
  · rw [if_pos h]
    refine same_then (same_getOrCreateTopic dds r topicName typeName _ keys) fun topic => ?_
    refine then_same (effect_createWriter dds sid r topic qos) fun _ => within_get.bind fun _ => ?_
    split
    · exact within_pure _
    · exact within_throw _
  · rw [if_neg h]
    refine effect_of_same (within_get.bind fun _ => ?_)
    split
    · exact within_pure _
    · exact within_throw _

theorem effect_doWriteOp (mode : WriteMode) (op : WriteOp) :
    Within (RequestEffect sid) (doWriteOp dds sid r mode op) := by
  have hexec : ∀ writer, Within SameRegistries
      (executeWriteOp dds r writer op >>= fun _ => pure (okResponse r [])) := fun writer =>
    (same_executeWriteOp dds r writer op).bind fun _ => within_pure _
  cases mode with
  | topicName topicName typeName qos keys data =>
    exact then_same (effect_implicitWriter dds sid r topicName typeName qos keys) hexec
  | writerId writerId keyBytes data =>
    exact effect_of_same (within_get.bind fun inner => ((within_ofRes _).mapErr _).bind hexec)

theorem effect_delete (writerId : UInt32) :
    Within (RequestEffect sid) (orWriterError r (onWriters (WriterRegistry.delete writerId sid))) := by
  refine Within.mapErr (fun s => ?_) _
  unfold onWriters
  rw [wp_zoom]
  have heffect : ∀ t, t = WriterRegistry.call s.writers (.delete writerId sid) →
      RequestEffect sid s { s with writers := t } :=
    fun t ht => ⟨.inr (.inr ⟨writerId, ht⟩), .inl rfl, rfl, .refl _⟩
  exact wp_mono (wp_after _ s.writers) (fun _ => heffect) (fun _ => heffect) id

theorem effect_dispatch (t : MsgType) (payload : Bytes) :
    Within (RequestEffect sid) (dispatch dds sid r t payload) := by
  have hpure : ∀ {α : Type} (a : α), Within SameRegistries (pure a : Prog BridgeInner Bytes α) := fun a => within_pure a
  have hunexpected : ∀ msg, Within (RequestEffect sid) (Prog.throw msg : Prog BridgeInner Bytes (List Bytes)) :=
    fun msg => effect_of_same (within_throw msg)
  cases t with
  | subscribe =>
    refine same_then (same_parsed r _) fun sub => same_then (same_getOrCreateTopic dds r _ _ _ _) fun topic => ?_
    exact then_same (effect_subscribe sid r _ _ _ _) fun _ => hpure _
  | unsubscribe => exact effect_unsubscribe sid r payload
  | write =>
    refine same_then (same_parsed r _) fun p => ?_
    exact then_same (effect_doWriteOp dds sid r p.mode .write) fun _ => hpure _
  | dispose =>
    refine same_then (same_parsed r _) fun p => ?_
    exact then_same (effect_doWriteOp dds sid r p.mode .dispose) fun resp => same_notification sid resp p.mode
  | writeDispose =>
    refine same_then (same_parsed r _) fun p => ?_
    exact then_same (effect_doWriteOp dds sid r p.mode .writeDispose) fun resp => same_notification sid resp p.mode
  | createWriter =>
    refine same_then (same_parsed r _) fun cw => same_then (same_getOrCreateTopic dds r _ _ _ _) fun topic => ?_
    exact then_same (effect_createWriter dds sid r topic cw.qos) fun _ => hpure _
  | deleteWriter =>
    refine same_then (same_parsed r _) fun dw => ?_
    exact then_same (effect_delete sid r dw.writerId) fun _ => hpure _
  | ping => exact effect_of_same (hpure _)
  | ok | error | data | dataDisposed | dataNoWriters | pong => exact hunexpected _

theorem effect_processBinaryFrame (data : Bytes) (maxPayloadSize : Nat) :
    Within (RequestEffect sid) (processBinaryFrame dds sid data maxPayloadSize) := by
  unfold processBinaryFrame
  cases checkFrame maxPayloadSize data with
  | ok p => exact (effect_dispatch dds sid p.1.requestId p.1.msgType p.2).recover _
  | err e => exact effect_of_same (within_pure _)
  | panic => exact fun _ => trivial

theorem effect_after (data : Bytes) (maxPayloadSize : Nat) (inner : BridgeInner) :
    RequestEffect sid inner (inner.act (.frame dds sid data maxPayloadSize)) := by
  have : Std.Refl (RequestEffect sid) := ⟨fun s => SameRegistries.effect (Std.Refl.refl s)⟩
  exact (effect_processBinaryFrame dds sid data maxPayloadSize).after inner

end

/-! ## Subscriptions lead to readers -/

/-- Every subscription leads to a live reader of its topic that lists the session. -/
structure SubscriptionsInv (reg : ReaderRegistry) : Prop where
  keys : KeysInv reg
  live : ∀ s topicName typeName r, reg.sessionSubscriptions.lookup (s, topicName, typeName) = some r →
    ∃ reader, reg.readers.lookup r = some reader ∧ reader.topic.topicName = topicName ∧
      reader.topic.typeName = typeName ∧ s ∈ reader.subscribers

def Member (reg : ReaderRegistry) (s : UInt64) (r : UInt64) : Prop :=
  ∃ reader, reg.readers.lookup r = some reader ∧ s ∈ reader.subscribers

/-- By the list of the reader, or by an entry of its own. -/
def SubscribedTo (reg : ReaderRegistry) (s : UInt64) (r : UInt64) : Prop :=
  Member reg s r ∨ ∃ topicName typeName, reg.sessionSubscriptions.lookup (s, topicName, typeName) = some r

/-- What the session has in the registry is the same in both. -/
structure ReadersUnaffected (b : UInt64) (reg reg' : ReaderRegistry) : Prop where
  subscriptions : ∀ topicName typeName, reg'.sessionSubscriptions.lookup (b, topicName, typeName) =
    reg.sessionSubscriptions.lookup (b, topicName, typeName)
  membership : ∀ r, Member reg' b r ↔ Member reg b r
  liveness : ∀ r, SubscribedTo reg b r → (reg'.readers.lookup r).isSome = (reg.readers.lookup r).isSome

section
variable {reg reg' : ReaderRegistry} {s b : UInt64}

theorem SubscriptionsInv.member (hinv : SubscriptionsInv reg) {r : UInt64} (h : SubscribedTo reg b r) :
    Member reg b r := by
  rcases h with h | ⟨t, T, h⟩
  · exact h
  · obtain ⟨reader, hr, -, -, hb⟩ := hinv.live b t T r h
    exact ⟨reader, hr, hb⟩

theorem ReadersUnaffected.of_member (hinv : SubscriptionsInv reg)
    (hsubs : ∀ topicName typeName, reg'.sessionSubscriptions.lookup (b, topicName, typeName) =
      reg.sessionSubscriptions.lookup (b, topicName, typeName))
    (hmem : ∀ r, Member reg' b r ↔ Member reg b r) : ReadersUnaffected b reg reg' := by
  refine ⟨hsubs, hmem, fun r hr => ?_⟩
  obtain ⟨x, hx, hb⟩ := hinv.member hr
  obtain ⟨y, hy, -⟩ := (hmem r).mpr ⟨x, hx, hb⟩
  rw [hx, hy]
  rfl

theorem Departs.member (h : Departs s reg reg') (hb : b ≠ s) (r : UInt64) : Member reg' b r ↔ Member reg b r := by
  refine ⟨fun hm => ?_, fun hm => ?_⟩
  · obtain ⟨x, hx, hbx⟩ := hm
    obtain ⟨reader, hr, -, hsame⟩ := h.topic hx
    exact ⟨reader, hr, (hsame b hb).mp hbx⟩
  · obtain ⟨reader, hr, hbr⟩ := hm
    obtain ⟨x, hx⟩ := h.remains r reader b hr hb hbr
    obtain ⟨reader', hr', -, hsame⟩ := h.topic hx
    rw [hr] at hr'
    cases hr'
    exact ⟨x, hx, (hsame b hb).mpr hbr⟩

theorem Departs.unaffected (h : Departs s reg reg') (hinv : SubscriptionsInv reg) (hb : b ≠ s) :
    ReadersUnaffected b reg reg' :=
  .of_member hinv (fun t T => h.subscriptions b t T hb) (h.member hb)

theorem Departs.live (h : Departs s reg reg') (hinv : SubscriptionsInv reg) {topicName typeName : String} {r : UInt64}
    (hb : b ≠ s) (hentry : reg'.sessionSubscriptions.lookup (b, topicName, typeName) = some r) :
    ∃ reader, reg'.readers.lookup r = some reader ∧ reader.topic.topicName = topicName ∧
      reader.topic.typeName = typeName ∧ b ∈ reader.subscribers := by
  rw [h.subscriptions b _ _ hb] at hentry
  obtain ⟨reader, hr, ht, hT, hbr⟩ := hinv.live b _ _ r hentry
  obtain ⟨x, hx⟩ := h.remains r reader b hr hb hbr
  obtain ⟨reader', hr', hxt, hsame⟩ := h.topic hx
  rw [hr] at hr'
  cases hr'
  exact ⟨x, hx, by rw [hxt, ht], by rw [hxt, hT], (hsame b hb).mpr hbr⟩

/-! ### One call -/

theorem unsubscribe_live (hinv : SubscriptionsInv reg) (topicName typeName : String) :
    SubscriptionsInv (reg.unsubscribe topicName typeName s).2 := by
  refine ⟨unsubscribe_keysInv hinv.keys, fun s' t T r hentry => ?_⟩
  have hdep : Departs s reg (reg.unsubscribe topicName typeName s).2 := unsubscribe_departs topicName typeName
  by_cases hs : s' = s
  · subst hs
    cases h : reg.sessionSubscriptions.lookup (s', topicName, typeName) with
    | none =>
      rw [unsubscribe_none h] at hentry ⊢
      exact hinv.live s' t T r hentry
    | some held =>
      obtain ⟨reader, hr, ht, hT, -⟩ := hinv.live s' _ _ held h
      obtain ⟨reg', he, hsubs, hreaders, -⟩ := unsubscribe_some h hr
      rw [he] at hentry ⊢
      rw [hsubs] at hentry
      by_cases hkey : (s', t, T) = (s', topicName, typeName)
      · rw [if_pos hkey] at hentry
        cases hentry
      · rw [if_neg hkey] at hentry
        obtain ⟨x, hx, hxt, hxT, hmem⟩ := hinv.live s' t T r hentry
        -- the readers of two topics are two
        have hne : r ≠ held := by
          intro e
          rw [e, hr] at hx
          cases hx
          exact hkey (by rw [← hxt, ← hxT, ht, hT])
        exact ⟨x, by rw [hreaders, if_neg hne, hx], hxt, hxT, hmem⟩
  · exact hdep.live hinv hs hentry

theorem removeSession_live (hinv : SubscriptionsInv reg) : SubscriptionsInv (reg.removeSession s) := by
  refine ⟨removeSession_keysInv hinv.keys, fun s' t T r hentry => ?_⟩
  by_cases hs : s' = s
  · subst hs
    simp only [removeSession, Table.lookup_eraseAll] at hentry
    by_cases hmem : (s', t, T) ∈ reg.subKeys s'
    · rw [if_pos hmem] at hentry
      cases hentry
    · rw [if_neg hmem] at hentry
      exact absurd (mem_subKeys.mpr ⟨rfl, r, hentry⟩) hmem
  · exact removeSession_departs.live hinv hs hentry

/-- A reader that was registered in the step does not have the id of a live one. -/
def DrawsFreshReader (reg reg' : ReaderRegistry) : Prop :=
  reg'.nextReaderId ≠ reg.nextReaderId → reg.readers.lookup reg.nextReaderId = none

theorem join_live (hinv : SubscriptionsInv reg) {r : UInt64} {reader : DdsReader} {topic : Topic}
    (hr : reg.readers.lookup r = some reader) (ht : reader.topic.topicName = topic.topicName)
    (hT : reader.topic.typeName = topic.typeName) : SubscriptionsInv (reg.join r reader topic s) := by
  refine ⟨join_keysInv hinv.keys hr, fun s' t T a hentry => ?_⟩
  rw [join_subscriptions] at hentry
  rw [join_readers]
  by_cases hkey : (s', t, T) = (s, topic.topicName, topic.typeName)
  · rw [if_pos hkey] at hentry
    cases hentry
    simp only [Prod.mk.injEq] at hkey
    obtain ⟨rfl, rfl, rfl⟩ := hkey
    exact ⟨_, if_pos rfl, ht, hT, by simp [AList.mem_insert]⟩
  · rw [if_neg hkey] at hentry
    obtain ⟨x, hx, hxt, hxT, hmem⟩ := hinv.live s' t T a hentry
    by_cases ha : a = r
    · subst ha
      rw [hr] at hx
      cases hx
      exact ⟨_, if_pos rfl, hxt, hxT, by simp [AList.mem_insert, hmem]⟩
    · exact ⟨x, by rw [if_neg ha, hx], hxt, hxT, hmem⟩

theorem add_live (hinv : SubscriptionsInv reg) {key : ReaderKey} {reader : DdsReader} {topic : Topic}
    (ht : reader.topic = topic) (hkey : reader.key = key) (hnew : reg.keyToReader.lookup key = none)
    (hfree : reg.readers.lookup reader.readerId = none) : SubscriptionsInv (reg.add key reader topic s) := by
  refine ⟨add_keysInv hinv.keys hkey hnew hfree, fun s' t T a hentry => ?_⟩
  rw [add_subscriptions] at hentry
  rw [add_readers]
  by_cases hk : (s', t, T) = (s, topic.topicName, topic.typeName)
  · rw [if_pos hk] at hentry
    cases hentry
    simp only [Prod.mk.injEq] at hk
    obtain ⟨rfl, rfl, rfl⟩ := hk
    exact ⟨_, if_pos rfl, by rw [← ht], by rw [← ht], by simp [AList.mem_insert]⟩
  · rw [if_neg hk] at hentry
    obtain ⟨x, hx, hxt⟩ := hinv.live s' t T a hentry
    have ha : a ≠ reader.readerId := by
      intro e
      rw [e, hfree] at hx
      cases hx
    exact ⟨x, by rw [if_neg ha, hx], hxt⟩

section
variable {rc : Int32} {topic : Topic} {qos : Option DdsQos} {qosSet : QosSet}

theorem subscribe_live (hinv : SubscriptionsInv reg)
    (hfresh : DrawsFreshReader reg (reg.call (.subscribe rc topic qos qosSet s))) :
    SubscriptionsInv (reg.call (.subscribe rc topic qos qosSet s)) := by
  simp only [ReaderRegistry.call, Prog.after] at hfresh ⊢
  rcases subscribe_cases reg rc topic qos qosSet s with
    ⟨r, reader, hsh, he⟩ | ⟨-, -, he⟩ | ⟨hsh, -, reader, ht, hq, -, hid, -, he⟩
  · rw [he]
    obtain ⟨hkey, hr⟩ := shared_eq_some.mp hsh
    obtain ⟨y, hy, hyk⟩ := (hinv.keys _ r).mp hkey
    rw [hr] at hy
    cases hy
    exact join_live hinv hr (congrArg ReaderKey.topicName hyk) (congrArg ReaderKey.typeName hyk)
  · rw [he]
    exact hinv
  · rw [he] at hfresh ⊢
    have hfree : reg.readers.lookup reader.readerId = none := by
      rw [hid]
      exact hfresh (by simp [add])
    refine add_live hinv ht ?_ ((shared_eq_none hinv.keys).mp hsh) hfree
    rw [DdsReader.key, ht, hq, ReaderKey.new_normalize]

theorem subscribe_unaffected (hinv : SubscriptionsInv reg) (hb : b ≠ s)
    (hfresh : DrawsFreshReader reg (reg.call (.subscribe rc topic qos qosSet s))) :
    ReadersUnaffected b reg (reg.call (.subscribe rc topic qos qosSet s)) := by
  simp only [ReaderRegistry.call, Prog.after] at hfresh ⊢
  have hother : ∀ t T, (b, t, T) ≠ (s, topic.topicName, topic.typeName) := fun t T e => hb (congrArg Prod.fst e)
  rcases subscribe_cases reg rc topic qos qosSet s with
    ⟨r, reader, hsh, he⟩ | ⟨-, -, he⟩ | ⟨hsh, -, reader, -, -, hempty, hid, -, he⟩
  · rw [he]
    obtain ⟨-, hr⟩ := shared_eq_some.mp hsh
    refine .of_member hinv (fun t T => ?_) fun a => ?_
    · simp only [join_subscriptions]
      rw [if_neg (hother t T)]
    · unfold Member
      simp only [join_readers]
      by_cases ha : a = r
      · subst ha
        simp [hr, AList.mem_insert, hb]
      · simp [ha]
  · rw [he]
    exact .of_member hinv (fun _ _ => rfl) fun _ => Iff.rfl
  · rw [he] at hfresh ⊢
    have hfree : reg.readers.lookup reader.readerId = none := by
      rw [hid]
      exact hfresh (by simp [add])
    refine .of_member hinv (fun t T => ?_) fun a => ?_
    · simp only [add_subscriptions]
      rw [if_neg (hother t T)]
    · unfold Member
      simp only [add_readers]
      by_cases ha : a = reader.readerId
      · have hno : b ∉ reader.subscribers := by
          rw [hempty]
          exact AList.notMem_empty b
        subst ha
        simp [hfree, AList.mem_insert, hno, hb]
      · simp [ha]

end

end

/-! ## Sessions -/

/-- What belongs to the session is the same in both states. -/
structure Unaffected (b : UInt64) (s t : BridgeInner) : Prop extends ReadersUnaffected b s.readers t.readers where
  writers : ∀ writerId writer, t.writers.writers.lookup writerId = some (writer, b) ↔
    s.writers.writers.lookup writerId = some (writer, b)
  sender : t.sessionSenders.lookup b = s.sessionSenders.lookup b

structure SessionsInv (inner : BridgeInner) : Prop where
  owners : OwnersInv inner.writers
  subscriptions : SubscriptionsInv inner.readers

/-- A writer that was registered in the step does not have the id of a live one. -/
def DrawsFreshWriter (reg reg' : WriterRegistry) : Prop :=
  reg'.nextWriterId ≠ reg.nextWriterId → reg.writers.lookup reg.nextWriterId = none

def DrawsFresh (s t : BridgeInner) : Prop :=
  DrawsFreshWriter s.writers t.writers ∧ DrawsFreshReader s.readers t.readers

/-- Reached from an empty bridge by steps that meet `fresh`. -/
def ReachedWith (fresh : BridgeInner → BridgeInner → Prop) (inner : BridgeInner) : Prop :=
  ∃ handle config, Runs.Reachable (fun s action t => BridgeStep s action t ∧ fresh s t)
    (BridgeInner.create handle config) inner

/-- The session's request, or its end. -/
def ActionOf (a : UInt64) : BridgeAction → Prop
  | .frame _ sessionId _ _ => sessionId = a
  | .unregister sessionId => sessionId = a
  | _ => False

section
variable {reg : WriterRegistry} {a b : UInt64}

theorem WriterRegistry.call_other (hinv : OwnersInv reg) (hb : b ≠ a) (call : WriterRegistryCall)
    (hfresh : FreshId reg call)
    (hcall : (∃ writer, call = .register writer a) ∨ (∃ w, call = .delete w a) ∨ call = .removeSession a)
    (w : UInt32) (writer : DdsWriter) :
    (reg.call call).writers.lookup w = some (writer, b) ↔ reg.writers.lookup w = some (writer, b) := by
  have hmine : ∀ {w : UInt32}, reg.owner w = some a → reg.writers.lookup w ≠ some (writer, b) := by
    intro w hown h
    rw [owner, h] at hown
    exact hb (Option.some.inj hown)
  rcases hcall with ⟨new, rfl⟩ | ⟨w₀, rfl⟩ | rfl
  · change reg.writers.lookup new.writerId = none at hfresh
    change (reg.writers.insert new.writerId (new, a)).lookup w = _ ↔ _
    rw [Table.lookup_insert_eq]
    by_cases hw : w = new.writerId
    · subst hw
      simp [hfresh, Ne.symm hb]
    · rw [if_neg hw]
  · change ((delete w₀ a).after reg).writers.lookup w = _ ↔ _
    rw [after_delete]
    by_cases hown : reg.owner w₀ = some a
    · rw [if_pos hown, Table.lookup_erase_eq]
      by_cases hw : w = w₀
      · subst hw
        simp [hmine hown]
      · rw [if_neg hw]
    · rw [if_neg hown]
  · change (reg.removeSession a).writers.lookup w = _ ↔ _
    rw [lookup_removeSession]
    by_cases hm : w ∈ reg.ids a
    · rw [if_pos hm]
      simp [hmine ((mem_ids hinv).mp hm)]
    · rw [if_neg hm]

end

section
variable {a b : UInt64} {s t : BridgeInner}

theorem freshId_of_draws {reg reg' : WriterRegistry} {writer : DdsWriter} (hid : writer.writerId = reg.nextWriterId)
    (hreg : reg' = reg.call (.register writer a)) (hfresh : DrawsFreshWriter reg reg') :
    FreshId reg (.register writer a) := by
  subst hreg
  change reg.writers.lookup writer.writerId = none
  rw [hid]
  apply hfresh
  simp [WriterRegistry.call, WriterRegistry.register]

theorem RequestEffect.subscriptions (h : RequestEffect a s t) (hinv : SubscriptionsInv s.readers)
    (hfresh : DrawsFreshReader s.readers t.readers) : SubscriptionsInv t.readers := by
  rcases h.readers with hr | ⟨rc, topic, qos, qosSet, hr⟩ | ⟨topicName, typeName, hr⟩
  · rw [hr]
    exact hinv
  · rw [hr] at hfresh ⊢
    exact subscribe_live hinv hfresh
  · rw [hr]
    exact unsubscribe_live hinv topicName typeName

theorem RequestEffect.inv (h : RequestEffect a s t) (hinv : SessionsInv s) (hfresh : DrawsFresh s t) :
    SessionsInv t := by
  refine ⟨?_, h.subscriptions hinv.subscriptions hfresh.2⟩
  rcases h.writers with hw | ⟨writer, hid, hw⟩ | ⟨w, hw⟩
  · rw [hw]
    exact hinv.owners
  · have hnew := freshId_of_draws hid hw hfresh.1
    rw [hw]
    exact WriterRegistry.call_inv hinv.owners _ hnew
  · rw [hw]
    exact WriterRegistry.call_inv hinv.owners (.delete w a) trivial

theorem RequestEffect.unaffected (h : RequestEffect a s t) (hinv : SessionsInv s) (hfresh : DrawsFresh s t)
    (hb : b ≠ a) : Unaffected b s t := by
  have hreaders : ReadersUnaffected b s.readers t.readers := by
    have hdraws := hfresh.2
    rcases h.readers with hr | ⟨rc, topic, qos, qosSet, hr⟩ | ⟨topicName, typeName, hr⟩
    · rw [hr]
      exact .of_member hinv.subscriptions (fun _ _ => rfl) fun _ => Iff.rfl
    · rw [hr] at hdraws ⊢
      exact subscribe_unaffected hinv.subscriptions hb hdraws
    · rw [hr]
      exact (unsubscribe_departs topicName typeName).unaffected hinv.subscriptions hb
  refine ⟨hreaders, fun w writer => ?_, by rw [h.sessionSenders]⟩
  rcases h.writers with hw | ⟨new, hid, hw⟩ | ⟨w₀, hw⟩
  · rw [hw]
  · have hnew := freshId_of_draws hid hw hfresh.1
    rw [hw]
    exact WriterRegistry.call_other hinv.owners hb _ hnew (.inl ⟨new, rfl⟩) w writer
  · rw [hw]
    exact WriterRegistry.call_other hinv.owners hb (.delete w₀ a) trivial (.inr (.inl ⟨w₀, rfl⟩)) w writer

theorem unregister_unaffected (hinv : SessionsInv s) (hb : b ≠ a) : Unaffected b s (unregisterSession a s) := by
  refine ⟨removeSession_departs.unaffected hinv.subscriptions hb, fun w writer => ?_, ?_⟩
  · exact WriterRegistry.call_other hinv.owners hb (.removeSession a) trivial (.inr (.inr rfl)) w writer
  · change (s.sessionSenders.erase a).lookup b = _
    rw [Table.lookup_erase_eq, if_neg hb]

theorem SessionsInv.act (hinv : SessionsInv s) (action : BridgeAction) (hfresh : DrawsFresh s (s.act action)) :
    SessionsInv (s.act action) := by
  cases action with
  | register sessionId sender => exact ⟨hinv.owners, hinv.subscriptions⟩
  | channel sender channel => exact ⟨hinv.owners, hinv.subscriptions⟩
  | unregister sessionId =>
    exact ⟨WriterRegistry.removeSession_inv hinv.owners, removeSession_live hinv.subscriptions⟩
  | frame dds sid data maxPayloadSize =>
    exact (effect_after dds sid data maxPayloadSize s).inv hinv hfresh

theorem sessionsInv_create (handle : Int32) (config : BridgeConfig) : SessionsInv (BridgeInner.create handle config) := by
  refine ⟨fun w s => rfl, fun key r => ?_, fun s t T r h => ?_⟩
  · exact iff_of_false (fun h => by cases h) fun h => by
      obtain ⟨_, h, -⟩ := h
      cases h
  · cases h

theorem ReachedWith.inv {inner : BridgeInner} (h : ReachedWith DrawsFresh inner) : SessionsInv inner := by
  obtain ⟨handle, config, hreach⟩ := h
  refine hreach.invariant (sessionsInv_create handle config) fun s action t hinv hstep => ?_
  obtain ⟨rfl, hfresh⟩ := hstep
  exact hinv.act action hfresh

end

/-- **Sessions do not interfere.** Where ids are fresh when they are drawn, a session's request and its end
leave what belongs to another session as it was. -/
theorem sessions_isolated {inner : BridgeInner} (hreach : ReachedWith DrawsFresh inner) {a b : UInt64} (hab : a ≠ b)
    {action : BridgeAction} (hof : ActionOf a action) (hfresh : DrawsFresh inner (inner.act action)) :
    Unaffected b inner (inner.act action) := by
  have hinv := hreach.inv
  cases action with
  | register sessionId sender => exact hof.elim
  | channel sender channel => exact hof.elim
  | unregister sessionId =>
    cases hof
    exact unregister_unaffected hinv hab.symm
  | frame dds sid data maxPayloadSize =>
    change sid = a at hof
    subst hof
    exact (effect_after dds sid data maxPayloadSize inner).unaffected hinv hfresh hab.symm

/-- SUBSCRIBE to the topic of one letter and the type `T`. -/
def subscribeFrame (letter : UInt8) : Bytes :=
  [0x44, 0x42, 1, 1, 7, 0, 0, 0, 13, 0, 0, 0, 1, 0, 0, 0, letter, 1, 0, 0, 0, 0x54, 0, 0, 0]

def unsubscribeFrame (letter : UInt8) : Bytes :=
  [0x44, 0x42, 1, 2, 7, 0, 0, 0, 10, 0, 0, 0, 1, 0, 0, 0, letter, 1, 0, 0, 0, 0x54]

def chatterTopic : Topic := { handle := 1, topicName := "a", typeName := "T", isKeyed := false, keyDescriptors := ⟨[]⟩ }

def chatterKey : ReaderKey := ReaderKey.new "a" "T" ⟨[]⟩

theorem readers_subscribeFrame {inner : BridgeInner}
    (htopic : inner.participant.topics.lookup ("a", "T") = some chatterTopic) :
    inner.act (.frame ddsSucceeds 1 (subscribeFrame 0x61) 1024) = { inner with
      readers := inner.readers.call (.subscribe 2 chatterTopic (makeQos true ⟨[]⟩) ⟨[]⟩ 1) } := by
  have hcheck : checkFrame 1024 (subscribeFrame 0x61) =
      .ok (⟨1, .subscribe, 7, 13⟩, [1, 0, 0, 0, 0x61, 1, 0, 0, 0, 0x54, 0, 0, 0]) := rfl
  have hparse : parseSubscribe [1, 0, 0, 0, 0x61, 1, 0, 0, 0, 0x54, 0, 0, 0] =
      .ok ⟨"a", "T", ⟨[]⟩, false, ⟨[]⟩⟩ := rfl
  have htopics : (DdsParticipant.getOrCreateTopic 1 "a" "T" false ⟨[]⟩) inner.participant =
      .ok (chatterTopic, inner.participant) := by
    unfold DdsParticipant.getOrCreateTopic
    rw [Prog.bind_of_ok (show (Prog.get : Prog DdsParticipant DdsError _) inner.participant =
      .ok (inner.participant, inner.participant) from rfl), htopic]
    rfl
  change (processBinaryFrame ddsSucceeds 1 (subscribeFrame 0x61) 1024).after inner = _
  unfold processBinaryFrame
  rw [hcheck]
  simp only [Prog.after, ReaderRegistry.call, handleMessage, Prog.recover, dispatch, handleSubscribe, parsed, hparse,
    Prog.bind_apply, Prog.mapErr, Prog.ofRes, Prog.pure_apply, Res.ok_bind, getOrCreateTopic, orDdsError, onParticipant,
    Prog.zoom, ddsSucceeds, htopics, onReaders]
  cases h : subscribe 2 chatterTopic (makeQos true ⟨[]⟩) ⟨[]⟩ 1 inner.readers with
  | ok p => rfl
  | err p => rfl
  | panic => rfl

theorem readers_unsubscribeFrame (inner : BridgeInner) :
    inner.act (.frame ddsSucceeds 1 (unsubscribeFrame 0x61) 1024) = { inner with
      readers := inner.readers.call (.unsubscribe "a" "T" 1) } := by
  have hcheck : checkFrame 1024 (unsubscribeFrame 0x61) =
      .ok (⟨1, .unsubscribe, 7, 10⟩, [1, 0, 0, 0, 0x61, 1, 0, 0, 0, 0x54]) := rfl
  have hparse : parseUnsubscribe [1, 0, 0, 0, 0x61, 1, 0, 0, 0, 0x54] = .ok ⟨"a", "T"⟩ := rfl
  change (processBinaryFrame ddsSucceeds 1 (unsubscribeFrame 0x61) 1024).after inner = _
  unfold processBinaryFrame
  rw [hcheck]
  simp only [Prog.after, ReaderRegistry.call, handleMessage, Prog.recover, dispatch, handleUnsubscribe, parsed, hparse,
    Prog.bind_apply, Prog.mapErr, Prog.ofRes, Prog.pure_apply, Res.ok_bind, Prog.get, Prog.modify, Prog.require]
  by_cases hf : (inner.readers.unsubscribe "a" "T" 1).1 = true
  · rw [if_pos hf]
    rfl
  · rw [if_neg hf]
    rfl

/-- Session 2 is in reader 1, the only one; `n` is next. -/
structure Churning (n : UInt64) (s : BridgeInner) : Prop where
  topic : s.participant.topics.lookup ("a", "T") = some chatterTopic
  writers : s.writers = .new
  keys : KeysInv s.readers
  free : s.readers.keyToReader.lookup chatterKey = none
  only : ∀ r x, s.readers.readers.lookup r = some x → r = 1
  held : Member s.readers 2 1
  next : s.readers.nextReaderId = n

theorem unsubscribe_nextReaderId (reg : ReaderRegistry) (topicName typeName : String) (s : UInt64) :
    (reg.unsubscribe topicName typeName s).2.nextReaderId = reg.nextReaderId := by
  cases h : reg.sessionSubscriptions.lookup (s, topicName, typeName) with
  | none => rw [unsubscribe_none h]
  | some r =>
    cases hr : reg.readers.lookup r with
    | none => simp only [unsubscribe, h, hr]
    | some reader =>
      simp only [unsubscribe, h, hr]
      split <;> rfl

theorem Churning.subscribed {n : UInt64} {s : BridgeInner} (h : Churning n s) : ∃ reader : DdsReader,
    reader.readerId = n ∧ reader.subscribers = ∅ ∧ reader.key = chatterKey ∧
      (s.act (.frame ddsSucceeds 1 (subscribeFrame 0x61) 1024)).readers = s.readers.add chatterKey reader chatterTopic 1 := by
  rw [readers_subscribeFrame h.topic]
  have hshared : s.readers.shared chatterKey = none := (shared_eq_none h.keys).mpr h.free
  rcases subscribe_cases s.readers 2 chatterTopic (makeQos true ⟨[]⟩) ⟨[]⟩ 1 with
    ⟨r, reader, hsh, -⟩ | ⟨-, hrc, -⟩ | ⟨-, -, reader, ht, hq, hempty, hid, -, he⟩
  · rw [show s.readers.shared (ReaderKey.new chatterTopic.topicName chatterTopic.typeName ⟨[]⟩) = none
      from hshared] at hsh
    cases hsh
  · exact absurd hrc (by decide)
  · refine ⟨reader, by rw [hid, h.next], hempty, ?_, ?_⟩
    · rw [DdsReader.key, ht, hq, ReaderKey.new_normalize]
      rfl
    · simp only [ReaderRegistry.call, Prog.after, he]
      rfl

theorem Churning.step {n : UInt64} {s : BridgeInner} (h : Churning n s) (hn : n ≠ 1) :
    Churning (n + 1) ((s.act (.frame ddsSucceeds 1 (subscribeFrame 0x61) 1024)).act
      (.frame ddsSucceeds 1 (unsubscribeFrame 0x61) 1024)) := by
  obtain ⟨reader, hid, hempty, hkey, hadd⟩ := h.subscribed
  have hfree : s.readers.readers.lookup reader.readerId = none := by
    rw [Option.eq_none_iff_forall_not_mem]
    intro x hx
    exact hn (hid ▸ h.only _ x hx)
  have hkeys : KeysInv (s.readers.add chatterKey reader chatterTopic 1) :=
    add_keysInv h.keys hkey h.free hfree
  have hentry : (s.readers.add chatterKey reader chatterTopic 1).sessionSubscriptions.lookup (1, "a", "T") =
      some reader.readerId := by
    rw [add_subscriptions]
    exact if_pos rfl
  have hlook : (s.readers.add chatterKey reader chatterTopic 1).readers.lookup reader.readerId =
      some { reader with subscribers := reader.subscribers.insert 1 () } := by
    rw [add_readers, if_pos rfl]
  obtain ⟨reg', he, -, hreaders, hleft⟩ := unsubscribe_some hentry hlook
  have halone : (DdsReader.leave { reader with subscribers := reader.subscribers.insert 1 () } 1).subscribers.isEmpty =
      true := by
    unfold DdsReader.leave
    rw [hempty]
    rfl
  have hnext : reg'.nextReaderId = n + 1 := by
    have hsame := unsubscribe_nextReaderId (s.readers.add chatterKey reader chatterTopic 1) "a" "T" 1
    rw [he] at hsame
    rw [hsame, ← h.next]
    rfl
  have hdep : Departs 1 (s.readers.add chatterKey reader chatterTopic 1) reg' := by
    rw [← show (unsubscribe _ "a" "T" 1).2 = reg' from congrArg Prod.snd he]
    exact unsubscribe_departs "a" "T"
  have hkeys' : KeysInv reg' := by
    rw [← show (unsubscribe _ "a" "T" 1).2 = reg' from congrArg Prod.snd he]
    exact unsubscribe_keysInv hkeys
  rw [readers_unsubscribeFrame, hadd]
  simp only [ReaderRegistry.call, he]
  refine ⟨?_, ?_, hkeys', ?_, fun r x hx => ?_, ?_, hnext⟩
  · rw [readers_subscribeFrame h.topic]
    exact h.topic
  · rw [readers_subscribeFrame h.topic]
    exact h.writers
  · rw [hleft, if_pos halone, add_keys, if_pos rfl]
    simp
  · rw [hreaders] at hx
    by_cases hr : r = reader.readerId
    · rw [if_pos hr, if_pos halone] at hx
      cases hx
    · rw [if_neg hr, add_readers, if_neg hr] at hx
      exact h.only r x hx
  · rw [hdep.member (by decide)]
    obtain ⟨x, hx, hm⟩ := h.held
    refine ⟨x, ?_, hm⟩
    rw [add_readers, hid, if_neg (Ne.symm hn), hx]

theorem churning (start : BridgeInner) (hstart : Churning 3 start) (k : Nat) (hk : k < 2 ^ 64 - 1) :
    ∃ s, Runs.Reachable (fun s action t => BridgeStep s action t ∧ DrawsFreshWriter s.writers t.writers) start s ∧
      Churning (UInt64.ofNat (3 + k)) s := by
  induction k with
  | zero => exact ⟨start, .refl, hstart⟩
  | succ k ih =>
    obtain ⟨s, hreach, hs⟩ := ih (by omega)
    have hn : UInt64.ofNat (3 + k) ≠ 1 := by
      intro h
      have hnat := congrArg UInt64.toNat h
      simp only [UInt64.toNat_ofNat', UInt64.reduceToNat] at hnat
      omega
    have hsub := readers_subscribeFrame hs.topic
    refine ⟨_, .tail (.tail hreach ⟨.frame ddsSucceeds 1 (subscribeFrame 0x61) 1024, rfl, ?_⟩)
      ⟨.frame ddsSucceeds 1 (unsubscribeFrame 0x61) 1024, rfl, ?_⟩, ?_⟩
    · rw [hsub]
      exact fun h => absurd rfl h
    · rw [readers_unsubscribeFrame]
      exact fun h => absurd rfl h
    · have hnext : UInt64.ofNat (3 + (k + 1)) = UInt64.ofNat (3 + k) + 1 := by
        rw [← Nat.add_assoc, UInt64.ofNat_add]
        rfl
      rw [hnext]
      exact hs.step hn

/-- Sessions 1 and 2 connect, session 2 subscribes to `b`, session 1 to `a` and no longer. -/
def churnStart : BridgeInner :=
  ((((idleBridge.act (.register 1 0)).act (.register 2 1)).act (.frame ddsSucceeds 2 (subscribeFrame 0x62) 1024)).act
    (.frame ddsSucceeds 1 (subscribeFrame 0x61) 1024)).act (.frame ddsSucceeds 1 (unsubscribeFrame 0x61) 1024)

theorem churnStart_reached : Runs.Reachable (fun s action t => BridgeStep s action t ∧ DrawsFresh s t) idleBridge
    churnStart := by
  refine .tail (.tail (.tail (.tail (.tail .refl ⟨.register 1 0, rfl, ?_⟩) ⟨.register 2 1, rfl, ?_⟩)
    ⟨.frame ddsSucceeds 2 (subscribeFrame 0x62) 1024, rfl, ?_⟩)
    ⟨.frame ddsSucceeds 1 (subscribeFrame 0x61) 1024, rfl, ?_⟩)
    ⟨.frame ddsSucceeds 1 (unsubscribeFrame 0x61) 1024, rfl, ?_⟩
  all_goals exact ⟨fun _ => rfl, fun _ => rfl⟩

theorem churning_start : Churning 3 churnStart where
  topic := rfl
  writers := rfl
  keys := (ReachedWith.inv ⟨1, _, churnStart_reached⟩).subscriptions.keys
  free := rfl
  only := by
    intro r x hx
    have hmem : r ∈ churnStart.readers.readers.keys := (Table.mem_keys_iff _ _).mpr ⟨x, hx⟩
    exact List.mem_singleton.mp hmem
  held := ⟨_, rfl, by decide⟩
  next := rfl

/-- After 2^64 readers the counter is back at 1, and the next reader takes the place of the one session 2 is
subscribed to. -/
theorem reader_id_comes_back :
    ¬ ∀ inner, ReachedWith (fun s t => DrawsFreshWriter s.writers t.writers) inner → ∀ a b, a ≠ b →
      ∀ action, ActionOf a action → DrawsFreshWriter inner.writers (inner.act action).writers →
        Unaffected b inner (inner.act action) := by
  intro h
  obtain ⟨s, hreach, hs⟩ := churning churnStart churning_start (2 ^ 64 - 2) (by decide)
  have hreached : ReachedWith (fun s t => DrawsFreshWriter s.writers t.writers) s :=
    ⟨1, _, .trans (churnStart_reached.mono fun s action t h => ⟨h.1, h.2.1⟩) hreach⟩
  have hkept := h s hreached 1 2 (by decide) (.frame ddsSucceeds 1 (subscribeFrame 0x61) 1024) rfl (by
    rw [readers_subscribeFrame hs.topic]
    exact fun h => absurd rfl h)
  obtain ⟨reader, hid, hempty, -, hadd⟩ := hs.subscribed
  obtain ⟨x, hx, hm⟩ := (hkept.membership 1).mpr hs.held
  rw [hadd, add_readers, hid, if_pos (by decide)] at hx
  cases hx
  have hm' : (2 : UInt64) ∈ (∅ : TableSet UInt64).insert 1 () := by rwa [hempty] at hm
  exact absurd hm' (by decide)

/-- `sessions_isolated` for the UNSUBSCRIBE of a session that shares a reader. -/
theorem sessions_isolated_shared_reader :
    let inner := ((idleBridge.act (.register 1 0)).act (.frame ddsSucceeds 1 (subscribeFrame 0x61) 1024)).act
      (.frame ddsSucceeds 2 (subscribeFrame 0x61) 1024)
    Member inner.readers 1 1 ∧
      Unaffected 2 inner (inner.act (.frame ddsSucceeds 1 (unsubscribeFrame 0x61) 1024)) := by
  intro inner
  have hreach : ReachedWith DrawsFresh inner := by
    refine ⟨1, _, .tail (.tail (.tail .refl ⟨.register 1 0, rfl, ?_⟩)
      ⟨.frame ddsSucceeds 1 (subscribeFrame 0x61) 1024, rfl, ?_⟩)
      ⟨.frame ddsSucceeds 2 (subscribeFrame 0x61) 1024, rfl, ?_⟩⟩
    all_goals exact ⟨fun _ => rfl, fun _ => rfl⟩
  have hof : ActionOf 1 (.frame ddsSucceeds 1 (unsubscribeFrame 0x61) 1024) := rfl
  exact ⟨⟨_, rfl, by decide⟩, sessions_isolated hreach (by decide) hof ⟨fun _ => rfl, fun _ => rfl⟩⟩

end DdsBridge
