import DdsBridge.Lib.Runs
import DdsBridge.ReaderLeave

/-!
# Runs of the reader registry

What every call keeps, what a session that subscribes through a second reader breaks, and what both
say about whole runs.
-/

namespace DdsBridge

open ReaderRegistry

/-! ## One call -/

section
variable {reg reg' : ReaderRegistry} {call : ReaderCall}

theorem call_inv (hinv : RegistryInv reg) (hstep : CallStep reg call reg') (hok : KeepsReader reg call) :
    RegistryInv reg' := by
  subst hstep
  cases call with
  | subscribe rc topic qos qosSet s => exact subscribe_inv hinv hok
  | unsubscribe topicName typeName s => exact (unsubscribe_leaves hinv).inv hinv
  | removeSession s => exact (removeSession_leaves hinv).inv hinv

def FreeId (reg : ReaderRegistry) : Prop := reg.readers.lookup reg.nextReaderId = none

theorem subscribe_keysInv {rc : Int32} {topic : Topic} {qos : Option DdsQos} {qosSet : QosSet} {s : UInt64}
    (hinv : KeysInv reg) (hfree : FreeId reg) :
    KeysInv ((subscribe rc topic qos qosSet s).after reg) := by
  rcases subscribe_cases reg rc topic qos qosSet s with
    ⟨r, reader, hsh, he⟩ | ⟨-, -, he⟩ | ⟨hsh, -, reader, ht, hq, -, hid, -, he⟩
  · simp only [Prog.after, he]
    exact join_keysInv hinv (shared_eq_some.mp hsh).2
  · simpa only [Prog.after, he] using hinv
  · simp only [Prog.after, he]
    refine add_keysInv hinv ?_ ((shared_eq_none hinv).mp hsh) (by rw [hid]; exact hfree)
    rw [DdsReader.key, ht, hq, ReaderKey.new_normalize]

/-- The keys stay in order also where sessions are left behind. -/
theorem call_keysInv (hinv : KeysInv reg) (hfree : FreeId reg) (call : ReaderCall) :
    KeysInv (reg.call call) := by
  cases call with
  | subscribe rc topic qos qosSet s => exact subscribe_keysInv hinv hfree
  | unsubscribe topicName typeName s => exact unsubscribe_keysInv hinv
  | removeSession s => exact removeSession_keysInv hinv

/-- A session that subscribes through a second reader is left behind in the first. -/
theorem join_breaks (hinv : RegistryInv reg) {r held : UInt64} {reader : DdsReader} {topic : Topic}
    {s : UInt64} (hheld : reg.sessionSubscriptions.lookup (s, topic.topicName, topic.typeName) = some held)
    (hne : held ≠ r) : ¬ RepInv (reg.join r reader topic s) := by
  intro h
  obtain ⟨x, hx, ht, hT⟩ := hinv.live _ _ _ _ hheld
  have hs : s ∈ x.subscribers := (hinv.subscribed held x s hx).mpr (by rw [ht, hT]; exact hheld)
  have hx' : (reg.join r reader topic s).readers.lookup held = some x := by
    rw [join_readers, if_neg hne]
    exact hx
  have h' := (h.subscribed held x s hx').mp hs
  rw [join_subscriptions, ht, hT, if_pos rfl] at h'
  exact hne (Option.some.inj h').symm

theorem add_breaks (hinv : RegistryInv reg) {key : ReaderKey} {reader : DdsReader} {topic : Topic}
    {s : UInt64} (hnew : reg.keyToReader.lookup key = none)
    (hbad : reg.sessionSubscriptions.lookup (s, topic.topicName, topic.typeName) ≠ none ∨
      reg.readers.lookup reader.readerId ≠ none) : ¬ RepInv (reg.add key reader topic s) := by
  intro h
  by_cases hfree : reg.readers.lookup reader.readerId = none
  · -- the id is fresh, so the session's old reader still lists it
    obtain ⟨held, hheld⟩ := Option.ne_none_iff_exists'.mp (hbad.resolve_right (by simp [hfree]))
    obtain ⟨x, hx, ht, hT⟩ := hinv.live _ _ _ _ hheld
    have hne : held ≠ reader.readerId := by
      rintro rfl
      rw [hfree] at hx
      cases hx
    have hs : s ∈ x.subscribers := (hinv.subscribed held x s hx).mpr (by rw [ht, hT]; exact hheld)
    have hx' : (reg.add key reader topic s).readers.lookup held = some x := by
      rw [add_readers, if_neg hne]
      exact hx
    have h' := (h.subscribed held x s hx').mp hs
    rw [add_subscriptions, ht, hT, if_pos rfl] at h'
    exact hne (Option.some.inj h').symm
  · -- the id is taken, so two keys lead to it
    obtain ⟨x, hx⟩ := Option.ne_none_iff_exists'.mp hfree
    have hkey := (hinv.keys x.key _).mpr ⟨x, hx, rfl⟩
    have hne : x.key ≠ key := by
      intro e
      rw [e, hnew] at hkey
      cases hkey
    have h₁ : (reg.add key reader topic s).keyToReader.lookup x.key = some reader.readerId := by
      rw [add_keys, if_neg hne]
      exact hkey
    have h₂ : (reg.add key reader topic s).keyToReader.lookup key = some reader.readerId := by
      rw [add_keys, if_pos rfl]
    obtain ⟨y, hy, hyk⟩ := (h.keys _ _).mp h₁
    obtain ⟨z, hz, hzk⟩ := (h.keys _ _).mp h₂
    rw [hy] at hz
    cases hz
    exact hne (hyk.symm.trans hzk)

theorem call_breaks (hinv : RegistryInv reg) (hstep : CallStep reg call reg')
    (hbad : ¬ KeepsReader reg call) : ¬ RepInv reg' := by
  subst hstep
  cases call with
  | unsubscribe topicName typeName s => exact absurd trivial hbad
  | removeSession s => exact absurd trivial hbad
  | subscribe rc topic qos qosSet s =>
    simp only [ReaderRegistry.call, Prog.after]
    rcases subscribe_cases reg rc topic qos qosSet s
      with ⟨r, reader, hsh, he⟩ | ⟨hsh, hrc, -⟩ | ⟨hsh, hrc, reader, -, -, -, hid, -, he⟩
    · obtain ⟨hkey, -⟩ := shared_eq_some.mp hsh
      simp only [KeepsReader, hkey, not_or] at hbad
      obtain ⟨held, hheld⟩ := Option.ne_none_iff_exists'.mp hbad.1
      rw [he]
      exact join_breaks hinv hheld fun e => hbad.2 (by rw [hheld, e])
    · have hkey := (shared_eq_none hinv.keys).mp hsh
      simp only [KeepsReader, hkey] at hbad
      exact absurd (fun h => absurd hrc (Int32.not_lt.mpr h)) hbad
    · have hkey := (shared_eq_none hinv.keys).mp hsh
      simp only [KeepsReader, hkey, Classical.not_imp, Classical.not_and_iff_not_or_not] at hbad
      rw [he]
      exact add_breaks hinv hkey (by rw [hid]; exact hbad.2)

/-- What a call that ends subscriptions promises: `unsubscribe` that returned true leaves the session
in no reader of the topic and type; `remove_session` leaves it nowhere, and its own readers go. -/
def Clears (reg : ReaderRegistry) : ReaderCall → Prop
  | .subscribe .. => True
  | .unsubscribe topicName typeName s => (reg.unsubscribe topicName typeName s).1 = true →
    ∀ r reader, (reg.unsubscribe topicName typeName s).2.readers.lookup r = some reader →
      reader.topic.topicName = topicName → reader.topic.typeName = typeName → s ∉ reader.subscribers
  | .removeSession s =>
    (∀ r reader, (reg.removeSession s).readers.lookup r = some reader → s ∉ reader.subscribers) ∧
    (∀ topicName typeName, (reg.removeSession s).sessionSubscriptions.lookup (s, topicName, typeName) = none) ∧
    (∀ r reader, reg.readers.lookup r = some reader → (∀ s' ∈ reader.subscribers, s' = s) →
      (reg.removeSession s).readers.lookup r = none ∧
        ∀ key, (reg.removeSession s).keyToReader.lookup key ≠ some r)

theorem clears_of_inv (hinv : RegistryInv reg) (call : ReaderCall) : Clears reg call := by
  cases call with
  | subscribe rc topic qos qosSet s => trivial
  | unsubscribe topicName typeName s =>
    intro _ r reader hr ht hT
    exact (unsubscribe_leaves hinv).notMem hinv hr ⟨ht, hT⟩
  | removeSession s =>
    have hl := removeSession_leaves (s := s) hinv
    refine ⟨fun r reader hr => hl.notMem hinv hr trivial, fun t T => ?_, fun r reader hr honly => ?_⟩
    · rw [Option.eq_none_iff_forall_not_mem]
      intro r h
      exact ((hl.subscriptions s t T r).mp h).2 ⟨rfl, trivial⟩
    · exact hl.last hinv hr trivial honly

theorem registryInv_new : RegistryInv ReaderRegistry.new where
  subscribed := fun _ _ _ h => by cases h
  nonempty := fun _ _ h => by cases h
  keys := fun _ _ => by simp [ReaderRegistry.new]
  live := fun _ _ _ _ h => by cases h

end

/-- **Runs of the reader registry.** The representation invariant holds all along a run exactly if no
call of it subscribes a session through a second reader; and then every departure is complete. -/
theorem repInv_iff_keepsReader {run : List (ReaderCall × ReaderRegistry)}
    (hrun : Runs.Run CallStep ReaderRegistry.new run) :
    (Runs.Always RepInv ReaderRegistry.new run ↔ Runs.EachStep KeepsReader ReaderRegistry.new run) ∧
      (Runs.EachStep KeepsReader ReaderRegistry.new run → Runs.EachStep Clears ReaderRegistry.new run) := by
  constructor
  · refine Runs.always_iff_eachStep (I := RegistryInv) ?_ ?_ ?_ hrun registryInv_new
    · exact fun _ _ _ => call_inv
    · exact fun _ _ _ => call_breaks
    · exact fun _ h => h.toRepInv
  intro hok
  have halways : Runs.Always RegistryInv ReaderRegistry.new run := by
    refine Runs.always_of_eachStep ?_ hrun registryInv_new hok
    exact fun _ _ _ => call_inv
  exact Runs.eachStep_of_always (fun _ h => clears_of_inv h) halways

def chatter : Topic where
  handle := 0
  topicName := "chatter"
  typeName := "String"
  isKeyed := false
  keyDescriptors := { keys := [] }

/-- Session 1 subscribes, subscribes again with another durability, and unsubscribes: it is told that
it has left, and its first reader still has it. -/
theorem resubscribe_leaks :
    let again := [ReaderCall.subscribe 10 chatter none { policies := [] } 1,
      .subscribe 11 chatter none { policies := [.durability 1] } 1]
    let reg := again.foldl ReaderRegistry.call ReaderRegistry.new
    let left := reg.unsubscribe "chatter" "String" 1
    let gone := reg.removeSession 1
    ¬ RepInv reg ∧ left.1 = true ∧
      (∃ reader, left.2.readers.lookup 1 = some reader ∧ (1 : UInt64) ∈ reader.subscribers) ∧
      (∃ reader, gone.readers.lookup 1 = some reader ∧ (1 : UInt64) ∈ reader.subscribers) := by
  intro again reg left gone
  refine ⟨fun h => ?_, by decide, ⟨_, rfl, by decide⟩, ⟨_, rfl, by decide⟩⟩
  have hsub := (h.subscribed 1 _ 1 rfl).mp (by decide)
  exact absurd hsub (by decide)

/-- Two sessions share a reader. -/
theorem repInv_shared_reader :
    let both := [ReaderCall.subscribe 10 chatter none { policies := [] } 1,
      .subscribe 11 chatter none { policies := [.durability 0] } 2]
    let run := [(both[0], ReaderRegistry.new.call both[0]),
      (both[1], (ReaderRegistry.new.call both[0]).call both[1])]
    Runs.Always RepInv ReaderRegistry.new run ∧ Runs.EachStep Clears ReaderRegistry.new run := by
  intro both run
  have hrun : Runs.Run CallStep ReaderRegistry.new run := .cons rfl (.cons rfl (.nil _))
  have hok : Runs.EachStep KeepsReader ReaderRegistry.new run :=
    ⟨fun _ => ⟨rfl, rfl⟩, .inl rfl, trivial⟩
  exact ⟨(repInv_iff_keepsReader hrun).1.mpr hok, (repInv_iff_keepsReader hrun).2 hok⟩

end DdsBridge
