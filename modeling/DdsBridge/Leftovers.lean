import DdsBridge.DdsLedger

/-!
# Nothing outlives its session

A reader lives while a session subscribes to it, and a writer while its owner does. So once its sessions are gone the
bridge has only its topics in DDS. Two things could keep a reader or a writer: a session that subscribes twice to a
topic with different QoS is forgotten by its first reader, and an id counter that has come back hides what was
registered under the id before.
-/

namespace DdsBridge

open BridgeInner ReaderRegistry

/-- Registered with the bridge; a session whose task has panicked or is stuck stays so. -/
def Connected (inner : BridgeInner) (s : UInt64) : Prop := ∃ sender, inner.sessionSenders.lookup s = some sender

/-- A session reads its frames after it has registered and before it unregisters. -/
def FromSession (inner : BridgeInner) : BridgeAction → Prop
  | .frame _ sid _ _ => Connected inner sid
  | _ => True

structure Orderly (inner : BridgeInner) (action : BridgeAction) : Prop where
  connected : FromSession inner action
  readers : KeepsReaders inner action
  fresh : DrawsFresh inner (inner.act action)

theorem orderly_register (inner : BridgeInner) (sid : UInt64) (sender : Nat) : Orderly inner (.register sid sender) where
  connected := trivial
  readers := trivial
  fresh := ⟨fun h => absurd rfl h, fun h => absurd rfl h⟩

theorem orderly_unregister (inner : BridgeInner) (sid : UInt64) : Orderly inner (.unregister sid) where
  connected := trivial
  readers := trivial
  fresh := by
    refine ⟨fun h => absurd ?_ h, fun h => absurd rfl h⟩
    change (inner.writers.removeSession sid).nextWriterId = _
    unfold WriterRegistry.removeSession
    cases inner.writers.sessionWriters.lookup sid with
    | none => simp
    | some ids => simp

/-- Subscribers and owners are connected. -/
structure AttendedInv (inner : BridgeInner) : Prop where
  named : TopicsNamed inner
  sessions : SessionsInv inner
  registry : RegistryInv inner.readers
  subscribers : ∀ s r, Member inner.readers s r → Connected inner s
  owners : ∀ w writer s, inner.writers.writers.lookup w = some (writer, s) → Connected inner s

section
variable {inner : BridgeInner}

theorem Connected.unaffected {t : BridgeInner} {s : UInt64} (h : Unaffected s inner t) :
    Connected t s ↔ Connected inner s := by
  simp only [Connected, h.sender]

/-- What a session that is not touched has is attended as before. -/
theorem AttendedInv.others {t : BridgeInner} {a : UInt64} (hinv : AttendedInv inner)
    (hsame : ∀ s, s ≠ a → Unaffected s inner t) {s : UInt64} (hs : s ≠ a) :
    (∀ r, Member t.readers s r → Connected t s) ∧
      ∀ w writer, t.writers.writers.lookup w = some (writer, s) → Connected t s := by
  have hun := hsame s hs
  refine ⟨fun r hr => ?_, fun w writer hw => ?_⟩
  · exact (Connected.unaffected hun).mpr (hinv.subscribers s r ((hun.membership r).mp hr))
  · exact (Connected.unaffected hun).mpr (hinv.owners w writer s ((hun.writers w writer).mp hw))

theorem attended_frame (hinv : AttendedInv inner) {dds : DdsReturns} {sid : UInt64} {data : Bytes} {maxPayloadSize : Nat}
    (hok : Orderly inner (.frame dds sid data maxPayloadSize)) :
    let t := inner.act (.frame dds sid data maxPayloadSize)
    (∀ s r, Member t.readers s r → Connected t s) ∧
      ∀ w writer s, t.writers.writers.lookup w = some (writer, s) → Connected t s := by
  intro t
  have heffect := effect_after dds sid data maxPayloadSize inner
  have hsame : ∀ s, s ≠ sid → Unaffected s inner t := fun s hs => heffect.unaffected hinv.sessions hok.fresh hs
  have hsid : Connected t sid := by
    obtain ⟨sender, hsender⟩ := hok.connected
    exact ⟨sender, by rw [← hsender, ← heffect.sessionSenders]⟩
  refine ⟨fun s r hr => ?_, fun w writer s hw => ?_⟩
  · by_cases hs : s = sid
    · rw [hs]
      exact hsid
    · exact (hinv.others hsame hs).1 r hr
  · by_cases hs : s = sid
    · rw [hs]
      exact hsid
    · exact (hinv.others hsame hs).2 w writer hw

theorem attended_unregister (hinv : AttendedInv inner) (sid : UInt64) :
    let t := inner.act (.unregister sid)
    (∀ s r, Member t.readers s r → Connected t s) ∧
      ∀ w writer s, t.writers.writers.lookup w = some (writer, s) → Connected t s := by
  intro t
  have hsame : ∀ s, s ≠ sid → Unaffected s inner t := fun s hs => unregister_unaffected hinv.sessions hs
  refine ⟨fun s r hr => ?_, fun w writer s hw => ?_⟩
  · by_cases hs : s = sid
    · obtain ⟨x, hx, hsub⟩ := hr
      rw [hs] at hsub
      exact absurd hsub ((removeSession_leaves hinv.registry).notMem hinv.registry hx trivial)
    · exact (hinv.others hsame hs).1 r hr
  · by_cases hs : s = sid
    · have hgone : t.writers.writers.lookup w = none := by
        have hlook : (inner.writers.removeSession sid).writers.lookup w = if w ∈ inner.writers.ids sid then none else
          inner.writers.writers.lookup w := WriterRegistry.lookup_removeSession sid w
        by_cases hmem : w ∈ inner.writers.ids sid
        · exact hlook.trans (if_pos hmem)
        · have hkept : inner.writers.writers.lookup w = some (writer, s) := by
            rw [← hw]
            exact (hlook.trans (if_neg hmem)).symm
          rw [hs] at hkept
          exact absurd ((WriterRegistry.mem_ids hinv.sessions.owners).mpr
            (WriterRegistry.owner_eq_some.mpr ⟨writer, hkept⟩)) hmem
      rw [hgone] at hw
      cases hw
    · exact (hinv.others hsame hs).2 w writer hw

theorem AttendedInv.act (hinv : AttendedInv inner) {action : BridgeAction} (hok : Orderly inner action) :
    AttendedInv (inner.act action) := by
  have hattended : (∀ s r, Member (inner.act action).readers s r → Connected (inner.act action) s) ∧
      ∀ w writer s, (inner.act action).writers.writers.lookup w = some (writer, s) → Connected (inner.act action) s := by
    cases action with
    | frame dds sid data maxPayloadSize => exact attended_frame hinv hok
    | unregister sid => exact attended_unregister hinv sid
    | channel sender channel => exact ⟨hinv.subscribers, hinv.owners⟩
    | register sid sender =>
      have hmore : ∀ s, Connected inner s → Connected (inner.act (.register sid sender)) s := by
        intro s h
        obtain ⟨tx, htx⟩ := h
        refine ⟨if s = sid then sender else tx, ?_⟩
        refine (Table.lookup_insert_eq _ _ _ _).trans ?_
        by_cases hs : s = sid
        · simp [hs]
        · simp [hs, htx]
      exact ⟨fun s r hr => hmore s (hinv.subscribers s r hr), fun w writer s hw => hmore s (hinv.owners w writer s hw)⟩
  exact ⟨topicsNamed_act hinv.named action, hinv.sessions.act action hok.fresh,
    registryInv_act hinv.named hinv.registry hok.readers, hattended.1, hattended.2⟩

end

namespace Calls

/-- The resource is kept for a session that is connected: one of its writers, or a reader it subscribes to. -/
def Attended (inner : BridgeInner) (x : DdsResource) : Prop :=
  (∃ r reader s, inner.readers.readers.lookup r = some reader ∧ x = reader.resource ∧ s ∈ reader.subscribers ∧
    Connected inner s) ∨
  ∃ w writer s, inner.writers.writers.lookup w = some (writer, s) ∧ x = writer.resource ∧ Connected inner s

theorem attended_of_held {inner : BridgeInner} (hinv : AttendedInv inner) {x : DdsResource} (hx : x ∈ inner.held) :
    x ∈ inner.participant.held ∨ Attended inner x := by
  simp only [BridgeInner.held, Multiset.mem_add] at hx
  rcases hx with (htopic | hreader) | hwriter
  · exact .inl htopic
  · obtain ⟨reader, hmem, rfl⟩ := List.mem_map.mp (Multiset.mem_coe.mp hreader)
    obtain ⟨r, hr⟩ := Table.mem_values.mp hmem
    obtain ⟨s, hs⟩ := hinv.registry.nonempty r reader hr
    exact .inr (.inl ⟨r, reader, s, hr, rfl, hs, hinv.subscribers s r ⟨reader, hr, hs⟩⟩)
  · obtain ⟨⟨writer, s⟩, hmem, rfl⟩ := List.mem_map.mp (Multiset.mem_coe.mp hwriter)
    obtain ⟨w, hw⟩ := Table.mem_values.mp hmem
    exact .inr (.inr ⟨w, writer, s, hw, rfl, hinv.owners w writer s hw⟩)

/-- With no session connected only the topics are left. -/
theorem held_of_alone {inner : BridgeInner} (hinv : AttendedInv inner) (halone : ∀ s, ¬ Connected inner s) :
    inner.held = inner.participant.held := by
  have hnone : ∀ x, ¬ Attended inner x := by
    rintro x (⟨r, reader, s, -, -, -, hs⟩ | ⟨w, writer, s, -, -, hs⟩)
    · exact halone s hs
    · exact halone s hs
  have hreaders : inner.readers.held = 0 := by
    refine Multiset.eq_zero_of_forall_notMem fun x hx => ?_
    obtain ⟨reader, hmem, rfl⟩ := List.mem_map.mp (Multiset.mem_coe.mp hx)
    obtain ⟨r, hr⟩ := Table.mem_values.mp hmem
    obtain ⟨s, hs⟩ := hinv.registry.nonempty r reader hr
    exact halone s (hinv.subscribers s r ⟨reader, hr, hs⟩)
  have hwriters : inner.writers.held = 0 := by
    refine Multiset.eq_zero_of_forall_notMem fun x hx => ?_
    obtain ⟨⟨writer, s⟩, hmem, rfl⟩ := List.mem_map.mp (Multiset.mem_coe.mp hx)
    obtain ⟨w, hw⟩ := Table.mem_values.mp hmem
    exact halone s (hinv.owners w writer s hw)
  rw [BridgeInner.held, hreaders, hwriters, add_zero, add_zero]

def OrderlyStep (t : Traced BridgeInner DdsCall) : Action → Prop
  | .bridge action => Orderly t.state action
  | .tick _ => True

theorem attendedInv_create (handle : Int32) (config : BridgeConfig) : AttendedInv (BridgeInner.create handle config) where
  named := fun _ _ h => by cases h
  sessions := sessionsInv_create handle config
  registry := registryInv_new
  subscribers := fun _ _ h => by
    obtain ⟨_, h, -⟩ := h
    cases h
  owners := fun _ _ _ h => by cases h

/-- **Nothing outlives its session.** Where frames come from connected sessions, these come back to their readers, and
ids are fresh: what the calls have left in DDS are the topics, and readers and writers that are kept for a session
that is connected. -/
theorem resources_attended {handle : Int32} {config : BridgeConfig} {tr : List (Action × Traced BridgeInner DdsCall)}
    (hrun : Runs.Run Step (start handle config) tr) (hok : Runs.EachStep OrderlyStep (start handle config) tr) :
    Runs.Always (fun t => ∃ live, Prog.replay DdsCall.effect 0 t.calls = some live ∧
        (∀ x ∈ live, x ∈ t.state.participant.held ∨ Attended t.state x) ∧
        ((∀ s, ¬ Connected t.state s) → live = t.state.participant.held)) (start handle config) tr := by
  have hstep : ∀ t action u, Balanced t ∧ AttendedInv t.state → Step t action u → OrderlyStep t action →
      Balanced u ∧ AttendedInv u.state := by
    rintro t action u ⟨hbalanced, hinv⟩ hu horderly
    cases hu
    refine ⟨hbalanced.act action, ?_⟩
    rw [act_state]
    cases action with
    | bridge action => exact hinv.act horderly
    | tick available => exact hinv
  have hstart : Balanced (start handle config) ∧ AttendedInv (start handle config).state :=
    ⟨balanced_start handle config, attendedInv_create handle config⟩
  refine (Runs.always_of_eachStep hstep hrun hstart hok).mono fun t h => ?_
  exact ⟨t.state.held, h.1, fun x hx => attended_of_held h.2 hx, fun halone => held_of_alone h.2 halone⟩

/-- A session connects, subscribes and leaves. -/
def connectedVisit : List Action := .bridge (.register 1 0) :: visit

theorem resources_attended_visit :
    let s := start 1 idleBridge.config
    Runs.Always (fun t => ∃ live, Prog.replay DdsCall.effect 0 t.calls = some live ∧
        (∀ x ∈ live, x ∈ t.state.participant.held ∨ Attended t.state x) ∧
        ((∀ s, ¬ Connected t.state s) → live = t.state.participant.held)) s (Runs.along act s connectedVisit) := by
  intro s
  have hsubscribe : Orderly (idleBridge.act (.register 1 0)) (.frame ddsSucceeds 1 durableSubscribeFrame 1024) :=
    ⟨⟨0, rfl⟩, fun _ _ _ _ => ⟨rfl, rfl⟩, fun _ => rfl, fun _ => rfl⟩
  refine resources_attended (Runs.run_along step_act _ _) ⟨orderly_register _ _ _, ?_, trivial, ?_, trivial⟩
  · unfold OrderlyStep
    rw [act_state]
    exact hsubscribe
  · exact orderly_unregister _ _

end Calls

end DdsBridge
