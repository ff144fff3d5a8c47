import DdsBridge.Isolation
import DdsBridge.RoundTrip

/-!
# The counter of the writer ids

`next_writer_id` of `src/dds/writer.rs` counts modulo 2^32 and does not look at the registry. An id is unique as
long as its writer does not outlive 2^32 others.
-/

namespace DdsBridge

open BridgeInner

/-! ## The bridge and its past -/

/-- The bridge, with the number of writers that were created so far, and for each id as which one it was given
out last. -/
structure IdsState where
  bridge : BridgeInner
  created : Nat
  born : UInt32 → Nat

/-- A writer is registered, under the next id. -/
def Registers (s t : BridgeInner) : Prop := t.writers.nextWriterId ≠ s.writers.nextWriterId

instance (s t : BridgeInner) : Decidable (Registers s t) := inferInstanceAs (Decidable (_ ≠ _))

def IdsState.act (s : IdsState) (action : BridgeAction) : IdsState :=
  let bridge := s.bridge.act action
  if Registers s.bridge bridge then
    { bridge, created := s.created + 1, born := Function.update s.born s.bridge.writers.nextWriterId s.created }
  else { s with bridge }

def IdsStep (s : IdsState) (action : BridgeAction) (t : IdsState) : Prop := t = s.act action

def IdsState.start (handle : Int32) (config : BridgeConfig) : IdsState where
  bridge := BridgeInner.create handle config
  created := 0
  born _ := 0

/-- The id of a writer that is registered is that of no live writer, and every live writer stays. -/
structure IdsState.Unique (s : IdsState) (action : BridgeAction) : Prop where
  fresh : Registers s.bridge (s.bridge.act action) →
    ∀ w p, s.bridge.writers.writers.lookup w = some p → w ≠ s.bridge.writers.nextWriterId
  kept : Registers s.bridge (s.bridge.act action) →
    ∀ w p, s.bridge.writers.writers.lookup w = some p → (s.bridge.act action).writers.writers.lookup w = some p

/-- No id belongs to two sessions, and a session that ends takes no writer of another one with it. -/
structure IdsState.Owned (s : IdsState) : Prop where
  once : ∀ w a b, w ∈ s.bridge.writers.ids a → w ∈ s.bridge.writers.ids b → a = b
  own : ∀ a b w writer, a ≠ b → s.bridge.writers.writers.lookup w = some (writer, b) →
    (s.bridge.act (.unregister a)).writers.writers.lookup w = some (writer, b)

/-- When a writer is created, each live one is among the last 2^32 - 1. -/
def IdsState.Young (s : IdsState) (action : BridgeAction) : Prop :=
  Registers s.bridge (s.bridge.act action) →
    ∀ w p, s.bridge.writers.writers.lookup w = some p → s.created < s.born w + 2 ^ 32

/-! ## What an action does to the writers -/

section
variable {s t : BridgeInner}

theorem writers_act (s : BridgeInner) (action : BridgeAction) : (s.act action).writers = s.writers ∨
    (∃ writer sid, writer.writerId = s.writers.nextWriterId ∧
      (s.act action).writers = s.writers.call (.register writer sid)) ∨
    (∃ w sid, (s.act action).writers = s.writers.call (.delete w sid)) ∨
    ∃ sid, (s.act action).writers = s.writers.call (.removeSession sid) := by
  cases action with
  | register sessionId sender => exact .inl rfl
  | channel sender channel => exact .inl rfl
  | unregister sessionId => exact .inr (.inr (.inr ⟨sessionId, rfl⟩))
  | frame dds sid data maxPayloadSize =>
    rcases (effect_after dds sid data maxPayloadSize s).writers with h | ⟨writer, hid, h⟩ | ⟨w, h⟩
    · exact .inl h
    · exact .inr (.inl ⟨writer, sid, hid, h⟩)
    · exact .inr (.inr (.inl ⟨w, sid, h⟩))

theorem nextWriterId_delete (reg : WriterRegistry) (w : UInt32) (sid : UInt64) :
    (reg.call (.delete w sid)).nextWriterId = reg.nextWriterId := by
  change ((WriterRegistry.delete w sid).after reg).nextWriterId = _
  rw [WriterRegistry.after_delete]
  split
  · rfl
  · rfl

theorem nextWriterId_removeSession (reg : WriterRegistry) (sid : UInt64) :
    (reg.call (.removeSession sid)).nextWriterId = reg.nextWriterId := by
  change (reg.removeSession sid).nextWriterId = _
  unfold WriterRegistry.removeSession
  split
  · rfl
  · rfl

theorem lookup_of_delete {reg : WriterRegistry} {w w' : UInt32} {sid : UInt64} {p : DdsWriter × UInt64}
    (h : (reg.call (.delete w sid)).writers.lookup w' = some p) : reg.writers.lookup w' = some p := by
  change ((WriterRegistry.delete w sid).after reg).writers.lookup w' = some p at h
  rw [WriterRegistry.after_delete] at h
  by_cases hown : reg.owner w = some sid
  · rw [if_pos hown, Table.lookup_erase_eq] at h
    by_cases hw : w' = w
    · rw [if_pos hw] at h
      cases h
    · rwa [if_neg hw] at h
  · rwa [if_neg hown] at h

theorem lookup_of_removeSession {reg : WriterRegistry} {w : UInt32} {sid : UInt64} {p : DdsWriter × UInt64}
    (h : (reg.call (.removeSession sid)).writers.lookup w = some p) : reg.writers.lookup w = some p := by
  change (reg.removeSession sid).writers.lookup w = some p at h
  rw [WriterRegistry.lookup_removeSession] at h
  by_cases hw : w ∈ reg.ids sid
  · rw [if_pos hw] at h
    cases h
  · rwa [if_neg hw] at h

/-- Where nothing is registered the live writers were live before, and the counter stands. -/
theorem writers_kept {action : BridgeAction} (h : ¬ Registers s (s.act action)) :
    (∀ w p, (s.act action).writers.writers.lookup w = some p → s.writers.writers.lookup w = some p) ∧
      (OwnersInv s.writers → OwnersInv (s.act action).writers) := by
  rcases writers_act s action with he | ⟨writer, sid, -, he⟩ | ⟨w, sid, he⟩ | ⟨sid, he⟩
  · rw [he]
    exact ⟨fun _ _ h => h, id⟩
  · refine absurd ?_ h
    unfold Registers
    rw [he]
    simp [WriterRegistry.call, WriterRegistry.register]
  · rw [he]
    exact ⟨fun w' p => lookup_of_delete, fun hinv => WriterRegistry.call_inv hinv _ trivial⟩
  · rw [he]
    exact ⟨fun w' p => lookup_of_removeSession, fun hinv => WriterRegistry.call_inv hinv _ trivial⟩

/-- What is registered has the next id, and the counter goes on. -/
theorem writers_registered {action : BridgeAction} (h : Registers s (s.act action)) :
    ∃ writer sid, writer.writerId = s.writers.nextWriterId ∧
      (s.act action).writers = s.writers.call (.register writer sid) ∧
      (s.act action).writers.nextWriterId = s.writers.nextWriterId + 1 ∧
      ∀ w, (s.act action).writers.writers.lookup w =
        if w = s.writers.nextWriterId then some (writer, sid) else s.writers.writers.lookup w := by
  rcases writers_act s action with he | ⟨writer, sid, hid, he⟩ | ⟨w, sid, he⟩ | ⟨sid, he⟩
  · exact absurd (congrArg WriterRegistry.nextWriterId he) h
  · refine ⟨writer, sid, hid, he, ?_, fun w => ?_⟩
    · rw [he]
      rfl
    · rw [he, ← hid]
      exact Table.lookup_insert_eq _ _ _ _
  · exact absurd ((congrArg WriterRegistry.nextWriterId he).trans (nextWriterId_delete _ w sid)) h
  · exact absurd ((congrArg WriterRegistry.nextWriterId he).trans (nextWriterId_removeSession _ sid)) h

/-- Owners and lists agree where a writer that is registered takes no id in use. -/
theorem ownersInv_act {action : BridgeAction} (hinv : OwnersInv s.writers)
    (hfresh : DrawsFreshWriter s.writers (s.act action).writers) : OwnersInv (s.act action).writers := by
  by_cases h : Registers s (s.act action)
  · obtain ⟨writer, sid, hid, he, -⟩ := writers_registered h
    have hnew := freshId_of_draws hid he hfresh
    rw [he]
    exact WriterRegistry.call_inv hinv _ hnew
  · exact (writers_kept h).2 hinv

end

/-! ## Ids and their numbers -/

/-- The id of a writer is its number modulo 2^32. A live writer is at most 2^32 creations old: the next one would
have taken its id. -/
structure BornInv (s : IdsState) : Prop where
  next : s.bridge.writers.nextWriterId = UInt32.ofNat (s.created + 1)
  live : ∀ w p, s.bridge.writers.writers.lookup w = some p →
    w = UInt32.ofNat (s.born w + 1) ∧ s.born w < s.created ∧ s.created ≤ s.born w + 2 ^ 32

theorem bornInv_start (handle : Int32) (config : BridgeConfig) : BornInv (.start handle config) where
  next := rfl
  live w p h := by cases h

section
variable {s : IdsState} {action : BridgeAction}

theorem ofNat_eq_iff {n m : Nat} : UInt32.ofNat n = UInt32.ofNat m ↔ n % 2 ^ 32 = m % 2 ^ 32 := by
  rw [← UInt32.toNat_inj, UInt32.toNat_ofNat', UInt32.toNat_ofNat']

/-- A live writer has the next id only when it is 2^32 creations old. -/
theorem BornInv.lt_iff (hi : BornInv s) {w : UInt32} {p : DdsWriter × UInt64}
    (h : s.bridge.writers.writers.lookup w = some p) :
    w ≠ s.bridge.writers.nextWriterId ↔ s.created < s.born w + 2 ^ 32 := by
  obtain ⟨hw, hlt, hle⟩ := hi.live w p h
  rw [hi.next]
  refine ⟨fun hne => ?_, fun hyoung he => ?_⟩
  · by_contra hold
    refine hne (hw.trans (ofNat_eq_iff.mpr ?_))
    omega
  · rw [he] at hw hlt hyoung
    have hmod := ofNat_eq_iff.mp hw
    omega

theorem BornInv.act (hi : BornInv s) (action : BridgeAction) : BornInv (s.act action) := by
  unfold IdsState.act
  by_cases h : Registers s.bridge (s.bridge.act action)
  · rw [if_pos h]
    obtain ⟨writer, sid, -, -, hnext, hlook⟩ := writers_registered h
    refine ⟨?_, fun w p hw => ?_⟩
    · rw [hnext, hi.next, UInt32.ofNat_add (s.created + 1) 1]
      rfl
    · rw [hlook] at hw
      simp only
      by_cases he : w = s.bridge.writers.nextWriterId
      · rw [he, Function.update_self]
        exact ⟨hi.next, Nat.lt_succ_self _, by omega⟩
      · rw [if_neg he] at hw
        rw [Function.update_of_ne he]
        have hyoung := (hi.lt_iff hw).mp he
        obtain ⟨hid, hlt, -⟩ := hi.live w p hw
        exact ⟨hid, by omega, by omega⟩
  · rw [if_neg h]
    refine ⟨?_, fun w p hw => hi.live w p ((writers_kept h).1 w p hw)⟩
    rw [← hi.next]
    exact not_not.mp h

theorem BornInv.unique_iff (hi : BornInv s) : s.Unique action ↔ s.Young action := by
  refine ⟨fun h hreg w p hw => (hi.lt_iff hw).mp (h.fresh hreg w p hw), fun h => ?_⟩
  have hfresh : Registers s.bridge (s.bridge.act action) →
      ∀ w p, s.bridge.writers.writers.lookup w = some p → w ≠ s.bridge.writers.nextWriterId :=
    fun hreg w p hw => (hi.lt_iff hw).mpr (h hreg w p hw)
  refine ⟨hfresh, fun hreg w p hw => ?_⟩
  obtain ⟨writer, sid, -, -, -, hlook⟩ := writers_registered hreg
  rw [hlook, if_neg (hfresh hreg w p hw)]
  exact hw

theorem owned_of_owners (hinv : OwnersInv s.bridge.writers) : s.Owned where
  once w a b ha hb := by
    rw [WriterRegistry.mem_ids hinv] at ha hb
    rw [ha] at hb
    exact Option.some.inj hb
  own a b w writer hab hw := by
    change (s.bridge.writers.removeSession a).writers.lookup w = _
    rw [WriterRegistry.lookup_removeSession, if_neg]
    · exact hw
    · rw [WriterRegistry.mem_ids hinv, WriterRegistry.owner, hw]
      exact fun h => hab (Option.some.inj h).symm

end

theorem bridge_act (s : IdsState) (action : BridgeAction) : (s.act action).bridge = s.bridge.act action := by
  unfold IdsState.act
  by_cases h : Registers s.bridge (s.bridge.act action)
  · rw [if_pos h]
  · rw [if_neg h]

/-- **Writer ids are unique** in a run exactly when no writer is created while a live one is 2^32 creations old; then
no id belongs to two sessions. -/
theorem writer_ids_unique_iff {handle : Int32} {config : BridgeConfig} {tr : List (BridgeAction × IdsState)}
    (hrun : Runs.Run IdsStep (.start handle config) tr) :
    (Runs.EachStep IdsState.Unique (.start handle config) tr ∧
        Runs.Always IdsState.Owned (.start handle config) tr) ↔
      Runs.EachStep IdsState.Young (.start handle config) tr := by
  have hstep : ∀ s action t, BornInv s → IdsStep s action t → BornInv t := by
    rintro s action t hi rfl
    exact hi.act action
  have hborn : Runs.Always BornInv (.start handle config) tr :=
    hrun.reachable.mono fun s hr => hr.invariant (bornInv_start handle config) hstep
  have hiff : Runs.EachStep IdsState.Unique (.start handle config) tr ↔
      Runs.EachStep IdsState.Young (.start handle config) tr :=
    Runs.eachStep_congr hborn fun s hi action => hi.unique_iff
  refine ⟨fun h => hiff.mp h.1, fun h => ⟨hiff.mpr h, ?_⟩⟩
  have howners : ∀ s action t, OwnersInv s.bridge.writers → IdsStep s action t → s.Unique action →
      OwnersInv t.bridge.writers := by
    rintro s action t hinv rfl hu
    rw [bridge_act]
    refine ownersInv_act hinv fun h => Option.eq_none_iff_forall_ne_some.mpr fun p hp => ?_
    exact hu.fresh h _ p hp rfl
  refine (Runs.always_of_eachStep (I := fun s : IdsState => OwnersInv s.bridge.writers) howners hrun (fun w s => rfl)
    (hiff.mpr h)).mono fun s hinv => owned_of_owners hinv

/-! ## The counter comes back -/

/-- CREATE_WRITER for the topic `a` and the type `T`. -/
def createWriterFrame : Bytes :=
  [0x44, 0x42, 1, 0x10, 7, 0, 0, 0, 13, 0, 0, 0, 1, 0, 0, 0, 0x61, 1, 0, 0, 0, 0x54, 0, 0, 0]

def chatterWriter (w : UInt32) : DdsWriter where
  handle := { handle := 3, qos := makeQos true ⟨[]⟩ }
  writerId := w
  topic := chatterTopic
  qosNormalized := QosSet.normalize ⟨[]⟩

theorem act_createWriterFrame {inner : BridgeInner} (sid : UInt64)
    (htopic : inner.participant.topics.lookup ("a", "T") = some chatterTopic) :
    inner.act (.frame ddsSucceeds sid createWriterFrame 1024) = { inner with
      writers := inner.writers.register (chatterWriter inner.writers.nextWriterId) sid } := by
  have hcheck : checkFrame 1024 createWriterFrame =
      .ok (⟨1, .createWriter, 7, 13⟩, [1, 0, 0, 0, 0x61, 1, 0, 0, 0, 0x54, 0, 0, 0]) := rfl
  have hparse : parseCreateWriter [1, 0, 0, 0, 0x61, 1, 0, 0, 0, 0x54, 0, 0, 0] =
      .ok ⟨"a", "T", ⟨[]⟩, false, ⟨[]⟩⟩ := rfl
  have htopics : (DdsParticipant.getOrCreateTopic 1 "a" "T" false ⟨[]⟩) inner.participant =
      .ok (chatterTopic, inner.participant) := by
    unfold DdsParticipant.getOrCreateTopic
    rw [Prog.bind_of_ok (show (Prog.get : Prog DdsParticipant DdsError _) inner.participant =
      .ok (inner.participant, inner.participant) from rfl), htopic]
    rfl
  change (processBinaryFrame ddsSucceeds sid createWriterFrame 1024).after inner = _
  unfold processBinaryFrame
  rw [hcheck]
  simp only [Prog.after, handleMessage, Prog.recover, dispatch, handleCreateWriter, parsed, hparse,
    Prog.bind_apply, Prog.mapErr, Prog.ofRes, Prog.pure_apply, Res.ok_bind, getOrCreateTopic, orDdsError, onParticipant,
    Prog.zoom, ddsSucceeds, htopics, createWriter, Prog.get, Prog.modify]
  rfl

/-- Session 1 owns writer 1, the only one; `n` is next. -/
structure Held (n : UInt32) (s : BridgeInner) : Prop where
  topic : s.participant.topics.lookup ("a", "T") = some chatterTopic
  owners : OwnersInv s.writers
  held : s.writers.owner 1 = some 1
  only : ∀ w, w ≠ 1 → s.writers.owner w = none
  next : s.writers.nextWriterId = n

theorem Held.step {n : UInt32} {s : BridgeInner} (h : Held n s) (hn : n ≠ 1) :
    Held (n + 1) ((s.act (.frame ddsSucceeds 2 createWriterFrame 1024)).act (.unregister 2)) := by
  rw [act_createWriterFrame 2 h.topic, h.next]
  have hfree : s.writers.writers.lookup n = none := Option.map_eq_none_iff.mp (h.only n hn)
  have hinv : OwnersInv (s.writers.register (chatterWriter n) 2) :=
    WriterRegistry.register_inv h.owners hfree
  have howner : ∀ w, (unregisterSession 2 { s with writers := s.writers.register (chatterWriter n) 2 }).writers.owner w =
      s.writers.owner w := by
    intro w
    change ((s.writers.register (chatterWriter n) 2).removeSession 2).owner w = _
    have hmem : w ∈ (s.writers.register (chatterWriter n) 2).ids 2 ↔ w = n := by
      rw [WriterRegistry.mem_ids hinv, WriterRegistry.owner_register]
      by_cases hw : w = n
      · exact iff_of_true (if_pos hw) hw
      · rw [if_neg (show w ≠ (chatterWriter n).writerId from hw)]
        by_cases h1 : w = 1
        · rw [h1, h.held]
          exact iff_of_false (by decide) hn.symm
        · rw [h.only w h1]
          exact iff_of_false (by decide) hw
    rw [WriterRegistry.owner, WriterRegistry.lookup_removeSession]
    by_cases hw : w = n
    · rw [if_pos (hmem.mpr hw), hw, h.only n hn]
      rfl
    · rw [if_neg (mt hmem.mp hw)]
      exact (WriterRegistry.owner_register _ _ _).trans (if_neg hw)
  refine ⟨h.topic, WriterRegistry.removeSession_inv hinv, (howner 1).trans h.held,
    fun w hw => (howner w).trans (h.only w hw), ?_⟩
  refine (nextWriterId_removeSession _ 2).trans ?_
  rw [← h.next]
  rfl

theorem held_after (start : BridgeInner) (hstart : Held 2 start) (k : Nat) (hk : k < 2 ^ 32) :
    ∃ s, Runs.Reachable BridgeStep start s ∧ Held (UInt32.ofNat (2 + k)) s := by
  induction k with
  | zero => exact ⟨start, .refl, hstart⟩
  | succ k ih =>
    obtain ⟨s, hreach, hs⟩ := ih (by omega)
    have hn : UInt32.ofNat (2 + k) ≠ 1 := by
      intro h
      have hmod := ofNat_eq_iff.mp (h.trans (show (1 : UInt32) = UInt32.ofNat 1 from rfl))
      omega
    refine ⟨_, .tail (.tail hreach ⟨.frame ddsSucceeds 2 createWriterFrame 1024, rfl⟩) ⟨.unregister 2, rfl⟩, ?_⟩
    rw [← Nat.add_assoc, UInt32.ofNat_add]
    exact hs.step hn

theorem held_start : Held 2 (idleBridge.act (.frame ddsSucceeds 1 createWriterFrame 1024)) where
  topic := rfl
  owners := WriterRegistry.register_inv (fun _ _ => rfl) rfl
  held := rfl
  only w hw := (WriterRegistry.owner_register (chatterWriter 1) 1 w).trans (if_neg hw)
  next := rfl

theorem held_one : ∃ s, Runs.Reachable BridgeStep idleBridge s ∧ Held 1 s := by
  obtain ⟨s, hreach, hs⟩ := held_after _ held_start (2 ^ 32 - 1) (by decide)
  exact ⟨s, .head ⟨_, rfl⟩ hreach, hs⟩

theorem reachable_ids {s : IdsState} {b : BridgeInner} (h : Runs.Reachable BridgeStep s.bridge b) :
    ∃ t, Runs.Reachable IdsStep s t ∧ t.bridge = b := by
  induction h with
  | refl => exact ⟨s, .refl, rfl⟩
  | tail _ hstep ih =>
    obtain ⟨t, ht, rfl⟩ := ih
    obtain ⟨action, rfl⟩ := hstep
    exact ⟨t.act action, .tail ht ⟨action, rfl⟩, bridge_act t action⟩

/-- Session 1 keeps writer 1 while session 2 creates 2^32 - 1 writers; the next one takes its id. -/
theorem writer_id_comes_back :
    ¬ ∀ handle config tr, Runs.Run IdsStep (.start handle config) tr →
      Runs.EachStep IdsState.Unique (.start handle config) tr ∧
        Runs.Always IdsState.Owned (.start handle config) tr := by
  intro h
  obtain ⟨bridge, hreach, hs⟩ := held_one
  obtain ⟨s, hids, rfl⟩ := reachable_ids (s := .start 1 { sessionBufferSize := 16, maxPayloadSize := 1024 }) hreach
  have hunique : s.Unique (.frame ddsSucceeds 2 createWriterFrame 1024) :=
    hids.step_ok rfl fun tr htr => (h 1 _ tr htr).1
  have hact := act_createWriterFrame 2 hs.topic
  obtain ⟨writer, hw⟩ := WriterRegistry.owner_eq_some.mp hs.held
  refine hunique.fresh ?_ 1 _ hw ?_
  · unfold Registers
    rw [hact, hs.next]
    change s.bridge.writers.nextWriterId + 1 ≠ _
    rw [hs.next]
    decide
  · rw [hs.next]

/-- `writer_ids_unique_iff` where a session creates two writers and leaves. -/
theorem two_writers_unique :
    let start := IdsState.start 1 { sessionBufferSize := 16, maxPayloadSize := 1024 }
    let one := start.act (.frame ddsSucceeds 1 createWriterFrame 1024)
    let two := one.act (.frame ddsSucceeds 1 createWriterFrame 1024)
    let tr := [(.frame ddsSucceeds 1 createWriterFrame 1024, one), (.frame ddsSucceeds 1 createWriterFrame 1024, two),
      (.unregister 1, two.act (.unregister 1))]
    Runs.EachStep IdsState.Unique start tr ∧ Runs.Always IdsState.Owned start tr := by
  intro start one two tr
  refine (writer_ids_unique_iff (.cons rfl (.cons rfl (.cons rfl (.nil _))))).mpr ⟨?_, ?_, ?_, trivial⟩
  · intro _ w p hw
    cases hw
  · intro _ w p hw
    exact Nat.lt_of_lt_of_le (show (1 : Nat) < 2 ^ 32 by decide) (Nat.le_add_left _ _)
  · intro _ w p hw
    exact Nat.lt_of_lt_of_le (show (2 : Nat) < 2 ^ 32 by decide) (Nat.le_add_left _ _)

end DdsBridge
