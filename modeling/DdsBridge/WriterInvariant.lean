import DdsBridge.Lib.Runs
import DdsBridge.Writers
import Mathlib.Data.List.Count

/-!
# Who owns a writer

`writers` and `session_writers` agree: a live writer stands once in the list of its owner and in no other,
as long as no writer is registered under the id of one that is live.
-/

namespace DdsBridge

namespace WriterRegistry

def owner (reg : WriterRegistry) (w : UInt32) : Option UInt64 := (reg.writers.lookup w).map (·.2)

/-- The list of the session; a session without an entry has none. -/
def ids (reg : WriterRegistry) (s : UInt64) : List UInt32 := (reg.sessionWriters.lookup s).getD []

end WriterRegistry

/-- A writer is as often in the list of a session as the session owns it. -/
def OwnersInv (reg : WriterRegistry) : Prop :=
  ∀ w s, (reg.ids s).count w = if reg.owner w = some s then 1 else 0

inductive WriterRegistryCall where
  | register (writer : DdsWriter) (sessionId : UInt64)
  | delete (writerId : UInt32) (sessionId : UInt64)
  | removeSession (sessionId : UInt64)

def WriterRegistry.call (reg : WriterRegistry) : WriterRegistryCall → WriterRegistry
  | .register writer sessionId => reg.register writer sessionId
  | .delete writerId sessionId => (delete writerId sessionId).after reg
  | .removeSession sessionId => reg.removeSession sessionId

/-- A writer that is registered does not have the id of a live one. -/
def FreshId (reg : WriterRegistry) : WriterRegistryCall → Prop
  | .register writer _ => reg.writers.lookup writer.writerId = none
  | _ => True

def WriterRegistryStep (reg : WriterRegistry) (call : WriterRegistryCall) (reg' : WriterRegistry) : Prop :=
  FreshId reg call ∧ reg' = reg.call call

namespace WriterRegistry

section
variable {reg : WriterRegistry} {w : UInt32} {s : UInt64}

theorem owner_eq_some : reg.owner w = some s ↔ ∃ writer, reg.writers.lookup w = some (writer, s) := by
  unfold owner
  rw [Option.map_eq_some_iff]
  refine ⟨fun h => ?_, fun h => ?_⟩
  · obtain ⟨⟨writer, o⟩, hw, rfl⟩ := h
    exact ⟨writer, hw⟩
  · obtain ⟨writer, hw⟩ := h
    exact ⟨_, hw, rfl⟩

/-! ## The operations -/

theorem owner_register (writer : DdsWriter) (s : UInt64) (w : UInt32) :
    (reg.register writer s).owner w = if w = writer.writerId then some s else reg.owner w := by
  unfold owner register
  rw [Table.lookup_insert_eq]
  by_cases h : w = writer.writerId
  · rw [if_pos h, if_pos h]
    rfl
  · rw [if_neg h, if_neg h]

theorem ids_register (writer : DdsWriter) (s s' : UInt64) :
    (reg.register writer s).ids s' = if s' = s then reg.ids s ++ [writer.writerId] else reg.ids s' := by
  unfold ids register
  rw [Table.lookup_insert_eq]
  by_cases h : s' = s
  · rw [if_pos h, if_pos h]
    rfl
  · rw [if_neg h, if_neg h]

theorem get_eq_ok {writer : DdsWriter} : reg.get w s = .ok writer ↔ reg.writers.lookup w = some (writer, s) := by
  unfold get
  cases h : reg.writers.lookup w with
  | none => simp
  | some p =>
    obtain ⟨writer', o⟩ := p
    by_cases ho : o = s
    · simp [ho]
    · simp [ho]

theorem delete_eq_ok {u : Unit} {reg' : WriterRegistry} : delete w s reg = .ok (u, reg') ↔
    reg.owner w = some s ∧ reg' = { reg with
      writers := reg.writers.erase w
      sessionWriters := Table.modify reg.sessionWriters s fun ids => ids.filter (· != w) } := by
  unfold delete
  rw [owner_eq_some]
  refine ⟨fun h => ?_, fun h => ?_⟩
  · obtain ⟨_, _, hget, h⟩ := Prog.bind_eq_ok.mp h
    cases hget
    obtain ⟨writer, reg₁, hw, h⟩ := Prog.bind_eq_ok.mp h
    cases hr : reg.get w s with
    | ok writer' =>
      rw [hr] at hw
      obtain ⟨rfl, rfl⟩ := Prog.pure_eq_ok.mp hw
      cases h
      exact ⟨⟨_, get_eq_ok.mp hr⟩, rfl⟩
    | err e =>
      rw [hr] at hw
      cases hw
    | panic =>
      rw [hr] at hw
      cases hw
  · obtain ⟨⟨writer, hw⟩, rfl⟩ := h
    have hget : reg.get w s = .ok writer := get_eq_ok.mpr hw
    rw [Prog.bind_of_ok (show (Prog.get : Prog WriterRegistry DdsError WriterRegistry) reg = .ok (reg, reg) from rfl),
      hget]
    rfl

theorem after_delete : (delete w s).after reg = if reg.owner w = some s then { reg with
      writers := reg.writers.erase w
      sessionWriters := Table.modify reg.sessionWriters s fun ids => ids.filter (· != w) } else reg := by
  by_cases h : reg.owner w = some s
  · rw [if_pos h, Prog.after, delete_eq_ok (u := ()) |>.mpr ⟨h, rfl⟩]
  · have hwithin : (delete w s).wp (fun _ t => t = reg) (fun _ t => t = reg) True reg := by
      unfold delete
      simp only [Prog.wp_bind, Prog.wp_get, Prog.wp_ofRes, Prog.wp_modify]
      refine ⟨fun writer hw => ?_, fun _ _ => trivial, fun _ => trivial⟩
      exact absurd (owner_eq_some.mpr ⟨writer, get_eq_ok.mp hw⟩) h
    rw [if_neg h]
    exact Prog.after_of_wp hwithin fun _ => rfl

theorem lookup_removeSession (s : UInt64) (w : UInt32) :
    (reg.removeSession s).writers.lookup w = if w ∈ reg.ids s then none else reg.writers.lookup w := by
  unfold removeSession ids
  cases h : reg.sessionWriters.lookup s with
  | none => rfl
  | some ids => exact Table.lookup_eraseAll ids reg.writers w

theorem sessionWriters_removeSession (s s' : UInt64) :
    (reg.removeSession s).sessionWriters.lookup s' = if s' = s then none else reg.sessionWriters.lookup s' := by
  unfold removeSession
  cases h : reg.sessionWriters.lookup s with
  | none =>
    by_cases hs : s' = s
    · rw [if_pos hs, hs, h]
    · rw [if_neg hs]
  | some ids => exact Table.lookup_erase_eq _ _ _

/-! ## The invariant -/

theorem mem_ids (hinv : OwnersInv reg) : w ∈ reg.ids s ↔ reg.owner w = some s := by
  rw [← List.count_pos_iff, hinv w s]
  by_cases h : reg.owner w = some s
  · simp [h]
  · simp [h]

theorem register_inv (hinv : OwnersInv reg) {writer : DdsWriter} (hfresh : reg.writers.lookup writer.writerId = none) :
    OwnersInv (reg.register writer s) := by
  intro w s'
  have hno : reg.owner writer.writerId = none := by rw [owner, hfresh]; rfl
  have hold := hinv w s'
  rw [owner_register, ids_register]
  by_cases hs : s' = s
  · subst hs
    rw [if_pos rfl, List.count_append, hold, List.count_singleton]
    by_cases hw : w = writer.writerId
    · simp [hw, hno]
    · simp [hw, Ne.symm hw]
  · rw [if_neg hs, hold]
    by_cases hw : w = writer.writerId
    · simp [hw, hno, Ne.symm hs]
    · simp [hw]

theorem delete_inv (hinv : OwnersInv reg) : OwnersInv ((delete w s).after reg) := by
  rw [after_delete]
  by_cases hown : reg.owner w = some s
  · rw [if_pos hown]
    intro w' s'
    have hold := hinv w' s'
    have howner : WriterRegistry.owner { reg with
        writers := reg.writers.erase w
        sessionWriters := Table.modify reg.sessionWriters s fun ids => ids.filter (· != w) } w' =
        if w' = w then none else reg.owner w' := by
      simp only [owner, Table.lookup_erase_eq]
      split <;> rfl
    have hids : WriterRegistry.ids { reg with
        writers := reg.writers.erase w
        sessionWriters := Table.modify reg.sessionWriters s fun ids => ids.filter (· != w) } s' =
        if s' = s then (reg.ids s).filter (· != w) else reg.ids s' := by
      simp only [ids, Table.lookup_modify]
      by_cases hs : s' = s
      · rw [if_pos hs, if_pos hs]
        cases reg.sessionWriters.lookup s <;> rfl
      · rw [if_neg hs, if_neg hs]
    rw [howner, hids]
    by_cases hw : w' = w
    · -- the id is filtered from its owner's list and was in no other
      subst hw
      by_cases hs : s' = s
      · have hgone : w' ∉ (reg.ids s).filter (· != w') := by simp
        simp [hs, List.count_eq_zero_of_not_mem hgone]
      · rw [hown] at hold
        simp [hs, hold, Ne.symm hs]
    · by_cases hs : s' = s
      · subst hs
        have hkeep : ((reg.ids s').filter (· != w)).count w' = (reg.ids s').count w' :=
          List.count_filter (by simp [hw])
        rw [if_pos rfl, hkeep, hold, if_neg hw]
      · rw [if_neg hs, hold, if_neg hw]
  · rw [if_neg hown]
    exact hinv

theorem removeSession_inv (hinv : OwnersInv reg) : OwnersInv (reg.removeSession s) := by
  intro w s'
  have hold := hinv w s'
  have hmem := mem_ids hinv (w := w) (s := s)
  have howner : (reg.removeSession s).owner w = if reg.owner w = some s then none else reg.owner w := by
    rw [owner, lookup_removeSession]
    by_cases h : reg.owner w = some s
    · rw [if_pos (hmem.mpr h), if_pos h]
      rfl
    · rw [if_neg (fun hm => h (hmem.mp hm)), if_neg h]
      rfl
  rw [howner, ids, sessionWriters_removeSession]
  by_cases hs : s' = s
  · subst hs
    rw [if_pos rfl]
    by_cases h : reg.owner w = some s'
    · simp [h]
    · simp [h]
  · rw [if_neg hs]
    change (reg.ids s').count w = _
    rw [hold]
    by_cases h : reg.owner w = some s
    · simp [h, Ne.symm hs]
    · rw [if_neg h]

theorem call_inv (hinv : OwnersInv reg) (call : WriterRegistryCall) (hfresh : FreshId reg call) :
    OwnersInv (reg.call call) := by
  cases call with
  | register writer sessionId => exact register_inv hinv hfresh
  | delete writerId sessionId => exact delete_inv hinv
  | removeSession sessionId => exact removeSession_inv hinv

theorem reachable_inv (h : Runs.Reachable WriterRegistryStep .new reg) : OwnersInv reg := by
  refine h.invariant (fun w s => rfl) fun reg call reg' hinv hstep => ?_
  obtain ⟨hfresh, rfl⟩ := hstep
  exact call_inv hinv call hfresh

/-! ## Lookups -/

theorem owner_iff_listed (hinv : OwnersInv reg) : (∃ writer, reg.writers.lookup w = some (writer, s)) ↔
    (reg.ids s).count w = 1 ∧ ∀ s', s' ≠ s → w ∉ reg.ids s' := by
  rw [← owner_eq_some]
  refine ⟨fun h => ?_, fun h => ?_⟩
  · refine ⟨by rw [hinv w s, if_pos h], fun s' hs hm => ?_⟩
    have hs' := (mem_ids hinv).mp hm
    rw [h] at hs'
    exact hs (Option.some.inj hs').symm
  · have hcount := hinv w s
    by_contra hno
    rw [h.1, if_neg hno] at hcount
    cases hcount

/-- A writer of the session on the topic, of the type, with the QoS. -/
def Owns (reg : WriterRegistry) (s : UInt64) (topicName typeName : String) (qos : QosSet) (writer : DdsWriter) :
    Prop :=
  ∃ w, reg.writers.lookup w = some (writer, s) ∧ writer.topic.topicName = topicName ∧
    writer.topic.typeName = typeName ∧ writer.qosNormalized.normalizedEq qos = true

theorem findByTopic_owns (hinv : OwnersInv reg) {topicName typeName : String} {qos : QosSet} {writer : DdsWriter}
    (h : reg.findByTopic s topicName typeName qos = some writer) : reg.Owns s topicName typeName qos writer := by
  unfold findByTopic at h
  cases hids : reg.sessionWriters.lookup s with
  | none =>
    rw [hids] at h
    cases h
  | some l =>
    rw [hids] at h
    obtain ⟨w, hw, hfound⟩ := List.exists_of_findSome?_eq_some h
    have hmem : w ∈ reg.ids s := by
      rw [ids, hids]
      exact hw
    obtain ⟨writer', hlook⟩ := owner_eq_some.mp ((mem_ids hinv).mp hmem)
    rw [hlook] at hfound
    by_cases hmatch : writer'.topic.topicName = topicName ∧ writer'.topic.typeName = typeName ∧
        writer'.qosNormalized.normalizedEq qos = true
    · simp only [if_pos hmatch] at hfound
      cases hfound
      exact ⟨w, hlook, hmatch⟩
    · simp only [if_neg hmatch] at hfound
      cases hfound

theorem exists_findByTopic (hinv : OwnersInv reg) {topicName typeName : String} {qos : QosSet} :
    (∃ writer, reg.findByTopic s topicName typeName qos = some writer) ↔
      ∃ writer, reg.Owns s topicName typeName qos writer := by
  refine ⟨fun h => ?_, fun h => ?_⟩
  · obtain ⟨writer, h⟩ := h
    exact ⟨writer, findByTopic_owns hinv h⟩
  · obtain ⟨writer, w, hlook, hmatch⟩ := h
    have hmem : w ∈ reg.ids s := (mem_ids hinv).mpr (owner_eq_some.mpr ⟨writer, hlook⟩)
    rw [← Option.isSome_iff_exists]
    unfold findByTopic
    cases hids : reg.sessionWriters.lookup s with
    | none =>
      rw [ids, hids] at hmem
      cases hmem
    | some l =>
      rw [ids, hids] at hmem
      rw [List.findSome?_isSome_iff]
      refine ⟨w, hmem, ?_⟩
      rw [hlook]
      simp only [if_pos hmatch]
      rfl

end

end WriterRegistry

/-- **Writer ownership.** -/
theorem writer_ownership {reg : WriterRegistry} (h : Runs.Reachable WriterRegistryStep .new reg) :
    (∀ w s, (∃ writer, reg.writers.lookup w = some (writer, s)) ↔
      (reg.ids s).count w = 1 ∧ ∀ s', s' ≠ s → w ∉ reg.ids s') ∧
    (∀ w s, (∃ writer, reg.get w s = .ok writer) ↔ reg.owner w = some s) ∧
    (∀ w s, (∃ reg', WriterRegistry.delete w s reg = .ok ((), reg')) ↔ reg.owner w = some s) ∧
    (∀ s, (∀ w, (reg.removeSession s).writers.lookup w =
        if reg.owner w = some s then none else reg.writers.lookup w) ∧
      ∀ s', s' ≠ s → (reg.removeSession s).sessionWriters.lookup s' = reg.sessionWriters.lookup s') ∧
    ∀ s topicName typeName qos,
      ((∃ writer, reg.findByTopic s topicName typeName qos = some writer) ↔
        ∃ writer, reg.Owns s topicName typeName qos writer) ∧
      ∀ writer, reg.findByTopic s topicName typeName qos = some writer →
        reg.Owns s topicName typeName qos writer := by
  have hinv := WriterRegistry.reachable_inv h
  refine ⟨fun w s => WriterRegistry.owner_iff_listed hinv, fun w s => ?_, fun w s => ?_, fun s => ⟨fun w => ?_, ?_⟩,
    fun s t T qos => ⟨WriterRegistry.exists_findByTopic hinv, fun writer => WriterRegistry.findByTopic_owns hinv⟩⟩
  · rw [WriterRegistry.owner_eq_some]
    exact exists_congr fun writer => WriterRegistry.get_eq_ok
  · refine ⟨fun h => ?_, fun h => ⟨_, WriterRegistry.delete_eq_ok.mpr ⟨h, rfl⟩⟩⟩
    obtain ⟨reg', h⟩ := h
    exact (WriterRegistry.delete_eq_ok.mp h).1
  · simp only [WriterRegistry.lookup_removeSession, WriterRegistry.mem_ids hinv]
  · intro s' hs
    rw [WriterRegistry.sessionWriters_removeSession, if_neg hs]

/-- `writer_ownership` after session 1 registered the writers 1 and 2, session 2 the writer 3, and session 1
deleted the writer 1: the writer 2 is session 1's and not session 2's. -/
theorem writer_ownership_two_sessions :
    let writer (w : UInt32) : DdsWriter := ⟨⟨1, none⟩, w, ⟨1, "t", "T", false, ⟨[]⟩⟩, ⟨[]⟩⟩
    let reg : WriterRegistry := (((WriterRegistry.new.call (.register (writer 1) 1)).call (.register (writer 2) 1)).call
      (.register (writer 3) 2)).call (.delete 1 1)
    (∃ w, reg.get 2 1 = .ok w) ∧ ¬ (∃ w, reg.get 2 2 = .ok w) ∧ ¬ (∃ w, reg.get 1 1 = .ok w) := by
  intro writer reg
  have h₁ : Runs.Reachable WriterRegistryStep .new _ := .tail .refl ⟨.register (writer 1) 1, rfl, rfl⟩
  have h₂ : Runs.Reachable WriterRegistryStep .new _ := h₁.tail ⟨.register (writer 2) 1, rfl, rfl⟩
  have h₃ : Runs.Reachable WriterRegistryStep .new _ := h₂.tail ⟨.register (writer 3) 2, rfl, rfl⟩
  have hreach : Runs.Reachable WriterRegistryStep .new reg := h₃.tail ⟨.delete 1 1, trivial, rfl⟩
  have hget := (writer_ownership hreach).2.1
  rw [hget, hget, hget]
  decide

end DdsBridge
