import DdsBridge.ReaderLeave

/-!
# What leaving a reader leaves alone

Without any invariant: when a session gives up subscriptions, the readers that others are in remain,
each without that session at most, and the subscriptions of the others are what they were.
-/

namespace DdsBridge

open ReaderRegistry

structure Departs (s : UInt64) (reg reg' : ReaderRegistry) : Prop where
  source : ∀ r x, reg'.readers.lookup r = some x →
    ∃ reader, reg.readers.lookup r = some reader ∧ (x = reader ∨ x = reader.leave s)
  remains : ∀ r reader o, reg.readers.lookup r = some reader → o ≠ s → o ∈ reader.subscribers →
    ∃ x, reg'.readers.lookup r = some x
  subscriptions : ∀ o topicName typeName, o ≠ s →
    reg'.sessionSubscriptions.lookup (o, topicName, typeName) =
      reg.sessionSubscriptions.lookup (o, topicName, typeName)

section
variable {reg reg' : ReaderRegistry} {s : UInt64}

theorem Departs.refl (s : UInt64) (reg : ReaderRegistry) : Departs s reg reg where
  source := fun _ x hx => ⟨x, hx, .inl rfl⟩
  remains := fun _ reader _ hr _ _ => ⟨reader, hr⟩
  subscriptions := fun _ _ _ _ => rfl

theorem Departs.topic (h : Departs s reg reg') {r : UInt64} {x : DdsReader} (hx : reg'.readers.lookup r = some x) :
    ∃ reader, reg.readers.lookup r = some reader ∧ x.topic = reader.topic ∧
      ∀ o, o ≠ s → (o ∈ x.subscribers ↔ o ∈ reader.subscribers) := by
  obtain ⟨reader, hr, rfl | rfl⟩ := h.source r x hx
  · exact ⟨x, hr, rfl, fun _ _ => Iff.rfl⟩
  · refine ⟨reader, hr, rfl, fun o ho => ?_⟩
    rw [mem_leave]
    exact and_iff_right ho

theorem exists_mem_leave {reader : DdsReader} {o : UInt64} (ho : o ≠ s) (hm : o ∈ reader.subscribers) :
    o ∈ (reader.leave s).subscribers := mem_leave.mpr ⟨ho, hm⟩

theorem unsubscribe_departs (topicName typeName : String) :
    Departs s reg (reg.unsubscribe topicName typeName s).2 := by
  cases h : reg.sessionSubscriptions.lookup (s, topicName, typeName) with
  | none =>
    rw [unsubscribe_none h]
    exact Departs.refl s reg
  | some r =>
    have herase : ∀ o t T, o ≠ s → (reg.sessionSubscriptions.erase (s, topicName, typeName)).lookup (o, t, T) =
        reg.sessionSubscriptions.lookup (o, t, T) := by
      intro o t T ho
      rw [Table.lookup_erase_eq, if_neg]
      intro hkey
      exact ho (congrArg Prod.fst hkey)
    cases hr : reg.readers.lookup r with
    | none =>
      simp only [unsubscribe, h, hr]
      exact ⟨fun _ x hx => ⟨x, hx, .inl rfl⟩, fun _ reader _ hr _ _ => ⟨reader, hr⟩, herase⟩
    | some reader =>
      obtain ⟨reg', he, hsubs, hreaders, -⟩ := unsubscribe_some h hr
      rw [he]
      refine ⟨fun a x hx => ?_, fun a y o hy ho hm => ?_, fun o t T ho => ?_⟩
      · rw [hreaders] at hx
        by_cases ha : a = r
        · rw [if_pos ha] at hx
          by_cases hem : (reader.leave s).subscribers.isEmpty = true
          · rw [if_pos hem] at hx
            cases hx
          · rw [if_neg hem] at hx
            cases hx
            exact ⟨reader, by rw [ha, hr], .inr rfl⟩
        · rw [if_neg ha] at hx
          exact ⟨x, hx, .inl rfl⟩
      · rw [hreaders]
        by_cases ha : a = r
        · rw [ha, hr] at hy
          cases hy
          have hem : ¬ (reader.leave s).subscribers.isEmpty = true := fun he =>
            (TableSet.isEmpty_iff _).mp he o (exists_mem_leave ho hm)
          rw [if_pos ha, if_neg hem]
          exact ⟨_, rfl⟩
        · rw [if_neg ha]
          exact ⟨y, hy⟩
      · rw [hsubs, if_neg]
        intro hkey
        exact ho (congrArg Prod.fst hkey)

theorem removeSession_departs : Departs s reg (reg.removeSession s) where
  source := by
    intro r x hx
    obtain ⟨reader, hr, ⟨-, rfl⟩ | ⟨-, rfl, -⟩⟩ := (removeSession_readers r x).mp hx
    · exact ⟨x, hr, .inl rfl⟩
    · exact ⟨reader, hr, .inr rfl⟩
  remains := by
    intro r reader o hr ho hm
    by_cases hh : Holds reg s (fun _ _ => True) r
    · exact ⟨_, (removeSession_readers r _).mpr ⟨reader, hr, .inr ⟨hh, rfl, o, exists_mem_leave ho hm⟩⟩⟩
    · exact ⟨_, (removeSession_readers r _).mpr ⟨reader, hr, .inl ⟨hh, rfl⟩⟩⟩
  subscriptions := by
    intro o t T ho
    simp only [removeSession, Table.lookup_eraseAll]
    rw [if_neg]
    intro hm
    exact ho (mem_subKeys.mp hm).1

end

end DdsBridge
