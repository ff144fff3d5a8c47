import Mathlib.Data.List.Basic

/-!
# Bounded channels

A channel with room for `cap` values, oldest first. A sender that must not block drops the oldest value
when there is no room and tries again.
-/

structure Chan (α : Type) (cap : Nat) where
  queue : List α
  bounded : queue.length ≤ cap
  deriving DecidableEq, Repr

namespace Chan

variable {α : Type} {cap : Nat}

def empty : Chan α cap where
  queue := []
  bounded := Nat.zero_le cap

def HasRoom (c : Chan α cap) : Prop := c.queue.length < cap

instance (c : Chan α cap) : Decidable c.HasRoom := inferInstanceAs (Decidable (_ < _))

/-- Nothing if there is no room. -/
def trySend (c : Chan α cap) (a : α) : Option (Chan α cap) :=
  if h : c.HasRoom then
    some { queue := c.queue ++ [a], bounded := by rw [List.length_append]; exact h }
  else none

/-- The channel without its oldest value; the same channel if it is empty. -/
def dropOldest (c : Chan α cap) : Chan α cap where
  queue := c.queue.tail
  bounded := by
    have h := c.bounded
    rw [List.length_tail]
    omega

theorem trySend_of_room {c : Chan α cap} (h : c.HasRoom) (a : α) :
    ∃ c', c.trySend a = some c' ∧ c'.queue = c.queue ++ [a] := by
  rw [trySend, dif_pos h]
  exact ⟨_, rfl, rfl⟩

theorem trySend_of_full {c : Chan α cap} (h : ¬ c.HasRoom) (a : α) : c.trySend a = none := by
  rw [trySend, dif_neg h]

theorem trySend_ne_none {c : Chan α cap} (h : c.HasRoom) (a : α) : c.trySend a ≠ none := by
  obtain ⟨c', hsend, -⟩ := trySend_of_room h a
  rw [hsend]
  exact Option.some_ne_none c'

theorem queue_of_trySend {c c' : Chan α cap} {a : α} (h : c.trySend a = some c') : c'.queue = c.queue ++ [a] := by
  by_cases hroom : c.HasRoom
  · obtain ⟨c'', hsend, hqueue⟩ := trySend_of_room hroom a
    rw [h] at hsend
    cases hsend
    exact hqueue
  · rw [trySend_of_full hroom] at h
    cases h

theorem hasRoom_dropOldest (hcap : 0 < cap) (c : Chan α cap) : c.dropOldest.HasRoom := by
  have h := c.bounded
  unfold HasRoom dropOldest
  rw [List.length_tail]
  omega

end Chan
