import Mathlib.Logic.Basic
import Mathlib.Tactic.Common

/-!
# Comparing by a preferred key

Each value may have a key of its own and always has a fallback. Two values that both have a key
are compared by it, any other two by the fallback. Such a comparison is reflexive and symmetric;
it is transitive on a triple unless the one value without a key ties together what the keys, or
the fallbacks, of the other two tell apart.
-/

namespace Prefer

variable {α κ φ : Type} (key : α → Option κ) (fallback : α → φ)

def Same (x y : α) : Prop :=
  if (key x).isSome ∧ (key y).isSome then key x = key y else fallback x = fallback y

/-- One of three values has no key and breaks the chain from `x` over `y` to `z`. -/
inductive Broken (x y z : α) : Prop
  | middle : (key x).isSome → key y = none → (key z).isSome →
      fallback x = fallback y → fallback y = fallback z → key x ≠ key z → Broken x y z
  | last : (key x).isSome → key x = key y → key z = none →
      fallback y = fallback z → fallback x ≠ fallback y → Broken x y z
  | first : key x = none → (key y).isSome → key y = key z →
      fallback x = fallback y → fallback y ≠ fallback z → Broken x y z

variable {key fallback} {x y z : α}

theorem same_of_keys (hx : (key x).isSome) (hy : (key y).isSome) :
    Same key fallback x y ↔ key x = key y := by
  unfold Same
  rw [if_pos ⟨hx, hy⟩]

theorem same_of_no_key_left (hx : key x = none) :
    Same key fallback x y ↔ fallback x = fallback y := by
  unfold Same
  rw [if_neg (by simp [hx])]

theorem same_of_no_key_right (hy : key y = none) :
    Same key fallback x y ↔ fallback x = fallback y := by
  unfold Same
  rw [if_neg (by simp [hy])]

theorem same_refl (x : α) : Same key fallback x x := by
  unfold Same
  by_cases h : (key x).isSome ∧ (key x).isSome
  · rw [if_pos h]
  · rw [if_neg h]

theorem same_symm (h : Same key fallback x y) : Same key fallback y x := by
  unfold Same at h ⊢
  by_cases hk : (key x).isSome ∧ (key y).isSome
  · rw [if_pos hk] at h
    rw [if_pos hk.symm, h]
  · rw [if_neg hk] at h
    rw [if_neg fun hk' => hk hk'.symm, h]

theorem same_trans_iff :
    (Same key fallback x y → Same key fallback y z → Same key fallback x z) ↔
      ¬ Broken key fallback x y z := by
  constructor
  · intro htrans hb
    rcases hb with ⟨hx, hy, hz, hxy, hyz, hne⟩ | ⟨hx, hxy, hz, hyz, hne⟩ | ⟨hx, hy, hyz, hxy, hne⟩
    · have h := htrans ((same_of_no_key_right hy).mpr hxy) ((same_of_no_key_left hy).mpr hyz)
      exact hne ((same_of_keys hx hz).mp h)
    · have hy : (key y).isSome := hxy ▸ hx
      have h := htrans ((same_of_keys hx hy).mpr hxy) ((same_of_no_key_right hz).mpr hyz)
      exact hne (((same_of_no_key_right hz).mp h).trans hyz.symm)
    · have hz : (key z).isSome := hyz ▸ hy
      have h := htrans ((same_of_no_key_left hx).mpr hxy) ((same_of_keys hy hz).mpr hyz)
      exact hne (hxy.symm.trans ((same_of_no_key_left hx).mp h))
  · intro hb hxy hyz
    -- the cases follow which of the three have a key
    cases hx : key x with
    | none =>
      rw [same_of_no_key_left hx] at hxy ⊢
      cases hy : key y with
      | none => exact hxy.trans ((same_of_no_key_left hy).mp hyz)
      | some ky =>
        have hys : (key y).isSome := by simp [hy]
        cases hz : key z with
        | none => exact hxy.trans ((same_of_no_key_right hz).mp hyz)
        | some kz =>
          have hk := (same_of_keys hys (by simp [hz])).mp hyz
          exact hxy.trans (Classical.not_not.mp fun hne => hb (.first hx hys hk hxy hne))
    | some kx =>
      have hxs : (key x).isSome := by simp [hx]
      cases hy : key y with
      | none =>
        rw [same_of_no_key_right hy] at hxy
        rw [same_of_no_key_left hy] at hyz
        cases hz : key z with
        | none => exact (same_of_no_key_right hz).mpr (hxy.trans hyz)
        | some kz =>
          have hzs : (key z).isSome := by simp [hz]
          refine (same_of_keys hxs hzs).mpr (Classical.not_not.mp fun hne => ?_)
          exact hb (.middle hxs hy hzs hxy hyz hne)
      | some ky =>
        have hk := (same_of_keys hxs (by simp [hy])).mp hxy
        cases hz : key z with
        | none =>
          have he := (same_of_no_key_right hz).mp hyz
          refine (same_of_no_key_right hz).mpr (Eq.trans (Classical.not_not.mp fun hne => ?_) he)
          exact hb (.last hxs hk hz he hne)
        | some kz =>
          have hzs : (key z).isSome := by simp [hz]
          exact (same_of_keys hxs hzs).mpr (hk.trans ((same_of_keys (by simp [hy]) hzs).mp hyz))

end Prefer
