import Mathlib.Data.List.Basic
import Mathlib.Data.List.Induction

/-!
# Interleavings

A log that two sources write to: what each of them has written is in it in order, and nothing else is.
Such logs grow at the end, and so do the constructors.
-/

inductive Interleaved {α : Type} : List α → List α → List α → Prop
  | nil : Interleaved [] [] []
  | left {xs ys zs : List α} (h : Interleaved xs ys zs) (a : α) : Interleaved (xs ++ [a]) ys (zs ++ [a])
  | right {xs ys zs : List α} (h : Interleaved xs ys zs) (a : α) : Interleaved xs (ys ++ [a]) (zs ++ [a])

namespace Interleaved

variable {α : Type} {xs ys zs : List α}

theorem of_concat {log : List α} {a : α} (h : Interleaved xs ys log) (hlog : log = zs ++ [a]) :
    (∃ xs', xs = xs' ++ [a] ∧ Interleaved xs' ys zs) ∨ ∃ ys', ys = ys' ++ [a] ∧ Interleaved xs ys' zs := by
  cases h with
  | nil => simp at hlog
  | left h b =>
    obtain ⟨rfl, hb⟩ := List.append_inj' hlog rfl
    cases hb
    exact .inl ⟨_, rfl, h⟩
  | right h b =>
    obtain ⟨rfl, hb⟩ := List.append_inj' hlog rfl
    cases hb
    exact .inr ⟨_, rfl, h⟩

/-- The sources of the front of a log are the fronts of its sources. -/
theorem front {rest : List α} (h : Interleaved xs ys (zs ++ rest)) :
    ∃ xs' ys', Interleaved xs' ys' zs ∧ xs' <+: xs ∧ ys' <+: ys := by
  induction rest using List.reverseRecOn generalizing xs ys with
  | nil => exact ⟨xs, ys, by simpa using h, List.prefix_refl _, List.prefix_refl _⟩
  | append_singleton rest a ih =>
    rcases h.of_concat (List.append_assoc zs rest [a]).symm with ⟨xs', rfl, hfront⟩ | ⟨ys', rfl, hfront⟩
    · obtain ⟨xs'', ys', h, hxs, hys⟩ := ih hfront
      exact ⟨xs'', ys', h, hxs.trans (List.prefix_append _ _), hys⟩
    · obtain ⟨xs', ys'', h, hxs, hys⟩ := ih hfront
      exact ⟨xs', ys'', h, hxs, hys.trans (List.prefix_append _ _)⟩

/-- What only one source has, the log has from there. -/
theorem filterMap_right {β : Type} {f : α → Option β} (h : Interleaved xs ys zs) (hxs : xs.filterMap f = []) :
    zs.filterMap f = ys.filterMap f := by
  induction h with
  | nil => rfl
  | left h a ih =>
    obtain ⟨hfront, ha⟩ := List.append_eq_nil_iff.mp ((List.filterMap_append (f := f)).symm.trans hxs)
    rw [List.filterMap_append, ih hfront, ha, List.append_nil]
  | right h a ih => rw [List.filterMap_append, List.filterMap_append, ih hxs]

end Interleaved
