import Mathlib.Data.List.Nodup

/-!
# Lists of settings with defaults

A list has at most one entry for each key, and a key without an entry has its default. Two lists give every key
the same value exactly when their entries that are not defaults are the same up to order.
-/

namespace Defaults

variable {α κ : Type} (key : α → κ) (isDefault : α → Bool) (default : κ → Option α)

/-- `default k` is the one value of the key that is a default. -/
def UniqueDefaults : Prop := ∀ k d, default k = some d ↔ key d = k ∧ isDefault d = true

def normalize (l : List α) : List α := l.filter fun x => !isDefault x

variable {key isDefault default} {l l' : List α} {k : κ} {x : α}

theorem mem_normalize : x ∈ normalize isDefault l ↔ x ∈ l ∧ isDefault x = false := by
  simp [normalize]

theorem nodup_normalize (hn : (l.map key).Nodup) : ((normalize isDefault l).map key).Nodup :=
  hn.sublist (List.filter_sublist.map _)

variable (key default) in
/-- The entry for `k`, else the default of `k`. -/
def value [DecidableEq κ] (l : List α) (k : κ) : Option α := (l.find? fun x => key x = k).or (default k)

variable [DecidableEq κ]

theorem value_eq_some (hd : UniqueDefaults key isDefault default) (hn : (l.map key).Nodup) :
    value key default l k = some x ↔
      key x = k ∧ (x ∈ l ∨ isDefault x = true ∧ ∀ y ∈ l, key y ≠ k) := by
  unfold value
  cases hfind : l.find? fun x => key x = k with
  | some y =>
    have hy := List.mem_of_find?_eq_some hfind
    have hk : key y = k := by simpa using List.find?_some hfind
    rw [Option.some_or, Option.some_inj]
    constructor
    · rintro rfl
      exact ⟨hk, .inl hy⟩
    · rintro ⟨hx, hmem | ⟨-, habsent⟩⟩
      · exact List.inj_on_of_nodup_map hn hy hmem (hk.trans hx.symm)
      · exact absurd hk (habsent y hy)
  | none =>
    have habsent : ∀ y ∈ l, key y ≠ k := by simpa using hfind
    rw [Option.none_or, hd]
    constructor
    · rintro ⟨hx, hdef⟩
      exact ⟨hx, .inr ⟨hdef, habsent⟩⟩
    · rintro ⟨hx, hmem | ⟨hdef, -⟩⟩
      · exact absurd hx (habsent x hmem)
      · exact ⟨hx, hdef⟩

section
variable (hd : UniqueDefaults key isDefault default) (hn : (l.map key).Nodup)
include hd hn

/-- An entry that is a default says no more than its absence. -/
theorem value_normalize : value key default (normalize isDefault l) = value key default l := by
  funext k
  ext x
  rw [value_eq_some hd (nodup_normalize hn), value_eq_some hd hn, mem_normalize]
  constructor
  · rintro ⟨hx, ⟨hmem, -⟩ | ⟨hdef, habsent⟩⟩
    · exact ⟨hx, .inl hmem⟩
    · refine ⟨hx, ?_⟩
      by_cases hkey : ∃ y ∈ l, key y = k
      · obtain ⟨y, hy, hk⟩ := hkey
        -- the entry for `k` was dropped, so it is the default
        have hydef : isDefault y = true := by
          by_contra hnot
          exact habsent y (mem_normalize.mpr ⟨hy, Bool.eq_false_iff.mpr hnot⟩) hk
        have hyx : some y = some x := ((hd k y).mpr ⟨hk, hydef⟩).symm.trans ((hd k x).mpr ⟨hx, hdef⟩)
        exact .inl (Option.some.inj hyx ▸ hy)
      · exact .inr ⟨hdef, fun y hy hk => hkey ⟨y, hy, hk⟩⟩
  · rintro ⟨hx, hmem | ⟨hdef, habsent⟩⟩
    · refine ⟨hx, ?_⟩
      by_cases hdef : isDefault x = true
      · refine .inr ⟨hdef, fun y hy hk => ?_⟩
        obtain ⟨hy, hnot⟩ := mem_normalize.mp hy
        rw [List.inj_on_of_nodup_map hn hy hmem (hk.trans hx.symm), hdef] at hnot
        cases hnot
      · exact .inl ⟨hmem, Bool.eq_false_iff.mpr hdef⟩
    · exact ⟨hx, .inr ⟨hdef, fun y hy => habsent y (mem_normalize.mp hy).1⟩⟩

theorem mem_normalize_iff_value : x ∈ normalize isDefault l ↔
    value key default l (key x) = some x ∧ isDefault x = false := by
  rw [mem_normalize, value_eq_some hd hn]
  constructor
  · rintro ⟨hmem, hnot⟩
    exact ⟨⟨rfl, .inl hmem⟩, hnot⟩
  · rintro ⟨⟨-, hmem | ⟨hdef, -⟩⟩, hnot⟩
    · exact ⟨hmem, hnot⟩
    · rw [hdef] at hnot
      cases hnot

theorem value_perm (h : l.Perm l') : value key default l = value key default l' := by
  have hn' : (l'.map key).Nodup := (h.map key).nodup_iff.mp hn
  funext k
  ext x
  rw [value_eq_some hd hn, value_eq_some hd hn', h.mem_iff]
  simp only [h.mem_iff]

/-- The same value for every key: the same normal form in some order. -/
theorem value_eq_iff_perm (hn' : (l'.map key).Nodup) :
    value key default l = value key default l' ↔ (normalize isDefault l).Perm (normalize isDefault l') := by
  constructor
  · intro h
    rw [List.perm_ext_iff_of_nodup (nodup_normalize hn).of_map (nodup_normalize hn').of_map]
    intro x
    rw [mem_normalize_iff_value hd hn, mem_normalize_iff_value hd hn', h]
  · intro h
    rw [← value_normalize hd hn, ← value_normalize hd hn', value_perm hd (nodup_normalize hn) h]

end

end Defaults
