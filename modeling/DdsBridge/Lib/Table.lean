import Mathlib.Data.List.AList
import Mathlib.Tactic.Common

/-!
# Hash tables

A `HashMap` is an association list without duplicate keys; its order stands for the unspecified
iteration order. A `HashSet` is a table of units. What is missing from `AList` is here: the
`lookup` equations with their `if`, `retain`, `get_mut`, `values` and removal of a list of keys.
-/

theorem List.flatMap_of_nodup {α β : Type} [DecidableEq α] {l : List α} (hl : l.Nodup) {g : α → List β} {a : α}
    (hg : ∀ b, b ≠ a → g b = []) : l.flatMap g = if a ∈ l then g a else [] := by
  induction l with
  | nil => rfl
  | cons b l ih =>
    obtain ⟨hb, hl⟩ := List.nodup_cons.mp hl
    rw [List.flatMap_cons, ih hl]
    by_cases hab : b = a
    · subst hab
      rw [if_neg hb, if_pos List.mem_cons_self, List.append_nil]
    · rw [hg b hab, List.nil_append]
      simp only [List.mem_cons, Ne.symm hab, false_or]

abbrev Table (K V : Type) := AList (fun _ : K => V)

abbrev TableSet (K : Type) := Table K Unit

namespace Table

variable {K V : Type}

def values (m : Table K V) : List V := m.entries.map (·.2)

def retain (m : Table K V) (p : K → V → Bool) : Table K V where
  entries := m.entries.filter fun e => p e.1 e.2
  nodupKeys := m.nodupKeys.sublist List.filter_sublist

variable [DecidableEq K]

/-- `if let Some(v) = m.get_mut(&k) { *v = f(v) }` -/
def modify (m : Table K V) (k : K) (f : V → V) : Table K V :=
  match m.lookup k with
  | some v => m.insert k (f v)
  | none => m

def eraseAll (m : Table K V) (ks : List K) : Table K V := ks.foldl (fun m k => m.erase k) m

/-- The values that `remove` returns for the keys in turn. -/
def removed (m : Table K V) : List K → List V
  | [] => []
  | k :: ks => (m.lookup k).toList ++ removed (m.erase k) ks

theorem lookup_insert_eq (m : Table K V) (k a : K) (v : V) :
    (m.insert k v).lookup a = if a = k then some v else m.lookup a := by
  by_cases h : a = k
  · subst h; simp [AList.lookup_insert]
  · simp [AList.lookup_insert_ne h, h]

theorem lookup_erase_eq (m : Table K V) (k a : K) :
    (m.erase k).lookup a = if a = k then none else m.lookup a := by
  by_cases h : a = k
  · subst h; simp [AList.lookup_erase]
  · simp [AList.lookup_erase_ne h, h]

theorem mem_values {m : Table K V} {v : V} : v ∈ values m ↔ ∃ k, m.lookup k = some v := by
  unfold values
  rw [List.mem_map]
  refine ⟨fun h => ?_, fun h => ?_⟩
  · obtain ⟨e, he, rfl⟩ := h
    exact ⟨e.1, AList.mem_lookup_iff.mpr he⟩
  · obtain ⟨k, hk⟩ := h
    exact ⟨⟨k, v⟩, AList.mem_lookup_iff.mp hk, rfl⟩

/-- How often a property holds in the table, if it singles out the value under one key, or none. -/
theorem countP_values {m : Table K V} {p : V → Bool} {o : Option K} (hp : ∀ k v, m.lookup k = some v → (p v ↔ o = some k))
    (ho : ∀ k, o = some k → ∃ v, m.lookup k = some v) : (values m).countP p = if o.isSome then 1 else 0 := by
  have hkeys : (values m).countP p = m.keys.countP fun k => o = some k := by
    unfold values AList.keys List.keys
    rw [List.countP_map, List.countP_map]
    refine List.countP_congr fun e he => ?_
    exact (hp e.1 e.2 (AList.mem_lookup_iff.mpr he)).trans decide_eq_true_iff.symm
  rw [hkeys]
  cases o with
  | none => exact List.countP_eq_zero.mpr fun k _ => by simp
  | some k =>
    have hk : k ∈ m.keys := by
      obtain ⟨v, hv⟩ := ho k rfl
      exact AList.mem_keys.mp (AList.lookup_isSome.mp (by rw [hv]; rfl))
    rw [Option.isSome_some, if_pos rfl, ← List.count_eq_one_of_mem m.keys_nodup hk]
    refine List.countP_congr fun a _ => ?_
    rw [decide_eq_true_iff, Option.some_inj, beq_iff_eq, eq_comm]

theorem forall_insert {P : V → Prop} {m : Table K V} (h : ∀ a v, m.lookup a = some v → P v) (k : K) {v : V}
    (hv : P v) : ∀ a u, (m.insert k v).lookup a = some u → P u := by
  intro a u hu
  rw [lookup_insert_eq] at hu
  by_cases hak : a = k
  · rw [if_pos hak] at hu
    cases hu
    exact hv
  · rw [if_neg hak] at hu
    exact h a u hu

theorem forall_erase {P : V → Prop} {m : Table K V} (h : ∀ a v, m.lookup a = some v → P v) (k : K) :
    ∀ a u, (m.erase k).lookup a = some u → P u := by
  intro a u hu
  rw [lookup_erase_eq] at hu
  by_cases hak : a = k
  · rw [if_pos hak] at hu
    cases hu
  · rw [if_neg hak] at hu
    exact h a u hu

theorem lookup_modify (m : Table K V) (k a : K) (f : V → V) :
    (m.modify k f).lookup a = if a = k then (m.lookup k).map f else m.lookup a := by
  unfold modify
  cases h : m.lookup k with
  | none =>
    by_cases ha : a = k
    · subst ha; simp [h]
    · simp [ha]
  | some v => simp only [lookup_insert_eq, Option.map_some]

theorem lookup_retain (m : Table K V) (p : K → V → Bool) (a : K) :
    (m.retain p).lookup a = (m.lookup a).filter (p a) := by
  apply Option.ext
  intro v
  rw [Option.filter_eq_some_iff, ← Option.mem_def, AList.mem_lookup_iff, ← Option.mem_def,
    AList.mem_lookup_iff]
  simp [retain]

theorem lookup_eraseAll (ks : List K) :
    ∀ (m : Table K V) (a : K), (eraseAll m ks).lookup a = if a ∈ ks then none else m.lookup a := by
  induction ks with
  | nil => intro m a; simp [eraseAll]
  | cons k ks ih =>
    intro m a
    have h : (eraseAll m (k :: ks)).lookup a = (eraseAll (m.erase k) ks).lookup a := rfl
    rw [h, ih, lookup_erase_eq]
    by_cases h1 : a ∈ ks
    · simp [h1]
    · by_cases h2 : a = k <;> simp [h1, h2]

theorem entries_erase (m : Table K V) (k : K) : (m.erase k).entries = m.entries.kerase k := rfl

theorem values_insert (m : Table K V) (k : K) (v : V) : values (m.insert k v) = v :: values (m.erase k) := by
  simp [values, AList.entries_insert, entries_erase]

theorem values_perm_erase (m : Table K V) (k : K) :
    (values m).Perm ((m.lookup k).toList ++ values (m.erase k)) := by
  cases h : m.lookup k with
  | none =>
    have hk : k ∉ m := AList.lookup_eq_none.mp h
    have herase : (m.erase k).entries = m.entries := List.kerase_of_notMem_keys hk
    simp [values, herase]
  | some v =>
    have hk : k ∈ m.entries.keys := AList.mem_keys.mp (AList.lookup_isSome.mp (by simp [h]))
    obtain ⟨v', front, back, -, hsplit, hrest⟩ := List.exists_of_kerase hk
    have hv : v' = v := by
      have hmem : Sigma.mk k v' ∈ m.entries := by simp [hsplit]
      rw [← AList.mem_lookup_iff, h] at hmem
      exact (Option.some.inj hmem).symm
    have hentries : (values m) = front.map (·.2) ++ v :: back.map (·.2) := by simp [values, hsplit, hv]
    have herase : values (m.erase k) = front.map (·.2) ++ back.map (·.2) := by
      simp [values, entries_erase, hrest]
    rw [hentries, herase]
    exact List.perm_middle

theorem values_perm_removed (ks : List K) : ∀ m : Table K V, (values m).Perm (removed m ks ++ values (eraseAll m ks)) := by
  induction ks with
  | nil => intro m; exact List.Perm.refl _
  | cons k ks ih =>
    intro m
    have hstep := (values_perm_erase m k).trans ((ih (m.erase k)).append_left _)
    rw [← List.append_assoc] at hstep
    exact hstep

/-- A value that is replaced by one with the same image. -/
theorem map_values_replace {W : Type} (f : V → W) {m : Table K V} {k : K} {v v' : V} (h : m.lookup k = some v)
    (hf : f v' = f v) : ((values (m.insert k v')).map f).Perm ((values m).map f) := by
  rw [values_insert, List.map_cons, hf]
  have hperm := (values_perm_erase m k).map f
  rw [h] at hperm
  exact hperm.symm

theorem mem_keys_iff (m : Table K V) (k : K) : k ∈ m.keys ↔ ∃ v, m.lookup k = some v := by
  rw [← AList.mem_keys, ← AList.lookup_isSome, Option.isSome_iff_exists]

end Table

namespace TableSet

variable {K : Type}

def isEmpty (s : TableSet K) : Bool := s.entries.isEmpty

theorem isEmpty_iff (s : TableSet K) : s.isEmpty = true ↔ ∀ k, k ∉ s := by
  simp only [isEmpty, List.isEmpty_iff]
  refine ⟨fun h k hk => ?_, fun h => ?_⟩
  · rw [AList.mem_keys, AList.keys, List.keys, h] at hk
    exact List.not_mem_nil hk
  · rw [List.eq_nil_iff_forall_not_mem]
    rintro ⟨k, u⟩ hm
    exact h k (List.mem_map.mpr ⟨_, hm, rfl⟩)

end TableSet
