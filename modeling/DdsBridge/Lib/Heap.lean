import DdsBridge.Lib.Prog
import DdsBridge.Lib.Table
import Mathlib.Algebra.BigOperators.Group.List.Basic
import Mathlib.Algebra.Order.Group.Multiset

/-!
# Buffers and their owners

A pointer is null, an address where nothing lies, or a place in a buffer. A vector that is forgotten leaves its buffer
behind, and the pointer with the capacity is put together to a vector again when the buffer is to be freed. Reading
past the end of a buffer, reading one that is gone and freeing with a capacity the buffer was not made with are faults.
Each buffer has one owner: then freeing the buffer of one leaves the vectors of all others as they are.
-/

structure Buffer (α : Type) where
  items : List α
  capacity : Nat
  deriving DecidableEq

inductive Ptr where
  | null
  | addr (a : Nat)
  | into (buffer offset : Nat)
  deriving DecidableEq

def Ptr.add : Ptr → Nat → Ptr
  | .null, n => .addr n
  | .addr a, n => .addr (a + n)
  | .into b offset, n => .into b (offset + n)

/-- The buffer that goes with a pointer to its start. -/
def Ptr.buffers : Ptr → Multiset Nat
  | .into b _ => {b}
  | _ => 0

@[simp] theorem Ptr.buffers_null : Ptr.null.buffers = 0 := rfl

@[simp] theorem Ptr.buffers_add (p : Ptr) (n : Nat) : (p.add n).buffers = p.buffers := by cases p <;> rfl

abbrev Heap (α : Type) := Table Nat (Buffer α)

namespace Heap

variable {α : Type}

/-- `slice::from_raw_parts(p, len)` -/
def slice (h : Heap α) : Ptr → Nat → Option (List α)
  | .into b offset, len => (h.lookup b).bind fun buf =>
    if offset + len ≤ buf.items.length then some ((buf.items.drop offset).take len) else none
  | .addr _, 0 => some []
  | _, _ => none

/-- `mem::forget`: the pointer of a vector and what it leaves behind, at `b` if it has a buffer. -/
def forget (h : Heap α) (b : Nat) (buf : Buffer α) : Ptr × Heap α :=
  if buf.capacity = 0 then (.addr 1, h) else (.into b 0, h.insert b buf)

/-- `Vec::from_raw_parts(p, len, capacity)`, dropped at once. -/
def reclaim (h : Heap α) (p : Ptr) (len capacity : Nat) : Option (Heap α) :=
  match p with
  | .into b 0 => (h.lookup b).bind fun buf =>
    if buf.capacity = capacity ∧ len ≤ capacity then some (h.erase b) else none
  | _ => none

/-- Behind the pointer lies the vector `buf`. -/
def HasVec (h : Heap α) (buf : Buffer α) : Ptr → Prop
  | .null => False
  | .addr _ => buf.items = [] ∧ buf.capacity = 0
  | .into b offset => offset = 0 ∧ 0 < buf.capacity ∧ buf.items.length ≤ buf.capacity ∧ h.lookup b = some buf

section
variable {h h' : Heap α} {buf : Buffer α} {p : Ptr}

theorem HasVec.ne_null (hv : h.HasVec buf p) : p ≠ .null := by
  intro hp
  rw [hp] at hv
  exact hv

theorem HasVec.congr (hv : h.HasVec buf p) (hsame : ∀ b ∈ p.buffers, h'.lookup b = h.lookup b) : h'.HasVec buf p := by
  cases p with
  | null => exact hv
  | addr a => exact hv
  | into b offset =>
    obtain ⟨hoffset, hcap, hlen, hlook⟩ := hv
    refine ⟨hoffset, hcap, hlen, ?_⟩
    rw [hsame b (by simp [Ptr.buffers]), hlook]

theorem slice_congr (hsame : ∀ b ∈ p.buffers, h'.lookup b = h.lookup b) (len : Nat) : h'.slice p len = h.slice p len := by
  cases p with
  | null => rfl
  | addr a => cases len <;> rfl
  | into b offset => simp [slice, hsame b (by simp [Ptr.buffers])]

theorem HasVec.slice (hv : h.HasVec buf p) {offset len : Nat} (hin : offset + len ≤ buf.items.length) :
    h.slice (p.add offset) len = some ((buf.items.drop offset).take len) := by
  cases p with
  | null => exact hv.elim
  | addr a =>
    obtain ⟨hitems, -⟩ := hv
    simp only [hitems, List.length_nil, Nat.le_zero, Nat.add_eq_zero_iff] at hin
    simp [Ptr.add, Heap.slice, hitems, hin.2]
  | into b o =>
    obtain ⟨rfl, -, -, hlook⟩ := hv
    simp [Ptr.add, Heap.slice, hlook, hin]

theorem HasVec.slice_all (hv : h.HasVec buf p) : h.slice p buf.items.length = some buf.items := by
  cases p with
  | null => exact hv.elim
  | addr a => simp [Heap.slice, hv.1]
  | into b o =>
    obtain ⟨rfl, -, -, hlook⟩ := hv
    simp [Heap.slice, hlook]

theorem HasVec.reclaim (hv : h.HasVec buf p) (hcap : 0 < buf.capacity) :
    ∃ b, p.buffers = {b} ∧ h.reclaim p buf.items.length buf.capacity = some (h.erase b) := by
  cases p with
  | null => exact hv.elim
  | addr a => exact absurd hv.2 (Nat.pos_iff_ne_zero.mp hcap)
  | into b o =>
    obtain ⟨rfl, -, hlen, hlook⟩ := hv
    exact ⟨b, rfl, by simp [Heap.reclaim, hlook, hlen]⟩

theorem HasVec.buffers_of_empty (hv : h.HasVec buf p) (hcap : buf.capacity = 0) : p.buffers = 0 := by
  cases p with
  | null => exact hv.elim
  | addr a => rfl
  | into b o => exact absurd hcap (Nat.pos_iff_ne_zero.mp hv.2.1)

theorem HasVec.lookup_isSome (hv : h.HasVec buf p) {b : Nat} (hb : b ∈ p.buffers) : h.lookup b = some buf := by
  cases p with
  | null => exact hv.elim
  | addr a => simp [Ptr.buffers] at hb
  | into c o =>
    rw [Ptr.buffers, Multiset.mem_singleton] at hb
    rw [hb]
    exact hv.2.2.2

/-- Of a vector and its pointer: what is forgotten is there, and no other buffer is touched. -/
theorem forget_spec (h : Heap α) {b : Nat} (hlen : buf.items.length ≤ buf.capacity) :
    (h.forget b buf).2.HasVec buf (h.forget b buf).1 ∧
      ∀ c, c ≠ b → (h.forget b buf).2.lookup c = h.lookup c := by
  unfold forget
  by_cases hcap : buf.capacity = 0
  · rw [if_pos hcap]
    rw [hcap, Nat.le_zero, List.length_eq_zero_iff] at hlen
    exact ⟨⟨hlen, hcap⟩, fun _ _ => rfl⟩
  · rw [if_neg hcap]
    refine ⟨⟨rfl, Nat.pos_iff_ne_zero.mpr hcap, hlen, AList.lookup_insert h⟩, fun c hc => ?_⟩
    exact AList.lookup_insert_ne hc

end

/-! ## Owners -/

/-- The buffers are those owned, and each has one owner. -/
def OwnedBy (h : Heap α) (owned : Multiset Nat) : Prop := (h.keys : Multiset Nat) = owned

section
variable {h : Heap α} {owned : Multiset Nat} {b : Nat} {buf : Buffer α}

theorem OwnedBy.mem (ho : h.OwnedBy owned) : b ∈ owned ↔ b ∈ h := by
  rw [← show (h.keys : Multiset Nat) = owned from ho, Multiset.mem_coe, AList.mem_keys]

theorem OwnedBy.nodup (ho : h.OwnedBy owned) : owned.Nodup := by
  rw [← show (h.keys : Multiset Nat) = owned from ho, Multiset.coe_nodup]
  exact h.keys_nodup

theorem OwnedBy.forget (ho : h.OwnedBy owned) (hb : b ∉ h) :
    (h.forget b buf).2.OwnedBy ((h.forget b buf).1.buffers + owned) := by
  unfold Heap.forget
  by_cases hcap : buf.capacity = 0
  · simp [hcap, Ptr.buffers, ho]
  · unfold OwnedBy at ho ⊢
    simp only [hcap, if_false, Ptr.buffers, Multiset.singleton_add, AList.keys_insert]
    rw [← ho, Multiset.cons_coe, List.erase_of_not_mem (fun hm => hb (AList.mem_keys.mpr hm))]

theorem OwnedBy.erase (ho : h.OwnedBy ({b} + owned)) : Heap.OwnedBy (h.erase b) owned := by
  unfold OwnedBy at ho ⊢
  have herase := congrArg (fun s => Multiset.erase s b) ho
  simpa [AList.keys_erase] using herase

/-- What is freed belongs to nobody else. -/
theorem OwnedBy.other (ho : h.OwnedBy ({b} + owned)) {c : Nat} (hc : c ∈ owned) : (h.erase b).lookup c = h.lookup c := by
  refine AList.lookup_erase_ne fun hcb => ?_
  have hnodup := ho.nodup
  rw [Multiset.singleton_add, Multiset.nodup_cons] at hnodup
  exact hnodup.1 (hcb ▸ hc)

theorem OwnedBy.fresh (ho : h.OwnedBy owned) (hb : b ∉ h) {c : Nat} (hc : c ∈ owned) : c ≠ b := fun hcb =>
  hb (ho.mem.mp (hcb ▸ hc))

end

end Heap

namespace Table

variable {K V : Type} (f : V → Multiset Nat)

/-- What the values of a table own. -/
def owned (m : Table K V) : Multiset Nat := ((values m).map f).sum

variable [DecidableEq K] {f} {m : Table K V} {k : K} {v : V}

theorem owned_insert : owned f (m.insert k v) = f v + owned f (m.erase k) := by
  rw [owned, owned, values_insert, List.map_cons, List.sum_cons]

theorem owned_erase : owned f m = ((m.lookup k).map f).getD 0 + owned f (m.erase k) := by
  unfold owned
  rw [((values_perm_erase m k).map f).sum_eq, List.map_append, List.sum_append]
  cases m.lookup k with
  | none => simp
  | some v => simp

theorem mem_owned {b : Nat} (h : m.lookup k = some v) (hb : b ∈ f v) : b ∈ owned f m := by
  rw [owned_erase (k := k), h]
  simp [hb]

theorem owned_erase_of_none (h : m.lookup k = none) : owned f (m.erase k) = owned f m := by
  rw [owned_erase (m := m) (k := k), h]
  simp

theorem owned_insert_new (h : m.lookup k = none) : owned f (m.insert k v) = f v + owned f m := by
  rw [owned_insert, owned_erase_of_none h]

theorem owned_erase_of_some (h : m.lookup k = some v) : owned f m = f v + owned f (m.erase k) := by
  rw [owned_erase (k := k), h]
  simp

/-- A value that owns what the one before it owned. -/
theorem owned_replace {v' : V} (h : m.lookup k = some v) (hids : f v' = f v) :
    owned f (m.insert k v') = owned f m := by
  rw [owned_insert, owned_erase_of_some h, hids]

theorem erase_insert (m : Table K V) (k : K) (v : V) : (m.insert k v).erase k = m.erase k := by
  apply AList.ext
  simp [entries_erase, AList.entries_insert, List.kerase_cons_eq]

theorem erase_of_notMem (h : k ∉ m) : m.erase k = m := AList.ext (List.kerase_of_notMem_keys h)

end Table

namespace Prog

variable {σ ε α : Type}

/-- What is undefined stands as a panic. -/
def defined : Option α → Prog σ ε α
  | some a => pure a
  | none => abort

@[simp] theorem defined_some (a : α) : (defined (some a) : Prog σ ε α) = pure a := rfl

end Prog
