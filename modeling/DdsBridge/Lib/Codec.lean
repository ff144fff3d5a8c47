import DdsBridge.Lib.Prog
import Mathlib.Algebra.Group.Nat.Defs
import Mathlib.Data.Nat.Basic

/-!
# Byte cursors and the encodings they undo

A reader is a `Prog` whose state is the rest of the buffer. The primitive reads panic on a short
buffer, so a reader has to check `remaining` first. `Reads p u a` says that `p` takes `u` off the
front of any buffer and returns `a`; `Consumes p R` says what a successful `p` has taken.
-/

abbrev Bytes := List UInt8

/-! ## Windows of a buffer -/

section
variable {a b : Bytes} {off n m : Nat}

theorem window_length (h : off + n ≤ a.length) : ((a.drop off).take n).length = n := by
  rw [List.length_take, List.length_drop]
  omega

theorem window_getElem? (i : Nat) (h : i < n) : ((a.drop off).take n)[i]? = a[off + i]? := by
  rw [List.getElem?_take_of_lt h, List.getElem?_drop]

theorem window_eq_iff (ha : off + n ≤ a.length) (hb : off + m ≤ b.length) :
    (a.drop off).take n = (b.drop off).take m ↔
      n = m ∧ ∀ i < n, b.getD (off + i) 0 = a.getD (off + i) 0 := by
  refine ⟨fun h => ?_, fun h => ?_⟩
  · have hlen := congrArg List.length h
    rw [window_length ha, window_length hb] at hlen
    subst hlen
    refine ⟨rfl, fun i hi => ?_⟩
    have hi' := congrArg (·[i]?) h
    simp only [window_getElem? i hi] at hi'
    simp only [List.getD_eq_getElem?_getD, hi']
  · obtain ⟨rfl, h⟩ := h
    apply List.ext_getElem?
    intro i
    by_cases hi : i < n
    · have hia : off + i < a.length := by omega
      have hib : off + i < b.length := by omega
      have := h i hi
      rw [List.getD_eq_getElem?_getD, List.getD_eq_getElem?_getD, List.getElem?_eq_getElem hia,
        List.getElem?_eq_getElem hib, Option.getD_some, Option.getD_some] at this
      rw [window_getElem? i hi, window_getElem? i hi, List.getElem?_eq_getElem hia,
        List.getElem?_eq_getElem hib, this]
    · rw [List.getElem?_eq_none (by rw [window_length ha]; omega),
        List.getElem?_eq_none (by rw [window_length hb]; omega)]

end

/-! ## Little-endian numbers -/

def leBytes : Nat → Nat → Bytes
  | 0, _ => []
  | k + 1, n => UInt8.ofNat n :: leBytes k (n / 256)

def ofLE : Bytes → Nat
  | [] => 0
  | b :: bs => b.toNat + 256 * ofLE bs

@[simp] theorem leBytes_length : ∀ k n, (leBytes k n).length = k
  | 0, _ => rfl
  | k + 1, n => by simp [leBytes, leBytes_length k]

theorem ofLE_leBytes : ∀ k n, ofLE (leBytes k n) = n % 256 ^ k
  | 0, n => by simp [leBytes, ofLE, Nat.mod_one]
  | k + 1, n => by
    rw [leBytes, ofLE, ofLE_leBytes k, Nat.pow_succ', Nat.mod_mul, UInt8.toNat_ofNat']

theorem leBytes_ofLE : ∀ bs : Bytes, leBytes bs.length (ofLE bs) = bs
  | [] => rfl
  | b :: bs => by
    have hb : b.toNat < 256 := b.toNat_lt
    have h1 : UInt8.ofNat (b.toNat + 256 * ofLE bs) = b := by
      apply UInt8.toNat_inj.mp
      rw [UInt8.toNat_ofNat']
      omega
    have h2 : (b.toNat + 256 * ofLE bs) / 256 = ofLE bs := by omega
    rw [List.length_cons, ofLE, leBytes, h1, h2, leBytes_ofLE bs]

theorem ofLE_lt : ∀ bs : Bytes, ofLE bs < 256 ^ bs.length
  | [] => by simp [ofLE]
  | b :: bs => by
    have h := ofLE_lt bs
    have hb : b.toNat < 256 := b.toNat_lt
    rw [ofLE, List.length_cons, Nat.pow_succ]
    omega

def u16le (n : UInt16) : Bytes := leBytes 2 n.toNat
def u32le (n : UInt32) : Bytes := leBytes 4 n.toNat
def u64le (n : UInt64) : Bytes := leBytes 8 n.toNat

@[simp] theorem u16le_length (n : UInt16) : (u16le n).length = 2 := leBytes_length 2 _
@[simp] theorem u32le_length (n : UInt32) : (u32le n).length = 4 := leBytes_length 4 _
@[simp] theorem u64le_length (n : UInt64) : (u64le n).length = 8 := leBytes_length 8 _

theorem ofLE_u16le (n : UInt16) : UInt16.ofNat (ofLE (u16le n)) = n := by
  have h : n.toNat < 256 ^ 2 := n.toNat_lt
  rw [u16le, ofLE_leBytes, Nat.mod_eq_of_lt h, UInt16.ofNat_toNat]

theorem ofLE_u32le (n : UInt32) : UInt32.ofNat (ofLE (u32le n)) = n := by
  have h : n.toNat < 256 ^ 4 := n.toNat_lt
  rw [u32le, ofLE_leBytes, Nat.mod_eq_of_lt h, UInt32.ofNat_toNat]

theorem ofLE_u64le (n : UInt64) : UInt64.ofNat (ofLE (u64le n)) = n := by
  have h : n.toNat < 256 ^ 8 := n.toNat_lt
  rw [u64le, ofLE_leBytes, Nat.mod_eq_of_lt h, UInt64.ofNat_toNat]

theorem u16le_ofLE {bs : Bytes} (h : bs.length = 2) : u16le (UInt16.ofNat (ofLE bs)) = bs := by
  have hlt := ofLE_lt bs
  rw [h] at hlt
  rw [u16le, UInt16.toNat_ofNat_of_lt' hlt, ← h, leBytes_ofLE]

theorem u32le_ofLE {bs : Bytes} (h : bs.length = 4) : u32le (UInt32.ofNat (ofLE bs)) = bs := by
  have hlt := ofLE_lt bs
  rw [h] at hlt
  rw [u32le, UInt32.toNat_ofNat_of_lt' hlt, ← h, leBytes_ofLE]

theorem u64le_ofLE {bs : Bytes} (h : bs.length = 8) : u64le (UInt64.ofNat (ofLE bs)) = bs := by
  have hlt := ofLE_lt bs
  rw [h] at hlt
  rw [u64le, UInt64.toNat_ofNat_of_lt' hlt, ← h, leBytes_ofLE]

/-! ## Cursor primitives -/

abbrev Cursor (ε α : Type) := Prog Bytes ε α

namespace Cursor

variable {ε α β : Type}

/-- `&buf[..n]` followed by `buf.advance(n)`; both panic past the end. -/
def take (n : Nat) : Cursor ε Bytes := fun buf =>
  if n ≤ buf.length then .ok (buf.take n, buf.drop n) else .panic

def getU8 : Cursor ε UInt8
  | [] => .panic
  | b :: buf => .ok (b, buf)

def getU16le : Cursor ε UInt16 := do return UInt16.ofNat (ofLE (← take 2))
def getU32le : Cursor ε UInt32 := do return UInt32.ofNat (ofLE (← take 4))
def getU64le : Cursor ε UInt64 := do return UInt64.ofNat (ofLE (← take 8))

/-- `buf.to_vec()`: everything that is left. -/
def rest : Cursor ε Bytes := fun buf => .ok (buf, [])

/-- `if buf.remaining() < n { return Err(short(n, buf.remaining())) }` -/
def ensure (n : Nat) (short : Nat → Nat → ε) : Cursor ε Unit := do
  let buf ← Prog.get
  Prog.require (n ≤ buf.length) (short n buf.length)

/-! ## Reading an encoding back -/

def Reads (p : Cursor ε α) (u : Bytes) (a : α) : Prop := ∀ buf, p (u ++ buf) = .ok (a, buf)

theorem reads_pure (a : α) : Reads (pure a : Cursor ε α) [] a := fun _ => rfl

theorem reads_ofRes {r : Res ε α} {a : α} (h : r = .ok a) :
    Reads (Prog.ofRes r : Cursor ε α) [] a := by
  subst h
  exact reads_pure a

theorem Reads.bind {p : Cursor ε α} {f : α → Cursor ε β} {u v : Bytes} {a : α} {b : β}
    (hp : Reads p u a) (hf : Reads (f a) v b) : Reads (p >>= f) (u ++ v) b := by
  intro buf
  rw [List.append_assoc, Prog.bind_of_ok (hp _)]
  exact hf buf

theorem Reads.bind_nil {p : Cursor ε α} {f : α → Cursor ε β} {u : Bytes} {a : α} {b : β}
    (hp : Reads p u a) (hf : Reads (f a) [] b) : Reads (p >>= f) u b := by
  rw [← List.append_nil u]
  exact hp.bind hf

theorem Reads.map {p : Cursor ε α} {u : Bytes} {a : α} (f : α → β)
    (hp : Reads p u a) : Reads (f <$> p) u (f a) := by
  rw [map_eq_pure_bind]
  exact hp.bind_nil (reads_pure _)

theorem Reads.check {c : Prop} [Decidable c] {e : ε} {p : Cursor ε α} {u : Bytes} {a : α}
    (hc : c) (hp : Reads p u a) : Reads (Prog.require c e >>= fun _ => p) u a := by
  intro buf
  rw [Prog.bind_of_ok (Prog.require_eq_ok (u := ()) |>.mpr ⟨hc, rfl⟩)]
  exact hp buf

theorem Reads.ensure {n : Nat} {short : Nat → Nat → ε} {p : Cursor ε α} {u : Bytes} {a : α}
    (hn : n ≤ u.length) (hp : Reads p u a) : Reads (ensure n short >>= fun _ => p) u a := by
  intro buf
  have hle : n ≤ (u ++ buf).length := by rw [List.length_append]; omega
  have h : (Cursor.ensure n short) (u ++ buf) = .ok ((), u ++ buf) :=
    Prog.require_eq_ok.mpr ⟨hle, rfl⟩
  rw [Prog.bind_of_ok h]
  exact hp buf

theorem Reads.peek {f : Bytes → Cursor ε α} {u : Bytes} {a : α} (h : ∀ buf, Reads (f (u ++ buf)) u a) :
    Reads (Prog.get >>= f) u a := fun buf => h buf buf

def Ends (p : Cursor ε α) (u : Bytes) (a : α) : Prop := p u = .ok (a, [])

theorem Ends.peek {f : Bytes → Cursor ε α} {u : Bytes} {a : α} (h : Ends (f u) u a) :
    Ends (Prog.get >>= f) u a := h

theorem Ends.check {c : Prop} [Decidable c] {e : ε} {p : Cursor ε α} {u : Bytes} {a : α}
    (hc : c) (hp : Ends p u a) : Ends (Prog.require c e >>= fun _ => p) u a := by
  unfold Ends
  rw [Prog.bind_of_ok (Prog.require_eq_ok (u := ()) |>.mpr ⟨hc, rfl⟩)]
  exact hp

theorem ends_pure (a : α) : Ends (pure a : Cursor ε α) [] a := rfl

theorem Reads.ends {p : Cursor ε α} {f : α → Cursor ε β} {u v : Bytes} {a : α} {b : β}
    (hp : Reads p u a) (hf : Ends (f a) v b) : Ends (p >>= f) (u ++ v) b := by
  unfold Ends
  rw [Prog.bind_of_ok (hp v)]
  exact hf

theorem Reads.ends_nil {p : Cursor ε α} {f : α → Cursor ε β} {u : Bytes} {a : α} {b : β}
    (hp : Reads p u a) (hf : Ends (f a) [] b) : Ends (p >>= f) u b := by
  rw [← List.append_nil u]
  exact hp.ends hf

theorem Ends.ensure {n : Nat} {short : Nat → Nat → ε} {p : Cursor ε α} {u : Bytes} {a : α}
    (hn : n ≤ u.length) (hp : Ends p u a) : Ends (ensure n short >>= fun _ => p) u a := by
  have h : (Cursor.ensure n short) u = .ok ((), u) := Prog.require_eq_ok.mpr ⟨hn, rfl⟩
  unfold Ends
  rw [Prog.bind_of_ok h]
  exact hp

theorem Ends.rest {f : Bytes → Cursor ε α} {u : Bytes} {a : α} (hf : Ends (f u) [] a) :
    Ends (rest >>= f) u a := by
  unfold Ends
  rw [Prog.bind_of_ok (show (Cursor.rest : Cursor ε Bytes) u = .ok (u, []) from rfl)]
  exact hf

theorem Ends.eval {p : Cursor ε α} {u : Bytes} {a : α} (h : Ends p u a) : Prog.eval p u = .ok a :=
  Prog.eval_eq_ok.mpr ⟨[], h⟩

theorem reads_take (u : Bytes) : Reads (take u.length : Cursor ε Bytes) u u := by
  intro buf
  simp [take]

theorem reads_getU8 (b : UInt8) : Reads (getU8 : Cursor ε UInt8) [b] b := fun _ => rfl

theorem reads_getU16le (n : UInt16) : Reads (getU16le : Cursor ε UInt16) (u16le n) n := by
  have h := (reads_take (ε := ε) (u16le n)).bind_nil (f := fun u => pure (UInt16.ofNat (ofLE u)))
    (reads_pure _)
  rwa [u16le_length, ofLE_u16le] at h

theorem reads_getU32le (n : UInt32) : Reads (getU32le : Cursor ε UInt32) (u32le n) n := by
  have h := (reads_take (ε := ε) (u32le n)).bind_nil (f := fun u => pure (UInt32.ofNat (ofLE u)))
    (reads_pure _)
  rwa [u32le_length, ofLE_u32le] at h

theorem reads_getU64le (n : UInt64) : Reads (getU64le : Cursor ε UInt64) (u64le n) n := by
  have h := (reads_take (ε := ε) (u64le n)).bind_nil (f := fun u => pure (UInt64.ofNat (ofLE u)))
    (reads_pure _)
  rwa [u64le_length, ofLE_u64le] at h

theorem reads_times_map {p : Cursor ε β} {enc : α → Bytes} {g : α → β} :
    ∀ as : List α, (∀ a ∈ as, Reads p (enc a) (g a)) →
      Reads (p.times as.length) (as.flatMap enc) (as.map g)
  | [], _ => reads_pure []
  | a :: as, h => by
    have ih := reads_times_map as fun b hb => h b (List.mem_cons_of_mem _ hb)
    exact (h a List.mem_cons_self).bind (ih.bind_nil (reads_pure _))

theorem reads_times {p : Cursor ε α} {enc : α → Bytes} (as : List α) (h : ∀ a ∈ as, Reads p (enc a) a) :
    Reads (p.times as.length) (as.flatMap enc) as := by
  have hmap := reads_times_map (g := fun a => a) as h
  rwa [List.map_id'] at hmap

/-- What two encodings begin with is the same value. -/
theorem Reads.unique {p : Cursor ε α} {u v x y : Bytes} {a b : α} (hu : Reads p u a) (hv : Reads p v b)
    (h : u ++ x = v ++ y) : a = b ∧ x = y := by
  have hread := hu x
  rw [h, hv y] at hread
  simp only [Res.ok.injEq, Prod.mk.injEq] at hread
  exact ⟨hread.1.symm, hread.2.symm⟩

section
variable {p : Cursor ε α} {enc : α → Bytes}

theorem unique_of_length {as bs : List α} {x y : Bytes} (ha : ∀ a ∈ as, Reads p (enc a) a)
    (hb : ∀ b ∈ bs, Reads p (enc b) b) (hlen : as.length = bs.length)
    (h : as.flatMap enc ++ x = bs.flatMap enc ++ y) : as = bs ∧ x = y :=
  (reads_times as ha).unique (hlen ▸ reads_times bs hb) h

/-- Without a count, encodings that are not empty. -/
theorem unique_of_ne_nil (hne : ∀ a, enc a ≠ []) {as bs : List α} (ha : ∀ a ∈ as, Reads p (enc a) a)
    (hb : ∀ b ∈ bs, Reads p (enc b) b) (h : as.flatMap enc = bs.flatMap enc) : as = bs := by
  induction as generalizing bs with
  | nil =>
    cases bs with
    | nil => rfl
    | cons b bs =>
      rw [List.flatMap_cons] at h
      exact absurd (List.append_eq_nil_iff.mp h.symm).1 (hne b)
  | cons a as ih =>
    cases bs with
    | nil =>
      rw [List.flatMap_cons] at h
      exact absurd (List.append_eq_nil_iff.mp h).1 (hne a)
    | cons b bs =>
      rw [List.flatMap_cons, List.flatMap_cons] at h
      obtain ⟨rfl, hrest⟩ := (ha a List.mem_cons_self).unique (hb b List.mem_cons_self) h
      rw [ih (fun a h => ha a (List.mem_cons_of_mem _ h)) (fun b h => hb b (List.mem_cons_of_mem _ h)) hrest]

end

/-! ## What a successful read has taken -/

def Consumes (p : Cursor ε α) (R : α → Bytes → Prop) : Prop :=
  ∀ s a t, p s = .ok (a, t) → ∃ u, s = u ++ t ∧ R a u

theorem consumes_pure (a : α) : Consumes (pure a : Cursor ε α) fun b u => b = a ∧ u = [] := by
  intro s b t h
  obtain ⟨rfl, rfl⟩ := Prog.pure_eq_ok.mp h
  exact ⟨[], rfl, rfl, rfl⟩

theorem consumes_ofRes (r : Res ε α) :
    Consumes (Prog.ofRes r : Cursor ε α) fun a u => r = .ok a ∧ u = [] := by
  intro s a t h
  cases r with
  | ok b =>
    obtain ⟨rfl, rfl⟩ := Prog.pure_eq_ok.mp h
    exact ⟨[], rfl, rfl, rfl⟩
  | err e => cases h
  | panic => cases h

theorem Consumes.mono {p : Cursor ε α} {R R' : α → Bytes → Prop} (hp : Consumes p R)
    (h : ∀ a u, R a u → R' a u) : Consumes p R' := by
  intro s a t hs
  obtain ⟨u, hu, hr⟩ := hp s a t hs
  exact ⟨u, hu, h a u hr⟩

theorem Consumes.bind {p : Cursor ε α} {f : α → Cursor ε β} {R : α → Bytes → Prop}
    {R' : β → Bytes → Prop} (hp : Consumes p R)
    (hf : ∀ a u, R a u → Consumes (f a) fun b v => R' b (u ++ v)) : Consumes (p >>= f) R' := by
  intro s b t h
  obtain ⟨a, s', h1, h2⟩ := Prog.bind_eq_ok.mp h
  obtain ⟨u, rfl, hu⟩ := hp s a s' h1
  obtain ⟨v, rfl, hv⟩ := hf a u hu s' b t h2
  exact ⟨u ++ v, (List.append_assoc ..).symm, hv⟩

theorem Consumes.map {p : Cursor ε α} {R : α → Bytes → Prop} (f : α → β)
    (hp : Consumes p R) : Consumes (f <$> p) fun b u => ∃ a, b = f a ∧ R a u := by
  rw [map_eq_pure_bind]
  refine hp.bind fun a u hu => (consumes_pure _).mono fun b v hv => ?_
  obtain ⟨rfl, rfl⟩ := hv
  exact ⟨a, rfl, by rwa [List.append_nil]⟩

theorem Consumes.check {c : Prop} [Decidable c] {e : ε} {p : Cursor ε α} {R : α → Bytes → Prop}
    (hp : c → Consumes p R) : Consumes (Prog.require c e >>= fun _ => p) R := by
  intro s a t h
  obtain ⟨_, _, h1, h2⟩ := Prog.bind_eq_ok.mp h
  obtain ⟨hc, rfl⟩ := Prog.require_eq_ok.mp h1
  exact hp hc s a t h2

theorem Consumes.ensure {n : Nat} {short : Nat → Nat → ε} {p : Cursor ε α} {R : α → Bytes → Prop}
    (hp : Consumes p R) : Consumes (ensure n short >>= fun _ => p) R := by
  intro s a t h
  obtain ⟨_, _, h1, h2⟩ := Prog.bind_eq_ok.mp h
  obtain ⟨_, rfl⟩ := Prog.require_eq_ok.mp h1
  exact hp s a t h2

theorem consumes_take (n : Nat) :
    Consumes (take n : Cursor ε Bytes) fun a u => u = a ∧ a.length = n := by
  intro s a t h
  unfold take at h
  by_cases hn : n ≤ s.length
  · rw [if_pos hn] at h
    simp only [Res.ok.injEq, Prod.mk.injEq] at h
    obtain ⟨rfl, rfl⟩ := h
    exact ⟨_, (List.take_append_drop n s).symm, rfl, List.length_take_of_le hn⟩
  · rw [if_neg hn] at h
    cases h

theorem consumes_getU8 : Consumes (getU8 : Cursor ε UInt8) fun a u => u = [a] := by
  rintro (_ | ⟨b, s⟩) a t h
  · cases h
  · simp only [getU8, Res.ok.injEq, Prod.mk.injEq] at h
    obtain ⟨rfl, rfl⟩ := h
    exact ⟨[b], rfl, rfl⟩

theorem consumes_getU16le : Consumes (getU16le : Cursor ε UInt16) fun a u => u = u16le a := by
  refine (consumes_take 2).bind fun bs u hu => ?_
  refine (consumes_pure _).mono fun a v hv => ?_
  obtain ⟨rfl, rfl⟩ := hv
  obtain ⟨rfl, h2⟩ := hu
  rw [u16le_ofLE h2, List.append_nil]

theorem consumes_getU32le : Consumes (getU32le : Cursor ε UInt32) fun a u => u = u32le a := by
  refine (consumes_take 4).bind fun bs u hu => ?_
  refine (consumes_pure _).mono fun a v hv => ?_
  obtain ⟨rfl, rfl⟩ := hv
  obtain ⟨rfl, h2⟩ := hu
  rw [u32le_ofLE h2, List.append_nil]

theorem consumes_getU64le : Consumes (getU64le : Cursor ε UInt64) fun a u => u = u64le a := by
  refine (consumes_take 8).bind fun bs u hu => ?_
  refine (consumes_pure _).mono fun a v hv => ?_
  obtain ⟨rfl, rfl⟩ := hv
  obtain ⟨rfl, h2⟩ := hu
  rw [u64le_ofLE h2, List.append_nil]

theorem consumes_times {p : Cursor ε α} {enc : α → Bytes} {ok : α → Prop}
    (hp : Consumes p fun a u => ok a ∧ u = enc a) :
    ∀ n, Consumes (p.times n) fun as u => as.length = n ∧ (∀ a ∈ as, ok a) ∧ u = as.flatMap enc
  | 0 => (consumes_pure []).mono fun as u h => by simp [h.1, h.2]
  | n + 1 => by
    refine hp.bind fun a u hu => ?_
    refine (consumes_times hp n).bind fun as v hv => ?_
    refine (consumes_pure _).mono fun bs w hw => ?_
    obtain ⟨rfl, rfl⟩ := hw
    simp [hu.1, hu.2, hv.1, hv.2.2]
    exact hv.2.1

/-! ## What a successful read says of its whole buffer -/

def Covers (p : Cursor ε α) (R : α → Bytes → Prop) : Prop := ∀ s a t, p s = .ok (a, t) → R a s

theorem Consumes.covers {p : Cursor ε α} {f : α → Cursor ε β} {R : α → Bytes → Prop}
    {R' : β → Bytes → Prop} (hp : Consumes p R)
    (hf : ∀ a u, R a u → Covers (f a) fun b v => R' b (u ++ v)) : Covers (p >>= f) R' := by
  intro s b t h
  obtain ⟨a, s', h1, h2⟩ := Prog.bind_eq_ok.mp h
  obtain ⟨u, rfl, hu⟩ := hp s a s' h1
  exact hf a u hu s' b t h2

theorem Covers.mono {p : Cursor ε α} {R R' : α → Bytes → Prop} (hp : Covers p R)
    (h : ∀ a u, R a u → R' a u) : Covers p R' := fun s a t hs => h a s (hp s a t hs)

theorem Covers.ensure {n : Nat} {short : Nat → Nat → ε} {p : Cursor ε α} {R : α → Bytes → Prop}
    (hp : Covers p R) : Covers (ensure n short >>= fun _ => p) R := by
  intro s a t h
  obtain ⟨_, _, h1, h2⟩ := Prog.bind_eq_ok.mp h
  obtain ⟨_, rfl⟩ := Prog.require_eq_ok.mp h1
  exact hp s a t h2

theorem covers_rest (mk : Bytes → α) :
    Covers (rest >>= fun u => pure (mk u) : Cursor ε α) fun a u => a = mk u := by
  intro s a t h
  exact (Prog.pure_eq_ok.mp h).1.symm

theorem Covers.eval {p : Cursor ε α} {R : α → Bytes → Prop} (hp : Covers p R) {s : Bytes} {a : α}
    (h : p.eval s = .ok a) : R a s := by
  obtain ⟨t, ht⟩ := Prog.eval_eq_ok.mp h
  exact hp s a t ht

/-! ## Bytes behind the buffer -/

/-- A success does not depend on what stands behind the buffer. -/
def Steady (p : Cursor ε α) : Prop := ∀ s a t x, p s = .ok (a, t) → p (s ++ x) = .ok (a, t ++ x)

theorem Consumes.steady {p : Cursor ε α} {R : α → Bytes → Prop} (hp : Consumes p R)
    (hr : ∀ a u, R a u → Reads p u a) : Steady p := by
  intro s a t x h
  obtain ⟨u, rfl, hu⟩ := hp s a t h
  rw [List.append_assoc]
  exact hr a u hu _

/-- On the front of a buffer that begins with the encoding `u`, a success has read all of `u`. -/
theorem Steady.front {p : Cursor ε α} {u b x r b' : Bytes} {a a' : α} (hp : Steady p) (hr : Reads p u a)
    (hb : b ++ x = u ++ r) (h : p b = .ok (a', b')) : a' = a ∧ b = u ++ b' := by
  have hlong := hp b a' b' x h
  rw [hb, hr r] at hlong
  simp only [Res.ok.injEq, Prod.mk.injEq] at hlong
  obtain ⟨rfl, rfl⟩ := hlong
  rw [← List.append_assoc] at hb
  exact ⟨rfl, List.append_cancel_right hb⟩

theorem steady_ensure (n : Nat) (short : Nat → Nat → ε) : Steady (ensure n short) := by
  intro s a t x h
  obtain ⟨hn, rfl⟩ := Prog.require_eq_ok.mp h
  have hle : n ≤ (s ++ x).length := by
    rw [List.length_append]
    exact Nat.le_add_right_of_le hn
  exact Prog.require_eq_ok.mpr ⟨hle, rfl⟩

theorem steady_ofRes (r : Res ε α) : Steady (Prog.ofRes r : Cursor ε α) :=
  (consumes_ofRes r).steady fun _ u hu => by
    rw [hu.2]
    exact reads_ofRes hu.1

/-- After a success, bytes added behind the buffer make it fail with `e` of their number. -/
def Closed (e : Nat → ε) (p : Cursor ε α) : Prop :=
  ∀ s a t x, p s = .ok (a, t) → x ≠ [] → ∃ s', p (s ++ x) = .err (e x.length, s')

theorem Steady.closed {e : Nat → ε} {p : Cursor ε α} {f : α → Cursor ε β} (hp : Steady p)
    (hf : ∀ a, Closed e (f a)) : Closed e (p >>= f) := by
  intro s b t x h hx
  obtain ⟨a, s', h1, h2⟩ := Prog.bind_eq_ok.mp h
  rw [Prog.bind_of_ok (hp s a s' x h1)]
  exact hf a s' b t x h2 hx

theorem Closed.eval {e : Nat → ε} {p : Cursor ε α} (hp : Closed e p) {s x : Bytes} {a : α}
    (h : p.eval s = .ok a) (hx : x ≠ []) : p.eval (s ++ x) = .err (e x.length) := by
  obtain ⟨t, ht⟩ := Prog.eval_eq_ok.mp h
  obtain ⟨s', hs'⟩ := hp s a t x ht hx
  rw [Prog.eval, hs']

/-! ## Reads that stay inside the buffer -/

/-- `p` does not panic on a buffer of at least `n` bytes. -/
def Needs (n : Nat) (p : Cursor ε α) : Prop := ∀ s, n ≤ s.length → p s ≠ .panic

theorem Needs.mono {m n : Nat} {p : Cursor ε α} (h : Needs m p) (hmn : m ≤ n) : Needs n p :=
  fun s hs => h s (Nat.le_trans hmn hs)

theorem needs_pure (n : Nat) (a : α) : Needs n (pure a : Cursor ε α) := fun _ _ h => by cases h

theorem needs_throw (n : Nat) (e : ε) : Needs n (Prog.throw e : Cursor ε α) := fun _ _ h => by cases h

theorem needs_rest : Needs 0 (rest : Cursor ε Bytes) := fun _ _ h => by cases h

theorem needs_ofRes {r : Res ε α} (h : r ≠ .panic) (n : Nat) :
    Needs n (Prog.ofRes r : Cursor ε α) := by
  cases r with
  | ok a => exact needs_pure n a
  | err e => exact needs_throw n e
  | panic => exact absurd rfl h

theorem Needs.bind {n : Nat} {p : Cursor ε α} {f : α → Cursor ε β} (hp : Needs n p)
    (hf : ∀ a, Needs 0 (f a)) : Needs n (p >>= f) := by
  intro s hs
  rw [Prog.bind_apply]
  cases h : p s with
  | ok r => exact hf r.1 r.2 (Nat.zero_le _)
  | err e => intro h'; cases h'
  | panic => exact absurd h (hp s hs)

theorem Needs.map {n : Nat} {p : Cursor ε α} (f : α → β) (hp : Needs n p) :
    Needs n (f <$> p) := by
  rw [map_eq_pure_bind]
  exact hp.bind fun _ => needs_pure 0 _

theorem Needs.take {m n : Nat} {f : Bytes → Cursor ε α} (hf : ∀ a, Needs n (f a)) :
    Needs (n + m) (take m >>= f) := by
  intro s hs
  have ht : (Cursor.take m : Cursor ε Bytes) s = .ok (s.take m, s.drop m) := if_pos (by omega)
  rw [Prog.bind_of_ok ht]
  exact hf _ _ (by rw [List.length_drop]; omega)

theorem Needs.getU8 {n : Nat} {f : UInt8 → Cursor ε α} (hf : ∀ a, Needs n (f a)) :
    Needs (n + 1) (getU8 >>= f) := by
  rintro (_ | ⟨b, s⟩) hs
  · simp at hs
  · exact hf b s (by simp only [List.length_cons] at hs; omega)

theorem Needs.getU16le {n : Nat} {f : UInt16 → Cursor ε α} (hf : ∀ a, Needs n (f a)) :
    Needs (n + 2) (getU16le >>= f) := by
  rw [Cursor.getU16le, bind_assoc]
  exact Needs.take fun a => hf _

theorem Needs.getU32le {n : Nat} {f : UInt32 → Cursor ε α} (hf : ∀ a, Needs n (f a)) :
    Needs (n + 4) (getU32le >>= f) := by
  rw [Cursor.getU32le, bind_assoc]
  exact Needs.take fun a => hf _

theorem Needs.check {n : Nat} {c : Prop} [Decidable c] {e : ε} {p : Cursor ε α}
    (hp : c → Needs n p) : Needs n (Prog.require c e >>= fun _ => p) := by
  intro s hs
  unfold Prog.require
  by_cases hc : c
  · rw [if_pos hc]; exact hp hc s hs
  · rw [if_neg hc]; intro h; cases h

theorem Needs.ensure {m n : Nat} {short : Nat → Nat → ε} {p : Cursor ε α} (hp : Needs n p) :
    Needs m (ensure n short >>= fun _ => p) := by
  rw [Cursor.ensure, bind_assoc]
  intro s _
  rw [Prog.bind_of_ok (show (Prog.get : Cursor ε Bytes) s = .ok (s, s) from rfl)]
  by_cases h : n ≤ s.length
  · exact Needs.check (fun _ => hp) s h
  · rw [Prog.require, if_neg h]; intro h'; cases h'

theorem Needs.times {p : Cursor ε α} (hp : Needs 0 p) : ∀ n, Needs 0 (p.times n)
  | 0 => needs_pure 0 []
  | n + 1 => hp.bind fun _ => (Needs.times hp n).bind fun _ => needs_pure 0 _

theorem Needs.eval_ne_panic {p : Cursor ε α} (h : Needs 0 p) (buf : Bytes) : p.eval buf ≠ .panic := by
  rw [ne_eq, Prog.eval_eq_panic]
  exact h buf (Nat.zero_le _)

/-! ## The errors of a read -/

def AtMost (n : Nat) (s : Bytes) : Prop := s.length ≤ n

section
variable {N : Nat} {E : ε → Prop}

theorem spec_ensure {n : Nat} {short : Nat → Nat → ε} (h : ∀ got, got < n → E (short n got)) :
    Prog.Spec (AtMost N) Prog.Any (fun _ => True) E (ensure n short) := by
  intro s hs
  rw [ensure, Prog.wp_bind, Prog.wp_get, Prog.wp_require]
  exact ⟨fun _ => ⟨hs, trivial, trivial⟩, fun hn => ⟨hs, trivial, h _ (Nat.lt_of_not_le hn)⟩⟩

theorem spec_take (n : Nat) : Prog.Spec (AtMost N) Prog.Any (fun _ => True) E (take n) := by
  intro s hs
  unfold Prog.wp take
  by_cases hn : n ≤ s.length
  · rw [if_pos hn]
    exact ⟨by rw [AtMost, List.length_drop]; exact Nat.le_trans (Nat.sub_le _ _) hs, trivial, trivial⟩
  · rw [if_neg hn]
    trivial

theorem spec_getU8 : Prog.Spec (AtMost N) Prog.Any (fun _ => True) E (getU8 : Cursor ε UInt8) := by
  intro s hs
  cases s with
  | nil => trivial
  | cons b s => exact ⟨Nat.le_of_succ_le hs, trivial, trivial⟩

theorem spec_getU32le : Prog.Spec (AtMost N) Prog.Any (fun _ => True) E (getU32le : Cursor ε UInt32) :=
  (spec_take 4).bind fun _ _ => Prog.spec_pure trivial

theorem spec_rest : Prog.Spec (AtMost N) Prog.Any (fun _ => True) E (rest : Cursor ε Bytes) :=
  fun _ _ => ⟨Nat.zero_le N, trivial, trivial⟩

theorem spec_map {α β : Type} {p : Cursor ε α} (f : α → β)
    (h : Prog.Spec (AtMost N) Prog.Any (fun _ => True) E p) :
    Prog.Spec (AtMost N) Prog.Any (fun _ => True) E (f <$> p) := by
  rw [map_eq_pure_bind]
  exact h.bind fun _ _ => Prog.spec_pure trivial

end

end Cursor
