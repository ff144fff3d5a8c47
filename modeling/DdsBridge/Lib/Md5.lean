import DdsBridge.Lib.Codec
import Mathlib.Analysis.Complex.Trigonometric
import Mathlib.Algebra.Order.Floor.Semiring

/-!
# The MD5 message digest

RFC 1321, with bits in bytes: the padding, the table of sines, the four rounds of sixteen operations on four
registers, and the digest. An entry of the table is found from `cos 1` and `sin 1` by turning on by one radian
at a time, with 64 binary places.
-/

namespace Rfc1321

/-! ## Padding -/

theorem exists_zeros (n : Nat) : ∃ k, (n + 1 + k) % 64 = 56 := ⟨119 - n % 64, by omega⟩

/-- How many zero bytes follow the byte with the single bit. -/
def zeros (n : Nat) : Nat := Nat.find (exists_zeros n)

def padded (d : Bytes) : Bytes :=
  d ++ 0x80 :: (List.replicate (zeros d.length) 0 ++ u64le (UInt64.ofNat (8 * d.length)))

theorem zeros_eq_iff {n k : Nat} : zeros n = k ↔ (n + 1 + k) % 64 = 56 ∧ ∀ j < k, (n + 1 + j) % 64 ≠ 56 :=
  Nat.find_eq_iff (exists_zeros n)

theorem padded_length (d : Bytes) : (padded d).length % 64 = 0 := by
  have h := Nat.find_spec (exists_zeros d.length)
  simp only [padded, List.length_append, List.length_cons, List.length_replicate, u64le_length]
  change (d.length + 1 + zeros d.length) % 64 = 56 at h
  omega

/-! ## The operations -/

def F (x y z : UInt32) : UInt32 := (x &&& y) ||| (~~~x &&& z)
def G (x y z : UInt32) : UInt32 := (x &&& z) ||| (y &&& ~~~z)
def H (x y z : UInt32) : UInt32 := x ^^^ y ^^^ z
def I (x y z : UInt32) : UInt32 := y ^^^ (x ||| ~~~z)

noncomputable def T (i : Nat) : UInt32 := UInt32.ofNat ⌊4294967296 * |Real.sin i|⌋₊

def rotl (x : UInt32) (s : Nat) : UInt32 := UInt32.ofBitVec (x.toBitVec.rotateLeft s)

/-- `A`, `B`, `C`, `D`. -/
abbrev Registers := Fin 4 → UInt32

/-- The four registers are numbered by `Fin 4`. -/
instance neZero_four : NeZero 4 := ⟨by decide⟩

/-- `[abcd k s i]`, where `b`, `c`, `d` are the registers that follow `a`. -/
structure Op where
  a : Fin 4
  k : Nat
  s : Nat
  i : Nat
  deriving DecidableEq, Repr

/-- `a = b + ((a + f(b,c,d) + X[k] + T[i]) <<< s)` -/
noncomputable def Op.run (f : UInt32 → UInt32 → UInt32 → UInt32) (X : Nat → UInt32) (r : Registers) (op : Op) :
    Registers :=
  Function.update r op.a
    (r (op.a + 1) + rotl (r op.a + f (r (op.a + 1)) (r (op.a + 2)) (r (op.a + 3)) + X op.k + T op.i) op.s)

theorem Op.run_self (f : UInt32 → UInt32 → UInt32 → UInt32) (X : Nat → UInt32) (r : Registers) (op : Op) :
    op.run f X r op.a =
      r (op.a + 1) + rotl (r op.a + f (r (op.a + 1)) (r (op.a + 2)) (r (op.a + 3)) + X op.k + T op.i) op.s :=
  Function.update_self _ _ _

theorem Op.run_of_ne (f : UInt32 → UInt32 → UInt32 → UInt32) (X : Nat → UInt32) (r : Registers) {op : Op} {p : Fin 4}
    (h : p ≠ op.a) : op.run f X r p = r p :=
  Function.update_of_ne h _ _

def round1 : List Op :=
  [⟨0, 0, 7, 1⟩, ⟨3, 1, 12, 2⟩, ⟨2, 2, 17, 3⟩, ⟨1, 3, 22, 4⟩,
   ⟨0, 4, 7, 5⟩, ⟨3, 5, 12, 6⟩, ⟨2, 6, 17, 7⟩, ⟨1, 7, 22, 8⟩,
   ⟨0, 8, 7, 9⟩, ⟨3, 9, 12, 10⟩, ⟨2, 10, 17, 11⟩, ⟨1, 11, 22, 12⟩,
   ⟨0, 12, 7, 13⟩, ⟨3, 13, 12, 14⟩, ⟨2, 14, 17, 15⟩, ⟨1, 15, 22, 16⟩]

def round2 : List Op :=
  [⟨0, 1, 5, 17⟩, ⟨3, 6, 9, 18⟩, ⟨2, 11, 14, 19⟩, ⟨1, 0, 20, 20⟩,
   ⟨0, 5, 5, 21⟩, ⟨3, 10, 9, 22⟩, ⟨2, 15, 14, 23⟩, ⟨1, 4, 20, 24⟩,
   ⟨0, 9, 5, 25⟩, ⟨3, 14, 9, 26⟩, ⟨2, 3, 14, 27⟩, ⟨1, 8, 20, 28⟩,
   ⟨0, 13, 5, 29⟩, ⟨3, 2, 9, 30⟩, ⟨2, 7, 14, 31⟩, ⟨1, 12, 20, 32⟩]

def round3 : List Op :=
  [⟨0, 5, 4, 33⟩, ⟨3, 8, 11, 34⟩, ⟨2, 11, 16, 35⟩, ⟨1, 14, 23, 36⟩,
   ⟨0, 1, 4, 37⟩, ⟨3, 4, 11, 38⟩, ⟨2, 7, 16, 39⟩, ⟨1, 10, 23, 40⟩,
   ⟨0, 13, 4, 41⟩, ⟨3, 0, 11, 42⟩, ⟨2, 3, 16, 43⟩, ⟨1, 6, 23, 44⟩,
   ⟨0, 9, 4, 45⟩, ⟨3, 12, 11, 46⟩, ⟨2, 15, 16, 47⟩, ⟨1, 2, 23, 48⟩]

def round4 : List Op :=
  [⟨0, 0, 6, 49⟩, ⟨3, 7, 10, 50⟩, ⟨2, 14, 15, 51⟩, ⟨1, 5, 21, 52⟩,
   ⟨0, 12, 6, 53⟩, ⟨3, 3, 10, 54⟩, ⟨2, 10, 15, 55⟩, ⟨1, 1, 21, 56⟩,
   ⟨0, 8, 6, 57⟩, ⟨3, 15, 10, 58⟩, ⟨2, 6, 15, 59⟩, ⟨1, 13, 21, 60⟩,
   ⟨0, 4, 6, 61⟩, ⟨3, 11, 10, 62⟩, ⟨2, 2, 15, 63⟩, ⟨1, 9, 21, 64⟩]

/-! ## The digest -/

def word (bytes : Bytes) : UInt32 := UInt32.ofNat (ofLE bytes)

/-- `X[j]` of the block at `i`. -/
def blockWord (msg : Bytes) (i j : Nat) : UInt32 := word ((msg.drop (64 * i + 4 * j)).take 4)

def initial : Registers := ![0x67452301, 0xefcdab89, 0x98badcfe, 0x10325476]

noncomputable def rounds (X : Nat → UInt32) (r : Registers) : Registers :=
  round4.foldl (Op.run I X) (round3.foldl (Op.run H X) (round2.foldl (Op.run G X) (round1.foldl (Op.run F X) r)))

noncomputable def process (msg : Bytes) (r : Registers) (i : Nat) : Registers :=
  fun j => rounds (blockWord msg i) r j + r j

noncomputable def digest (d : Bytes) : Bytes :=
  let r := (List.range ((padded d).length / 64)).foldl (process (padded d)) initial
  u32le (r 0) ++ (u32le (r 1) ++ (u32le (r 2) ++ u32le (r 3)))

/-! ## The table of sines -/

/-- `cos 1` and `sin 1`, with 64 binary places. -/
def oneRadian : Int × Int := (9966818358784711826, 15522399902203605025)

def turn : Nat → Int × Int
  | 0 => (2 ^ 64, 0)
  | n + 1 =>
    let (c, s) := turn n
    ((c * oneRadian.1 - s * oneRadian.2) / 2 ^ 64, (s * oneRadian.1 + c * oneRadian.2) / 2 ^ 64)

noncomputable def point (p : Int × Int) : ℂ := (p.1 + p.2 * Complex.I) / 2 ^ 64

theorem point_eq (p : Int × Int) : point p = ⟨p.1 / 2 ^ 64, p.2 / 2 ^ 64⟩ := by
  rw [Complex.mk_eq_add_mul_I, point]
  push_cast
  ring

theorem exp_oneRadian : ‖Complex.exp Complex.I - point oneRadian‖ ≤ 2 / 2 ^ 64 := by
  have hseries : ‖Complex.exp Complex.I - ∑ m ∈ Finset.range 22, Complex.I ^ m / m.factorial‖ ≤ 1 / 2 ^ 66 := by
    refine (Complex.exp_bound (by simp) (by norm_num)).trans ?_
    norm_num [Nat.factorial]
  have hre : |(∑ m ∈ Finset.range 22, Complex.I ^ m / (m.factorial : ℂ) - point oneRadian).re| ≤ 3 / 2 ^ 66 := by
    rw [Complex.sub_re, point_eq]
    simp only [Finset.sum_range_succ, Finset.sum_range_zero, Nat.factorial, oneRadian]
    norm_num [pow_succ]
  have him : |(∑ m ∈ Finset.range 22, Complex.I ^ m / (m.factorial : ℂ) - point oneRadian).im| ≤ 3 / 2 ^ 66 := by
    rw [Complex.sub_im, point_eq]
    simp only [Finset.sum_range_succ, Finset.sum_range_zero, Nat.factorial, oneRadian]
    norm_num [pow_succ]
  have hsum := Complex.norm_le_abs_re_add_abs_im
    (∑ m ∈ Finset.range 22, Complex.I ^ m / (m.factorial : ℂ) - point oneRadian)
  have htri := norm_sub_le_norm_sub_add_norm_sub (Complex.exp Complex.I)
    (∑ m ∈ Finset.range 22, Complex.I ^ m / (m.factorial : ℂ)) (point oneRadian)
  linarith

theorem div_error (x : Int) : |(x : ℝ) / 2 ^ 128 - ((x / 2 ^ 64 : Int) : ℝ) / 2 ^ 64| ≤ 1 / 2 ^ 64 := by
  have hmod : (x : ℝ) = 2 ^ 64 * ((x / 2 ^ 64 : Int) : ℝ) + ((x % 2 ^ 64 : Int) : ℝ) := by
    have h := (Int.mul_ediv_add_emod x (2 ^ 64)).symm
    exact_mod_cast h
  have hnonneg : (0 : ℝ) ≤ ((x % 2 ^ 64 : Int) : ℝ) := by
    exact_mod_cast Int.emod_nonneg x (by norm_num)
  have hlt : ((x % 2 ^ 64 : Int) : ℝ) ≤ 2 ^ 64 := by
    exact_mod_cast (Int.emod_lt_of_pos x (by norm_num)).le
  have hdiff : (x : ℝ) / 2 ^ 128 - ((x / 2 ^ 64 : Int) : ℝ) / 2 ^ 64 = ((x % 2 ^ 64 : Int) : ℝ) / 2 ^ 128 := by
    rw [hmod]
    ring
  rw [hdiff, abs_of_nonneg (div_nonneg hnonneg (by norm_num))]
  calc ((x % 2 ^ 64 : Int) : ℝ) / 2 ^ 128 ≤ 2 ^ 64 / 2 ^ 128 := div_le_div_of_nonneg_right hlt (by norm_num)
    _ = 1 / 2 ^ 64 := by norm_num

/-- The two divisions round down. -/
theorem point_turn (n : Nat) : ‖point (turn n) * point oneRadian - point (turn (n + 1))‖ ≤ 2 / 2 ^ 64 := by
  have hre : (point (turn n) * point oneRadian - point (turn (n + 1))).re =
      (((turn n).1 * oneRadian.1 - (turn n).2 * oneRadian.2 : Int) : ℝ) / 2 ^ 128 -
        ((((turn n).1 * oneRadian.1 - (turn n).2 * oneRadian.2) / 2 ^ 64 : Int) : ℝ) / 2 ^ 64 := by
    rw [Complex.sub_re, Complex.mul_re, point_eq, point_eq, point_eq]
    simp only [turn]
    push_cast
    ring
  have him : (point (turn n) * point oneRadian - point (turn (n + 1))).im =
      (((turn n).2 * oneRadian.1 + (turn n).1 * oneRadian.2 : Int) : ℝ) / 2 ^ 128 -
        ((((turn n).2 * oneRadian.1 + (turn n).1 * oneRadian.2) / 2 ^ 64 : Int) : ℝ) / 2 ^ 64 := by
    rw [Complex.sub_im, Complex.mul_im, point_eq, point_eq, point_eq]
    simp only [turn]
    push_cast
    ring
  have hsum := Complex.norm_le_abs_re_add_abs_im (point (turn n) * point oneRadian - point (turn (n + 1)))
  rw [hre, him] at hsum
  have hone := div_error ((turn n).1 * oneRadian.1 - (turn n).2 * oneRadian.2)
  have htwo := div_error ((turn n).2 * oneRadian.1 + (turn n).1 * oneRadian.2)
  linarith

theorem turn_error (n : Nat) (hn : n ≤ 2 ^ 61) :
    ‖Complex.exp (n * Complex.I) - point (turn n)‖ ≤ (n : ℝ) * (8 / 2 ^ 64) := by
  induction n with
  | zero =>
    rw [point_eq]
    norm_num [turn, Complex.ext_iff]
  | succ n ih =>
    have ih := ih (by omega)
    have hbound : (n : ℝ) * (8 / 2 ^ 64) ≤ 1 := by
      have hn' : (n : ℝ) ≤ 2 ^ 61 := by exact_mod_cast (by omega : n ≤ 2 ^ 61)
      linarith
    have hunit : ‖Complex.exp (n * Complex.I)‖ = 1 := by
      have h := Complex.norm_exp_ofReal_mul_I n
      exact_mod_cast h
    have hunit1 : ‖Complex.exp Complex.I‖ = 1 := by
      have h := Complex.norm_exp_ofReal_mul_I 1
      simpa using h
    have hz : ‖point (turn n)‖ ≤ 2 := by
      have h := norm_sub_norm_le (point (turn n)) (Complex.exp (n * Complex.I))
      rw [norm_sub_rev] at h
      linarith
    have hexp : Complex.exp ((n + 1 : ℕ) * Complex.I) = Complex.exp (n * Complex.I) * Complex.exp Complex.I := by
      rw [← Complex.exp_add]
      push_cast
      ring_nf
    have hsplit : Complex.exp ((n + 1 : ℕ) * Complex.I) - point (turn (n + 1)) =
        (Complex.exp (n * Complex.I) - point (turn n)) * Complex.exp Complex.I +
          point (turn n) * (Complex.exp Complex.I - point oneRadian) +
          (point (turn n) * point oneRadian - point (turn (n + 1))) := by
      rw [hexp]
      ring
    have hone := exp_oneRadian
    have hround := point_turn n
    rw [hsplit]
    refine (norm_add_le_of_le (norm_add_le _ _) hround).trans ?_
    rw [Complex.norm_mul, Complex.norm_mul, hunit1, mul_one]
    have hprod : ‖point (turn n)‖ * ‖Complex.exp Complex.I - point oneRadian‖ ≤ 2 * (2 / 2 ^ 64) :=
      mul_le_mul hz hone (norm_nonneg _) (by norm_num)
    push_cast
    linarith

theorem sin_error (n : Nat) (hn : n ≤ 2 ^ 61) : |Real.sin n - ((turn n).2 : ℝ) / 2 ^ 64| ≤ (n : ℝ) * (8 / 2 ^ 64) := by
  have him : (Complex.exp (n * Complex.I) - point (turn n)).im = Real.sin n - ((turn n).2 : ℝ) / 2 ^ 64 := by
    rw [Complex.sub_im, point_eq]
    have h := Complex.exp_ofReal_mul_I_im n
    rw [show ((n : ℝ) : ℂ) = (n : ℂ) from Complex.ofReal_natCast n] at h
    rw [h]
  rw [← him]
  exact (Complex.abs_im_le_norm _).trans (turn_error n hn)

/-- The integer part of `2^32 * |sin n|`, if the sine is not too close to the next entry. -/
def entry (n : Nat) : Nat := 2 ^ 32 * (turn n).2.natAbs / 2 ^ 64

def Clear (n : Nat) : Prop :=
  let x := 2 ^ 32 * (turn n).2.natAbs
  2 ^ 32 * (8 * n) ≤ x % 2 ^ 64 ∧ x % 2 ^ 64 + 2 ^ 32 * (8 * n) < 2 ^ 64

instance (n : Nat) : Decidable (Clear n) := inferInstanceAs (Decidable (_ ∧ _))

theorem T_eq {n : Nat} (hn : n ≤ 2 ^ 61) (h : Clear n) : T n = UInt32.ofNat (entry n) := by
  have herr := (abs_abs_sub_abs_le_abs_sub _ _).trans (sin_error n hn)
  have habs : |((turn n).2 : ℝ) / 2 ^ 64| = ((turn n).2.natAbs : ℝ) / 2 ^ 64 := by
    rw [abs_div, abs_of_pos (by norm_num : (0 : ℝ) < 2 ^ 64), Nat.cast_natAbs, Int.cast_abs]
  rw [habs] at herr
  have hlower := (abs_sub_le_iff.mp herr).1
  have hupper := (abs_sub_le_iff.mp herr).2
  have hsplit : (2 : ℝ) ^ 32 * (turn n).2.natAbs = 2 ^ 64 * entry n + (2 ^ 32 * (turn n).2.natAbs % 2 ^ 64 : Nat) := by
    have h := (Nat.div_add_mod (2 ^ 32 * (turn n).2.natAbs) (2 ^ 64)).symm
    exact_mod_cast h
  have hlow : (2 : ℝ) ^ 32 * (8 * n) ≤ (2 ^ 32 * (turn n).2.natAbs % 2 ^ 64 : Nat) := by
    exact_mod_cast h.1
  have hhigh : ((2 ^ 32 * (turn n).2.natAbs % 2 ^ 64 : Nat) : ℝ) + 2 ^ 32 * (8 * n) < 2 ^ 64 := by
    exact_mod_cast h.2
  have hfloor : ⌊4294967296 * |Real.sin n|⌋₊ = entry n := by
    rw [Nat.floor_eq_iff (by positivity)]
    constructor
    · linarith
    · linarith
  rw [T, hfloor]

end Rfc1321
