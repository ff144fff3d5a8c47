import DdsBridge.Hash
import DdsBridge.Lib.Md5

/-!
# The long key hash is MD5

`md5_hash` renames its four variables at each step where RFC 1321 writes to the next register, so that after
`i` steps `a` is the register that operation `i` writes.
-/

namespace DdsBridge

open Rfc1321 (Registers Op)

/-! ## The loop of the padding and the chunks -/

/-- `while msg.len() % 64 != 56 { msg.push(0); }`, for at most `fuel` tests. -/
def md5PadLoop : Nat → Bytes → Option Bytes
  | 0, _ => none
  | fuel + 1, msg => if msg.length % 64 = 56 then some msg else md5PadLoop fuel (msg ++ [0])

/-- `msg.chunks(64)` -/
def chunks64 (msg : Bytes) : List Bytes :=
  if msg = [] then [] else msg.take 64 :: chunks64 (msg.drop 64)
  termination_by msg.length
  decreasing_by
    have := List.length_pos_of_ne_nil ‹_›
    simp only [List.length_drop]
    omega

/-- `md5_hash` with its loops as they stand. -/
def md5HashLoops (fuel : Nat) (data : Bytes) : Option Bytes := do
  let msg ← md5PadLoop fuel (data ++ [0x80])
  let msg := msg ++ u64le (UInt64.ofNat data.length * 8)
  let s := (chunks64 msg).foldl md5Chunk md5Init
  return u32le s.a ++ (u32le s.b ++ (u32le s.c ++ u32le s.d))

theorem md5PadLoop_eq {k : Nat} : ∀ {fuel : Nat} {msg : Bytes}, (msg.length + k) % 64 = 56 →
    (∀ j < k, (msg.length + j) % 64 ≠ 56) → k < fuel → md5PadLoop fuel msg = some (msg ++ List.replicate k 0) := by
  induction k with
  | zero =>
    intro fuel msg hend _ hfuel
    obtain ⟨fuel, rfl⟩ := Nat.exists_eq_succ_of_ne_zero (Nat.ne_of_gt hfuel)
    rw [Nat.add_zero] at hend
    rw [md5PadLoop, if_pos hend, List.replicate_zero, List.append_nil]
  | succ k ih =>
    intro fuel msg hend hbefore hfuel
    obtain ⟨fuel, rfl⟩ := Nat.exists_eq_succ_of_ne_zero (Nat.ne_of_gt (Nat.zero_lt_of_lt hfuel))
    have hlen : (msg ++ [0]).length = msg.length + 1 := by simp
    have hnow : msg.length % 64 ≠ 56 := hbefore 0 (by omega)
    rw [md5PadLoop, if_neg hnow, ih, List.append_assoc, List.singleton_append, List.replicate_succ]
    · rw [hlen]
      omega
    · intro j hj
      rw [hlen, Nat.add_assoc, Nat.add_comm 1 j]
      exact hbefore (j + 1) (by omega)
    · omega

theorem zeros_eq (n : Nat) : Rfc1321.zeros n = (119 - n % 64) % 64 := by
  rw [Rfc1321.zeros_eq_iff]
  constructor
  · omega
  · intro j hj
    omega

theorem md5PadLoop_data (data : Bytes) {fuel : Nat} (h : 64 ≤ fuel) :
    md5PadLoop fuel (data ++ [0x80]) = some (data ++ 0x80 :: List.replicate ((119 - data.length % 64) % 64) 0) := by
  have hzeros := Rfc1321.zeros_eq_iff.mp (zeros_eq data.length)
  rw [md5PadLoop_eq (k := (119 - data.length % 64) % 64), List.append_assoc, List.singleton_append]
  · simpa using hzeros.1
  · simpa using hzeros.2
  · omega

theorem md5Pad_eq_padded (data : Bytes) : md5Pad data = Rfc1321.padded data := by
  have hbits : UInt64.ofNat (8 * data.length) = UInt64.ofNat data.length * 8 := by
    rw [Nat.mul_comm, UInt64.ofNat_mul]
    rfl
  rw [md5Pad, Rfc1321.padded, zeros_eq, hbits]

theorem md5Pad_length (data : Bytes) : (md5Pad data).length % 64 = 0 := by
  rw [md5Pad_eq_padded]
  exact Rfc1321.padded_length data

theorem md5Chunks_succ (n : Nat) (msg : Bytes) (s : Md5State) :
    md5Chunks (n + 1) msg s = md5Chunks n (msg.drop 64) (md5Chunk s (msg.take 64)) := by
  delta md5Chunks
  rfl

theorem foldl_chunks64 {n : Nat} : ∀ {msg : Bytes} {s : Md5State}, msg.length = 64 * n →
    (chunks64 msg).foldl md5Chunk s = md5Chunks n msg s := by
  induction n with
  | zero =>
    intro msg s h
    rw [List.length_eq_zero_iff.mp h, chunks64, if_pos rfl]
    rfl
  | succ n ih =>
    intro msg s h
    have hne : msg ≠ [] := List.ne_nil_of_length_pos (by omega)
    rw [chunks64, if_neg hne, List.foldl_cons, md5Chunks_succ, ih]
    rw [List.length_drop]
    omega

theorem chunks64_length {n : Nat} : ∀ {msg : Bytes}, msg.length = 64 * n → ∀ c ∈ chunks64 msg, c.length = 64 := by
  induction n with
  | zero =>
    intro msg h
    rw [List.length_eq_zero_iff.mp h, chunks64, if_pos rfl]
    exact nofun
  | succ n ih =>
    intro msg h
    have hne : msg ≠ [] := List.ne_nil_of_length_pos (by omega)
    rw [chunks64, if_neg hne, List.forall_mem_cons]
    constructor
    · rw [List.length_take]
      omega
    · apply ih
      rw [List.length_drop]
      omega

theorem md5HashLoops_eq (data : Bytes) {fuel : Nat} (h : 64 ≤ fuel) : md5HashLoops fuel data = some (md5Hash data) := by
  have hlen : (md5Pad data).length = 64 * ((md5Pad data).length / 64) := by
    have := md5Pad_length data
    omega
  have hpad : data ++ 0x80 :: List.replicate ((119 - data.length % 64) % 64) 0 ++
      u64le (UInt64.ofNat data.length * 8) = md5Pad data := by
    rw [md5Pad, List.append_assoc, List.cons_append]
  simp only [md5HashLoops, md5PadLoop_data data h, Option.bind_eq_bind, Option.bind_some, hpad, foldl_chunks64 hlen,
    md5Hash]
  rfl

/-! ## The steps of a chunk -/

theorem rotateLeft_eq_rotl (x : UInt32) {n : UInt32} (hpos : 0 < n.toNat) (hlt : n.toNat < 32) :
    rotateLeft x n = Rfc1321.rotl x n.toNat := by
  have hleft : n.toBitVec.toNat % 32 = n.toNat := Nat.mod_eq_of_lt hlt
  have hsub : (32 - n).toNat = 32 - n.toNat := UInt32.toNat_sub_of_le _ _ (UInt32.le_iff_toNat_le.mpr hlt.le)
  have hright : (32 - n).toBitVec.toNat % 32 = 32 - n.toNat := by
    change (32 - n).toNat % 32 = 32 - n.toNat
    omega
  rw [← UInt32.toBitVec_inj, rotateLeft, Rfc1321.rotl, BitVec.rotateLeft_def, UInt32.toBitVec_or,
    UInt32.toBitVec_shiftLeft, UInt32.toBitVec_shiftRight, BitVec.shiftLeft_eq', BitVec.ushiftRight_eq',
    BitVec.toNat_umod, BitVec.toNat_umod]
  change x.toBitVec <<< (n.toBitVec.toNat % 32) ||| x.toBitVec >>> ((32 - n).toBitVec.toNat % 32) = _
  rw [hleft, hright, Nat.mod_eq_of_lt hlt]

/-- The variables `a`, `b`, `c`, `d`, when `a` is the register `p`. -/
def registersFrom (r : Registers) (p : Fin 4) : Md5State where
  a := r p
  b := r (p + 1)
  c := r (p + 2)
  d := r (p + 3)

/-- The register that step `i` writes: 0, 3, 2, 1, 0 and so on. -/
def md5Register (i : Nat) : Fin 4 := Fin.ofNat 4 (3 * i)

def md5Op (i : Nat) : Op where
  a := md5Register i
  k := if i < 16 then i else if i < 32 then (5 * i + 1) % 16 else if i < 48 then (3 * i + 5) % 16 else (7 * i) % 16
  s := (md5Shifts.getD i 0).toNat
  i := i + 1

def md5Function (i : Nat) : UInt32 → UInt32 → UInt32 → UInt32 :=
  if i < 16 then Rfc1321.F else if i < 32 then Rfc1321.G else if i < 48 then Rfc1321.H else Rfc1321.I

theorem md5Constants_eq_T {i : Nat} (h : i < 64) : md5Constants.getD i 0 = Rfc1321.T (i + 1) := by
  have htable : ∀ i < 64, Rfc1321.Clear (i + 1) ∧ md5Constants.getD i 0 = UInt32.ofNat (Rfc1321.entry (i + 1)) := by
    decide +kernel
  rw [Rfc1321.T_eq (by omega) (htable i h).1]
  exact (htable i h).2

theorem md5Shifts_range {i : Nat} (h : i < 64) : 0 < (md5Shifts.getD i 0).toNat ∧ (md5Shifts.getD i 0).toNat < 32 := by
  revert i
  decide +kernel

theorem md5Round_b (m : List UInt32) (s : Md5State) (i : Nat) :
    (md5Round m s i).b = s.b + rotateLeft (s.a + md5Function i s.b s.c s.d + m.getD (md5Op i).k 0 +
      md5Constants.getD i 0) (md5Shifts.getD i 0) := by
  have hsum : ∀ f a k x : UInt32, f + a + k + x = a + f + x + k := by
    intro f a k x
    ac_rfl
  simp only [md5Round, md5Function, md5Op]
  split_ifs
  · rw [hsum]
    rfl
  · rw [hsum, UInt32.and_comm s.d, UInt32.and_comm _ s.c]
    rfl
  · rw [hsum]
    rfl
  · rw [hsum]
    rfl

theorem md5Round_eq {m : List UInt32} {X : Nat → UInt32} (hm : ∀ k < 16, m.getD k 0 = X k) (r : Registers) {i : Nat}
    (h : i < 64) :
    md5Round m (registersFrom r (md5Register i)) i =
      registersFrom ((md5Op i).run (md5Function i) X r) (md5Register (i + 1)) := by
  have hnext : md5Register (i + 1) = md5Register i + 3 := by
    simp only [md5Register, Fin.ext_iff, Fin.val_ofNat, Fin.val_add]
    omega
  have hwrap : ∀ p : Fin 4, p + 3 + 1 = p ∧ p + 3 + 2 = p + 1 ∧ p + 3 + 3 = p + 2 := by decide
  have hother : ∀ p : Fin 4, p + 1 ≠ p ∧ p + 2 ≠ p ∧ p + 3 ≠ p := by decide
  have hk : (md5Op i).k < 16 := by
    simp only [md5Op]
    split_ifs <;> omega
  have hrot := md5Shifts_range h
  have hb : (md5Round m (registersFrom r (md5Register i)) i).b =
      (md5Op i).run (md5Function i) X r (md5Register i) := by
    rw [md5Round_b, hm _ hk, md5Constants_eq_T h, rotateLeft_eq_rotl _ hrot.1 hrot.2]
    exact (Op.run_self _ X r (md5Op i)).symm
  have hkept : ∀ p ≠ md5Register i, (md5Op i).run (md5Function i) X r p = r p :=
    fun p hp => Op.run_of_ne _ X r hp
  obtain ⟨h1, h2, h3⟩ := hother (md5Register i)
  obtain ⟨w1, w2, w3⟩ := hwrap (md5Register i)
  rw [hnext]
  simp only [registersFrom, w1, w2, w3] at hb ⊢
  rw [hkept _ h1, hkept _ h2, hkept _ h3, ← hb]
  rfl

theorem foldl_md5Round {m : List UInt32} {X : Nat → UInt32} (hm : ∀ k < 16, m.getD k 0 = X k) (r : Registers) :
    ∀ n ≤ 64, (List.range n).foldl (md5Round m) (registersFrom r 0) =
      registersFrom ((List.range n).foldl (fun r i => (md5Op i).run (md5Function i) X r) r) (md5Register n) := by
  intro n
  induction n with
  | zero =>
    intro _
    rfl
  | succ n ih =>
    intro h
    rw [List.range_succ, List.foldl_concat, List.foldl_concat, ih (by omega), md5Round_eq hm _ (by omega)]

theorem foldl_md5Op_round {f : UInt32 → UInt32 → UInt32 → UInt32} {ops : List Op} {is : List Nat}
    (hops : is.map md5Op = ops) (hf : ∀ i ∈ is, md5Function i = f) (X : Nat → UInt32) (r : Registers) :
    is.foldl (fun r i => (md5Op i).run (md5Function i) X r) r = ops.foldl (Op.run f X) r := by
  rw [← hops, List.foldl_map]
  apply List.foldl_ext
  intro r i hi
  rw [hf i hi]

theorem foldl_md5Op (X : Nat → UInt32) (r : Registers) :
    (List.range 64).foldl (fun r i => (md5Op i).run (md5Function i) X r) r = Rfc1321.rounds X r := by
  have hrange : List.range 64 =
      List.range' 0 16 ++ (List.range' 16 16 ++ (List.range' 32 16 ++ List.range' 48 16)) := by
    decide
  have hF : ∀ i ∈ List.range' 0 16, md5Function i = Rfc1321.F := by
    intro i hi
    rw [List.mem_range'_1] at hi
    rw [md5Function, if_pos (by omega)]
  have hG : ∀ i ∈ List.range' 16 16, md5Function i = Rfc1321.G := by
    intro i hi
    rw [List.mem_range'_1] at hi
    rw [md5Function, if_neg (by omega), if_pos (by omega)]
  have hH : ∀ i ∈ List.range' 32 16, md5Function i = Rfc1321.H := by
    intro i hi
    rw [List.mem_range'_1] at hi
    rw [md5Function, if_neg (by omega), if_neg (by omega), if_pos (by omega)]
  have hI : ∀ i ∈ List.range' 48 16, md5Function i = Rfc1321.I := by
    intro i hi
    rw [List.mem_range'_1] at hi
    rw [md5Function, if_neg (by omega), if_neg (by omega), if_neg (by omega)]
  rw [hrange, List.foldl_append, List.foldl_append, List.foldl_append,
    foldl_md5Op_round (show (List.range' 0 16).map md5Op = Rfc1321.round1 by decide) hF,
    foldl_md5Op_round (show (List.range' 16 16).map md5Op = Rfc1321.round2 by decide) hG,
    foldl_md5Op_round (show (List.range' 32 16).map md5Op = Rfc1321.round3 by decide) hH,
    foldl_md5Op_round (show (List.range' 48 16).map md5Op = Rfc1321.round4 by decide) hI, Rfc1321.rounds]

/-! ## The chunks and the digest -/

theorem md5Chunk_eq (msg : Bytes) (r : Registers) (k : Nat) :
    md5Chunk (registersFrom r 0) ((msg.drop (64 * k)).take 64) = registersFrom (Rfc1321.process msg r k) 0 := by
  have hm : ∀ j < 16, ((List.range 16).map fun i =>
      u32FromLE ((((msg.drop (64 * k)).take 64).drop (i * 4)).take 4)).getD j 0 = Rfc1321.blockWord msg k j := by
    intro j hj
    have hmin : min 4 (64 - 4 * j) = 4 := by omega
    simp only [List.getD_eq_getElem?_getD, List.getElem?_map, List.getElem?_range hj, Option.map_some,
      Option.getD_some, List.drop_take, List.take_take, List.drop_drop, hmin, Nat.mul_comm j 4]
    rfl
  have hfold := foldl_md5Round hm r 64 (by omega)
  rw [foldl_md5Op] at hfold
  simp only [md5Chunk, hfold]
  simp only [registersFrom, Rfc1321.process, UInt32.add_comm]
  rfl

theorem md5Chunks_eq (msg : Bytes) : ∀ n k (r : Registers), md5Chunks n (msg.drop (64 * k)) (registersFrom r 0) =
    registersFrom ((List.range' k n).foldl (Rfc1321.process msg) r) 0 := by
  intro n
  induction n with
  | zero =>
    intro k r
    rfl
  | succ n ih =>
    intro k r
    rw [md5Chunks_succ, md5Chunk_eq, List.drop_drop, ← Nat.mul_succ, ih, List.range'_succ, List.foldl_cons]

/-- `md5_hash` is the digest of RFC 1321; its padding loop ends and its chunks are whole blocks. -/
theorem md5Hash_is_md5 (data : Bytes) (h : data.length < 2 ^ 61) :
    md5Hash data = Rfc1321.digest data ∧
      (∀ fuel ≥ 64, md5HashLoops fuel data = some (md5Hash data)) ∧
      (UInt64.ofNat data.length * 8).toNat = 8 * data.length ∧
      ∀ c ∈ chunks64 (md5Pad data), c.length = 64 := by
  have hlen : (md5Pad data).length = 64 * ((md5Pad data).length / 64) := by
    have := md5Pad_length data
    omega
  have hinit : md5Init = registersFrom Rfc1321.initial 0 := rfl
  have hchunks := md5Chunks_eq (md5Pad data) ((md5Pad data).length / 64) 0 Rfc1321.initial
  refine ⟨?_, fun fuel hfuel => md5HashLoops_eq data hfuel, ?_, chunks64_length hlen⟩
  · simp only [md5Hash, hinit]
    rw [Nat.mul_zero, List.drop_zero] at hchunks
    rw [hchunks, md5Pad_eq_padded, Rfc1321.digest, List.range_eq_range']
    rfl
  · rw [UInt64.toNat_mul, UInt64.toNat_ofNat_of_lt' (by rw [UInt64.size]; omega)]
    change data.length * 8 % 2 ^ 64 = _
    omega

theorem md5Hash_is_md5_sixty_bytes :
    md5Hash (List.replicate 60 7) = Rfc1321.digest (List.replicate 60 7) ∧
      (∀ fuel ≥ 64, md5HashLoops fuel (List.replicate 60 7) = some (md5Hash (List.replicate 60 7))) ∧
      (UInt64.ofNat (List.replicate 60 (7 : UInt8)).length * 8).toNat = 8 * (List.replicate 60 (7 : UInt8)).length ∧
      ∀ c ∈ chunks64 (md5Pad (List.replicate 60 7)), c.length = 64 :=
  md5Hash_is_md5 (List.replicate 60 7) (by rw [List.length_replicate]; norm_num)

end DdsBridge
