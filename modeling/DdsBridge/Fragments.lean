import DdsBridge.Sertype

/-!
# Received payloads

`sd_from_ser` copies a chain of fragments, `sd_from_ser_iov` a list of iovecs. Here both copy loops check each
access, and the C loop runs on machine integers: `none` stands for a read outside the source or a write outside
the buffer. `Sertype` has the same loops without the checks.
-/

namespace DdsBridge

/-! ## The copy loops with their accesses -/

/-- `memcpy(buf + off, src + start, count)` -/
def memcpy (buf : Bytes) (off : Nat) (src : Bytes) (start count : Nat) : Option Bytes :=
  if start + count ≤ src.length ∧ off + count ≤ buf.length then
    some (overwrite buf off ((src.drop start).take count))
  else none

/-- `copy_fragchain_to_buf` from `off` on: the buffer and the value returned. -/
def copyFragchainChecked (size : UInt64) : List Rdata → UInt64 → Bytes → Option (Bytes × UInt64)
  | [], off, buf => some (buf, if off < size then off else size)
  | frag :: nextfrag, off, buf =>
    if frag.maxp1 > off.toUInt32 then
      let start := if off > frag.min.toUInt64 then off - frag.min.toUInt64 else 0
      let count := (frag.maxp1 - off.toUInt32).toUInt64
      let count := if off + count > size then size - off else count
      match memcpy buf off.toNat frag.payload start.toNat count.toNat with
      | none => none
      | some buf =>
        let off := frag.maxp1.toUInt64
        if off ≥ size then some (buf, if off < size then off else size)
        else copyFragchainChecked size nextfrag off buf
    else copyFragchainChecked size nextfrag off buf

/-- The loop of `sd_from_ser_iov` from `offset` on; `size - offset` may not go below zero. -/
def copyIovChecked (size : Nat) : List Bytes → Nat → Bytes → Option Bytes
  | [], _, buf => some buf
  | io :: iovs, offset, buf =>
    if offset > size then none
    else
      let toCopy := min io.length (size - offset)
      if toCopy > 0 then
        match memcpy buf offset io 0 toCopy with
        | none => none
        | some buf => copyIovChecked size iovs (offset + toCopy) buf
      else copyIovChecked size iovs offset buf

theorem memcpy_eq_some {buf : Bytes} {off : Nat} {src : Bytes} {start count : Nat} {buf' : Bytes}
    (h : memcpy buf off src start count = some buf') :
    start + count ≤ src.length ∧ off + count ≤ buf.length ∧
      buf' = overwrite buf off ((src.drop start).take count) := by
  rw [memcpy] at h
  split at h
  · rename_i hb
    exact ⟨hb.1, hb.2, (Option.some.inj h).symm⟩
  · exact absurd h nofun

/-! ## A buffer that fills with a message -/

/-- `size` bytes, of which the first `off` are those of `M`. -/
structure FilledTo (M : Bytes) (size off : Nat) (buf : Bytes) : Prop where
  length : buf.length = size
  filled : buf.take off = M.take off

theorem filledTo_zero (M : Bytes) (size : Nat) : FilledTo M size 0 (List.replicate size 0) where
  length := List.length_replicate
  filled := by simp only [List.take_zero]

theorem FilledTo.eq_take {M : Bytes} {size off : Nat} {buf : Bytes} (h : FilledTo M size off buf)
    (hoff : size ≤ off) : buf = M.take size := by
  have hfull : buf.take size = M.take size := by
    have hle := congrArg (List.take size) h.filled
    rwa [List.take_take, List.take_take, Nat.min_eq_left hoff] at hle
  rwa [← h.length, List.take_length, h.length] at hfull

/-- The next bytes of the message are copied right behind what is there. -/
theorem FilledTo.memcpy {M : Bytes} {size off : Nat} {buf src : Bytes} (h : FilledTo M size off buf)
    (start count : Nat) (hsrc : start + count ≤ src.length) (hbuf : off + count ≤ size)
    (hbytes : (src.drop start).take count = (M.drop off).take count) :
    ∃ buf', memcpy buf off src start count = some buf' ∧ FilledTo M size (off + count) buf' := by
  have hlen : ((src.drop start).take count).length = count := by
    rw [List.length_take, List.length_drop]
    omega
  have hblen := h.length
  refine ⟨overwrite buf off ((src.drop start).take count), if_pos ⟨hsrc, h.length ▸ hbuf⟩, ?_, ?_⟩
  · simp only [overwrite, List.length_append, List.length_drop, hlen, List.length_take]
    omega
  · have htake : (buf.take off).length = off := by
      rw [List.length_take]
      omega
    have hfront : (buf.take off ++ (src.drop start).take count).length = off + count := by
      rw [List.length_append, htake, hlen]
    rw [overwrite, ← List.append_assoc, List.take_left' hfront, h.filled, hbytes, List.take_add]

/-! ## Fragment chains -/

/-- The fragment has the bytes `min .. maxp1` of `M`. -/
structure Rdata.Carries (M : Bytes) (frag : Rdata) : Prop where
  ordered : frag.min ≤ frag.maxp1
  within : frag.maxp1.toNat ≤ M.length
  payload : frag.payload = (M.drop frag.min.toNat).take (frag.maxp1.toNat - frag.min.toNat)

/-- Each fragment starts at or before the end `covered` of what the earlier ones cover; together they cover
`size`. -/
def CoversPayload (M : Bytes) (size : Nat) : List Rdata → Nat → Prop
  | [], covered => size ≤ covered
  | frag :: nextfrag, covered =>
    frag.Carries M ∧ frag.min.toNat ≤ covered ∧ CoversPayload M size nextfrag (max covered frag.maxp1.toNat)

theorem toNat_start (off : UInt64) (fragMin : UInt32) :
    (if off > fragMin.toUInt64 then off - fragMin.toUInt64 else 0).toNat = off.toNat - fragMin.toNat := by
  have hmin : fragMin.toUInt64.toNat = fragMin.toNat := UInt32.toNat_toUInt64 fragMin
  split
  · rename_i h
    rw [UInt64.toNat_sub_of_le _ _ (UInt64.le_of_lt h), hmin]
  · rename_i h
    rw [gt_iff_lt, UInt64.lt_iff_toNat_lt, hmin] at h
    rw [UInt64.toNat_zero]
    omega

/-- The subtraction of two 32-bit integers and the clamp at `size`. -/
theorem toNat_count {off size : UInt64} {maxp1 : UInt32} (h : off.toNat < maxp1.toNat) (hoff : off ≤ size) :
    (if off + (maxp1 - off.toUInt32).toUInt64 > size then size - off else (maxp1 - off.toUInt32).toUInt64).toNat =
      min maxp1.toNat size.toNat - off.toNat := by
  have hmax : maxp1.toNat < 2 ^ 32 := maxp1.toNat_lt
  have hoff32 : off.toUInt32.toNat = off.toNat := by
    rw [UInt64.toNat_toUInt32]
    omega
  have hcount : (maxp1 - off.toUInt32).toUInt64.toNat = maxp1.toNat - off.toNat := by
    have hle : off.toUInt32 ≤ maxp1 := by
      rw [UInt32.le_iff_toNat_le]
      omega
    rw [UInt32.toNat_toUInt64, UInt32.toNat_sub_of_le _ _ hle, hoff32]
  have hend : (off + (maxp1 - off.toUInt32).toUInt64).toNat = maxp1.toNat := by
    rw [UInt64.toNat_add, hcount]
    omega
  split
  · rename_i hgt
    rw [gt_iff_lt, UInt64.lt_iff_toNat_lt, hend] at hgt
    rw [UInt64.toNat_sub_of_le _ _ hoff]
    omega
  · rename_i hle
    rw [gt_iff_lt, UInt64.lt_iff_toNat_lt, hend] at hle
    omega

theorem maxp1_gt_iff {off : UInt64} {maxp1 : UInt32} (h : off.toNat < 2 ^ 32) :
    maxp1 > off.toUInt32 ↔ off.toNat < maxp1.toNat := by
  rw [gt_iff_lt, UInt32.lt_iff_toNat_lt, UInt64.toNat_toUInt32, Nat.mod_eq_of_lt h]

/-- The bytes of `M` from `off` on, found in a fragment that starts at or before `off`. -/
theorem Rdata.Carries.bytes {M : Bytes} {frag : Rdata} (h : frag.Carries M) {off : Nat} (count : Nat)
    (hmin : frag.min.toNat ≤ off) (hcount : off + count ≤ frag.maxp1.toNat) :
    (off - frag.min.toNat) + count ≤ frag.payload.length ∧
      (frag.payload.drop (off - frag.min.toNat)).take count = (M.drop off).take count := by
  have hwithin := h.within
  constructor
  · rw [h.payload, List.length_take, List.length_drop]
    omega
  · rw [h.payload, List.drop_take, List.drop_drop, List.take_take, Nat.add_sub_cancel' hmin,
      Nat.min_eq_left (by omega)]

theorem copyFragchainChecked_covers {M : Bytes} {size : UInt64} {chain : List Rdata} {off : UInt64} {buf : Bytes}
    (hcov : CoversPayload M size.toNat chain off.toNat) (hoff : off.toNat < 2 ^ 32) (hsize : off ≤ size)
    (hbuf : FilledTo M size.toNat off.toNat buf) :
    copyFragchainChecked size chain off buf = some (M.take size.toNat, size) := by
  induction chain generalizing off buf with
  | nil =>
    have hle : size.toNat ≤ off.toNat := hcov
    have hlt : ¬ off < size := by
      rw [UInt64.lt_iff_toNat_lt]
      omega
    rw [copyFragchainChecked, hbuf.eq_take hle, if_neg hlt]
  | cons frag nextfrag ih =>
    obtain ⟨hcarries, hmin, hrest⟩ := hcov
    have hsizeN : off.toNat ≤ size.toNat := UInt64.le_iff_toNat_le.mp hsize
    rw [copyFragchainChecked]
    by_cases hnew : frag.maxp1 > off.toUInt32
    · rw [if_pos hnew]
      rw [maxp1_gt_iff hoff] at hnew
      simp only [toNat_start, toNat_count hnew hsize]
      -- the piece ends where the fragment does, or at `size`
      have hend : off.toNat + (min frag.maxp1.toNat size.toNat - off.toNat) = min frag.maxp1.toNat size.toNat := by
        omega
      obtain ⟨hsrc, hbytes⟩ := hcarries.bytes (min frag.maxp1.toNat size.toNat - off.toNat) hmin (by omega)
      obtain ⟨buf', hcopy, hbuf'⟩ := hbuf.memcpy _ _ hsrc (by omega) hbytes
      rw [hend] at hbuf'
      have hmaxp1 : frag.maxp1.toUInt64.toNat = frag.maxp1.toNat := UInt32.toNat_toUInt64 frag.maxp1
      simp only [hcopy]
      by_cases hdone : frag.maxp1.toUInt64 ≥ size
      · have hle : size.toNat ≤ frag.maxp1.toNat := by
          rw [← hmaxp1]
          exact UInt64.le_iff_toNat_le.mp hdone
        rw [if_pos hdone, if_neg (UInt64.not_lt.mpr hdone), hbuf'.eq_take (by omega)]
      · have hlt : frag.maxp1.toNat < size.toNat := by
          rw [← hmaxp1, ← UInt64.lt_iff_toNat_lt]
          exact UInt64.not_le.mp hdone
        rw [if_neg hdone]
        apply ih
        · rw [hmaxp1]
          rwa [Nat.max_eq_right (Nat.le_of_lt hnew)] at hrest
        · rw [hmaxp1]
          exact frag.maxp1.toNat_lt
        · exact UInt64.le_of_lt (UInt64.not_le.mp hdone)
        · rw [hmaxp1]
          rwa [Nat.min_eq_left (Nat.le_of_lt hlt)] at hbuf'
    · rw [if_neg hnew]
      rw [maxp1_gt_iff hoff, Nat.not_lt] at hnew
      rw [Nat.max_eq_left hnew] at hrest
      exact ih hrest hoff hsize hbuf

/-! ## Iovecs -/

/-- Once the buffer is full the other iovecs are passed over. -/
theorem copyIovChecked_full (size : Nat) (iov : List Bytes) (buf : Bytes) :
    copyIovChecked size iov size buf = some buf := by
  induction iov with
  | nil => rfl
  | cons io iovs ih =>
    rw [copyIovChecked, if_neg (Nat.lt_irrefl size)]
    simp only [Nat.sub_self, Nat.min_zero, gt_iff_lt, Nat.lt_irrefl, if_false, ih]

theorem copyIovChecked_filled {M : Bytes} {size : Nat} (hM : size ≤ M.length) {iov : List Bytes} {offset : Nat}
    {buf : Bytes} (hiov : iov.flatten = M.drop offset) (hoffset : offset ≤ size)
    (hbuf : FilledTo M size offset buf) : copyIovChecked size iov offset buf = some (M.take size) := by
  induction iov generalizing offset buf with
  | nil =>
    have hlen : M.length ≤ offset := List.drop_eq_nil_iff.mp hiov.symm
    rw [copyIovChecked, hbuf.eq_take (by omega)]
  | cons io iovs ih =>
    rw [List.flatten_cons] at hiov
    have hrest : iovs.flatten = M.drop (offset + io.length) := by
      rw [← List.drop_drop, ← hiov, List.drop_left]
    by_cases hend : size ≤ offset + io.length
    · -- this one fills the buffer
      have hmin : min io.length (size - offset) = size - offset := by omega
      rw [copyIovChecked, if_neg (by omega), hmin]
      by_cases hfull : offset = size
      · subst hfull
        rw [if_neg (by omega), copyIovChecked_full, hbuf.eq_take (Nat.le_refl _)]
      · have hbytes : (io.drop 0).take (size - offset) = (M.drop offset).take (size - offset) := by
          rw [← hiov, List.drop_zero, List.take_append_of_le_length (by omega)]
        obtain ⟨buf', hcopy, hbuf'⟩ := hbuf.memcpy 0 (size - offset) (by omega) (by omega) hbytes
        rw [Nat.add_sub_cancel' hoffset] at hbuf'
        simp only [if_pos (show size - offset > 0 by omega), hcopy, Nat.add_sub_cancel' hoffset, copyIovChecked_full,
          hbuf'.eq_take (Nat.le_refl _)]
    · have hmin : min io.length (size - offset) = io.length := by omega
      rw [copyIovChecked, if_neg (by omega), hmin]
      by_cases hempty : io.length = 0
      · rw [hempty, Nat.add_zero] at hrest
        rw [if_neg (by omega)]
        exact ih hrest hoffset hbuf
      · have hbytes : (io.drop 0).take io.length = (M.drop offset).take io.length := by
          rw [← hiov, List.drop_zero, List.take_length, List.take_left]
        obtain ⟨buf', hcopy, hbuf'⟩ := hbuf.memcpy 0 io.length (by omega) (by omega) hbytes
        simp only [if_pos (show io.length > 0 by omega), hcopy]
        exact ih hrest (by omega) hbuf'

/-! ## The loops without the checks -/

theorem copyFragchainToBuf_of_checked {size : UInt64} {chain : List Rdata} {off : UInt64} {buf : Bytes}
    {r : Bytes × UInt64} (hoff : off.toNat < 2 ^ 32) (hsize : off ≤ size)
    (h : copyFragchainChecked size chain off buf = some r) :
    copyFragchainToBuf size.toNat chain off.toNat buf = r.1 := by
  induction chain generalizing off buf with
  | nil =>
    cases h
    rfl
  | cons frag nextfrag ih =>
    rw [copyFragchainChecked] at h
    by_cases hnew : frag.maxp1 > off.toUInt32
    · rw [if_pos hnew] at h
      rw [maxp1_gt_iff hoff] at hnew
      simp only [toNat_start, toNat_count hnew hsize] at h
      have hmaxp1 : frag.maxp1.toUInt64.toNat = frag.maxp1.toNat := UInt32.toNat_toUInt64 frag.maxp1
      have hcount : (if off.toNat + (frag.maxp1.toNat - off.toNat) > size.toNat then size.toNat - off.toNat
          else frag.maxp1.toNat - off.toNat) = min frag.maxp1.toNat size.toNat - off.toNat := by
        split <;> omega
      simp only [copyFragchainToBuf, if_pos hnew, hcount]
      split at h
      · cases h
      · rename_i buf' hcopy
        obtain ⟨-, -, rfl⟩ := memcpy_eq_some hcopy
        by_cases hdone : frag.maxp1.toUInt64 ≥ size
        · rw [if_pos hdone] at h
          cases h
          rw [if_pos (hmaxp1 ▸ UInt64.le_iff_toNat_le.mp hdone)]
        · rw [if_neg hdone] at h
          rw [if_neg (fun hle => hdone (UInt64.le_iff_toNat_le.mpr (hmaxp1.symm ▸ hle))), ← hmaxp1]
          exact ih (hmaxp1 ▸ frag.maxp1.toNat_lt) (UInt64.le_of_lt (UInt64.not_le.mp hdone)) h
    · rw [if_neg hnew] at h
      rw [maxp1_gt_iff hoff] at hnew
      rw [copyFragchainToBuf, if_neg hnew]
      exact ih hoff hsize h

theorem copyIov_of_checked {size : Nat} {iov : List Bytes} {offset : Nat} {buf buf' : Bytes}
    (h : copyIovChecked size iov offset buf = some buf') : copyIov size iov offset buf = buf' := by
  induction iov generalizing offset buf with
  | nil =>
    cases h
    rfl
  | cons io iovs ih =>
    rw [copyIovChecked] at h
    rw [copyIov]
    split at h
    · cases h
    · dsimp only at h
      split at h
      · rename_i hpos
        split at h
        · cases h
        · rename_i buf'' hcopy
          obtain ⟨-, -, rfl⟩ := memcpy_eq_some hcopy
          rw [List.drop_zero] at h
          rw [if_pos hpos]
          exact ih h
      · rename_i hpos
        rw [if_neg hpos]
        exact ih h

/-- Both constructors build the first `size` bytes of the message, whichever way it is cut up. -/
theorem received_payload_rebuilt (M : Bytes) (size : UInt64) (hsize : size.toNat ≤ M.length) (chain : List Rdata)
    (hchain : CoversPayload M size.toNat chain 0) (iov : List Bytes) (hiov : iov.flatten = M) (st : OpaqueSertype)
    (kind : SerdataKind) :
    copyFragchainChecked size chain 0 (List.replicate size.toNat 0) = some (M.take size.toNat, size) ∧
      copyIovChecked size.toNat iov 0 (List.replicate size.toNat 0) = some (M.take size.toNat) ∧
      sdFromSer st kind chain size.toNat = unkeyedSerdata st kind (M.take size.toNat) ∧
      sdFromSerIov st kind iov size.toNat = unkeyedSerdata st kind (M.take size.toNat) := by
  have hzero : (0 : UInt64) ≤ size := UInt64.zero_le
  have hfrag := copyFragchainChecked_covers hchain (by decide) hzero (filledTo_zero M size.toNat)
  have hiovs := copyIovChecked_filled hsize (hiov.trans List.drop_zero.symm) (Nat.zero_le _)
    (filledTo_zero M size.toNat)
  refine ⟨hfrag, hiovs, ?_, ?_⟩
  · rw [sdFromSer]
    exact congrArg _ (copyFragchainToBuf_of_checked (by decide) hzero hfrag)
  · rw [sdFromSerIov, copyIov_of_checked hiovs]

theorem received_payload_rebuilt_overlap :
    let M : Bytes := [10, 11, 12, 13, 14, 15, 16, 17]
    let chain : List Rdata := [⟨0, 4, [10, 11, 12, 13]⟩, ⟨1, 3, [11, 12]⟩, ⟨2, 8, [12, 13, 14, 15, 16, 17]⟩]
    let iov : List Bytes := [[], [10, 11, 12], [], [13, 14, 15, 16, 17]]
    let st : OpaqueSertype := ⟨[84], true, []⟩
    CoversPayload M 7 chain 0 ∧
      copyFragchainChecked 7 chain 0 (List.replicate 7 0) = some (M.take 7, 7) ∧
      copyIovChecked 7 iov 0 (List.replicate 7 0) = some (M.take 7) ∧
      sdFromSer st .data chain 7 = unkeyedSerdata st .data (M.take 7) ∧
      sdFromSerIov st .data iov 7 = unkeyedSerdata st .data (M.take 7) := by
  intro M chain iov st
  have hchain : CoversPayload M 7 chain 0 := by
    refine ⟨⟨?_, ?_, ?_⟩, ?_, ⟨?_, ?_, ?_⟩, ?_, ⟨?_, ?_, ?_⟩, ?_, show 7 ≤ 8 by decide⟩
    all_goals decide
  exact ⟨hchain, received_payload_rebuilt M 7 (by decide) chain hchain iov rfl st .data⟩

end DdsBridge
