import DdsBridge.SerdataKeys

/-!
# From a serdata to its key hash and back

`sd_from_keyhash` makes a payload of the sixteen bytes of a key hash, and `sd_eqkey` looks for the
key fields in it at the offsets they have in a real payload. They are found again only when
`sd_get_keyhash` has put the same bytes at the same places.
-/

namespace DdsBridge

/-! ## Where a key field lies -/

/-- Four bytes as a CDR length, in the byte order that the header's second byte says. -/
def lengthIn (second : UInt8) (bytes : Bytes) : UInt32 :=
  if second &&& 0x01 ≠ 0 then u32FromLE bytes else u32FromLE bytes.reverse

def fieldExtent (data : Bytes) (field : KeyField) : Nat :=
  match field.typeHint with
  | .string => 4 + ((readU32Cdr data field.offset.toNat).getD 0).toNat
  | _ => field.size.toNat

def ContainsField (data : Bytes) (field : KeyField) : Prop :=
  field.offset.toNat + fieldExtent data field ≤ data.length

/-- A key hash filled from `bytes` has the field of `data` at the place it has in `data`. -/
def InPlace (bytes data : Bytes) (field : KeyField) : Prop :=
  let offset := field.offset.toNat
  let extent := fieldExtent data field
  extent = 0 ∨ (offset + extent ≤ 16 ∧ (∀ i < extent, bytes.getD (offset + i) 0 = data.getD (offset + i) 0) ∧
    (field.typeHint = .string →
      min (offset + 4 + (lengthIn (bytes.getD 1 0) ((data.drop offset).take 4)).toNat) 16 = offset + extent))

instance (data : Bytes) (field : KeyField) : Decidable (ContainsField data field) :=
  inferInstanceAs (Decidable (_ ≤ _))

theorem readU32Cdr_eq {data : Bytes} {offset : Nat} (h : offset + 4 ≤ data.length) :
    readU32Cdr data offset = some (lengthIn (data.getD 1 0) ((data.drop offset).take 4)) := by
  have hlen : data.length ≥ 2 := by omega
  have hshort : ¬ offset + 4 > data.length := by omega
  simp only [readU32Cdr, lengthIn, hshort, hlen, true_and, if_false]
  split
  · rfl
  · rfl

section
variable {data : Bytes} {field : KeyField}

theorem fieldExtent_string (h : field.typeHint = .string) :
    fieldExtent data field = 4 + ((readU32Cdr data field.offset.toNat).getD 0).toNat := by
  rw [fieldExtent, h]

theorem fieldExtent_fixed (h : field.typeHint ≠ .string) : fieldExtent data field = field.size.toNat := by
  unfold fieldExtent
  split
  · contradiction
  · rfl

/-- What is extracted lies between the field's offset and its end or the end of the buffer. -/
theorem extractKeyBytes_eq (h : field.typeHint = .string → field.offset.toNat + 4 ≤ data.length) :
    extractKeyBytes data field = (data.drop field.offset.toNat).take
      (min (field.offset.toNat + fieldExtent data field) data.length - field.offset.toNat) := by
  unfold extractKeyBytes
  by_cases hout : field.offset.toNat ≥ data.length
  · simp only [hout, if_true]
    rw [List.drop_eq_nil_of_le hout, List.take_nil]
  · simp only [hout, if_false]
    by_cases hs : field.typeHint = .string
    · rw [fieldExtent_string hs]
      simp only [hs, readU32Cdr_eq (h hs), Option.getD_some]
      rw [Nat.add_assoc]
    · rw [fieldExtent_fixed hs]
      split
      · contradiction
      · rfl

theorem extractKeyBytes_contained (h : ContainsField data field) :
    extractKeyBytes data field = (data.drop field.offset.toNat).take (fieldExtent data field) := by
  have hle : field.offset.toNat + fieldExtent data field ≤ data.length := h
  rw [extractKeyBytes_eq, Nat.min_eq_left hle, Nat.add_sub_cancel_left]
  intro hs
  rw [fieldExtent_string hs] at hle
  omega

theorem extractKeyBytes_length (h : ContainsField data field) :
    (extractKeyBytes data field).length = fieldExtent data field := by
  rw [extractKeyBytes_contained h]
  exact window_length h

theorem extractKeyBytes_short (hs : field.typeHint = .string) (h : data.length < field.offset.toNat + 4) :
    extractKeyBytes data field = [] := by
  unfold extractKeyBytes
  by_cases hout : field.offset.toNat ≥ data.length
  · simp only [hout, if_true]
  · simp [hs, hout, readU32Cdr, h]

end

/-! ## What `sd_get_keyhash` fills -/

section
variable {bytes : Bytes}

theorem fillKeyhash_length (h : bytes.length ≤ 16) : (fillKeyhash bytes).length = 16 := by
  rw [fillKeyhash, List.length_append, List.length_replicate]
  omega

theorem fillKeyhash_getD (i : Nat) : (fillKeyhash bytes).getD i 0 = bytes.getD i 0 := by
  simp only [fillKeyhash, List.getD_eq_getElem?_getD, List.getElem?_append, List.getElem?_replicate]
  split
  · rfl
  · rw [List.getElem?_eq_none (by omega)]
    split
    · rfl
    · rfl

theorem fillKeyhash_of_full (h : bytes.length = 16) : fillKeyhash bytes = bytes := by
  simp [fillKeyhash, h]

end

theorem md5Hash_length (data : Bytes) : (md5Hash data).length = 16 := by
  simp [md5Hash]

theorem sdGetKeyhash_length (sd : OpaqueSerdata) (forceMd5 : Bool) : (sdGetKeyhash sd forceMd5).length = 16 := by
  have hempty : (fillKeyhash []).length = 16 := fillKeyhash_length (Nat.zero_le _)
  unfold sdGetKeyhash
  cases sd.keyBytes? with
  | some keyBytes =>
    dsimp only
    split
    case isTrue h => exact fillKeyhash_length h.2
    case isFalse => exact md5Hash_length keyBytes
  | none =>
    dsimp only
    split
    · exact hempty
    · cases sd.data with
      | none => exact hempty
      | some data =>
        dsimp only
        split
        · exact hempty
        · exact fillKeyhash_length (by simp)

/-- The key hash as the fixed array that `sd_get_keyhash` fills in. -/
def keyhashOf (sd : OpaqueSerdata) (forceMd5 : Bool) : Vector UInt8 16 :=
  ⟨(sdGetKeyhash sd forceMd5).toArray, by rw [List.size_toArray, sdGetKeyhash_length]⟩

/-! ## The round trip -/

theorem fieldExtent_of_extract {data : Bytes} {field : KeyField} (hd : ContainsField data field)
    (h : extractKeyBytes data field = []) : fieldExtent data field = 0 := by
  rw [← extractKeyBytes_length hd, h]
  rfl

section
variable {bytes data : Bytes} {field : KeyField} (hb : bytes.length ≤ 16) (hd : ContainsField data field)
include hb hd

theorem extractKeyBytes_eq_iff_of_string (hs : field.typeHint = .string) :
    extractKeyBytes data field = extractKeyBytes (fillKeyhash bytes) field ↔ InPlace bytes data field := by
  have hfill := fillKeyhash_length hb
  have hle : field.offset.toNat + fieldExtent data field ≤ data.length := hd
  have hpos : 4 ≤ fieldExtent data field := by
    rw [fieldExtent_string hs]
    omega
  by_cases hfit : field.offset.toNat + 4 ≤ 16
  · have hread : extractKeyBytes (fillKeyhash bytes) field = _ := extractKeyBytes_eq (fun _ => by omega)
    rw [fieldExtent_string hs, readU32Cdr_eq (by omega), hfill, fillKeyhash_getD, Option.getD_some] at hread
    rw [extractKeyBytes_contained hd, hread, window_eq_iff hle (by omega)]
    simp only [fillKeyhash_getD]
    by_cases hsame : ∀ i < fieldExtent data field,
        bytes.getD (field.offset.toNat + i) 0 = data.getD (field.offset.toNat + i) 0
    · have hfour : (data.drop field.offset.toNat).take 4 = ((fillKeyhash bytes).drop field.offset.toNat).take 4 := by
        apply (window_eq_iff (by omega) (by omega)).mpr
        refine ⟨rfl, fun i hi => ?_⟩
        rw [fillKeyhash_getD]
        exact hsame i (by omega)
      rw [← hfour]
      refine ⟨fun h => ?_, fun h => ?_⟩
      · have hend := h.1
        exact .inr ⟨by omega, hsame, fun _ => by omega⟩
      · obtain h | ⟨_, _, hend⟩ := h
        · omega
        · have := hend hs
          exact ⟨by omega, hsame⟩
    · refine iff_of_false (fun h => hsame h.2) (fun h => ?_)
      obtain h | ⟨_, h, _⟩ := h
      · omega
      · exact hsame h
  · -- not even the length of the string is in the key hash
    have hnone : extractKeyBytes (fillKeyhash bytes) field = [] := extractKeyBytes_short hs (by omega)
    rw [hnone]
    refine iff_of_false (fun h => ?_) (fun h => ?_)
    · have := fieldExtent_of_extract hd h
      omega
    · obtain h | ⟨h, _⟩ := h
      · omega
      · omega

theorem extractKeyBytes_eq_iff_of_fixed (hs : field.typeHint ≠ .string) :
    extractKeyBytes data field = extractKeyBytes (fillKeyhash bytes) field ↔ InPlace bytes data field := by
  have hfill := fillKeyhash_length hb
  have hle : field.offset.toNat + fieldExtent data field ≤ data.length := hd
  have hext : fieldExtent (fillKeyhash bytes) field = fieldExtent data field := by
    rw [fieldExtent_fixed hs, fieldExtent_fixed hs]
  have hread : extractKeyBytes (fillKeyhash bytes) field = _ := extractKeyBytes_eq (fun h => absurd h hs)
  rw [hext, hfill] at hread
  rw [hread]
  by_cases hfit : field.offset.toNat ≤ 16
  · rw [extractKeyBytes_contained hd, window_eq_iff hle (by omega)]
    simp only [fillKeyhash_getD]
    refine ⟨fun h => ?_, fun h => ?_⟩
    · obtain ⟨hend, hsame⟩ := h
      by_cases h0 : fieldExtent data field = 0
      · exact .inl h0
      · exact .inr ⟨by omega, hsame, fun h => absurd h hs⟩
    · obtain h0 | ⟨hend, hsame, _⟩ := h
      · exact ⟨by omega, fun i hi => by omega⟩
      · exact ⟨by omega, hsame⟩
  · rw [List.drop_eq_nil_of_le (by omega), List.take_nil]
    refine ⟨fun h => .inl (fieldExtent_of_extract hd h), fun h => ?_⟩
    obtain h0 | ⟨hend, _⟩ := h
    · rw [← List.length_eq_zero_iff, extractKeyBytes_length hd]
      exact h0
    · omega

/-- A field is read the same from the payload and from a key hash exactly when it is in place there. -/
theorem extractKeyBytes_eq_iff :
    extractKeyBytes data field = extractKeyBytes (fillKeyhash bytes) field ↔ InPlace bytes data field := by
  by_cases hs : field.typeHint = .string
  · exact extractKeyBytes_eq_iff_of_string hb hd hs
  · exact extractKeyBytes_eq_iff_of_fixed hb hd hs

end

/-- The fields of `x` are where its key hash puts them: the key bytes if they fit, their MD5 digest
if they do not, and for a serdata without key bytes the four bytes of the payload's hash. -/
def KeyInPlace (x : OpaqueSerdata) (forceMd5 : Bool) : Prop :=
  let source := match x.keyBytes? with
    | some keyBytes => if !forceMd5 ∧ keyBytes.length ≤ 16 then keyBytes else md5Hash keyBytes
    | none => u32le (hashKeyBytes x.payload x.sertype.keyFields)
  ∀ field ∈ x.sertype.keyFields, InPlace source x.payload field

theorem sdEqkey_keyhash (x : OpaqueSerdata) (kh : Vector UInt8 16) (data : Bytes) (h : x.data = some data) :
    sdEqkey x (sdFromKeyhash x.sertype kh) = true ↔ ∀ field ∈ x.sertype.keyFields,
      extractKeyBytes data field = extractKeyBytes kh.toList field := by
  have hnone : (sdFromKeyhash x.sertype kh).keyBytes? = none := rfl
  have hdata : (sdFromKeyhash x.sertype kh).data = some kh.toList := rfl
  have hkeys : sdEqkey x (sdFromKeyhash x.sertype kh) =
      if x.sertype.keyFields.isEmpty then true else keysEqual data kh.toList x.sertype.keyFields := by
    unfold sdEqkey
    rw [hnone, h, hdata]
    cases x.keyBytes? with
    | none => rfl
    | some _ => rfl
  rw [hkeys]
  by_cases hempty : x.sertype.keyFields.isEmpty
  · simp [List.isEmpty_iff.mp hempty]
  · simp only [hempty, if_false, Bool.false_eq_true]
    rw [keysEqual_iff, List.map_inj_left]

/-- **When the serdata of a key hash is the instance that the key hash was taken of.** -/
theorem keyhash_round_trip_iff (x : OpaqueSerdata) (data : Bytes) (hdata : x.data = some data)
    (hcontains : ∀ field ∈ x.sertype.keyFields, ContainsField data field) (forceMd5 : Bool) :
    sdEqkey x (sdFromKeyhash x.sertype (keyhashOf x forceMd5)) = true ↔ KeyInPlace x forceMd5 := by
  have hpayload : x.payload = data := by rw [OpaqueSerdata.payload, hdata, Option.getD_some]
  have hbytes : (keyhashOf x forceMd5).toList = sdGetKeyhash x forceMd5 := rfl
  rw [sdEqkey_keyhash x _ data hdata, hbytes]
  unfold KeyInPlace
  rw [hpayload]
  apply forall₂_congr
  intro field hfield
  have hd := hcontains field hfield
  cases hkey : x.keyBytes? with
  | some keyBytes =>
    rw [sdGetKeyhash_of_key hkey]
    by_cases hraw : !forceMd5 ∧ keyBytes.length ≤ 16
    · simp only [if_pos hraw]
      exact extractKeyBytes_eq_iff hraw.2 hd
    · simp only [if_neg hraw]
      have hmd5 := extractKeyBytes_eq_iff (Nat.le_of_eq (md5Hash_length keyBytes)) hd
      rwa [fillKeyhash_of_full (md5Hash_length keyBytes)] at hmd5
  | none =>
    have hkeyed : ¬ x.sertype.keyFields.isEmpty := by
      rw [List.isEmpty_iff]
      exact List.ne_nil_of_mem hfield
    simp only [sdGetKeyhash, hkey, hkeyed, hdata, if_false, Bool.false_eq_true]
    by_cases hempty : data = []
    · -- every field is empty, and then it does not matter what is in the key hash
      have h0 : fieldExtent data field = 0 := by
        have hle : field.offset.toNat + fieldExtent data field ≤ data.length := hd
        rw [hempty, List.length_nil] at hle
        rw [hempty]
        omega
      rw [if_pos (List.isEmpty_iff.mpr hempty), extractKeyBytes_eq_iff (Nat.zero_le _) hd]
      exact iff_of_true (.inl h0) (.inl h0)
    · rw [if_neg (fun h => hempty (List.isEmpty_iff.mp h))]
      exact extractKeyBytes_eq_iff (by simp) hd

/-- The payload's first eight bytes as key bytes: the one layout that a key hash keeps. -/
theorem prefix_round_trips :
    let st : OpaqueSertype := { typeName := [84], topickindNoKey := false, keyFields := [⟨4, 4, .int32⟩] }
    let data : Bytes := [0, 1, 0, 0, 7, 0, 0, 0]
    let x := sdFromSample st .data (.fromBytes data data)
    sdEqkey x (sdFromKeyhash st (keyhashOf x false)) = true ∧ KeyInPlace x false := by
  intro st data x
  have hround := keyhash_round_trip_iff x data rfl (by decide) false
  have heq : sdEqkey x (sdFromKeyhash st (keyhashOf x false)) = true := by decide
  exact ⟨heq, hround.mp heq⟩

/-- An `int32` key of 7 after the encapsulation header: with its own four bytes as key bytes and
with none, whether an MD5 digest is asked for or not. -/
theorem keyhash_loses_instance :
    let st : OpaqueSertype := { typeName := [84], topickindNoKey := false, keyFields := [⟨4, 4, .int32⟩] }
    let data : Bytes := [0, 1, 0, 0, 7, 0, 0, 0]
    let x := sdFromSample st .data (.fromBytes data [7, 0, 0, 0])
    let y := sdFromSample st .data (.fromBytes data [])
    (∀ field ∈ st.keyFields, ContainsField data field) ∧
      (∀ forceMd5, sdEqkey x (sdFromKeyhash st (keyhashOf x forceMd5)) = false) ∧
      (∀ forceMd5, sdEqkey y (sdFromKeyhash st (keyhashOf y forceMd5)) = false) := by
  decide +kernel

end DdsBridge
