import DdsBridge.KeyhashRoundTrip

/-!
# Only key bytes decide the instance

Two payloads with the same bytes where the key fields of the first one lie, and the same byte order, have the same
keys. Extraction is written out once more with every index, slice and addition that could panic.
-/

namespace DdsBridge

/-! ## Extraction with its accesses -/

section
variable {ε : Type}

/-- `data[i]` -/
def indexAt (data : Bytes) (i : Nat) : Res ε UInt8 :=
  match data[i]? with
  | some b => .ok b
  | none => .panic

/-- `&data[start..stop]` -/
def sliceOf (data : Bytes) (start stop : Nat) : Res ε Bytes :=
  if start ≤ stop ∧ stop ≤ data.length then .ok ((data.drop start).take (stop - start)) else .panic

/-- `a + b`, where a `usize` has 64 bits. -/
def addUsize (a b : Nat) : Res ε Nat := if a + b < 2 ^ 64 then .ok (a + b) else .panic

/-- `data.len() >= 2 && (data[1] & 0x01) != 0` -/
def isLittleEndian (data : Bytes) : Res ε Bool :=
  if data.length ≥ 2 then (fun second => decide (second &&& 0x01 ≠ 0)) <$> indexAt data 1 else .ok false

def readU32CdrChecked (data : Bytes) (offset : Nat) : Res ε (Option UInt32) := do
  let stop ← addUsize offset 4
  if stop > data.length then return none
  else
    let b0 ← indexAt data offset
    let b1 ← indexAt data (offset + 1)
    let b2 ← indexAt data (offset + 2)
    let b3 ← indexAt data (offset + 3)
    let le ← isLittleEndian data
    return some (if le then u32FromLE [b0, b1, b2, b3] else u32FromLE [b3, b2, b1, b0])

def extractKeyBytesChecked (data : Bytes) (field : KeyField) : Res ε Bytes := do
  let offset := field.offset.toNat
  if offset ≥ data.length then return []
  else match field.typeHint with
    | .string => do
      match ← readU32CdrChecked data offset with
      | some strLen => do
        let chars ← addUsize offset 4
        let stop ← addUsize chars strLen.toNat
        sliceOf data offset (min stop data.length)
      | none => return []
    | _ => do
      let stop ← addUsize offset field.size.toNat
      sliceOf data offset (min stop data.length)

theorem indexAt_eq {data : Bytes} {i : Nat} (h : i < data.length) :
    (indexAt data i : Res ε UInt8) = .ok (data.getD i 0) := by
  simp only [indexAt, List.getD_eq_getElem?_getD, List.getElem?_eq_getElem h, Option.getD_some]

theorem addUsize_eq {a b : Nat} (h : a + b < 2 ^ 64) : (addUsize a b : Res ε Nat) = .ok (a + b) := if_pos h

theorem sliceOf_eq {data : Bytes} {start stop : Nat} (h : start < data.length) (hstop : start ≤ stop) :
    (sliceOf data start (min stop data.length) : Res ε Bytes) =
      .ok ((data.drop start).take (min stop data.length - start)) :=
  if_pos ⟨by omega, by omega⟩

theorem four_bytes {data : Bytes} {offset : Nat} (h : offset + 4 ≤ data.length) :
    (data.drop offset).take 4 =
      [data.getD offset 0, data.getD (offset + 1) 0, data.getD (offset + 2) 0, data.getD (offset + 3) 0] := by
  apply List.ext_getElem?
  intro i
  by_cases hi : i < 4
  · rw [window_getElem? i hi, List.getElem?_eq_getElem (by omega)]
    obtain rfl | rfl | rfl | rfl : i = 0 ∨ i = 1 ∨ i = 2 ∨ i = 3 := by omega
    all_goals simp [List.getD_eq_getElem?_getD, show offset < data.length by omega,
      show offset + 1 < data.length by omega, show offset + 2 < data.length by omega,
      show offset + 3 < data.length by omega]
  · rw [List.getElem?_eq_none (by rw [window_length h]; omega), List.getElem?_eq_none (by simp; omega)]

theorem readU32CdrChecked_eq (data : Bytes) {offset : Nat} (h : offset < 2 ^ 32) :
    (readU32CdrChecked data offset : Res ε (Option UInt32)) = .ok (readU32Cdr data offset) := by
  rw [readU32CdrChecked, addUsize_eq (by omega), Res.ok_bind]
  by_cases hshort : offset + 4 > data.length
  · rw [if_pos hshort, readU32Cdr, if_pos hshort]
    rfl
  · have hlen : data.length ≥ 2 := by omega
    rw [if_neg hshort, indexAt_eq (by omega), indexAt_eq (by omega), indexAt_eq (by omega), indexAt_eq (by omega),
      isLittleEndian, if_pos hlen, indexAt_eq (by omega), readU32Cdr_eq (by omega), four_bytes (by omega), lengthIn]
    change Res.ok (some (if decide (data.getD 1 0 &&& 0x01 ≠ 0) then _ else _)) = _
    simp only [decide_eq_true_eq]
    rfl

/-- Extraction comes back for every payload and every field. -/
theorem extractKeyBytesChecked_eq (data : Bytes) (field : KeyField) :
    (extractKeyBytesChecked data field : Res ε Bytes) = .ok (extractKeyBytes data field) := by
  have hoffset := field.offset.toNat_lt
  have hsize := field.size.toNat_lt
  rw [extractKeyBytesChecked, extractKeyBytes]
  by_cases hout : field.offset.toNat ≥ data.length
  · simp only [hout, if_true]
    rfl
  · simp only [hout, if_false]
    have hin : field.offset.toNat < data.length := Nat.not_le.mp hout
    cases field.typeHint with
    | string =>
      simp only [readU32CdrChecked_eq data hoffset, Res.ok_bind]
      cases readU32Cdr data field.offset.toNat with
      | none => rfl
      | some strLen =>
        have hstr := strLen.toNat_lt
        simp only [addUsize_eq (show field.offset.toNat + 4 < 2 ^ 64 by omega), Res.ok_bind,
          addUsize_eq (show field.offset.toNat + 4 + strLen.toNat < 2 ^ 64 by omega)]
        exact sliceOf_eq hin (by omega)
    | _ =>
      simp only [addUsize_eq (show field.offset.toNat + field.size.toNat < 2 ^ 64 by omega), Res.ok_bind]
      exact sliceOf_eq hin (Nat.le_add_right _ _)

end

/-! ## Payloads that agree on the key ranges -/

/-- The places of `data` that belong to the field, for a STRING its length and as many bytes. -/
def keyRange (data : Bytes) (field : KeyField) : Set Nat :=
  {i | field.offset.toNat ≤ i ∧ i < field.offset.toNat + fieldExtent data field}

/-- `b` has the bytes of `a` at these places. -/
def AgreeOn (a b : Bytes) (places : Set Nat) : Prop := ∀ i ∈ places, i < a.length → b[i]? = a[i]?

section
variable {a b : Bytes} {field : KeyField} (hcontains : ContainsField a field)
include hcontains

theorem AgreeOn.window (h : AgreeOn a b (keyRange a field)) {n : Nat} (hn : n ≤ fieldExtent a field) :
    (b.drop field.offset.toNat).take n = (a.drop field.offset.toNat).take n := by
  have hle : field.offset.toNat + fieldExtent a field ≤ a.length := hcontains
  apply List.ext_getElem?
  intro i
  by_cases hi : i < n
  · rw [window_getElem? i hi, window_getElem? i hi]
    exact h _ ⟨by omega, by omega⟩ (by omega)
  · rw [List.getElem?_take_eq_none (by omega), List.getElem?_take_eq_none (by omega)]

/-- The length of a string is read from the agreed bytes in the agreed byte order. -/
theorem AgreeOn.fieldExtent_eq (horder : AgreeOn a b {1}) (h : AgreeOn a b (keyRange a field))
    (hlong : field.offset.toNat + fieldExtent a field ≤ b.length) : fieldExtent b field = fieldExtent a field := by
  by_cases hs : field.typeHint = .string
  · have hle : field.offset.toNat + fieldExtent a field ≤ a.length := hcontains
    have hfour : 4 ≤ fieldExtent a field := by
      rw [fieldExtent_string hs]
      omega
    have hsecond : b.getD 1 0 = a.getD 1 0 := by
      rw [List.getD_eq_getElem?_getD, List.getD_eq_getElem?_getD, horder 1 rfl (by omega)]
    rw [fieldExtent_string hs, fieldExtent_string hs, readU32Cdr_eq (by omega), readU32Cdr_eq (by omega), hsecond,
      h.window hcontains hfour]
  · rw [fieldExtent_fixed hs, fieldExtent_fixed hs]

theorem AgreeOn.extractKeyBytes_eq (horder : AgreeOn a b {1}) (h : AgreeOn a b (keyRange a field))
    (hlong : field.offset.toNat + fieldExtent a field ≤ b.length) :
    extractKeyBytes b field = extractKeyBytes a field := by
  have hextent := AgreeOn.fieldExtent_eq hcontains horder h hlong
  have hcontainsB : ContainsField b field := by
    rw [ContainsField, hextent]
    exact hlong
  rw [extractKeyBytes_contained hcontains, extractKeyBytes_contained hcontainsB, hextent,
    h.window hcontains (Nat.le_refl _)]

/-- What was extracted from `b` lies in `b` at the field's offset. -/
theorem agreeOn_of_extractKeyBytes_eq (h : extractKeyBytes a field = extractKeyBytes b field) :
    AgreeOn a b (keyRange a field) := by
  intro i hi hlen
  obtain ⟨hge, hlt⟩ := hi
  have hlength := extractKeyBytes_length hcontains
  have hpos : fieldExtent a field ≠ 0 := by omega
  have hread : field.typeHint = .string → field.offset.toNat + 4 ≤ b.length := by
    intro hs
    by_contra hshort
    rw [h, extractKeyBytes_short hs (by omega)] at hlength
    exact hpos hlength.symm
  rw [h, extractKeyBytes_eq hread, List.length_take, List.length_drop] at hlength
  have hbytes := congrArg (·[i - field.offset.toNat]?) h
  simp only [extractKeyBytes_eq hread, extractKeyBytes_contained hcontains] at hbytes
  rw [window_getElem? _ (by omega), window_getElem? _ (by omega), Nat.add_sub_cancel' hge] at hbytes
  exact hbytes.symm

end

/-- Payloads with the same byte order and the same bytes in the key ranges of the first are the same instance,
whatever their other bytes; equal keys mean the same bytes there; and extraction reads inside the payload. -/
theorem key_bytes_decide_instance (a b : Bytes) (keyFields : List KeyField)
    (hcontains : ∀ field ∈ keyFields, ContainsField a field) :
    ((∀ field ∈ keyFields, field.offset.toNat + fieldExtent a field ≤ b.length) →
      AgreeOn a b {1} → (∀ field ∈ keyFields, AgreeOn a b (keyRange a field)) →
        (∀ field ∈ keyFields, extractKeyBytes b field = extractKeyBytes a field) ∧
          keysEqual a b keyFields = true ∧ hashKeyBytes a keyFields = hashKeyBytes b keyFields) ∧
      (keysEqual a b keyFields = true → ∀ field ∈ keyFields, AgreeOn a b (keyRange a field)) ∧
      ∀ (data : Bytes) (field : KeyField),
        (extractKeyBytesChecked data field : Res Unit Bytes) = .ok (extractKeyBytes data field) := by
  refine ⟨fun hlong horder hagree => ?_, fun hequal field hfield => ?_, extractKeyBytesChecked_eq⟩
  · have hsame : ∀ field ∈ keyFields, extractKeyBytes b field = extractKeyBytes a field :=
      fun field hfield =>
        AgreeOn.extractKeyBytes_eq (hcontains field hfield) horder (hagree field hfield) (hlong field hfield)
    have hmap : keyFields.map (extractKeyBytes a) = keyFields.map (extractKeyBytes b) :=
      List.map_congr_left fun field hfield => (hsame field hfield).symm
    exact ⟨hsame, (keysEqual_iff a b keyFields).mpr hmap, hashKeyBytes_congr hmap⟩
  · have hmap := List.map_inj_left.mp ((keysEqual_iff a b keyFields).mp hequal)
    exact agreeOn_of_extractKeyBytes_eq (hcontains field hfield) (hmap field hfield)

theorem key_bytes_decide_instance_string :
    let a : Bytes := [0, 1, 0, 0, 7, 2, 0, 0, 0, 65, 0, 9]
    let b : Bytes := [5, 1, 5, 5, 7, 2, 0, 0, 0, 65, 0]
    let keyFields : List KeyField := [⟨5, 0, .string⟩, ⟨4, 2, .opaqueBytes⟩]
    (∀ field ∈ keyFields, extractKeyBytes b field = extractKeyBytes a field) ∧
      keysEqual a b keyFields = true ∧ hashKeyBytes a keyFields = hashKeyBytes b keyFields := by
  intro a b keyFields
  have hbytes : ∀ i < 11, 4 ≤ i → b[i]? = a[i]? := by decide
  have hends : ∀ field ∈ keyFields, 4 ≤ field.offset.toNat ∧ field.offset.toNat + fieldExtent a field ≤ 11 := by decide
  refine (key_bytes_decide_instance a b keyFields (by decide)).1 (by decide) ?_ ?_
  · intro i hi _
    cases hi
    rfl
  · intro field hfield i hi _
    have := hends field hfield
    exact hbytes i (by have := hi.2; omega) (by have := hi.1; omega)

end DdsBridge
