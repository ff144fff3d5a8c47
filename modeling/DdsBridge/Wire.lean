import DdsBridge.Lib.Codec

/-!
# Strings, flags and key descriptors on the wire

`read_string`, `write_string`, `read_bool`, `check_no_trailing` and the key descriptors of
`src/protocol.rs`, with the errors every parser returns and the texts they print.
-/

namespace DdsBridge

/-! ## Errors -/

inductive ProtocolError where
  | badMagic (b0 b1 : UInt8)
  | unsupportedVersion (got max : UInt8)
  | invalidMsgType (v : UInt8)
  | truncated (expected got : Nat)
  | payloadTooLarge (size max : Nat)
  | reservedRequestId
  | invalidWriteMode (mode : UInt8)
  | invalidUtf8 (message : String)
  | invalidKeyTypeHint (v : UInt8)
  | invalidErrorCode (v : UInt16)
  | invalidQosPolicyId (v : UInt8)
  | invalidQosValue (message : String)
  | duplicateQosPolicy (v : UInt8)
  | stringTooLong (length max : Nat)
  | trailingBytes (count : Nat)
  deriving DecidableEq, Repr

def hexDigits : Nat → Nat → List Char
  | 0, _ => []
  | k + 1, n => hexDigits k (n / 16) ++ [Nat.digitChar (n % 16)]

def hexU8 (v : UInt8) : String := "0x" ++ String.ofList (hexDigits 2 v.toNat)
def hexU16 (v : UInt16) : String := "0x" ++ String.ofList (hexDigits 4 v.toNat)

def ProtocolError.toString : ProtocolError → String
  | .badMagic b0 b1 => "bad magic: expected [0x44, 0x42], got [" ++ hexU8 b0 ++ ", " ++ hexU8 b1 ++ "]"
  | .unsupportedVersion got max =>
    s!"unsupported protocol version {got}; bridge supports up to version {max}"
  | .invalidMsgType v => "invalid msg_type: " ++ hexU8 v
  | .truncated expected got => s!"truncated message: expected {expected} bytes, got {got}"
  | .payloadTooLarge size max => s!"payload too large: {size} bytes exceeds maximum {max}"
  | .reservedRequestId => "request_id 0 is reserved for bridge-initiated messages"
  | .invalidWriteMode mode => "invalid write mode: " ++ hexU8 mode
  | .invalidUtf8 message => s!"invalid UTF-8: {message}"
  | .invalidKeyTypeHint v => "invalid key type hint: " ++ hexU8 v
  | .invalidErrorCode v => "invalid error code: " ++ hexU16 v
  | .invalidQosPolicyId v => "invalid QoS policy id: " ++ hexU8 v
  | .invalidQosValue message => s!"invalid QoS value: {message}"
  | .duplicateQosPolicy v => "duplicate QoS policy id: " ++ hexU8 v
  | .stringTooLong length max => s!"string too long: {length} bytes exceeds maximum {max}"
  | .trailingBytes count => s!"unexpected {count} trailing bytes"

/-! ## UTF-8 -/

def utf8 (s : String) : Bytes := s.toByteArray.data.toList

/-- Where `str::from_utf8` stops: `none` when the input ends inside a character, else the number
of bytes to skip. -/
structure Utf8Error where
  validUpTo : Nat
  errorLen : Option Nat

def Utf8Error.toString : Utf8Error → String
  | ⟨validUpTo, some errorLen⟩ =>
    s!"invalid utf-8 sequence of {errorLen} bytes from index {validUpTo}"
  | ⟨validUpTo, none⟩ => s!"incomplete utf-8 byte sequence from index {validUpTo}"

def isContinuation (b : UInt8) : Bool := 0x80 ≤ b && b ≤ 0xBF

/-- The second byte a three- or four-byte character may have after its first byte. -/
def isSecond (b0 b1 : UInt8) : Bool :=
  if b0 = 0xE0 then 0xA0 ≤ b1 && b1 ≤ 0xBF
  else if b0 = 0xED then 0x80 ≤ b1 && b1 ≤ 0x9F
  else if b0 = 0xF0 then 0x90 ≤ b1 && b1 ≤ 0xBF
  else if b0 = 0xF4 then 0x80 ≤ b1 && b1 ≤ 0x8F
  else isContinuation b1

def charWidth (b0 : UInt8) : Nat :=
  if b0 < 0x80 then 1
  else if 0xC2 ≤ b0 && b0 ≤ 0xDF then 2
  else if 0xE0 ≤ b0 && b0 ≤ 0xEF then 3
  else if 0xF0 ≤ b0 && b0 ≤ 0xF4 then 4
  else 0

/-- The `errorLen` of the character `b0 :: bs` starts with, if it is not a valid one. -/
def charError (b0 : UInt8) (bs : Bytes) : Option (Option Nat) :=
  match charWidth b0, bs with
  | 0, _ => some (some 1)
  | 1, _ => none
  | _, [] => some none
  | w, b1 :: bs =>
    if !isSecond b0 b1 then some (some 1)
    else if w = 2 then none
    else match bs with
      | [] => some none
      | b2 :: bs =>
        if !isContinuation b2 then some (some 2)
        else if w = 3 then none
        else match bs with
          | [] => some none
          | b3 :: _ => if !isContinuation b3 then some (some 3) else none

/-- The first character of `bs` that is not valid; `pos` bytes have been checked. -/
def utf8Error : Nat → Nat → Bytes → Utf8Error
  | 0, pos, _ => ⟨pos, none⟩
  | _ + 1, pos, [] => ⟨pos, none⟩
  | fuel + 1, pos, b0 :: bs =>
    match charError b0 bs with
    | some errorLen => ⟨pos, errorLen⟩
    | none => utf8Error fuel (pos + charWidth b0) (bs.drop (charWidth b0 - 1))

/-- `std::str::from_utf8(bytes).map_err(|e| InvalidUtf8(e.to_string()))` -/
def fromUtf8 (bs : Bytes) : Res ProtocolError String :=
  match String.fromUTF8? ⟨bs.toArray⟩ with
  | some s => .ok s
  | none => .err (.invalidUtf8 (utf8Error bs.length 0 bs).toString)

theorem fromUtf8_utf8 (s : String) : fromUtf8 (utf8 s) = .ok s := by
  have h : (⟨(utf8 s).toArray⟩ : ByteArray) = s.toByteArray := by simp [utf8]
  have hv : s.toByteArray.IsValidUTF8 := s.isValidUTF8
  simp only [fromUtf8, h, String.fromUTF8?, dif_pos hv]
  rfl

theorem utf8_of_fromUtf8 {bs : Bytes} {s : String} (h : fromUtf8 bs = .ok s) : utf8 s = bs := by
  unfold fromUtf8 String.fromUTF8? at h
  by_cases hv : (⟨bs.toArray⟩ : ByteArray).IsValidUTF8
  · simp only [dif_pos hv, Res.ok.injEq] at h
    subst h
    simp [utf8, String.fromUTF8]
  · simp only [dif_neg hv] at h
    cases h

theorem fromUtf8_ne_panic (bs : Bytes) : fromUtf8 bs ≠ .panic := by
  unfold fromUtf8
  split <;> simp

/-! ## Strings and flags -/

/-- `MAX_STRING_LENGTH`: 1 MiB. -/
def maxStringLength : Nat := 1024 * 1024

def ensureRemaining (n : Nat) : Cursor ProtocolError Unit := Cursor.ensure n .truncated

def readBool : Cursor ProtocolError Bool := do
  ensureRemaining 1
  return (← Cursor.getU8) != 0

def readString : Cursor ProtocolError String := do
  ensureRemaining 4
  let len ← Cursor.getU32le
  Prog.require (len.toNat ≤ maxStringLength) (.stringTooLong len.toNat maxStringLength)
  ensureRemaining len.toNat
  let bytes ← Cursor.take len.toNat
  Prog.ofRes (fromUtf8 bytes)

def writeString (s : String) : Bytes := u32le (UInt32.ofNat (utf8 s).length) ++ utf8 s

def checkNoTrailing : Cursor ProtocolError Unit := do
  let buf ← Prog.get
  Prog.require (buf = []) (.trailingBytes buf.length)

/-- The strings a payload may hold. -/
def StringFits (s : String) : Prop := (utf8 s).length ≤ maxStringLength

/-! ## Key descriptors -/

inductive KeyTypeHint where
  | opaqueBytes
  | uuid
  | int32
  | int64
  | string
  deriving DecidableEq, Repr

def KeyTypeHint.fromU8 : UInt8 → Res ProtocolError KeyTypeHint
  | 0x00 => .ok .opaqueBytes
  | 0x01 => .ok .uuid
  | 0x02 => .ok .int32
  | 0x03 => .ok .int64
  | 0x04 => .ok .string
  | v => .err (.invalidKeyTypeHint v)

def KeyTypeHint.toU8 : KeyTypeHint → UInt8
  | .opaqueBytes => 0x00
  | .uuid => 0x01
  | .int32 => 0x02
  | .int64 => 0x03
  | .string => 0x04

structure KeyField where
  offset : UInt32
  size : UInt32
  typeHint : KeyTypeHint
  deriving DecidableEq, Repr

structure KeyDescriptors where
  keys : List KeyField
  deriving DecidableEq, Repr

def parseKeyField : Cursor ProtocolError KeyField := do
  ensureRemaining 9
  let offset ← Cursor.getU32le
  let size ← Cursor.getU32le
  let hint ← Cursor.getU8
  let typeHint ← Prog.ofRes (KeyTypeHint.fromU8 hint)
  return { offset, size, typeHint }

def parseKeyDescriptors : Cursor ProtocolError KeyDescriptors := do
  ensureRemaining 1
  let keyCount ← Cursor.getU8
  let keys ← parseKeyField.times keyCount.toNat
  return { keys }

def serializeKeyField (key : KeyField) : Bytes :=
  u32le key.offset ++ (u32le key.size ++ [key.typeHint.toU8])

def serializeKeyDescriptors (kd : KeyDescriptors) : Bytes :=
  UInt8.ofNat kd.keys.length :: kd.keys.flatMap serializeKeyField

/-! ## Reading back what was written -/

open Cursor

theorem reads_readBool (flag : UInt8) : Reads readBool [flag] (flag != 0) :=
  Reads.ensure (by simp) ((reads_getU8 flag).bind_nil (reads_pure _))

theorem reads_readString {s : String} (hs : StringFits s) : Reads readString (writeString s) s := by
  have hlen : (UInt32.ofNat (utf8 s).length).toNat = (utf8 s).length := by
    rw [UInt32.toNat_ofNat']
    exact Nat.mod_eq_of_lt (Nat.lt_of_le_of_lt hs (by decide))
  apply Reads.ensure (by simp [writeString])
  apply (reads_getU32le _).bind
  rw [hlen]
  refine Reads.check hs (Reads.ensure (Nat.le_refl _) ?_)
  exact (reads_take _).bind_nil (reads_ofRes (fromUtf8_utf8 s))

theorem KeyTypeHint.fromU8_toU8 (h : KeyTypeHint) : fromU8 h.toU8 = .ok h := by cases h <;> rfl

theorem reads_parseKeyField (key : KeyField) : Reads parseKeyField (serializeKeyField key) key := by
  apply Reads.ensure (by simp [serializeKeyField])
  apply (reads_getU32le _).bind
  apply (reads_getU32le _).bind
  apply (reads_getU8 _).bind_nil
  exact (reads_ofRes (KeyTypeHint.fromU8_toU8 _)).bind_nil (reads_pure _)

def KeyDescriptors.Fits (kd : KeyDescriptors) : Prop := kd.keys.length ≤ 255

theorem reads_parseKeyDescriptors {kd : KeyDescriptors} (hk : kd.Fits) :
    Reads parseKeyDescriptors (serializeKeyDescriptors kd) kd := by
  have hlen : (UInt8.ofNat kd.keys.length).toNat = kd.keys.length := by
    rw [UInt8.toNat_ofNat']
    exact Nat.mod_eq_of_lt (Nat.lt_succ_of_le hk)
  apply Reads.ensure (by simp [serializeKeyDescriptors])
  apply Reads.bind (u := [_]) (reads_getU8 _)
  rw [hlen]
  exact (reads_times kd.keys fun key _ => reads_parseKeyField key).bind_nil (reads_pure _)

/-! ## What the readers accept -/

theorem consumes_readBool : Consumes readBool fun b u => ∃ flag : UInt8, b = (flag != 0) ∧ u = [flag] := by
  refine Consumes.ensure (consumes_getU8.bind fun flag u hu => (consumes_pure _).mono fun b v hv => ?_)
  obtain ⟨rfl, rfl⟩ := hv
  exact ⟨flag, rfl, by rw [hu, List.append_nil]⟩

theorem consumes_readString :
    Consumes readString fun s u => StringFits s ∧ u = writeString s := by
  refine Consumes.ensure (consumes_getU32le.bind fun len u hu => ?_)
  refine Consumes.check fun hlen => Consumes.ensure ?_
  refine (consumes_take _).bind fun bytes v hv => ?_
  refine (consumes_ofRes _).mono fun s w hw => ?_
  obtain ⟨rfl, hl⟩ := hv
  have hs := utf8_of_fromUtf8 hw.1
  have hl' : UInt32.ofNat v.length = len := by rw [hl, UInt32.ofNat_toNat]
  subst hs
  refine ⟨by rw [StringFits, hl]; exact hlen, ?_⟩
  rw [hu, hw.2, List.append_nil, writeString, hl']

theorem KeyTypeHint.toU8_of_fromU8 {v : UInt8} {h : KeyTypeHint} (hv : fromU8 v = .ok h) :
    h.toU8 = v := by
  unfold fromU8 at hv
  split at hv <;> cases hv <;> rfl

theorem consumes_parseKeyField :
    Consumes parseKeyField fun key u => True ∧ u = serializeKeyField key := by
  refine Consumes.ensure (consumes_getU32le.bind fun offset u hu => ?_)
  refine consumes_getU32le.bind fun size v hv => consumes_getU8.bind fun hint w hw => ?_
  refine (consumes_ofRes _).bind fun typeHint x hx => (consumes_pure _).mono fun key y hy => ?_
  obtain ⟨rfl, rfl⟩ := hy
  have ht := KeyTypeHint.toU8_of_fromU8 hx.1
  simp [hu, hv, hw, hx.2, serializeKeyField, ht]

theorem consumes_parseKeyDescriptors :
    Consumes parseKeyDescriptors fun kd u => kd.Fits ∧ u = serializeKeyDescriptors kd := by
  refine Consumes.ensure (consumes_getU8.bind fun count u hu => ?_)
  refine (consumes_times consumes_parseKeyField _).bind fun keys v hv => ?_
  refine (consumes_pure _).mono fun kd w hw => ?_
  obtain ⟨rfl, rfl⟩ := hw
  obtain ⟨hlen, -, rfl⟩ := hv
  have hc := count.toNat_lt
  have hcount : UInt8.ofNat keys.length = count := by rw [hlen, UInt8.ofNat_toNat]
  refine ⟨by rw [KeyDescriptors.Fits, hlen]; omega, ?_⟩
  simp [hu, serializeKeyDescriptors, hcount]

/-! ## The readers stay inside the buffer -/

theorem needs_readBool : Needs 0 readBool := Needs.ensure (Needs.getU8 fun _ => needs_pure 0 _)

theorem needs_readString : Needs 0 readString := by
  refine Needs.ensure (Needs.getU32le fun len => Needs.check fun _ => Needs.ensure ?_)
  exact (Needs.take fun bytes => needs_ofRes (fromUtf8_ne_panic bytes) 0).mono (by omega)

theorem KeyTypeHint.fromU8_ne_panic (v : UInt8) : fromU8 v ≠ .panic := by
  unfold fromU8
  split <;> simp

theorem needs_parseKeyField : Needs 0 parseKeyField := by
  refine Needs.ensure (Needs.getU32le fun _ => Needs.getU32le fun _ => Needs.getU8 fun hint => ?_)
  exact (needs_ofRes (KeyTypeHint.fromU8_ne_panic hint) 0).bind fun _ => needs_pure 0 _

theorem needs_parseKeyDescriptors : Needs 0 parseKeyDescriptors := by
  refine Needs.ensure (Needs.getU8 fun count => ?_)
  exact (needs_parseKeyField.times _).bind fun _ => needs_pure 0 _

theorem needs_checkNoTrailing : Needs 0 checkNoTrailing := by
  intro s _ h
  unfold checkNoTrailing at h
  rw [Prog.bind_of_ok (show (Prog.get : Cursor ProtocolError Bytes) s = .ok (s, s) from rfl)] at h
  unfold Prog.require at h
  split at h <;> cases h

end DdsBridge
