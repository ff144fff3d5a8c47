import DdsBridge.GoAgree
import DdsBridge.Participant

/-!
# How long an error text can be

The texts of `ProtocolError` and `DdsError` and what goes into them. The Go client reads a string of at
most 4 MiB; the longest text the bridge makes repeats two names of at most 1 MiB.
-/

namespace DdsBridge

open Cursor Prog

/-! ## Lengths of texts -/

def TextWithin (n : Nat) (s : String) : Prop := (utf8 s).length ≤ n

theorem TextWithin.mono {m n : Nat} {s : String} (h : TextWithin m s) (hmn : m ≤ n) : TextWithin n s :=
  Nat.le_trans h hmn

theorem TextWithin.append {m n : Nat} {s t : String} (hs : TextWithin m s) (ht : TextWithin n t) :
    TextWithin (m + n) (s ++ t) := by
  have h : utf8 (s ++ t) = utf8 s ++ utf8 t := by simp [utf8]
  rw [TextWithin, h, List.length_append]
  exact Nat.add_le_add hs ht

theorem utf8_ofList (cs : List Char) : utf8 (String.ofList cs) = cs.flatMap String.utf8EncodeChar := by
  simp [utf8, List.utf8Encode]

theorem encodeChars_length_le (cs : List Char) : (cs.flatMap String.utf8EncodeChar).length ≤ 4 * cs.length := by
  induction cs with
  | nil => simp
  | cons c cs ih =>
    have hc := c.utf8Size_le_four
    simp only [List.flatMap_cons, List.length_append, String.length_utf8EncodeChar, List.length_cons]
    omega

theorem textWithin_length (s : String) : TextWithin (4 * s.length) s := by
  have h := encodeChars_length_le s.toList
  rwa [← utf8_ofList, String.ofList_toList, String.length_toList] at h

/-- The numbers in a text have at most twenty digits. -/
def SmallNat (n : Nat) : Prop := n < 10 ^ 20

theorem SmallNat.text {n : Nat} (h : SmallNat n) : TextWithin 80 n.repr := by
  have hlen : n.repr.length ≤ 20 := (Nat.length_repr_le_iff (by omega)).mpr h
  exact (textWithin_length n.repr).mono (by omega)

theorem smallNat_u8 (v : UInt8) : SmallNat v.toNat := Nat.lt_trans v.toNat_lt (by decide)

theorem smallNat_u32 (v : UInt32) : SmallNat v.toNat := Nat.lt_trans v.toNat_lt (by decide)

theorem textWithin_u8 (v : UInt8) : TextWithin 12 v.toNat.repr := by
  have hlen : v.toNat.repr.length ≤ 3 := (Nat.length_repr_le_iff (by omega)).mpr (Nat.lt_trans v.toNat_lt (by decide))
  exact (textWithin_length _).mono (by omega)

theorem text_int32 (v : Int32) : TextWithin 100 (toString v) := by
  have hlo := v.le_toInt
  have hhi := v.toInt_lt
  change TextWithin 100 (toString v.toInt)
  cases hv : v.toInt with
  | ofNat n =>
    have hv' : v.toInt = (n : Int) := hv
    have hn : SmallNat n := by
      rw [SmallNat]
      omega
    exact hn.text.mono (by decide)
  | negSucc n =>
    have hv' : v.toInt = -((n : Int) + 1) := hv.trans (Int.negSucc_eq n)
    have hn : SmallNat (n + 1) := by
      rw [SmallNat]
      omega
    have hminus : TextWithin 10 "-" := by unfold TextWithin; decide
    exact (hminus.append hn.text).mono (by decide)

theorem hexDigits_length (k n : Nat) : (hexDigits k n).length = k := by
  induction k generalizing n with
  | zero => rfl
  | succ k ih => simp [hexDigits, ih]

theorem text_hexU8 (v : UInt8) : TextWithin 10 (hexU8 v) := by
  have h : TextWithin 2 "0x" := by unfold TextWithin; decide
  have hd := textWithin_length (String.ofList (hexDigits 2 v.toNat))
  rw [String.length_ofList, hexDigits_length] at hd
  exact h.append hd

theorem text_hexU16 (v : UInt16) : TextWithin 18 (hexU16 v) := by
  have h : TextWithin 2 "0x" := by unfold TextWithin; decide
  have hd := textWithin_length (String.ofList (hexDigits 4 v.toNat))
  rw [String.length_ofList, hexDigits_length] at hd
  exact h.append hd

/-! ## Texts -/

def Utf8Error.Small (e : Utf8Error) : Prop := SmallNat e.validUpTo ∧ ∀ n, e.errorLen = some n → n ≤ 3

/-- The numbers and the nested messages of the error. -/
def ProtocolError.Small : ProtocolError → Prop
  | .truncated expected got => SmallNat expected ∧ SmallNat got
  | .payloadTooLarge size max => SmallNat size ∧ SmallNat max
  | .invalidUtf8 message => TextWithin 300 message
  | .invalidQosValue message => TextWithin 300 message
  | .stringTooLong length max => SmallNat length ∧ SmallNat max
  | .trailingBytes count => SmallNat count
  | _ => True

theorem textWithin_two {x y : String} {a b : Nat} (hx : TextWithin 60 x) (ha : SmallNat a) (hy : TextWithin 60 y)
    (hb : SmallNat b) : TextWithin 280 (x ++ a.repr ++ y ++ b.repr) := ((hx.append ha.text).append hy).append hb.text

theorem textWithin_one {x y : String} {a : Nat} (hx : TextWithin 60 x) (ha : SmallNat a) (hy : TextWithin 60 y) :
    TextWithin 200 (x ++ a.repr ++ y) := (hx.append ha.text).append hy

theorem Utf8Error.Small.text {e : Utf8Error} (h : e.Small) : TextWithin 300 e.toString := by
  obtain ⟨pos, errorLen⟩ := e
  cases errorLen with
  | none =>
    have hx : TextWithin 60 "incomplete utf-8 byte sequence from index " := by unfold TextWithin; decide
    exact (hx.append h.1.text).mono (by decide)
  | some n =>
    have hn : SmallNat n := Nat.lt_of_le_of_lt (h.2 n rfl) (by decide)
    refine (textWithin_two ?_ hn ?_ h.1).mono (by decide)
    · unfold TextWithin; decide
    · unfold TextWithin; decide

theorem ProtocolError.Small.text {e : ProtocolError} (h : e.Small) : TextWithin 400 e.toString := by
  cases e with
  | badMagic b0 b1 =>
    have hx : TextWithin 60 "bad magic: expected [0x44, 0x42], got [" := by unfold TextWithin; decide
    have hy : TextWithin 60 ", " := by unfold TextWithin; decide
    have hz : TextWithin 60 "]" := by unfold TextWithin; decide
    exact ((((hx.append (text_hexU8 b0)).append hy).append (text_hexU8 b1)).append hz).mono (by decide)
  | unsupportedVersion got max =>
    refine (textWithin_two ?_ (smallNat_u8 got) ?_ (smallNat_u8 max)).mono (by decide)
    · unfold TextWithin; decide
    · unfold TextWithin; decide
  | truncated expected got =>
    refine (textWithin_two ?_ h.1 ?_ h.2).mono (by decide)
    · unfold TextWithin; decide
    · unfold TextWithin; decide
  | payloadTooLarge size max =>
    refine (textWithin_two ?_ h.1 ?_ h.2).mono (by decide)
    · unfold TextWithin; decide
    · unfold TextWithin; decide
  | stringTooLong length max =>
    refine (textWithin_two ?_ h.1 ?_ h.2).mono (by decide)
    · unfold TextWithin; decide
    · unfold TextWithin; decide
  | trailingBytes count =>
    refine (textWithin_one ?_ h ?_).mono (by decide)
    · unfold TextWithin; decide
    · unfold TextWithin; decide
  | reservedRequestId => unfold TextWithin; decide
  | invalidUtf8 message =>
    have hx : TextWithin 60 "invalid UTF-8: " := by unfold TextWithin; decide
    exact (hx.append h).mono (by decide)
  | invalidQosValue message =>
    have hx : TextWithin 60 "invalid QoS value: " := by unfold TextWithin; decide
    exact (hx.append h).mono (by decide)
  | invalidMsgType v =>
    have hx : TextWithin 60 "invalid msg_type: " := by unfold TextWithin; decide
    exact (hx.append (text_hexU8 v)).mono (by decide)
  | invalidWriteMode v =>
    have hx : TextWithin 60 "invalid write mode: " := by unfold TextWithin; decide
    exact (hx.append (text_hexU8 v)).mono (by decide)
  | invalidKeyTypeHint v =>
    have hx : TextWithin 60 "invalid key type hint: " := by unfold TextWithin; decide
    exact (hx.append (text_hexU8 v)).mono (by decide)
  | invalidErrorCode v =>
    have hx : TextWithin 60 "invalid error code: " := by unfold TextWithin; decide
    exact (hx.append (text_hexU16 v)).mono (by decide)
  | invalidQosPolicyId v =>
    have hx : TextWithin 60 "invalid QoS policy id: " := by unfold TextWithin; decide
    exact (hx.append (text_hexU8 v)).mono (by decide)
  | duplicateQosPolicy v =>
    have hx : TextWithin 60 "duplicate QoS policy id: " := by unfold TextWithin; decide
    exact (hx.append (text_hexU8 v)).mono (by decide)

theorem text_code {x : String} (v : Int32) (hx : TextWithin 60 x) : TextWithin 400 (x ++ toString v) :=
  (hx.append (text_int32 v)).mono (by decide)

theorem DdsError.text {e : DdsError} (h : ∀ name, e = .invalidName name → StringFits name) :
    TextWithin (maxStringLength + 400) e.toString := by
  cases e with
  | createParticipant code | createTopic code | createWriter code | createReader code | write code
  | dispose code | writeDispose code | read code =>
    refine (text_code code ?_).mono (by decide)
    unfold TextWithin; decide
  | invalidName name =>
    have hx : TextWithin 60 "invalid name: " := by unfold TextWithin; decide
    have hname : TextWithin maxStringLength name := h name rfl
    exact (hx.append hname).mono (by decide)
  | writerNotFound writerId =>
    have hx : TextWithin 60 "writer not found: " := by unfold TextWithin; decide
    exact (hx.append (smallNat_u32 writerId).text).mono (by decide)
  | writerOwnership writerId =>
    refine (textWithin_one ?_ (smallNat_u32 writerId) ?_).mono (by decide)
    · unfold TextWithin; decide
    · unfold TextWithin; decide

/-! ## The errors of the parsers -/

/-- What a reader says about a buffer of at most `N` bytes has small numbers in it. -/
def SmallErrors {α : Type} (N : Nat) (p : Cursor ProtocolError α) : Prop :=
  Spec (AtMost N) Any (fun _ => True) ProtocolError.Small p

section
variable {N : Nat}

theorem smallErrors_ensure {n : Nat} (hn : SmallNat n) : SmallErrors N (ensureRemaining n) :=
  spec_ensure fun _ hgot => ⟨hn, Nat.lt_trans hgot hn⟩

theorem smallErrors_require {c : Prop} [Decidable c] {e : ProtocolError} (he : e.Small) :
    SmallErrors N (require c e) := (spec_require fun _ => he).mono (fun _ _ => trivial) fun _ h => h

theorem smallErrors_ofRes {α : Type} {r : Res ProtocolError α} (h : ∀ e, r = .err e → e.Small) :
    SmallErrors N (ofRes r) := (spec_ofRes h).mono (fun _ _ => trivial) fun _ h => h

theorem charError_le {b : UInt8} {bs : Bytes} {n : Nat} (h : charError b bs = some (some n)) : n ≤ 3 := by
  unfold charError at h
  grind

theorem utf8Error_small (fuel pos : Nat) (bs : Bytes) (h : pos + 4 * fuel < 10 ^ 20) :
    (utf8Error fuel pos bs).Small := by
  induction fuel generalizing pos bs with
  | zero => exact ⟨by rw [SmallNat]; exact h, fun n hn => by cases hn⟩
  | succ fuel ih =>
    have hpos : SmallNat pos := by
      rw [SmallNat]
      omega
    cases bs with
    | nil => exact ⟨hpos, fun n hn => by cases hn⟩
    | cons b bs =>
      unfold utf8Error
      cases hc : charError b bs with
      | some errorLen =>
        refine ⟨hpos, fun n hn => ?_⟩
        have hsome : charError b bs = some (some n) := hc.trans (congrArg some hn)
        exact charError_le hsome
      | none =>
        apply ih
        have hw : charWidth b ≤ 4 := by
          unfold charWidth
          grind
        omega

theorem fromUtf8_small {bs : Bytes} (hbs : bs.length ≤ maxStringLength) {e : ProtocolError}
    (h : fromUtf8 bs = .err e) : e.Small := by
  unfold fromUtf8 at h
  split at h
  · cases h
  · cases h
    apply Utf8Error.Small.text
    apply utf8Error_small
    unfold maxStringLength at hbs
    omega

theorem smallErrors_readString : SmallErrors N readString := by
  refine (smallErrors_ensure (by unfold SmallNat; decide)).bind fun _ _ => spec_getU32le.bind fun len _ => ?_
  refine Spec.bind (Q := fun _ => len.toNat ≤ maxStringLength) (spec_require fun _ => ?_) fun _ hlen => ?_
  · exact ⟨smallNat_u32 len, by unfold SmallNat; decide⟩
  refine (smallErrors_ensure (smallNat_u32 len)).bind fun _ _ => ?_
  intro s hs
  by_cases hle : len.toNat ≤ s.length
  · have ht : (take len.toNat : Cursor ProtocolError Bytes) s = .ok (s.take len.toNat, s.drop len.toNat) := if_pos hle
    rw [wp_bind]
    unfold wp
    rw [ht]
    refine (smallErrors_ofRes fun e he => fromUtf8_small ?_ he) _ ?_
    · rw [List.length_take_of_le hle]
      exact hlen
    · rw [AtMost, List.length_drop]
      exact Nat.le_trans (Nat.sub_le _ _) hs
  · have ht : (take len.toNat : Cursor ProtocolError Bytes) s = .panic := if_neg hle
    rw [wp_bind]
    unfold wp
    rw [ht]
    trivial

theorem smallErrors_readBool : SmallErrors N readBool :=
  (smallErrors_ensure (by unfold SmallNat; decide)).bind fun _ _ =>
    spec_getU8.bind fun _ _ => spec_pure trivial

theorem smallErrors_checkNoTrailing (hN : SmallNat N) : SmallErrors N checkNoTrailing := by
  refine Spec.bind spec_get fun buf hbuf => ?_
  exact smallErrors_require (Nat.lt_of_le_of_lt hbuf hN)

theorem smallErrors_parseKeyDescriptors : SmallErrors N parseKeyDescriptors := by
  have hfield : SmallErrors N parseKeyField := by
    refine (smallErrors_ensure (by unfold SmallNat; decide)).bind fun _ _ => spec_getU32le.bind fun _ _ => ?_
    refine spec_getU32le.bind fun _ _ => spec_getU8.bind fun hint _ => ?_
    refine (smallErrors_ofRes fun e he => ?_).bind fun _ _ => spec_pure trivial
    unfold KeyTypeHint.fromU8 at he
    split at he <;> cases he
    trivial
  refine (smallErrors_ensure (by unfold SmallNat; decide)).bind fun _ _ => spec_getU8.bind fun count _ => ?_
  exact (hfield.times _).bind fun _ _ => spec_pure trivial

/-! ### Policies -/

/-- The names that `validate_range` and `validate_bool` are called with. -/
def ShortName (name : String) : Prop := TextWithin 60 name

theorem smallErrors_validateRange {name : String} (hname : ShortName name) (value max : UInt8) :
    SmallErrors N (validateRange name value max) := by
  apply smallErrors_require
  have hx : TextWithin 60 ": " := by unfold TextWithin; decide
  have hy : TextWithin 40 " not in 0..=" := by unfold TextWithin; decide
  have htext := (((hname.append hx).append (textWithin_u8 value)).append hy).append (textWithin_u8 max)
  exact htext.mono (by decide)

theorem smallErrors_validateBool {name : String} (hname : ShortName name) (value : UInt8) :
    SmallErrors N (validateBool name value) := by
  apply smallErrors_require
  have hx : TextWithin 60 ": expected 0 or 1, got " := by unfold TextWithin; decide
  exact ((hname.append hx).append (smallNat_u8 value).text).mono (by decide)

theorem smallErrors_readKind {name : String} (hname : ShortName name) (max : UInt8) :
    SmallErrors N (readKind name max) := by
  refine (smallErrors_ensure (by unfold SmallNat; decide)).bind fun _ _ => spec_getU8.bind fun kind _ => ?_
  exact (smallErrors_validateRange hname kind max).bind fun _ _ => spec_pure trivial

theorem smallErrors_readU32 : SmallErrors N readU32 :=
  (smallErrors_ensure (by unfold SmallNat; decide)).bind fun _ _ => spec_getU32le

theorem smallErrors_readKindU32 {name : String} (hname : ShortName name) (max : UInt8)
    (policy : UInt8 → UInt32 → QosPolicy) : SmallErrors N (readKindU32 name max policy) := by
  refine (smallErrors_ensure (by unfold SmallNat; decide)).bind fun _ _ => spec_getU8.bind fun kind _ => ?_
  refine (smallErrors_validateRange hname kind max).bind fun _ _ => spec_getU32le.bind fun _ _ => ?_
  exact spec_pure trivial

theorem smallErrors_parsePolicy (i : UInt8) : SmallErrors N (parsePolicy i) := by
  unfold parsePolicy
  split
  · exact smallErrors_readKindU32 (by unfold ShortName TextWithin; decide) _ _
  · exact spec_map _ (smallErrors_readKind (by unfold ShortName TextWithin; decide) _)
  · exact smallErrors_readKindU32 (by unfold ShortName TextWithin; decide) _ _
  · exact spec_map _ smallErrors_readU32
  · exact spec_map _ smallErrors_readU32
  · exact spec_map _ smallErrors_readU32
  · exact smallErrors_readKindU32 (by unfold ShortName TextWithin; decide) _ _
  · exact spec_map _ (smallErrors_readKind (by unfold ShortName TextWithin; decide) _)
  · refine (smallErrors_ensure (by unfold SmallNat; decide)).bind fun _ _ => spec_getU8.bind fun scope _ => ?_
    refine spec_getU8.bind fun coherent _ => spec_getU8.bind fun ordered _ => ?_
    refine (smallErrors_validateRange (by unfold ShortName TextWithin; decide) scope 2).bind fun _ _ => ?_
    refine (smallErrors_validateBool (by unfold ShortName TextWithin; decide) coherent).bind fun _ _ => ?_
    refine (smallErrors_validateBool (by unfold ShortName TextWithin; decide) ordered).bind fun _ _ => ?_
    exact spec_pure trivial
  · refine (smallErrors_ensure (by unfold SmallNat; decide)).bind fun _ _ => spec_getU8.bind fun count _ => ?_
    exact (smallErrors_readString.times _).bind fun _ _ => spec_pure trivial
  · exact spec_map _ (smallErrors_readKind (by unfold ShortName TextWithin; decide) _)
  · refine (smallErrors_ensure (by unfold SmallNat; decide)).bind fun _ _ => spec_getU8.bind fun v _ => ?_
    refine (smallErrors_validateBool (by unfold ShortName TextWithin; decide) v).bind fun _ _ => ?_
    exact spec_pure trivial
  · exact spec_map _ smallErrors_readU32
  · exact spec_throw trivial

theorem smallErrors_markSeen (seenIds : UInt16) (i : UInt8) : SmallErrors N (markSeen seenIds i) := by
  unfold markSeen
  split
  · refine (smallErrors_require ?_).bind fun _ _ => spec_pure trivial
    trivial
  · exact spec_pure trivial

theorem smallErrors_parsePolicies : ∀ n seenIds, SmallErrors N (parsePolicies n seenIds)
  | 0, _ => spec_pure trivial
  | n + 1, seenIds => by
    refine (smallErrors_ensure (by unfold SmallNat; decide)).bind fun _ _ => spec_getU8.bind fun i _ => ?_
    refine (smallErrors_markSeen seenIds i).bind fun m _ => (smallErrors_parsePolicy i).bind fun p _ => ?_
    exact (smallErrors_parsePolicies n m).bind fun _ _ => spec_pure trivial

theorem smallErrors_parseQos : SmallErrors N parseQos := by
  refine (smallErrors_ensure (by unfold SmallNat; decide)).bind fun _ _ => spec_getU8.bind fun count _ => ?_
  exact (smallErrors_parsePolicies _ 0).bind fun _ _ => spec_pure trivial

/-! ### Payloads -/

theorem SmallErrors.eval {α : Type} {p : Cursor ProtocolError α} {b : Bytes} (h : SmallErrors b.length p)
    {e : ProtocolError} (he : p.eval b = .err e) : e.Small := Spec.error h (Nat.le_refl _) he

theorem smallErrors_readEndpoint (hN : SmallNat N) {α : Type}
    (mk : String → String → QosSet → Bool → KeyDescriptors → α) : SmallErrors N (readEndpoint mk) := by
  refine smallErrors_readString.bind fun _ _ => smallErrors_readString.bind fun _ _ => ?_
  refine smallErrors_parseQos.bind fun _ _ => smallErrors_readBool.bind fun _ _ => ?_
  refine smallErrors_parseKeyDescriptors.bind fun _ _ => (smallErrors_checkNoTrailing hN).bind fun _ _ => ?_
  exact spec_pure trivial

theorem smallErrors_readUnsubscribe (hN : SmallNat N) : SmallErrors N readUnsubscribe := by
  refine smallErrors_readString.bind fun _ _ => smallErrors_readString.bind fun _ _ => ?_
  exact (smallErrors_checkNoTrailing hN).bind fun _ _ => spec_pure trivial

theorem smallErrors_readDeleteWriter (hN : SmallNat N) : SmallErrors N readDeleteWriter := by
  refine (smallErrors_ensure (by unfold SmallNat; decide)).bind fun _ _ => spec_getU32le.bind fun _ _ => ?_
  exact (smallErrors_checkNoTrailing hN).bind fun _ _ => spec_pure trivial

theorem smallErrors_readWriteMode : SmallErrors N readWriteMode := by
  refine (smallErrors_ensure (by unfold SmallNat; decide)).bind fun _ _ => spec_getU8.bind fun mode _ => ?_
  split
  · refine smallErrors_readString.bind fun _ _ => smallErrors_readString.bind fun _ _ => ?_
    refine smallErrors_parseQos.bind fun _ _ => smallErrors_parseKeyDescriptors.bind fun _ _ => ?_
    exact spec_rest.bind fun _ _ => spec_pure trivial
  · refine (smallErrors_ensure (by unfold SmallNat; decide)).bind fun _ _ => spec_getU32le.bind fun _ _ => ?_
    refine spec_getU32le.bind fun keyLen _ => (smallErrors_ensure (smallNat_u32 keyLen)).bind fun _ _ => ?_
    exact (spec_take _).bind fun _ _ => spec_rest.bind fun _ _ => spec_pure trivial
  · exact spec_throw trivial

theorem smallErrors_readHeader : SmallErrors N readHeader := by
  refine (smallErrors_ensure (by unfold SmallNat; decide)).bind fun _ _ => spec_getU8.bind fun _ _ => ?_
  refine spec_getU8.bind fun b _ => (smallErrors_require ?_).bind fun _ _ => spec_getU8.bind fun _ _ => ?_
  · trivial
  refine spec_getU8.bind fun t _ => (smallErrors_ofRes fun e he => ?_).bind fun _ _ => ?_
  · unfold MsgType.fromU8 at he
    split at he <;> cases he
    trivial
  · exact spec_getU32le.bind fun _ _ => spec_getU32le.bind fun _ _ => spec_pure trivial

end

end DdsBridge
