import DdsBridge.NoPanic
import DdsBridge.RoundTrip

/-!
# What the parsers accept

A parser accepts the encodings of the well-formed payloads of its message and nothing else. The one
freedom is the `is_keyed` byte: any non-zero byte is read as set. Payloads that end with their last
field are accepted neither cut short nor with bytes behind them.
-/

namespace DdsBridge

open Cursor

/-! ## Fields -/

theorem steady_readString : Steady readString :=
  consumes_readString.steady fun _ u hu => by
    rw [hu.2]
    exact reads_readString hu.1

theorem steady_parseQos : Steady parseQos :=
  consumes_parseQos.steady fun _ u hu => by
    rw [hu.2]
    exact reads_parseQos hu.1

theorem steady_parseKeyDescriptors : Steady parseKeyDescriptors :=
  consumes_parseKeyDescriptors.steady fun _ u hu => by
    rw [hu.2]
    exact reads_parseKeyDescriptors hu.1

theorem steady_readBool : Steady readBool :=
  consumes_readBool.steady fun _ u hu => by
    obtain ⟨flag, rfl, rfl⟩ := hu
    exact reads_readBool flag

theorem covers_checkNoTrailing {α : Type} (a : α) :
    Covers (checkNoTrailing >>= fun _ => pure a) fun b u => b = a ∧ u = [] := by
  intro s b t h
  obtain ⟨_, _, h1, h2⟩ := Prog.bind_eq_ok.mp h
  obtain ⟨hs, rfl⟩ := Prog.require_eq_ok.mp h1
  exact ⟨(Prog.pure_eq_ok.mp h2).1.symm, hs⟩

theorem closed_checkNoTrailing {α : Type} (p : Cursor ProtocolError α) :
    Closed .trailingBytes (checkNoTrailing >>= fun _ => p) := by
  intro s b t x h hx
  obtain ⟨_, _, h1, -⟩ := Prog.bind_eq_ok.mp h
  obtain ⟨hs, -⟩ := Prog.require_eq_ok.mp h1
  have hnil : s = [] := hs
  subst hnil
  have hfail : checkNoTrailing x = .err (.trailingBytes x.length, x) := by
    unfold checkNoTrailing
    rw [Prog.bind_of_ok (show (Prog.get : Cursor ProtocolError Bytes) x = .ok (x, x) from rfl),
      Prog.require, if_neg hx]
    rfl
  exact ⟨x, by rw [List.nil_append, Prog.bind_apply, hfail]; rfl⟩

/-! ## Payloads -/

def SubscribePayload.flagged (p : SubscribePayload) (flag : UInt8) : Bytes :=
  flaggedBytes p.topicName p.typeName p.qos flag p.keyDescriptors

def CreateWriterPayload.flagged (p : CreateWriterPayload) (flag : UInt8) : Bytes :=
  flaggedBytes p.topicName p.typeName p.qos flag p.keyDescriptors

/-- The parser accepts the encodings of the well-formed payloads and nothing else. -/
def Canonical {α : Type} (parse : Bytes → Res ProtocolError α) (serialize : α → Bytes)
    (wf : α → Prop) : Prop := ∀ b p, parse b = .ok p ↔ wf p ∧ serialize p = b

/-- The same, with any non-zero byte for a flag that is set. -/
def CanonicalFlag {α : Type} (parse : Bytes → Res ProtocolError α) (flagged : α → UInt8 → Bytes)
    (isKeyed : α → Bool) (wf : α → Prop) : Prop :=
  ∀ b p, parse b = .ok p ↔ wf p ∧ ∃ flag : UInt8, isKeyed p = (flag != 0) ∧ flagged p flag = b

/-- What is accepted is accepted neither with bytes behind it nor cut short. -/
def ExactLength {α : Type} (parse : Bytes → Res ProtocolError α) : Prop :=
  ∀ b p, parse b = .ok p →
    (∀ x, x ≠ [] → parse (b ++ x) = .err (.trailingBytes x.length)) ∧
    ∀ u x, u ++ x = b → x ≠ [] → ∃ e, parse u = .err e

theorem Undoes.canonical {α : Type} {parse : Bytes → Res ProtocolError α} {serialize : α → Bytes}
    {wf : α → Prop} (h : Undoes parse serialize wf)
    (hc : ∀ b p, parse b = .ok p → wf p ∧ serialize p = b) : Canonical parse serialize wf := by
  refine fun b p => ⟨hc b p, fun hp => ?_⟩
  rw [← hp.2]
  exact h p hp.1

theorem exactLength_of_closed {α : Type} {p : Cursor ProtocolError α} (hc : Closed .trailingBytes p)
    (hp : ∀ b, p.eval b ≠ .panic) : ExactLength p.eval := by
  refine fun b a hb => ⟨fun x hx => hc.eval hb hx, fun u x hu hx => ?_⟩
  cases h : p.eval u with
  | ok a' =>
    have hlong := hc.eval h hx
    rw [hu, hb] at hlong
    cases hlong
  | err e => exact ⟨e, rfl⟩
  | panic => exact absurd h (hp u)

/-! ### Endpoints -/

section
variable {α : Type} (mk : String → String → QosSet → Bool → KeyDescriptors → α)

theorem covers_readEndpoint : Covers (readEndpoint mk) fun a b =>
    ∃ topic type qos flag keys, a = mk topic type qos (flag != 0) keys ∧
      (StringFits topic ∧ StringFits type ∧ qos.WF ∧ keys.Fits) ∧
      b = flaggedBytes topic type qos flag keys := by
  refine consumes_readString.covers fun topic u hu => consumes_readString.covers fun type v hv => ?_
  refine consumes_parseQos.covers fun qos w hw => consumes_readBool.covers fun isKeyed x hx => ?_
  refine consumes_parseKeyDescriptors.covers fun keys y hy => (covers_checkNoTrailing _).mono fun a z hz => ?_
  obtain ⟨flag, rfl, rfl⟩ := hx
  refine ⟨topic, type, qos, flag, keys, hz.1, ⟨hu.1, hv.1, hw.1, hy.1⟩, ?_⟩
  rw [hu.2, hv.2, hw.2, hy.2, hz.2, List.append_nil, flaggedBytes]

theorem closed_readEndpoint : Closed .trailingBytes (readEndpoint mk) := by
  refine steady_readString.closed fun _ => steady_readString.closed fun _ => steady_parseQos.closed fun _ => ?_
  exact steady_readBool.closed fun _ => steady_parseKeyDescriptors.closed fun _ => closed_checkNoTrailing _

end

theorem subscribe_canonical : CanonicalFlag parseSubscribe SubscribePayload.flagged SubscribePayload.isKeyed
    SubscribePayload.WF := by
  refine fun b p => ⟨fun h => ?_, fun h => ?_⟩
  · obtain ⟨topic, type, qos, flag, keys, rfl, hwf, rfl⟩ := (covers_readEndpoint _).eval h
    exact ⟨hwf, flag, rfl, rfl⟩
  · obtain ⟨hwf, flag, hflag, rfl⟩ := h
    have hread := readEndpoint_flaggedBytes SubscribePayload.mk flag hwf
    rwa [← hflag] at hread

theorem createWriter_canonical : CanonicalFlag parseCreateWriter CreateWriterPayload.flagged
    CreateWriterPayload.isKeyed CreateWriterPayload.WF := by
  refine fun b p => ⟨fun h => ?_, fun h => ?_⟩
  · obtain ⟨topic, type, qos, flag, keys, rfl, hwf, rfl⟩ := (covers_readEndpoint _).eval h
    exact ⟨hwf, flag, rfl, rfl⟩
  · obtain ⟨hwf, flag, hflag, rfl⟩ := h
    have hread := readEndpoint_flaggedBytes CreateWriterPayload.mk flag hwf
    rwa [← hflag] at hread

/-! ### The other payloads that end with their last field -/

theorem unsubscribe_canonical : Canonical parseUnsubscribe serializeUnsubscribe UnsubscribePayload.WF := by
  apply unsubscribe_undoes.canonical
  have hc : Covers readUnsubscribe fun p b => p.WF ∧ serializeUnsubscribe p = b := by
    refine consumes_readString.covers fun topic u hu => consumes_readString.covers fun type v hv => ?_
    refine (covers_checkNoTrailing _).mono fun p w hw => ?_
    obtain ⟨rfl, rfl⟩ := hw
    refine ⟨⟨hu.1, hv.1⟩, ?_⟩
    rw [hu.2, hv.2, List.append_nil, serializeUnsubscribe]
  exact fun b p h => hc.eval h

theorem unsubscribe_exactLength : ExactLength parseUnsubscribe := by
  refine exactLength_of_closed ?_ parseUnsubscribe_ne_panic
  exact steady_readString.closed fun _ => steady_readString.closed fun _ => closed_checkNoTrailing _

theorem deleteWriter_canonical : Canonical parseDeleteWriter serializeDeleteWriter fun _ => True := by
  apply deleteWriter_undoes.canonical
  have hc : Covers readDeleteWriter fun p b => True ∧ serializeDeleteWriter p = b := by
    refine Covers.ensure (consumes_getU32le.covers fun id u hu => ?_)
    refine (covers_checkNoTrailing _).mono fun p v hv => ?_
    obtain ⟨rfl, rfl⟩ := hv
    exact ⟨trivial, by rw [hu, List.append_nil, serializeDeleteWriter]⟩
  exact fun b p h => hc.eval h

theorem deleteWriter_exactLength : ExactLength parseDeleteWriter := by
  refine exactLength_of_closed ?_ parseDeleteWriter_ne_panic
  refine (steady_ensure _ _).closed fun _ => Steady.closed ?_ fun _ => closed_checkNoTrailing _
  exact consumes_getU32le.steady fun id u hu => by
    rw [hu]
    exact reads_getU32le id

theorem ErrorCode.toU16_of_fromU16 {v : UInt16} {c : ErrorCode} (h : fromU16 v = .ok c) : c.toU16 = v := by
  unfold fromU16 at h
  split at h <;> cases h <;> rfl

theorem error_canonical : Canonical parseError serializeError fun p => StringFits p.errorMessage := by
  apply error_undoes.canonical
  have hc : Covers readError fun p b => StringFits p.errorMessage ∧ serializeError p = b := by
    refine Covers.ensure (consumes_getU16le.covers fun code u hu => ?_)
    refine (consumes_ofRes _).covers fun errorCode v hv => consumes_readString.covers fun message w hw => ?_
    refine (covers_checkNoTrailing _).mono fun p x hx => ?_
    obtain ⟨rfl, rfl⟩ := hx
    refine ⟨hw.1, ?_⟩
    rw [hu, hv.2, hw.2, List.append_nil, List.nil_append, serializeError, ErrorCode.toU16_of_fromU16 hv.1]
  exact fun b p h => hc.eval h

theorem parseError_ne_panic (payload : Bytes) : parseError payload ≠ .panic := by
  have hcode : ∀ v, ErrorCode.fromU16 v ≠ .panic := by
    intro v
    unfold ErrorCode.fromU16
    split <;> simp
  have h : Needs 0 readError := by
    refine Needs.ensure (Needs.getU16le fun code => (needs_ofRes (hcode code) 0).bind fun _ => ?_)
    exact needs_readString.bind fun _ => needs_checkNoTrailing.bind fun _ => needs_pure 0 _
  exact h.eval_ne_panic payload

theorem error_exactLength : ExactLength parseError := by
  refine exactLength_of_closed ?_ parseError_ne_panic
  refine (steady_ensure _ _).closed fun _ => Steady.closed ?_ fun _ => (steady_ofRes _).closed fun _ => ?_
  · exact consumes_getU16le.steady fun code u hu => by
      rw [hu]
      exact reads_getU16le code
  · exact steady_readString.closed fun _ => closed_checkNoTrailing _

/-! ### Payloads that end in an opaque tail -/

theorem covers_readTopicNameMode :
    Covers readTopicNameMode fun m b => m.WF ∧ serializeWriteMode m = 0x00 :: b := by
  refine consumes_readString.covers fun topic u hu => consumes_readString.covers fun type v hv => ?_
  refine consumes_parseQos.covers fun qos w hw => consumes_parseKeyDescriptors.covers fun keys x hx => ?_
  refine (covers_rest _).mono fun m data hm => ?_
  subst hm
  refine ⟨⟨hu.1, hv.1, hw.1, hx.1⟩, ?_⟩
  rw [hu.2, hv.2, hw.2, hx.2, serializeWriteMode]

theorem covers_readWriterIdMode :
    Covers readWriterIdMode fun m b => m.WF ∧ serializeWriteMode m = 0x01 :: b := by
  refine Covers.ensure (consumes_getU32le.covers fun id u hu => consumes_getU32le.covers fun len v hv => ?_)
  refine Covers.ensure ((consumes_take _).covers fun keyBytes w hw => (covers_rest _).mono fun m data hm => ?_)
  obtain ⟨rfl, hlen⟩ := hw
  subst hm
  have hback : UInt32.ofNat w.length = len := by rw [hlen, UInt32.ofNat_toNat]
  refine ⟨?_, ?_⟩
  · rw [WriteMode.WF, hlen]
    exact len.toNat_lt
  · rw [hu, hv, serializeWriteMode, hback]

theorem covers_readWriteMode : Covers readWriteMode fun m b => m.WF ∧ serializeWriteMode m = b := by
  refine Covers.ensure (consumes_getU8.covers fun mode u hu => ?_)
  subst hu
  split
  · exact covers_readTopicNameMode
  · exact covers_readWriterIdMode
  · intro s m t h
    cases h

theorem writeMode_canonical : Canonical parseWriteMode serializeWriteMode WriteMode.WF :=
  writeMode_undoes.canonical fun _ _ h => covers_readWriteMode.eval h

theorem Canonical.map {α β : Type} {parse : Bytes → Res ProtocolError α} {serialize : α → Bytes}
    {wf : α → Prop} (h : Canonical parse serialize wf) {mk : α → β} {get : β → α}
    (hmk : ∀ a b, mk a = b ↔ a = get b) :
    Canonical (fun u => mk <$> parse u) (fun b => serialize (get b)) fun b => wf (get b) := by
  intro u b
  rw [Res.map_eq_ok, ← h u (get b)]
  refine ⟨fun hx => ?_, fun hx => ⟨get b, hx, (hmk _ _).mpr rfl⟩⟩
  obtain ⟨a, ha, hab⟩ := hx
  rwa [← (hmk a b).mp hab]

theorem covers_readStamped {α : Type} (mk : String → UInt64 → Bytes → α) :
    Covers (readStamped mk) fun a b => ∃ topic stamp data, a = mk topic stamp data ∧ StringFits topic ∧
      stampedBytes topic stamp data = b := by
  refine consumes_readString.covers fun topic u hu => Covers.ensure (consumes_getU64le.covers fun stamp v hv => ?_)
  refine (covers_rest _).mono fun a data ha => ⟨topic, stamp, data, ha, hu.1, ?_⟩
  rw [hu.2, hv, stampedBytes]

theorem data_canonical : Canonical parseData serializeData fun p => StringFits p.topicName := by
  refine Undoes.canonical (fun p hp => readStamped_stampedBytes DataPayload.mk _ _ hp) fun b p h => ?_
  obtain ⟨topic, stamp, data, rfl, hfits, hb⟩ := (covers_readStamped _).eval h
  exact ⟨hfits, hb⟩

theorem dataDisposed_canonical :
    Canonical parseDataDisposed serializeDataDisposed fun p => StringFits p.topicName := by
  refine Undoes.canonical (fun p hp => readStamped_stampedBytes DataDisposedPayload.mk _ _ hp) fun b p h => ?_
  obtain ⟨topic, stamp, data, rfl, hfits, hb⟩ := (covers_readStamped _).eval h
  exact ⟨hfits, hb⟩

theorem dataNoWriters_canonical :
    Canonical parseDataNoWriters serializeDataNoWriters fun p => StringFits p.topicName := by
  apply dataNoWriters_undoes.canonical
  have hc : Covers readDataNoWriters fun p b => StringFits p.topicName ∧ serializeDataNoWriters p = b := by
    refine consumes_readString.covers fun topic u hu => (covers_rest _).mono fun p data hp => ?_
    subst hp
    exact ⟨hu.1, by rw [hu.2, serializeDataNoWriters]⟩
  exact fun b p h => hc.eval h

/-- **What the parsers accept.** -/
theorem parse_canonical :
    CanonicalFlag parseSubscribe SubscribePayload.flagged SubscribePayload.isKeyed SubscribePayload.WF ∧
    CanonicalFlag parseCreateWriter CreateWriterPayload.flagged CreateWriterPayload.isKeyed
      CreateWriterPayload.WF ∧
    (∀ p, serializeSubscribe p = p.flagged (if p.isKeyed then 1 else 0)) ∧
    (∀ p, serializeCreateWriter p = p.flagged (if p.isKeyed then 1 else 0)) ∧
    Canonical parseUnsubscribe serializeUnsubscribe UnsubscribePayload.WF ∧
    Canonical parseDeleteWriter serializeDeleteWriter (fun _ => True) ∧
    Canonical parseWrite serializeWrite (fun p => p.mode.WF) ∧
    Canonical parseDispose serializeDispose (fun p => p.mode.WF) ∧
    Canonical parseWriteDispose serializeWriteDispose (fun p => p.mode.WF) ∧
    Canonical parseError serializeError (fun p => StringFits p.errorMessage) ∧
    Canonical parseData serializeData (fun p => StringFits p.topicName) ∧
    Canonical parseDataDisposed serializeDataDisposed (fun p => StringFits p.topicName) ∧
    Canonical parseDataNoWriters serializeDataNoWriters (fun p => StringFits p.topicName) ∧
    (∀ qos : QosSet, qos.WF → qos.policies.length ≤ 13) ∧
    ExactLength parseSubscribe ∧ ExactLength parseUnsubscribe ∧ ExactLength parseCreateWriter ∧
    ExactLength parseDeleteWriter ∧ ExactLength parseError := by
  refine ⟨subscribe_canonical, createWriter_canonical, fun _ => rfl, fun _ => rfl, unsubscribe_canonical,
    deleteWriter_canonical, writeMode_canonical.map ?_, writeMode_canonical.map ?_, writeMode_canonical.map ?_,
    error_canonical, data_canonical, dataDisposed_canonical, dataNoWriters_canonical,
    fun _ h => h.length_le, exactLength_of_closed (closed_readEndpoint _) parseSubscribe_ne_panic,
    unsubscribe_exactLength, exactLength_of_closed (closed_readEndpoint _) parseCreateWriter_ne_panic,
    deleteWriter_exactLength, error_exactLength⟩
  · exact fun a b => ⟨fun h => h ▸ rfl, fun h => h ▸ rfl⟩
  · exact fun a b => ⟨fun h => h ▸ rfl, fun h => h ▸ rfl⟩
  · exact fun a b => ⟨fun h => h ▸ rfl, fun h => h ▸ rfl⟩

/-- `parse_canonical` for a SUBSCRIBE whose `is_keyed` byte is 7: it is accepted, and written with 1. -/
theorem parse_canonical_flag :
    let p : SubscribePayload := ⟨"t", "T", { policies := [] }, true, { keys := [] }⟩
    parseSubscribe [1, 0, 0, 0, 0x74, 1, 0, 0, 0, 0x54, 0, 7, 0] = .ok p ∧
    serializeSubscribe p = [1, 0, 0, 0, 0x74, 1, 0, 0, 0, 0x54, 0, 1, 0] := by
  intro p
  have hwf : p.WF := by
    refine ⟨?_, ?_, ⟨List.nodup_nil, fun q hq => by cases hq⟩, Nat.zero_le _⟩
    · unfold StringFits; decide
    · unfold StringFits; decide
  exact ⟨(parse_canonical.1 _ p).mpr ⟨hwf, 7, rfl, by decide⟩, by decide⟩

end DdsBridge
