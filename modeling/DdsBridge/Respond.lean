import DdsBridge.Bridge
import DdsBridge.RoundTrip

/-!
# One response for each request

What a frame gets back: first the response, which carries the request's id, then notifications, which
carry none. A frame with an unknown message type is answered before its id is known.
-/

namespace DdsBridge

open BridgeInner

theorem msgType_of_buildMessage_eq {t t' : MsgType} {r r' : UInt32} {payload payload' : Bytes}
    (h : buildMessage t r payload = buildMessage t' r' payload') : t = t' := by
  have hp := congrArg parseHeader h
  rw [parseHeader_buildMessage, parseHeader_buildMessage, Res.ok.injEq, Header.mk.injEq] at hp
  exact hp.2.1

/-- A message that closes the request `r`. -/
def Responds (r : UInt32) (msg : Bytes) : Prop := ∃ header, parseHeader msg = .ok header ∧
  header.requestId = r ∧ (header.msgType = .ok ∨ header.msgType = .pong ∨ header.msgType = .error)

def Notifies (msg : Bytes) : Prop :=
  ∃ header, parseHeader msg = .ok header ∧ header.requestId = 0 ∧ header.msgType = .dataDisposed

/-- The response to `r`, and notifications behind it. -/
def Answers (r : UInt32) (msgs : List Bytes) : Prop :=
  ∃ resp rest, msgs = resp :: rest ∧ Responds r resp ∧ ∀ msg ∈ rest, Notifies msg

def IsInvalidMessage (r : UInt32) (msg : Bytes) : Prop :=
  ∃ message, msg = makeErrorResponse r .invalidMessage message

theorem responds_error (r : UInt32) (code : ErrorCode) (message : String) :
    Responds r (makeErrorResponse r code message) :=
  ⟨_, parseHeader_buildMessage _ _ _, rfl, .inr (.inr rfl)⟩

theorem responds_ok (r : UInt32) (payload : Bytes) : Responds r (okResponse r payload) :=
  ⟨_, parseHeader_buildMessage _ _ _, rfl, .inl rfl⟩

theorem responds_pong (r : UInt32) : Responds r (buildMessage .pong r []) :=
  ⟨_, parseHeader_buildMessage _ _ _, rfl, .inr (.inl rfl)⟩

theorem notifies_disposed (payload : Bytes) : Notifies (buildMessage .dataDisposed 0 payload) :=
  ⟨_, parseHeader_buildMessage _ _ _, rfl, rfl⟩

theorem responds_unique {r r' : UInt32} {msg : Bytes} (h : Responds r msg) (h' : Responds r' msg) : r = r' := by
  obtain ⟨header, hp, rfl, -⟩ := h
  obtain ⟨header', hp', rfl, -⟩ := h'
  rw [hp] at hp'
  cases hp'
  rfl

theorem Answers.single {r : UInt32} {msg : Bytes} (h : Responds r msg) : Answers r [msg] :=
  ⟨msg, [], rfl, h, fun _ hm => by cases hm⟩

theorem Answers.ne_nil {r : UInt32} {msgs : List Bytes} (h : Answers r msgs) : msgs ≠ [] := by
  obtain ⟨resp, rest, rfl, -⟩ := h
  exact List.cons_ne_nil _ _

/-! ## Handlers -/

/-- A part of a handler: its error is a response to `r`, its value satisfies `Q`. -/
def Reports {α : Type} (r : UInt32) (Q : α → Prop) (m : Prog BridgeInner Bytes α) : Prop :=
  ∀ s, m.wp (fun a _ => Q a) (fun e _ => Responds r e) True s

section
variable {α β : Type} {r : UInt32} {Q : α → Prop} {R : β → Prop}

theorem Reports.bind {m : Prog BridgeInner Bytes α} {f : α → Prog BridgeInner Bytes β} (hm : Reports r Q m)
    (hf : ∀ a, Q a → Reports r R (f a)) : Reports r R (m >>= f) := by
  intro s
  rw [Prog.wp_bind]
  exact Prog.wp_mono (hm s) (fun a t ha => hf a ha t) (fun _ _ h => h) id

theorem reports_pure {a : α} (h : Q a) : Reports r Q (pure a) := fun _ => h

theorem reports_get : Reports r (fun _ => True) (Prog.get : Prog BridgeInner Bytes BridgeInner) :=
  fun _ => trivial

theorem reports_modify (f : BridgeInner → BridgeInner) : Reports r (fun _ => True) (Prog.modify f) :=
  fun _ => trivial

theorem reports_parsed (x : Res ProtocolError α) : Reports r (fun _ => True) (parsed r x) := by
  intro s
  rw [parsed, Prog.wp_mapErr]
  exact Prog.wp_of_forall (fun _ _ => trivial) (fun _ _ => responds_error r _ _) trivial

theorem reports_orDdsError (m : Prog BridgeInner DdsError α) : Reports r (fun _ => True) (orDdsError r m) := by
  intro s
  rw [orDdsError, Prog.wp_mapErr]
  exact Prog.wp_of_forall (fun _ _ => trivial) (fun _ _ => responds_error r _ _) trivial

theorem reports_orWriterError (m : Prog BridgeInner DdsError α) :
    Reports r (fun _ => True) (orWriterError r m) := by
  intro s
  rw [orWriterError, Prog.wp_mapErr]
  exact Prog.wp_of_forall (fun _ _ => trivial) (fun _ _ => responds_error r _ _) trivial

theorem reports_require {c : Prop} [Decidable c] (code : ErrorCode) (message : String) :
    Reports r (fun _ => True) (Prog.require c (makeErrorResponse r code message) : Prog BridgeInner Bytes Unit) := by
  intro s
  rw [Prog.wp_require]
  exact ⟨fun _ => trivial, fun _ => responds_error r code message⟩

end

section
variable (dds : DdsReturns) (sid : UInt64) (r : UInt32)

theorem reports_createWriter (topic : Topic) (qos : QosSet) :
    Reports r (fun _ => True) (createWriter dds sid r topic qos) := by
  refine reports_get.bind fun inner _ => (reports_orDdsError _).bind fun writer _ => ?_
  exact (reports_modify _).bind fun _ _ => reports_pure trivial

theorem reports_implicitWriter (topicName typeName : String) (qos : QosSet) (keys : KeyDescriptors) :
    Reports r (fun _ => True) (implicitWriter dds sid r topicName typeName qos keys) := by
  refine reports_get.bind fun inner _ => ?_
  by_cases h : inner.writers.findByTopic sid topicName typeName qos.normalize = none
  · rw [if_pos h]
    refine (reports_orDdsError _).bind fun topic _ => (reports_createWriter dds sid r topic qos).bind fun _ _ => ?_
    refine reports_get.bind fun inner _ => ?_
    split
    · exact reports_pure trivial
    · exact fun _ => responds_error r _ _
  · rw [if_neg h]
    refine reports_get.bind fun inner _ => ?_
    split
    · exact reports_pure trivial
    · exact fun _ => responds_error r _ _

theorem reports_doWriteOp (mode : WriteMode) (op : WriteOp) :
    Reports r (Responds r) (doWriteOp dds sid r mode op) := by
  have hexec : ∀ writer, Reports r (Responds r)
      (executeWriteOp dds r writer op >>= fun _ => pure (okResponse r [])) := fun writer =>
    (reports_orDdsError _).bind fun _ _ => reports_pure (responds_ok r [])
  cases mode with
  | topicName topicName typeName qos keys data =>
    exact (reports_implicitWriter dds sid r topicName typeName qos keys).bind fun writer _ => hexec writer
  | writerId writerId keyBytes data =>
    exact reports_get.bind fun inner _ => (reports_orWriterError _).bind fun writer _ => hexec writer

theorem reports_notification {resp : Bytes} (hresp : Responds r resp) (mode : WriteMode) :
    Reports r (Answers r) (respWithDisposeNotification sid resp mode) := by
  refine reports_get.bind fun inner _ => ?_
  cases disposedTopic inner mode with
  | none => exact reports_pure (Answers.single hresp)
  | some p =>
    refine (reports_modify _).bind fun _ _ => reports_pure ⟨resp, _, rfl, hresp, fun msg hm => ?_⟩
    obtain ⟨s, -, rfl⟩ := List.mem_map.mp hm
    exact notifies_disposed _

theorem reports_dispatch (t : MsgType) (payload : Bytes) :
    Reports r (Answers r) (dispatch dds sid r t payload) := by
  have hok : ∀ bytes, Answers r [okResponse r bytes] := fun bytes => Answers.single (responds_ok r bytes)
  have hunexpected : ∀ message, Reports r (Answers r)
      (Prog.throw (makeErrorResponse r .invalidMessage message) : Prog BridgeInner Bytes (List Bytes)) :=
    fun message _ => responds_error r _ message
  cases t with
  | subscribe =>
    refine (reports_parsed _).bind fun sub _ => (reports_orDdsError _).bind fun topic _ => ?_
    exact (reports_orDdsError _).bind fun _ _ => reports_pure (hok [])
  | unsubscribe =>
    refine (reports_parsed _).bind fun unsub _ => reports_get.bind fun inner _ => ?_
    refine (reports_modify _).bind fun _ _ => (reports_require _ _).bind fun _ _ => ?_
    exact reports_pure (hok [])
  | write =>
    refine (reports_parsed _).bind fun p _ => (reports_doWriteOp dds sid r p.mode .write).bind ?_
    exact fun resp hresp => reports_pure (Answers.single hresp)
  | dispose =>
    refine (reports_parsed _).bind fun p _ => (reports_doWriteOp dds sid r p.mode .dispose).bind ?_
    exact fun resp hresp => reports_notification sid r hresp p.mode
  | writeDispose =>
    refine (reports_parsed _).bind fun p _ => (reports_doWriteOp dds sid r p.mode .writeDispose).bind ?_
    exact fun resp hresp => reports_notification sid r hresp p.mode
  | createWriter =>
    refine (reports_parsed _).bind fun cw _ => (reports_orDdsError _).bind fun topic _ => ?_
    exact (reports_createWriter dds sid r topic cw.qos).bind fun id _ => reports_pure (hok _)
  | deleteWriter =>
    refine (reports_parsed _).bind fun dw _ => (reports_orWriterError _).bind fun _ _ => ?_
    exact reports_pure (hok [])
  | ping => exact reports_pure (Answers.single (responds_pong r))
  | ok | data | dataDisposed | dataNoWriters | error | pong => exact hunexpected _

theorem handleMessage_answers {t : MsgType} {payload : Bytes} {inner inner' : BridgeInner}
    {msgs : List Bytes} (h : handleMessage dds sid r t payload inner = .ok (msgs, inner')) : Answers r msgs := by
  have hwp : (handleMessage dds sid r t payload).wp (fun msgs _ => Answers r msgs) (fun e _ => nomatch e) True
      inner := by
    unfold handleMessage
    rw [Prog.wp_recover]
    exact Prog.wp_mono (reports_dispatch dds sid r t payload inner) (fun _ _ hq => hq) (fun _ _ he => .single he) id
  have hanswers := Prog.post_of_ok hwp h
  exact hanswers

end

/-! ## Frames -/

def frameVersion (data : Bytes) : UInt8 := data.getD 2 0

def frameMsgType (data : Bytes) : UInt8 := data.getD 3 0

def frameRequestId (data : Bytes) : UInt32 := u32FromLE ((data.drop 4).take 4)

theorem uncons_of_le {n : Nat} {data : Bytes} (h : n + 1 ≤ data.length) :
    ∃ b rest, data = b :: rest ∧ n ≤ rest.length := by
  cases data with
  | nil => simp at h
  | cons b rest => exact ⟨b, rest, rfl, Nat.le_of_succ_le_succ h⟩

theorem parseHeader_eq {data : Bytes} (hlen : 12 ≤ data.length) (hmagic : data.take 2 = [0x44, 0x42]) :
    ∃ payloadLength, parseHeader data = MsgType.fromU8 (frameMsgType data) >>= fun msgType =>
      .ok { version := frameVersion data, msgType, requestId := frameRequestId data, payloadLength } := by
  obtain ⟨b0, d0, rfl, h0⟩ := uncons_of_le hlen
  obtain ⟨b1, d1, rfl, h1⟩ := uncons_of_le h0
  obtain ⟨b2, d2, rfl, h2⟩ := uncons_of_le h1
  obtain ⟨b3, d3, rfl, h3⟩ := uncons_of_le h2
  obtain ⟨b4, d4, rfl, h4⟩ := uncons_of_le h3
  obtain ⟨b5, d5, rfl, h5⟩ := uncons_of_le h4
  obtain ⟨b6, d6, rfl, h6⟩ := uncons_of_le h5
  obtain ⟨b7, d7, rfl, h7⟩ := uncons_of_le h6
  simp only [List.take_succ_cons, List.take_zero, List.cons.injEq, and_true] at hmagic
  obtain ⟨rfl, rfl⟩ := hmagic
  refine ⟨UInt32.ofNat (ofLE (d7.take 4)), ?_⟩
  have hremaining : headerSize ≤ d7.length + 1 + 1 + 1 + 1 + 1 + 1 + 1 + 1 := Nat.add_le_add_right h7 8
  unfold parseHeader readHeader Prog.eval
  simp only [frameMsgType, frameVersion, frameRequestId, ensureRemaining, Cursor.ensure, Prog.bind_apply,
    Prog.get, Res.ok_bind, List.length_cons, Prog.require, if_pos hremaining, Prog.pure_apply, Cursor.getU8,
    and_self, if_true, List.getD_cons_succ, List.getD_cons_zero]
  cases MsgType.fromU8 b3 with
  | ok t =>
    have htake : 4 ≤ (b4 :: b5 :: b6 :: b7 :: d7).length := by simp
    simp only [Prog.ofRes, Cursor.getU32le, Cursor.take, Prog.bind_apply, Prog.pure_apply, Res.ok_bind,
      if_pos htake, List.drop_succ_cons, List.drop_zero, if_pos h7]
    rfl
  | err e => rfl
  | panic => rfl

/-! ### What the checks let through -/

theorem checkFrame_known {data : Bytes} (maxPayloadSize : Nat) {t : MsgType} (hlen : 12 ≤ data.length)
    (hmagic : data.take 2 = [0x44, 0x42]) (ht : MsgType.fromU8 (frameMsgType data) = .ok t) :
    (∃ errorMsg, checkFrame maxPayloadSize data = .err errorMsg ∧
      IsInvalidMessage (frameRequestId data) errorMsg) ∨
    (∃ header payload, checkFrame maxPayloadSize data = .ok (header, payload) ∧
      header.requestId = frameRequestId data ∧ frameVersion data ≤ version) := by
  obtain ⟨payloadLength, hparse⟩ := parseHeader_eq hlen hmagic
  rw [ht] at hparse
  unfold checkFrame
  simp only [if_neg (Nat.not_lt.mpr hlen), show headerSize = 12 from rfl, hparse, Res.ok_bind, Res.mapErr]
  unfold validateClientHeader
  by_cases hv : frameVersion data > version
  · exact .inl ⟨_, by simp only [if_pos hv]; rfl, _, rfl⟩
  by_cases hmax : payloadLength.toNat > maxPayloadSize
  · exact .inl ⟨_, by simp only [if_neg hv, if_pos hmax]; rfl, _, rfl⟩
  by_cases hid : frameRequestId data = 0
  · exact .inl ⟨_, by simp only [if_neg hv, if_neg hmax, if_pos hid]; rfl, _, rfl⟩
  by_cases hshort : data.length < 12 + payloadLength.toNat
  · exact .inl ⟨_, by simp only [if_neg hv, if_neg hmax, if_neg hid, Res.ok_bind, if_pos hshort]; rfl, _, rfl⟩
  · refine .inr ⟨{ version := frameVersion data, msgType := t, requestId := frameRequestId data, payloadLength },
      (data.drop 12).take (12 + payloadLength.toNat - 12), ?_, rfl, UInt8.not_lt.mp hv⟩
    have hslice : 12 ≤ 12 + payloadLength.toNat ∧ 12 + payloadLength.toNat ≤ data.length := by omega
    simp only [if_neg hv, if_neg hmax, if_neg hid, Res.ok_bind, if_neg hshort, slice, if_pos hslice]

theorem checkFrame_unknown {data : Bytes} (maxPayloadSize : Nat) (hlen : 12 ≤ data.length)
    (hmagic : data.take 2 = [0x44, 0x42]) (ht : ∀ t, MsgType.fromU8 (frameMsgType data) ≠ .ok t) :
    ∃ message, checkFrame maxPayloadSize data = .err (makeParseError 0 message) := by
  obtain ⟨payloadLength, hparse⟩ := parseHeader_eq hlen hmagic
  cases h : MsgType.fromU8 (frameMsgType data) with
  | ok t => exact absurd h (ht t)
  | panic => exact absurd h (MsgType.fromU8_ne_panic _)
  | err e =>
    rw [h] at hparse
    unfold checkFrame
    simp only [if_neg (Nat.not_lt.mpr hlen), show headerSize = 12 from rfl, hparse, Res.err_bind, Res.mapErr]
    exact ⟨_, rfl⟩

/-- **One response for each request.** A frame with a header and an id is answered under that id, a newer
version by INVALID_MESSAGE, exactly if its message type is one that exists. -/
theorem answers_iff_known_type {inner inner' : BridgeInner} {dds : DdsReturns} {sid : UInt64} {data : Bytes}
    {maxPayloadSize : Nat} {msgs : List Bytes} (hlen : 12 ≤ data.length)
    (hmagic : data.take 2 = [0x44, 0x42]) (hid : frameRequestId data ≠ 0)
    (h : processBinaryFrame dds sid data maxPayloadSize inner = .ok (msgs, inner')) :
    (Answers (frameRequestId data) msgs ∧ (version < frameVersion data →
      ∃ resp rest, msgs = resp :: rest ∧ IsInvalidMessage (frameRequestId data) resp)) ↔
      ∃ t, MsgType.fromU8 (frameMsgType data) = .ok t := by
  unfold processBinaryFrame at h
  refine ⟨fun h => ?_, fun h => ?_⟩
  · obtain ⟨⟨resp, rest, rfl, hresp, -⟩, -⟩ := h
    by_contra hunknown
    obtain ⟨message, hcheck⟩ := checkFrame_unknown maxPayloadSize hlen hmagic
      fun t ht => hunknown ⟨t, ht⟩
    rw [hcheck] at h
    cases h
    exact hid (responds_unique hresp (responds_error 0 _ message))
  · obtain ⟨t, ht⟩ := h
    rcases checkFrame_known maxPayloadSize hlen hmagic ht with
      ⟨errorMsg, hcheck, message, rfl⟩ | ⟨header, payload, hcheck, hheader, hversion⟩
    · rw [hcheck] at h
      cases h
      exact ⟨Answers.single (responds_error _ _ message), fun _ => ⟨_, [], rfl, message, rfl⟩⟩
    · rw [hcheck] at h
      refine ⟨hheader ▸ handleMessage_answers dds sid header.requestId h, fun hnew => ?_⟩
      exact absurd hnew (UInt8.not_lt.mpr hversion)

def idleBridge : BridgeInner := BridgeInner.create 1 { sessionBufferSize := 16, maxPayloadSize := 1024 }

def ddsSucceeds : DdsReturns where
  createTopic := 1
  createReader := 2
  createWriter := 3
  write := 0
  dispose := 0
  writeDispose := 0
  createQos := true

/-- Request 7 of a newer version with a message type this version does not know: the one message that
comes back carries the id 0. -/
theorem unknown_type_unanswered :
    let data : Bytes := [0x44, 0x42, 2, 0x20, 7, 0, 0, 0, 0, 0, 0, 0]
    let msgs := [makeParseError 0 (ProtocolError.invalidMsgType 0x20).toString]
    frameRequestId data = 7 ∧ processBinaryFrame ddsSucceeds 1 data 1024 idleBridge = .ok (msgs, idleBridge) ∧
      ¬ Answers 7 msgs := by
  refine ⟨by decide, rfl, ?_⟩
  intro h
  obtain ⟨resp, rest, hmsgs, hresp, -⟩ := h
  cases hmsgs
  exact absurd (responds_unique hresp (responds_error 0 _ _)) (by decide)

/-- `answers_iff_known_type` for a PING. -/
theorem ping_answered :
    let data : Bytes := [0x44, 0x42, 1, 0x0F, 7, 0, 0, 0, 0, 0, 0, 0]
    let msgs := [buildMessage .pong 7 []]
    processBinaryFrame ddsSucceeds 1 data 1024 idleBridge = .ok (msgs, idleBridge) ∧
      Answers (frameRequestId data) msgs := by
  intro data msgs
  have h : processBinaryFrame ddsSucceeds 1 data 1024 idleBridge = .ok (msgs, idleBridge) := rfl
  exact ⟨h, ((answers_iff_known_type (by decide) (by decide) (by decide) h).mpr ⟨.ping, rfl⟩).1⟩

end DdsBridge
