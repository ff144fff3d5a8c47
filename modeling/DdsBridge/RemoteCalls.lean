import DdsBridge.GoDelivery
import DdsBridge.Service

/-!
# Calls over the wire

The methods of `Conn` in `ddswsclient/conn.go`: each encodes a request, sends it as a frame and reads its result off
the frame that comes back, or, for those that do not wait, hears of an error only. A call is what the service does:
the same state of the bridge, the same writer id, the same error code and text.
-/

namespace DdsBridge

namespace Remote

open GoCodec (GoString)
open GoDelivery (Received recvFrame)
open Service (Request Reply Fault serve answerBytes overWire dispatch_request)

/-! ## The client's side -/

/-- What a method hands to `sendAndWait`, or, if it does not wait, to `send`. -/
structure Sent where
  msgType : MsgType
  payload : Bytes
  waits : Bool

section
variable (topicName typeName : GoString) (qos : List GoCodec.QosPolicy) (isKeyed : Bool) (keys : List GoCodec.KeyField)
  (writerID : UInt32) (keyBytes data : Bytes)

def subscribe : Sent where
  msgType := .subscribe
  payload := GoCodec.encodeSubscribe { topicName, typeName, qos, isKeyed, keys }
  waits := true

def unsubscribe : Sent where
  msgType := .unsubscribe
  payload := GoCodec.encodeUnsubscribe { topicName, typeName }
  waits := true

def createWriter : Sent where
  msgType := .createWriter
  payload := GoCodec.encodeCreateWriter { topicName, typeName, qos, isKeyed, keys }
  waits := true

def deleteWriter : Sent where
  msgType := .deleteWriter
  payload := GoCodec.encodeDeleteWriter { writerID }
  waits := true

/-- `WritePayload` in the mode `WriteWriterMode`, with the zero values of the other fields. -/
def writerMode : GoCodec.WritePayload where
  mode := GoCodec.writeWriterMode
  topicName := []
  typeName := []
  qos := []
  keys := []
  writerID
  keyBytes
  data

def topicMode : GoCodec.WritePayload where
  mode := GoCodec.writeTopicMode
  topicName
  typeName
  qos
  keys
  writerID := 0
  keyBytes := []
  data

def publish : Sent where
  msgType := .write
  payload := GoCodec.encodeWrite (writerMode writerID keyBytes data)
  waits := false

def publishDispose : Sent where
  msgType := .dispose
  payload := GoCodec.encodeDispose (writerMode writerID keyBytes data)
  waits := false

def publishWriteDispose : Sent where
  msgType := .writeDispose
  payload := GoCodec.encodeWriteDispose (writerMode writerID keyBytes data)
  waits := false

def write : Sent where
  msgType := .write
  payload := GoCodec.encodeWrite (topicMode topicName typeName qos keys data)
  waits := true

def dispose : Sent where
  msgType := .dispose
  payload := GoCodec.encodeDispose (topicMode topicName typeName qos keys data)
  waits := true

def writeDispose : Sent where
  msgType := .writeDispose
  payload := GoCodec.encodeWriteDispose (topicMode topicName typeName qos keys data)
  waits := true

def ping : Sent where
  msgType := .ping
  payload := []
  waits := true

end

/-- A method of `Conn` with its arguments. -/
inductive Call where
  | subscribe (topicName typeName : GoString) (qos : List GoCodec.QosPolicy) (isKeyed : Bool)
      (keys : List GoCodec.KeyField)
  | unsubscribe (topicName typeName : GoString)
  | createWriter (topicName typeName : GoString) (qos : List GoCodec.QosPolicy) (isKeyed : Bool)
      (keys : List GoCodec.KeyField)
  | deleteWriter (writerID : UInt32)
  | publish (op : WriteOp) (writerID : UInt32) (keyBytes data : Bytes)
  | write (op : WriteOp) (topicName typeName : GoString) (qos : List GoCodec.QosPolicy) (keys : List GoCodec.KeyField)
      (data : Bytes)
  | ping

namespace Call

def sent : Call → Sent
  | subscribe topicName typeName qos isKeyed keys => Remote.subscribe topicName typeName qos isKeyed keys
  | unsubscribe topicName typeName => Remote.unsubscribe topicName typeName
  | createWriter topicName typeName qos isKeyed keys => Remote.createWriter topicName typeName qos isKeyed keys
  | deleteWriter writerID => Remote.deleteWriter writerID
  | publish .write writerID keyBytes data => Remote.publish writerID keyBytes data
  | publish .dispose writerID keyBytes data => publishDispose writerID keyBytes data
  | publish .writeDispose writerID keyBytes data => publishWriteDispose writerID keyBytes data
  | write .write topicName typeName qos keys data => Remote.write topicName typeName qos keys data
  | write .dispose topicName typeName qos keys data => dispose topicName typeName qos keys data
  | write .writeDispose topicName typeName qos keys data => writeDispose topicName typeName qos keys data
  | ping => Remote.ping

/-- `BuildMessage` -/
def frame (call : Call) (r : UInt32) : Bytes := GoCodec.buildMessage call.sent.msgType.toU8 r call.sent.payload

end Call

/-- What a caller gets: nothing, a writer id, an error of the bridge, or an answer that cannot be read. -/
inductive Result where
  | nil
  | writerID (id : UInt32)
  | bridgeError (code : UInt16) (message : GoString)
  | unreadable
  deriving DecidableEq, Repr

/-- The end of `sendAndWait`, and what `createWriter` reads of the answer. -/
def Call.returned (call : Call) (header : GoCodec.Header) (payload : Bytes) : Result :=
  if header.type = MsgType.error.toU8 then
    match GoCodec.decodeError payload with
    | .ok ep => .bridgeError ep.code ep.message
    | _ => .unreadable
  else match call with
    | .createWriter .. => if payload.length < 4 then .unreadable else .writerID (u32FromLE (payload.take 4))
    | _ => .nil

/-- What the caller hears of a frame on its own id, `r`: its result if it waits, or else an error by the error handler,
if there is one. `pending` says which ids have a channel. -/
def Call.hears (call : Call) (pending : UInt32 → Bool) (r : UInt32) (frame : Bytes) : Option Result :=
  match recvFrame pending frame with
  | .answer header payload => if header.requestID = r then some (call.returned header payload) else none
  | .error payload => match GoCodec.decodeError payload with
    | .ok ep => some (.bridgeError ep.code ep.message)
    | _ => none
  | _ => none

/-! ## The same on the service -/

/-- The call as a request, its fields as the bridge has them. -/
def Call.Means : Call → Request → Prop
  | .subscribe topicName typeName qos isKeyed keys, .subscribe p => p.toGo = ⟨topicName, typeName, qos, isKeyed, keys⟩
  | .unsubscribe topicName typeName, .unsubscribe p => p.toGo = ⟨topicName, typeName⟩
  | .createWriter topicName typeName qos isKeyed keys, .createWriter p =>
    p.toGo = ⟨topicName, typeName, qos, isKeyed, keys⟩
  | .deleteWriter writerID, .deleteWriter p => p.toGo = ⟨writerID⟩
  | .publish op writerID keyBytes data, .write op' mode => op = op' ∧ mode.SameAs (writerMode writerID keyBytes data)
  | .write op topicName typeName qos keys data, .write op' mode =>
    op = op' ∧ mode.SameAs (topicMode topicName typeName qos keys data)
  | .ping, .ping => True
  | _, _ => False

/-- The limits of the protocol on the arguments. -/
def Call.WithinLimits : Call → Prop
  | .subscribe topicName typeName qos _ keys => GoCodec.WithinLimits topicName typeName qos keys
  | .unsubscribe topicName typeName => GoCodec.ValidString topicName ∧ GoCodec.ValidString typeName
  | .createWriter topicName typeName qos _ keys => GoCodec.WithinLimits topicName typeName qos keys
  | .write _ topicName typeName qos keys _ => GoCodec.WithinLimits topicName typeName qos keys
  | _ => True

/-- The reply of the service as the caller is to get it. -/
def Call.expects (call : Call) : Reply → Option Result
  | .created writerId => some (.writerID writerId)
  | _ => if call.sent.waits then some .nil else none

def faultResult (fault : Fault) : Result := .bridgeError fault.code.toU16 (utf8 fault.message)

/-! ## Requests -/

theorem frame_eq (call : Call) (r : UInt32) : call.frame r = buildMessage call.sent.msgType r call.sent.payload := rfl

theorem request_of_call {call : Call} (hlimits : call.WithinLimits) (hsize : call.sent.payload.length < 2 ^ 32) :
    ∃ request, call.Means request ∧ request.Says call.sent.msgType call.sent.payload := by
  cases call with
  | subscribe topicName typeName qos isKeyed keys =>
    obtain ⟨p, hp, hsame⟩ := parseSubscribe_encodeSubscribe ⟨topicName, typeName, qos, isKeyed, keys⟩ hlimits
    exact ⟨.subscribe p, hsame, rfl, hp⟩
  | unsubscribe topicName typeName =>
    obtain ⟨p, hp, hsame⟩ := parseUnsubscribe_encodeUnsubscribe ⟨topicName, typeName⟩ hlimits.1 hlimits.2
    exact ⟨.unsubscribe p, hsame, rfl, hp⟩
  | createWriter topicName typeName qos isKeyed keys =>
    obtain ⟨p, hp, hsame⟩ := parseCreateWriter_encodeCreateWriter ⟨topicName, typeName, qos, isKeyed, keys⟩ hlimits
    exact ⟨.createWriter p, hsame, rfl, hp⟩
  | deleteWriter writerID =>
    obtain ⟨p, hp, hsame⟩ := parseDeleteWriter_encodeDeleteWriter ⟨writerID⟩
    exact ⟨.deleteWriter p, hsame, rfl, hp⟩
  | publish op writerID keyBytes data =>
    have hfits : (writerMode writerID keyBytes data).WithinLimits := by
      cases op <;> exact .inr ⟨rfl, hsize⟩
    obtain ⟨mode, hmode, hsame⟩ := parseWriteMode_encodeWriteMode _ hfits
    have hmk : ∀ {α : Type} (mk : WriteMode → α),
        mk <$> parseWriteMode (GoCodec.encodeWriteMode (writerMode writerID keyBytes data)) = .ok (mk mode) :=
      fun mk => Res.map_eq_ok.mpr ⟨mode, hmode, rfl⟩
    refine ⟨.write op mode, ⟨rfl, hsame⟩, ?_⟩
    cases op with
    | write => exact ⟨rfl, hmk _⟩
    | dispose => exact ⟨rfl, hmk _⟩
    | writeDispose => exact ⟨rfl, hmk _⟩
  | write op topicName typeName qos keys data =>
    obtain ⟨mode, hmode, hsame⟩ := parseWriteMode_encodeWriteMode (topicMode topicName typeName qos keys data)
      (.inl ⟨rfl, hlimits⟩)
    have hmk : ∀ {α : Type} (mk : WriteMode → α),
        mk <$> parseWriteMode (GoCodec.encodeWriteMode (topicMode topicName typeName qos keys data)) = .ok (mk mode) :=
      fun mk => Res.map_eq_ok.mpr ⟨mode, hmode, rfl⟩
    refine ⟨.write op mode, ⟨rfl, hsame⟩, ?_⟩
    cases op with
    | write => exact ⟨rfl, hmk _⟩
    | dispose => exact ⟨rfl, hmk _⟩
    | writeDispose => exact ⟨rfl, hmk _⟩
  | ping => exact ⟨.ping, trivial, rfl⟩

theorem checkFrame_buildMessage {maxPayloadSize : Nat} (t : MsgType) {r : UInt32} {payload : Bytes} (hr : r ≠ 0)
    (hmax : payload.length ≤ maxPayloadSize) (hsize : payload.length < 2 ^ 32) :
    ∃ header, checkFrame maxPayloadSize (buildMessage t r payload) = .ok (header, payload) ∧ header.msgType = t ∧
      header.requestId = r := by
  have hlength : (UInt32.ofNat payload.length).toNat = payload.length := by
    rw [UInt32.toNat_ofNat', Nat.mod_eq_of_lt hsize]
  have hlen : (buildMessage t r payload).length = headerSize + payload.length := by
    simp [buildMessage, headerSize, serializeHeader]
    omega
  refine ⟨⟨version, t, r, UInt32.ofNat payload.length⟩, ?_, rfl, rfl⟩
  unfold checkFrame
  rw [if_neg (by omega), parseHeader_buildMessage]
  simp only [Res.mapErr, Res.ok_bind, validateClientHeader, UInt8.lt_irrefl, gt_iff_lt, if_false, hlength, hr,
    if_neg (Nat.not_lt.mpr hmax), hlen, Nat.lt_irrefl]
  rw [slice, if_pos ⟨by omega, by omega⟩, drop_buildMessage, Nat.add_sub_cancel_left, List.take_length, Res.ok_bind]

/-! ## Answers -/

theorem recvFrame_of_id (pending : UInt32 → Bool) (t : MsgType) {r : UInt32} {payload : Bytes} (hr : r ≠ 0)
    (hsize : payload.length < 2 ^ 32) :
    recvFrame pending (buildMessage t r payload) =
      if pending r = true then .answer ⟨1, t.toU8, r, UInt32.ofNat payload.length⟩ payload
      else if t.toU8 = MsgType.ok.toU8 then .skipped
      else if t.toU8 = MsgType.error.toU8 then .error payload
      else GoDelivery.unsolicited t.toU8 payload := by
  have hheader : GoCodec.decodeHeader (buildMessage t r payload) = .ok ⟨1, t.toU8, r, UInt32.ofNat payload.length⟩ :=
    Prog.eval_eq_ok.mpr ⟨payload, reads_goReadHeader _ rfl payload⟩
  have hdrop : (buildMessage t r payload).drop GoCodec.headerLen = payload := drop_buildMessage t r payload
  have hlen : (buildMessage t r payload).length = GoCodec.headerLen + payload.length := by
    simp [buildMessage, GoCodec.headerLen, serializeHeader]
    omega
  have hlength : (UInt32.ofNat payload.length).toNat = payload.length := by
    rw [UInt32.toNat_ofNat', Nat.mod_eq_of_lt hsize]
  unfold recvFrame
  rw [if_neg (by omega), hheader]
  simp only [hdrop, hlength, hlen, Nat.add_sub_cancel_left, gt_iff_lt, Nat.lt_irrefl, if_false, List.take_length, ne_eq,
    hr, not_false_eq_true, true_and]

/-- An error message that the client can read has a text it can read. -/
theorem textWithin_of_sendable {r : UInt32} {code : ErrorCode} {text : String}
    (h : Sendable (makeErrorResponse r code text)) : TextWithin GoCodec.defaultMaxPayloadSize text := by
  obtain ⟨m, hfits, hbytes⟩ := h
  have htype : MsgType.error.toU8 = m.msgType.toU8 := by
    have hbyte := congrArg (fun bytes => bytes[3]?) hbytes
    simpa [makeErrorResponse, Outgoing.bytes, buildMessage, serializeHeader] using hbyte
  have hpayload : serializeError ⟨code, text⟩ = m.payload := by
    have hdrop := congrArg (List.drop headerSize) hbytes
    rwa [makeErrorResponse, Outgoing.bytes, drop_buildMessage, drop_buildMessage] at hdrop
  cases m with
  | error r' p =>
    have htext := congrArg (List.drop 6) hpayload
    have hdrop : ∀ p : ErrorPayload, (serializeError p).drop 6 = utf8 p.errorMessage := fun p => by
      simp [serializeError, writeString, List.drop_append]
    rw [hdrop, Outgoing.payload, hdrop] at htext
    rw [TextWithin, htext]
    exact hfits
  | ok r' bytes => exact absurd htype (by simp [Outgoing.msgType, MsgType.toU8])
  | pong r' => exact absurd htype (by simp [Outgoing.msgType, MsgType.toU8])
  | data p => exact absurd htype (by simp [Outgoing.msgType, MsgType.toU8])
  | dataDisposed p => exact absurd htype (by simp [Outgoing.msgType, MsgType.toU8])
  | dataNoWriters p => exact absurd htype (by simp [Outgoing.msgType, MsgType.toU8])

/-- A fault comes to whoever waits, and to the error handler if nobody does. -/
theorem hears_fault (call : Call) (pending : UInt32 → Bool) {r : UInt32} {fault : Fault} (hr : r ≠ 0)
    (h : Sendable (fault.bytes r)) : call.hears pending r (fault.bytes r) = some (faultResult fault) := by
  have htext := textWithin_of_sendable h
  have hdecoded : GoCodec.decodeError (serializeError ⟨fault.code, fault.message⟩) =
      .ok ⟨fault.code.toU16, utf8 fault.message⟩ := by
    have hreceived := (Outgoing.received (m := .error r ⟨fault.code, fault.message⟩) htext).2
    have hdrop : (Outgoing.error r ⟨fault.code, fault.message⟩).bytes.drop GoCodec.headerLen =
        serializeError ⟨fault.code, fault.message⟩ := drop_buildMessage _ _ _
    rwa [hdrop] at hreceived
  have hsize : (serializeError ⟨fault.code, fault.message⟩).length < 2 ^ 32 := by
    have hle : (utf8 fault.message).length ≤ GoCodec.defaultMaxPayloadSize := htext
    have hmax : GoCodec.defaultMaxPayloadSize + 6 < 2 ^ 32 := by decide
    simp [serializeError, writeString]
    omega
  have hnotOk : ¬ MsgType.error.toU8 = MsgType.ok.toU8 := by decide
  unfold Call.hears
  rw [show fault.bytes r = buildMessage .error r (serializeError ⟨fault.code, fault.message⟩) from rfl,
    recvFrame_of_id pending .error hr hsize]
  by_cases hp : pending r = true
  · simp [hp, Call.returned, hdecoded, faultResult]
  · simp [hp, hnotOk, hdecoded, faultResult]

section
variable {dds : DdsReturns} {sid : UInt64} {inner inner' : BridgeInner}

/-- Only a writer that is created is answered with an id, and only a ping with a pong. -/
def ReplyFor : Reply → Request → Prop
  | .created _, .createWriter _ => True
  | .pong, .ping => True
  | .done, .createWriter _ => False
  | .done, .ping => False
  | .done, _ => True
  | _, _ => False

theorem serve_replies {request : Request} {answer : Reply × List DataDisposedPayload}
    (h : serve dds sid request inner = .ok (answer, inner')) : ReplyFor answer.1 request := by
  cases request with
  | subscribe sub =>
    obtain ⟨_, _, _, h⟩ := Prog.bind_eq_ok.mp h
    cases h
    trivial
  | unsubscribe unsub =>
    obtain ⟨_, _, _, h⟩ := Prog.bind_eq_ok.mp h
    cases h
    trivial
  | createWriter cw =>
    obtain ⟨_, _, _, h⟩ := Prog.bind_eq_ok.mp h
    obtain ⟨_, _, _, h⟩ := Prog.bind_eq_ok.mp h
    cases h
    trivial
  | deleteWriter dw =>
    obtain ⟨_, _, _, h⟩ := Prog.bind_eq_ok.mp h
    cases h
    trivial
  | write op mode =>
    cases op with
    | write =>
      obtain ⟨_, _, _, h⟩ := Prog.bind_eq_ok.mp h
      cases h
      trivial
    | dispose =>
      obtain ⟨_, _, _, h⟩ := Prog.bind_eq_ok.mp h
      obtain ⟨_, _, _, h⟩ := Prog.bind_eq_ok.mp h
      cases h
      trivial
    | writeDispose =>
      obtain ⟨_, _, _, h⟩ := Prog.bind_eq_ok.mp h
      obtain ⟨_, _, _, h⟩ := Prog.bind_eq_ok.mp h
      cases h
      trivial
  | ping =>
    cases h
    trivial

/-- An answer is read as what it says by the call it answers, and passed over if the call does not wait. -/
theorem hears_reply {call : Call} {pending : UInt32 → Bool} {r : UInt32} {request : Request} {reply : Reply} (hr : r ≠ 0)
    (hpending : pending r = call.sent.waits) (hmeans : call.Means request) (h : ReplyFor reply request) :
    call.hears pending r (reply.bytes r) = call.expects reply := by
  have hnil : ([] : Bytes).length < 2 ^ 32 := by decide
  have hid : ∀ writerId : UInt32, (u32le writerId).length < 2 ^ 32 := fun _ => by simp
  have hread : ∀ writerId : UInt32, u32FromLE ((u32le writerId).take 4) = writerId := fun writerId => by
    rw [List.take_of_length_le (by simp), u32FromLE, ofLE_u32le]
  unfold Call.hears
  cases reply with
  | created writerId =>
    cases call <;> cases request <;> first | exact absurd hmeans id | exact absurd h id | skip
    rw [Reply.bytes, okResponse, recvFrame_of_id pending .ok hr (hid writerId), hpending]
    simp [Call.sent, createWriter, Call.returned, Call.expects, hread, MsgType.toU8]
  | pong =>
    cases call <;> cases request <;> first | exact absurd hmeans id | exact absurd h id | skip
    rw [Reply.bytes, recvFrame_of_id pending .pong hr hnil, hpending]
    simp [Call.sent, ping, Call.returned, Call.expects, MsgType.toU8]
  | done =>
    rw [Reply.bytes, okResponse, recvFrame_of_id pending .ok hr hnil, hpending]
    have hreturned : ∀ header : GoCodec.Header, header.type = MsgType.ok.toU8 → call.returned header [] = .nil := by
      intro header htype
      have hnotError : ¬ MsgType.ok.toU8 = MsgType.error.toU8 := by decide
      unfold Call.returned
      rw [htype, if_neg hnotError]
      cases call <;> cases request <;> first | rfl | exact absurd hmeans id | exact absurd h id
    by_cases hw : call.sent.waits = true
    · simp [hw, hreturned, Call.expects]
    · simp [hw, Call.expects]

/-- A frame that says a request is answered by what the service answers. -/
theorem processBinaryFrame_request {request : Request} {maxPayloadSize : Nat} {data payload : Bytes} {header : Header}
    (hcheck : checkFrame maxPayloadSize data = .ok (header, payload)) (hrequest : request.Says header.msgType payload) :
    processBinaryFrame dds sid data maxPayloadSize =
      (overWire header.requestId (serve dds sid request)).recover fun errorMsg => [errorMsg] := by
  unfold processBinaryFrame
  rw [hcheck, ← dispatch_request dds sid header.requestId hrequest]
  rfl

/-- **A remote call is a local one.** Where the service answers, the bridge sends the answer and then its notices, and
the caller gets what the answer says; where it fails, the caller gets the code and the text of the fault; and the bridge
is left as the service leaves it. -/
theorem remote_call (hreach : BridgeReachable inner) {call : Call} {pending : UInt32 → Bool} {r : UInt32}
    {maxPayloadSize : Nat} (hr : r ≠ 0) (hpending : pending r = call.sent.waits) (hlimits : call.WithinLimits)
    (hmax : call.sent.payload.length ≤ maxPayloadSize) (hsize : call.sent.payload.length < 2 ^ 32) :
    ∃ request, call.Means request ∧
      let sent := processBinaryFrame dds sid (call.frame r) maxPayloadSize inner
      match serve dds sid request inner with
      | .ok (answer, inner') => sent = .ok (answerBytes r answer, inner') ∧
        call.hears pending r (answer.1.bytes r) = call.expects answer.1
      | .err (fault, inner') => sent = .ok ([fault.bytes r], inner') ∧
        call.hears pending r (fault.bytes r) = some (faultResult fault)
      | .panic => sent = .panic := by
  obtain ⟨request, hmeans, hrequest⟩ := request_of_call hlimits hsize
  obtain ⟨header, hcheck, htype, hid⟩ := checkFrame_buildMessage call.sent.msgType hr hmax hsize
  have hframe : processBinaryFrame dds sid (call.frame r) maxPayloadSize =
      (overWire r (serve dds sid request)).recover fun errorMsg => [errorMsg] := by
    rw [frame_eq, ← hid]
    exact processBinaryFrame_request (hid ▸ hcheck) (htype ▸ hrequest)
  refine ⟨request, hmeans, ?_⟩
  dsimp only
  rw [hframe]
  cases h : serve dds sid request inner with
  | ok p =>
    obtain ⟨answer, inner'⟩ := p
    exact ⟨by simp [Prog.recover, overWire, Prog.bind_apply, Prog.mapErr, h, Prog.pure_apply],
      hears_reply hr hpending hmeans (serve_replies h)⟩
  | err p =>
    obtain ⟨fault, inner'⟩ := p
    have hsent : (overWire r (serve dds sid request)).recover (fun errorMsg => [errorMsg]) inner =
        (.ok ([fault.bytes r], inner') : Res (Empty × BridgeInner) _) := by
      simp [Prog.recover, overWire, Prog.bind_apply, Prog.mapErr, h]
    have hsendable : Sendable (fault.bytes r) := by
      have hN : SmallNat call.sent.payload.length := Nat.lt_trans hsize (by decide)
      have hdispatch := emits_dispatch dds sid r hN call.sent.msgType
      rw [dispatch_request dds sid r hrequest] at hdispatch
      exact hdispatch.error hreach.topicsFit (by simp [Prog.eval, overWire, Prog.bind_apply, Prog.mapErr, h])
    exact ⟨hsent, hears_fault call pending hr hsendable⟩
  | panic => simp [Prog.recover, overWire, Prog.bind_apply, Prog.mapErr, h]

/-- `remote_call` for the first writer of a bridge, on the topic "t" of the type "T". -/
theorem remote_call_createWriter :
    let call : Call := .createWriter [0x74] [0x54] [] false []
    ∃ request, call.Means request ∧
      let sent := processBinaryFrame ddsSucceeds 1 (call.frame 7) 1024 idleBridge
      match serve ddsSucceeds 1 request idleBridge with
      | .ok (answer, inner') => sent = .ok (answerBytes 7 answer, inner') ∧
        call.hears (· == 7) 7 (answer.1.bytes 7) = call.expects answer.1
      | .err (fault, inner') => sent = .ok ([fault.bytes 7], inner') ∧
        call.hears (· == 7) 7 (fault.bytes 7) = some (faultResult fault)
      | .panic => sent = .panic := by
  intro call
  have hlimits : call.WithinLimits :=
    ⟨⟨by decide, ['t'], rfl⟩, ⟨by decide, ['T'], rfl⟩, List.forall_mem_nil _, by decide, by decide, by decide⟩
  exact remote_call ⟨1, _, .refl⟩ (by decide) rfl hlimits (by decide) (by decide)

end

end Remote

end DdsBridge
