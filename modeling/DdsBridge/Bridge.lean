import DdsBridge.Frame
import DdsBridge.Readers
import DdsBridge.Writers

/-!
# Requests

`src/bridge.rs`: the shared state, and what each client message does to it. A handler ends with the
messages for the client; its error is the one message that reports it.
-/

namespace DdsBridge

/-- A bounded channel with its queue; it is open while its receiver lives. -/
structure Channel where
  capacity : Nat
  queue : List Bytes
  isOpen : Bool
  deriving DecidableEq, Repr

/-- `try_send` with its result ignored. -/
def Channel.trySend (c : Channel) (msg : Bytes) : Channel :=
  if c.isOpen ∧ c.queue.length < c.capacity then { c with queue := c.queue ++ [msg] } else c

structure BridgeConfig where
  sessionBufferSize : Nat
  maxPayloadSize : Nat
  deriving DecidableEq, Repr

/-- A sender in `session_senders` is the number of its channel. -/
structure BridgeInner where
  participant : DdsParticipant
  writers : WriterRegistry
  readers : ReaderRegistry
  sessionSenders : Table UInt64 Nat
  channels : Table Nat Channel
  config : BridgeConfig

namespace BridgeInner

def onParticipant {ε α : Type} (m : Prog DdsParticipant ε α) : Prog BridgeInner ε α :=
  m.zoom participant fun participant inner => { inner with participant }

def onWriters {ε α : Type} (m : Prog WriterRegistry ε α) : Prog BridgeInner ε α :=
  m.zoom writers fun writers inner => { inner with writers }

def onReaders {ε α : Type} (m : Prog ReaderRegistry ε α) : Prog BridgeInner ε α :=
  m.zoom readers fun readers inner => { inner with readers }

def create (handle : Int32) (config : BridgeConfig) : BridgeInner where
  participant := { handle, topics := ∅ }
  writers := .new
  readers := .new
  sessionSenders := ∅
  channels := ∅
  config

def registerSession (sessionId : UInt64) (sender : Nat) (inner : BridgeInner) : BridgeInner :=
  { inner with sessionSenders := inner.sessionSenders.insert sessionId sender }

def unregisterSession (sessionId : UInt64) (inner : BridgeInner) : BridgeInner :=
  { inner with
    sessionSenders := inner.sessionSenders.erase sessionId
    writers := inner.writers.removeSession sessionId
    readers := inner.readers.removeSession sessionId }

end BridgeInner

open BridgeInner

/-! ## Responses -/

def makeErrorResponse (requestId : UInt32) (code : ErrorCode) (message : String) : Bytes :=
  buildMessage .error requestId (serializeError { errorCode := code, errorMessage := message })

def okResponse (requestId : UInt32) (payload : Bytes) : Bytes := buildMessage .ok requestId payload

/-- `parse(payload).map_err(..)?` -/
def parsed {α : Type} (requestId : UInt32) (r : Res ProtocolError α) : Prog BridgeInner Bytes α :=
  (Prog.ofRes r).mapErr fun e => makeErrorResponse requestId .invalidMessage e.toString

/-- `.map_err(|e| make_error_response(request_id, ErrorCode::DdsError, ..))?` -/
def orDdsError {α : Type} (requestId : UInt32) (m : Prog BridgeInner DdsError α) : Prog BridgeInner Bytes α :=
  m.mapErr fun e => makeErrorResponse requestId .ddsError e.toString

def orWriterError {α : Type} (requestId : UInt32) (m : Prog BridgeInner DdsError α) : Prog BridgeInner Bytes α :=
  m.mapErr fun e =>
    let code := match e with
      | .writerNotFound _ => .writerNotFound
      | .writerOwnership _ => .writerNotFound
      | _ => .ddsError
    makeErrorResponse requestId code e.toString

/-! ## Handlers -/

section
variable (dds : DdsReturns) (sessionId : UInt64) (requestId : UInt32)

def getOrCreateTopic (topicName typeName : String) (isKeyed : Bool) (keyDescriptors : KeyDescriptors) :
    Prog BridgeInner Bytes Topic :=
  orDdsError requestId (onParticipant
    (DdsParticipant.getOrCreateTopic dds.createTopic topicName typeName isKeyed keyDescriptors))

def handleSubscribe (payload : Bytes) : Prog BridgeInner Bytes (List Bytes) := do
  let sub ← parsed requestId (parseSubscribe payload)
  let topic ← getOrCreateTopic dds requestId sub.topicName sub.typeName sub.isKeyed sub.keyDescriptors
  let qosPtr := makeQos dds.createQos sub.qos
  let _readerId ← orDdsError requestId (onReaders
    (ReaderRegistry.subscribe dds.createReader topic qosPtr sub.qos sessionId))
  return [okResponse requestId []]

def handleUnsubscribe (payload : Bytes) : Prog BridgeInner Bytes (List Bytes) := do
  let unsub ← parsed requestId (parseUnsubscribe payload)
  let inner ← Prog.get
  let (found, readers) := inner.readers.unsubscribe unsub.topicName unsub.typeName sessionId
  Prog.modify fun inner => { inner with readers }
  Prog.require (found = true) (makeErrorResponse requestId .readerNotFound
    s!"no subscription for topic='{unsub.topicName}' type='{unsub.typeName}'")
  return [okResponse requestId []]

/-- `DdsWriter::new` and `register`. -/
def createWriter (topic : Topic) (qos : QosSet) : Prog BridgeInner Bytes UInt32 := do
  let qosPtr := makeQos dds.createQos qos
  let inner ← Prog.get
  let writer ← orDdsError requestId (Prog.ofRes
    (DdsWriter.new dds.createWriter topic qosPtr qos.normalize inner.writers.nextWriterId))
  Prog.modify fun inner => { inner with writers := inner.writers.register writer sessionId }
  return writer.writerId

inductive WriteOp where
  | write
  | dispose
  | writeDispose
  deriving DecidableEq, Repr

def executeWriteOp (writer : DdsWriter) (op : WriteOp) : Prog BridgeInner Bytes Unit :=
  orDdsError requestId (Prog.ofRes (match op with
    | .write => writer.write dds.write
    | .dispose => writer.dispose dds.dispose
    | .writeDispose => writer.writeDispose dds.writeDispose))

/-- The session's writer for the topic, type and QoS; a new one if there is none. -/
def implicitWriter (topicName typeName : String) (qos : QosSet) (keyDescriptors : KeyDescriptors) :
    Prog BridgeInner Bytes DdsWriter := do
  let inner ← Prog.get
  if inner.writers.findByTopic sessionId topicName typeName qos.normalize = none then
    let topic ← getOrCreateTopic dds requestId topicName typeName (!keyDescriptors.keys.isEmpty) keyDescriptors
    let _writerId ← createWriter dds sessionId requestId topic qos
  let inner ← Prog.get
  match inner.writers.findByTopic sessionId topicName typeName qos.normalize with
  | some writer => return writer
  | none => Prog.throw (makeErrorResponse requestId .internalError "writer disappeared after creation")

def doWriteOp (mode : WriteMode) (op : WriteOp) : Prog BridgeInner Bytes Bytes := do
  let writer ← match mode with
    | .topicName topicName typeName qos keyDescriptors _ =>
      implicitWriter dds sessionId requestId topicName typeName qos keyDescriptors
    | .writerId writerId _ _ => do
      let inner ← Prog.get
      orWriterError requestId (Prog.ofRes (inner.writers.get writerId sessionId))
  executeWriteOp dds requestId writer op
  return okResponse requestId []

/-! ### The notification after a dispose -/

def topicSubscribers (inner : BridgeInner) (topicName typeName : String) : List UInt64 :=
  (inner.readers.allReaders.filter fun reader =>
    reader.topic.topicName = topicName ∧ reader.topic.typeName = typeName).flatMap
      fun reader => reader.subscribers.keys

def sendTo (msg : Bytes) (inner : BridgeInner) (sid : UInt64) : BridgeInner :=
  match inner.sessionSenders.lookup sid with
  | some sender => { inner with channels := Table.modify inner.channels sender fun c => c.trySend msg }
  | none => inner

def disposedTopic (inner : BridgeInner) : WriteMode → Option (String × String × Bytes)
  | .topicName topicName typeName _ _ data => some (topicName, typeName, data)
  | .writerId writerId _ data => (inner.writers.findById writerId).map fun writer =>
      (writer.topic.topicName, writer.topic.typeName, data)

/-- The requesting session gets its copies behind the response, the others by their channels. -/
def respWithDisposeNotification (resp : Bytes) (mode : WriteMode) : Prog BridgeInner Bytes (List Bytes) := do
  let inner ← Prog.get
  match disposedTopic inner mode with
  | none => return [resp]
  | some (topicName, typeName, keyData) =>
    let msg := buildMessage .dataDisposed 0 (serializeDataDisposed { topicName, sourceTimestamp := 0, keyData })
    let subscribers := topicSubscribers inner topicName typeName
    Prog.modify fun inner => (subscribers.filter (· != sessionId)).foldl (sendTo msg) inner
    return resp :: (subscribers.filter (· == sessionId)).map fun _ => msg

def handleWrite (payload : Bytes) : Prog BridgeInner Bytes (List Bytes) := do
  let writePayload ← parsed requestId (parseWrite payload)
  let resp ← doWriteOp dds sessionId requestId writePayload.mode .write
  return [resp]

def handleDispose (payload : Bytes) : Prog BridgeInner Bytes (List Bytes) := do
  let disposePayload ← parsed requestId (parseDispose payload)
  let resp ← doWriteOp dds sessionId requestId disposePayload.mode .dispose
  respWithDisposeNotification sessionId resp disposePayload.mode

def handleWriteDispose (payload : Bytes) : Prog BridgeInner Bytes (List Bytes) := do
  let wdPayload ← parsed requestId (parseWriteDispose payload)
  let resp ← doWriteOp dds sessionId requestId wdPayload.mode .writeDispose
  respWithDisposeNotification sessionId resp wdPayload.mode

def handleCreateWriter (payload : Bytes) : Prog BridgeInner Bytes (List Bytes) := do
  let cw ← parsed requestId (parseCreateWriter payload)
  let topic ← getOrCreateTopic dds requestId cw.topicName cw.typeName cw.isKeyed cw.keyDescriptors
  let writerId ← createWriter dds sessionId requestId topic cw.qos
  return [okResponse requestId (u32le writerId)]

def handleDeleteWriter (payload : Bytes) : Prog BridgeInner Bytes (List Bytes) := do
  let dw ← parsed requestId (parseDeleteWriter payload)
  orWriterError requestId (onWriters (WriterRegistry.delete dw.writerId sessionId))
  return [okResponse requestId []]

/-- The `match msg_type` of `handle_message`. -/
def dispatch (msgType : MsgType) (payload : Bytes) : Prog BridgeInner Bytes (List Bytes) :=
  match msgType with
  | .subscribe => handleSubscribe dds sessionId requestId payload
  | .unsubscribe => handleUnsubscribe sessionId requestId payload
  | .write => handleWrite dds sessionId requestId payload
  | .dispose => handleDispose dds sessionId requestId payload
  | .writeDispose => handleWriteDispose dds sessionId requestId payload
  | .createWriter => handleCreateWriter dds sessionId requestId payload
  | .deleteWriter => handleDeleteWriter sessionId requestId payload
  | .ping => return [buildMessage .pong requestId []]
  | msgType => Prog.throw (makeErrorResponse requestId .invalidMessage
      s!"unexpected message type: {msgType.debugName}")

def handleMessage (msgType : MsgType) (payload : Bytes) : Prog BridgeInner Empty (List Bytes) :=
  (dispatch dds sessionId requestId msgType payload).recover fun errorMsg => [errorMsg]

end

/-! ## Frames -/

def slice {ε : Type} (data : Bytes) (lo hi : Nat) : Res ε Bytes :=
  if lo ≤ hi ∧ hi ≤ data.length then .ok ((data.drop lo).take (hi - lo)) else .panic

def makeParseError (requestId : UInt32) (message : String) : Bytes :=
  makeErrorResponse requestId .invalidMessage message

/-- The checks of `process_binary_frame`: a header and its payload, or the error message. -/
def checkFrame (maxPayloadSize : Nat) (data : Bytes) : Res Bytes (Header × Bytes) :=
  if data.length < headerSize then .err (makeParseError 0 "message too short")
  else do
    let header ← (parseHeader data).mapErr fun e => makeParseError 0 e.toString
    (validateClientHeader header version maxPayloadSize).mapErr
      fun e => makeParseError header.requestId e.toString
    let expectedLen := headerSize + header.payloadLength.toNat
    if data.length < expectedLen then
      .err (makeParseError header.requestId
        s!"incomplete message: expected {expectedLen} bytes, got {data.length}")
    else
      let payload ← slice data headerSize expectedLen
      .ok (header, payload)

def processBinaryFrame (dds : DdsReturns) (sessionId : UInt64) (data : Bytes) (maxPayloadSize : Nat) :
    Prog BridgeInner Empty (List Bytes) :=
  match checkFrame maxPayloadSize data with
  | .err errorMsg => return [errorMsg]
  | .ok (header, payload) => handleMessage dds sessionId header.requestId header.msgType payload
  | .panic => Prog.abort

end DdsBridge
