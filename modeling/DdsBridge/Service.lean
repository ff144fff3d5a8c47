import DdsBridge.Respond

/-!
# What the bridge is asked to do

The requests with their fields, and what each one does and answers, without ids, headers and encodings: the handlers
of `Bridge` are this service with a message for every answer and for every fault.
-/

namespace DdsBridge

namespace Service

open BridgeInner

inductive Request where
  | subscribe (p : SubscribePayload)
  | unsubscribe (p : UnsubscribePayload)
  | createWriter (p : CreateWriterPayload)
  | deleteWriter (p : DeleteWriterPayload)
  | write (op : WriteOp) (mode : WriteMode)
  | ping

structure Fault where
  code : ErrorCode
  message : String
  deriving DecidableEq, Repr

inductive Reply where
  | done
  | created (writerId : UInt32)
  | pong
  deriving DecidableEq, Repr

abbrev Serving := Prog BridgeInner Fault

def orDdsFault {α : Type} (m : Prog BridgeInner DdsError α) : Serving α := m.mapErr fun e => ⟨.ddsError, e.toString⟩

/-- A writer that is not there and one of another session are reported alike. -/
def orWriterFault {α : Type} (m : Prog BridgeInner DdsError α) : Serving α :=
  m.mapErr fun e =>
    let code := match e with
      | .writerNotFound _ => .writerNotFound
      | .writerOwnership _ => .writerNotFound
      | _ => .ddsError
    ⟨code, e.toString⟩

section
variable (dds : DdsReturns) (sid : UInt64)

def getOrCreateTopic (topicName typeName : String) (isKeyed : Bool) (keys : KeyDescriptors) : Serving Topic :=
  orDdsFault (onParticipant (DdsParticipant.getOrCreateTopic dds.createTopic topicName typeName isKeyed keys))

def subscribe (sub : SubscribePayload) : Serving Unit := do
  let topic ← getOrCreateTopic dds sub.topicName sub.typeName sub.isKeyed sub.keyDescriptors
  let _readerId ← orDdsFault (onReaders
    (ReaderRegistry.subscribe dds.createReader topic (makeQos dds.createQos sub.qos) sub.qos sid))
  return

def unsubscribe (unsub : UnsubscribePayload) : Serving Unit := do
  let inner ← Prog.get
  let (found, readers) := inner.readers.unsubscribe unsub.topicName unsub.typeName sid
  Prog.modify fun inner => { inner with readers }
  Prog.require (found = true)
    ⟨.readerNotFound, s!"no subscription for topic='{unsub.topicName}' type='{unsub.typeName}'"⟩

def createWriter (topic : Topic) (qos : QosSet) : Serving UInt32 := do
  let inner ← Prog.get
  let writer ← orDdsFault (Prog.ofRes
    (DdsWriter.new dds.createWriter topic (makeQos dds.createQos qos) qos.normalize inner.writers.nextWriterId))
  Prog.modify fun inner => { inner with writers := inner.writers.register writer sid }
  return writer.writerId

def implicitWriter (topicName typeName : String) (qos : QosSet) (keys : KeyDescriptors) : Serving DdsWriter := do
  let inner ← Prog.get
  if inner.writers.findByTopic sid topicName typeName qos.normalize = none then
    let topic ← getOrCreateTopic dds topicName typeName (!keys.keys.isEmpty) keys
    let _writerId ← createWriter dds sid topic qos
  let inner ← Prog.get
  match inner.writers.findByTopic sid topicName typeName qos.normalize with
  | some writer => return writer
  | none => Prog.throw ⟨.internalError, "writer disappeared after creation"⟩

def writer : WriteMode → Serving DdsWriter
  | .topicName topicName typeName qos keys _ => implicitWriter dds sid topicName typeName qos keys
  | .writerId writerId _ _ => do
    let inner ← Prog.get
    orWriterFault (Prog.ofRes (inner.writers.get writerId sid))

def write (op : WriteOp) (mode : WriteMode) : Serving Unit := do
  let writer ← writer dds sid mode
  orDdsFault (Prog.ofRes (match op with
    | .write => writer.write dds.write
    | .dispose => writer.dispose dds.dispose
    | .writeDispose => writer.writeDispose dds.writeDispose))

/-- The subscribers of the topic hear of a dispose: the others by their channels, the session itself with its answer. -/
def notices (mode : WriteMode) : Serving (List DataDisposedPayload) := do
  let inner ← Prog.get
  match disposedTopic inner mode with
  | none => return []
  | some (topicName, typeName, keyData) =>
    let notice : DataDisposedPayload := { topicName, sourceTimestamp := 0, keyData }
    let msg := buildMessage .dataDisposed 0 (serializeDataDisposed notice)
    let subscribers := topicSubscribers inner topicName typeName
    Prog.modify fun inner => (subscribers.filter (· != sid)).foldl (sendTo msg) inner
    return (subscribers.filter (· == sid)).map fun _ => notice

/-- The answer to a request, with the notices that come behind it. -/
def serve : Request → Serving (Reply × List DataDisposedPayload)
  | .subscribe sub => do
    subscribe dds sid sub
    return (.done, [])
  | .unsubscribe unsub => do
    unsubscribe sid unsub
    return (.done, [])
  | .createWriter cw => do
    let topic ← getOrCreateTopic dds cw.topicName cw.typeName cw.isKeyed cw.keyDescriptors
    let writerId ← createWriter dds sid topic cw.qos
    return (.created writerId, [])
  | .deleteWriter dw => do
    orWriterFault (onWriters (WriterRegistry.delete dw.writerId sid))
    return (.done, [])
  | .write .write mode => do
    write dds sid .write mode
    return (.done, [])
  | .write op mode => do
    write dds sid op mode
    let own ← notices sid mode
    return (.done, own)
  | .ping => return (.pong, [])

end

/-! ## As messages -/

/-- The message type and the payload say this request. -/
def Request.Says (t : MsgType) (payload : Bytes) : Request → Prop
  | .subscribe p => t = .subscribe ∧ parseSubscribe payload = .ok p
  | .unsubscribe p => t = .unsubscribe ∧ parseUnsubscribe payload = .ok p
  | .createWriter p => t = .createWriter ∧ parseCreateWriter payload = .ok p
  | .deleteWriter p => t = .deleteWriter ∧ parseDeleteWriter payload = .ok p
  | .write .write mode => t = .write ∧ parseWrite payload = .ok ⟨mode⟩
  | .write .dispose mode => t = .dispose ∧ parseDispose payload = .ok ⟨mode⟩
  | .write .writeDispose mode => t = .writeDispose ∧ parseWriteDispose payload = .ok ⟨mode⟩
  | .ping => t = .ping

def Fault.bytes (r : UInt32) (fault : Fault) : Bytes := makeErrorResponse r fault.code fault.message

def Reply.bytes (r : UInt32) : Reply → Bytes
  | .done => okResponse r []
  | .created writerId => okResponse r (u32le writerId)
  | .pong => buildMessage .pong r []

def noticeBytes (notice : DataDisposedPayload) : Bytes := buildMessage .dataDisposed 0 (serializeDataDisposed notice)

/-- The messages of an answer. -/
def answerBytes (r : UInt32) (answer : Reply × List DataDisposedPayload) : List Bytes :=
  answer.1.bytes r :: answer.2.map noticeBytes

/-- A service over the wire: a message for each answer and for each fault. -/
def overWire (r : UInt32) (m : Serving (Reply × List DataDisposedPayload)) : Prog BridgeInner Bytes (List Bytes) :=
  m.mapErr (Fault.bytes r) >>= fun answer => pure (answerBytes r answer)

section
variable (dds : DdsReturns) (sid : UInt64) (r : UInt32)

theorem mapErr_orDdsFault {α : Type} (m : Prog BridgeInner DdsError α) :
    (orDdsFault m).mapErr (Fault.bytes r) = orDdsError r m := by
  rw [orDdsFault, Prog.mapErr_mapErr]
  rfl

theorem mapErr_orWriterFault {α : Type} (m : Prog BridgeInner DdsError α) :
    (orWriterFault m).mapErr (Fault.bytes r) = orWriterError r m := by
  rw [orWriterFault, Prog.mapErr_mapErr]
  rfl

theorem mapErr_getOrCreateTopic (topicName typeName : String) (isKeyed : Bool) (keys : KeyDescriptors) :
    (getOrCreateTopic dds topicName typeName isKeyed keys).mapErr (Fault.bytes r) =
      DdsBridge.getOrCreateTopic dds r topicName typeName isKeyed keys := mapErr_orDdsFault r _

theorem mapErr_createWriter (topic : Topic) (qos : QosSet) :
    (createWriter dds sid topic qos).mapErr (Fault.bytes r) = DdsBridge.createWriter dds sid r topic qos := by
  simp only [createWriter, Prog.mapErr_bind, Prog.mapErr_get, Prog.mapErr_modify, Prog.mapErr_pure, mapErr_orDdsFault]
  rfl

theorem mapErr_implicitWriter (topicName typeName : String) (qos : QosSet) (keys : KeyDescriptors) :
    (implicitWriter dds sid topicName typeName qos keys).mapErr (Fault.bytes r) =
      DdsBridge.implicitWriter dds sid r topicName typeName qos keys := by
  have hfound : ∀ inner : BridgeInner,
      (match inner.writers.findByTopic sid topicName typeName qos.normalize with
        | some writer => pure writer
        | none => Prog.throw ⟨.internalError, "writer disappeared after creation"⟩ : Serving DdsWriter).mapErr
          (Fault.bytes r) =
      match inner.writers.findByTopic sid topicName typeName qos.normalize with
        | some writer => pure writer
        | none => Prog.throw (makeErrorResponse r .internalError "writer disappeared after creation") := by
    intro inner
    cases inner.writers.findByTopic sid topicName typeName qos.normalize with
    | some writer => rfl
    | none => rfl
  unfold implicitWriter DdsBridge.implicitWriter
  simp only [Prog.mapErr_bind, Prog.mapErr_get]
  congr 1
  funext inner
  split
  · simp only [Prog.mapErr_bind, Prog.mapErr_get, mapErr_getOrCreateTopic, mapErr_createWriter]
    exact bind_congr fun _ => bind_congr fun _ => bind_congr hfound
  · simp only [Prog.mapErr_bind, Prog.mapErr_get]
    exact bind_congr hfound

theorem mapErr_write (op : WriteOp) (mode : WriteMode) :
    (write dds sid op mode).mapErr (Fault.bytes r) >>= (fun _ => pure (okResponse r [])) =
      doWriteOp dds sid r mode op := by
  unfold write doWriteOp executeWriteOp
  cases mode with
  | topicName topicName typeName qos keys data =>
    cases op with
    | write | dispose | writeDispose =>
      simp only [Prog.mapErr_bind, writer, mapErr_implicitWriter, mapErr_orDdsFault, bind_assoc]
  | writerId writerId keyBytes data =>
    cases op with
    | write | dispose | writeDispose =>
      simp only [Prog.mapErr_bind, writer, Prog.mapErr_get, mapErr_orWriterFault, mapErr_orDdsFault, bind_assoc]

theorem mapErr_notices (mode : WriteMode) (resp : Bytes) :
    (notices sid mode).mapErr (Fault.bytes r) >>= (fun own => pure (resp :: own.map noticeBytes)) =
      respWithDisposeNotification sid resp mode := by
  unfold notices respWithDisposeNotification
  simp only [Prog.mapErr_bind, Prog.mapErr_get, bind_assoc]
  congr 1
  funext inner
  cases disposedTopic inner mode with
  | none => rfl
  | some p =>
    obtain ⟨topicName, typeName, keyData⟩ := p
    simp only [Prog.mapErr_bind, Prog.mapErr_modify, Prog.mapErr_pure, bind_assoc, pure_bind, List.map_map]
    rfl

/-- A frame that says a request has it served. -/
theorem dispatch_request {t : MsgType} {payload : Bytes} {request : Request} (h : request.Says t payload) :
    dispatch dds sid r t payload = overWire r (serve dds sid request) := by
  have hparsed : ∀ {α β : Type} {x : Res ProtocolError α} {a : α} (f : α → Prog BridgeInner Bytes β), x = .ok a →
      (parsed r x >>= f) = f a := fun f hx => by rw [hx]; rfl
  unfold overWire answerBytes
  cases request with
  | subscribe sub =>
    obtain ⟨rfl, hp⟩ := h
    simp only [dispatch, handleSubscribe, hparsed _ hp, serve, subscribe, Prog.mapErr_bind, Prog.mapErr_pure,
      mapErr_getOrCreateTopic, mapErr_orDdsFault, bind_assoc, pure_bind, Reply.bytes, List.map_nil]
  | unsubscribe unsub =>
    obtain ⟨rfl, hp⟩ := h
    simp only [dispatch, handleUnsubscribe, hparsed _ hp, serve, unsubscribe, Prog.mapErr_bind, Prog.mapErr_pure,
      Prog.mapErr_get, Prog.mapErr_modify, Prog.mapErr_require, bind_assoc, pure_bind, Reply.bytes, List.map_nil]
    rfl
  | createWriter cw =>
    obtain ⟨rfl, hp⟩ := h
    simp only [dispatch, handleCreateWriter, hparsed _ hp, serve, Prog.mapErr_bind, Prog.mapErr_pure,
      mapErr_getOrCreateTopic, mapErr_createWriter, bind_assoc, pure_bind, Reply.bytes, List.map_nil]
  | deleteWriter dw =>
    obtain ⟨rfl, hp⟩ := h
    simp only [dispatch, handleDeleteWriter, hparsed _ hp, serve, Prog.mapErr_bind, Prog.mapErr_pure,
      mapErr_orWriterFault, bind_assoc, pure_bind, Reply.bytes, List.map_nil]
  | write op mode =>
    cases op with
    | write =>
      obtain ⟨rfl, hp⟩ := h
      simp only [dispatch, handleWrite, hparsed _ hp, serve, Prog.mapErr_bind, Prog.mapErr_pure, ← mapErr_write,
        bind_assoc, pure_bind, Reply.bytes, List.map_nil]
    | dispose =>
      obtain ⟨rfl, hp⟩ := h
      simp only [dispatch, handleDispose, hparsed _ hp, serve, Prog.mapErr_bind, Prog.mapErr_pure, ← mapErr_write,
        ← mapErr_notices sid r mode, bind_assoc, pure_bind, Reply.bytes]
    | writeDispose =>
      obtain ⟨rfl, hp⟩ := h
      simp only [dispatch, handleWriteDispose, hparsed _ hp, serve, Prog.mapErr_bind, Prog.mapErr_pure, ← mapErr_write,
        ← mapErr_notices sid r mode, bind_assoc, pure_bind, Reply.bytes]
  | ping =>
    rw [show t = .ping from h]
    rfl

end

end Service

end DdsBridge
