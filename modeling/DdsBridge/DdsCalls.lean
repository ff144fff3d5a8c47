import DdsBridge.Lib.Traced
import DdsBridge.FanOut
import DdsBridge.WriteRequests

/-!
# The calls into DDS

The requests once more, now with the calls they make into Cyclone DDS: the creation of topics, QoS objects, readers
and writers, the samples handed to `dds_write`, `dds_dispose` and `dds_writedispose`, the takes of the poll loop, and
the deletions made by the `Drop` of a QoS handle, a reader or a writer. Without the calls they are the requests of
`Bridge`. A panic comes before the first call of its request.
-/

namespace DdsBridge

inductive DdsCall where
  /-- `dds_create_topic_sertype` -/
  | createTopic (rc : Int32)
  /-- `dds_create_qos` and the setters -/
  | createQos (qos : DdsQos)
  | deleteQos (qos : DdsQos)
  | createReader (topic : Int32) (qos : Option DdsQos) (rc : Int32)
  | createWriter (topic : Int32) (qos : Option DdsQos) (rc : Int32)
  | send (op : WriteOp) (writer : Int32) (sample : SampleWrapper) (rc : Int32)
  | take (reader : Int32)
  /-- `dds_delete` in the `Drop` of a `DdsReader` -/
  | deleteReader (reader : Int32)
  /-- `dds_delete` in the `Drop` of a `DdsWriter` -/
  | deleteWriter (writer : Int32)
  deriving DecidableEq, Repr

def DdsReader.drop (reader : DdsReader) : DdsCall := .deleteReader reader.handle.handle

def DdsWriter.drop (writer : DdsWriter) : DdsCall := .deleteWriter writer.handle.handle

/-- What the request hands to DDS; in topic-name mode `key_bytes` is empty. -/
def WriteMode.sample : WriteMode → SampleWrapper
  | .topicName _ _ _ _ data => .fromBytes data []
  | .writerId _ keyBytes data => .fromBytes data keyBytes

namespace Calls

open Prog

/-- A program on the bridge, or on a part of it, with the calls it makes. -/
abbrev Calling (σ ε α : Type) := Prog (Traced σ DdsCall) ε α

/-- `let (_qos_handle, qos_ptr) = make_qos(qos)` and the rest of its block, at whose end the handle drops. -/
def withQos {σ ε α : Type} (created : Bool) (qos : QosSet) (body : Option DdsQos → Calling σ ε α) : Calling σ ε α :=
  let qosPtr := makeQos created qos
  calls (qosPtr.toList.map .createQos) >>= fun _ =>
    (body qosPtr).atEnd fun t => { t with calls := t.calls ++ qosPtr.toList.map .deleteQos }

/-! ## Registries -/

namespace DdsParticipant

def getOrCreateTopic (rc : Int32) (topicName typeName : String) (isKeyed : Bool)
    (keyDescriptors : KeyDescriptors) : Calling DdsParticipant DdsError Topic := do
  let participant ← quiet Prog.get
  match participant.topics.lookup (topicName, typeName) with
  | some topic => return topic
  | none =>
    quiet (Prog.require (cString topicName ≠ none) (.invalidName topicName))
    let _sertype ← quiet (Prog.ofRes (createOpaqueSertype typeName isKeyed keyDescriptors))
    calls [.createTopic rc]
    quiet (Prog.require (0 ≤ rc) (.createTopic rc))
    let topic := { handle := rc, topicName, typeName, isKeyed, keyDescriptors }
    quiet (Prog.modify fun p => { p with topics := p.topics.insert (topicName, typeName) topic })
    return topic

end DdsParticipant

namespace ReaderRegistry

/-- `readers.insert` drops the reader that was there under the new one's id. -/
def subscribe (rc : Int32) (topic : Topic) (qos : Option DdsQos) (qosSet : QosSet) (sessionId : UInt64) :
    Calling ReaderRegistry DdsError UInt64 := do
  let reg ← quiet Prog.get
  let key := ReaderKey.new topic.topicName topic.typeName qosSet
  match reg.shared key with
  | some (readerId, reader) =>
    quiet (Prog.modify fun reg => reg.join readerId reader topic sessionId)
    return readerId
  | none =>
    calls [.createReader topic.handle qos rc]
    let reader ← quiet (Prog.ofRes (DdsReader.new rc topic qos qosSet.normalize reg.nextReaderId))
    quiet (Prog.modify fun reg => reg.add key reader topic sessionId)
    calls ((reg.readers.lookup reader.readerId).toList.map DdsReader.drop)
    return reader.readerId

def unsubscribe {ε : Type} (topicName typeName : String) (sessionId : UInt64) : Calling ReaderRegistry ε Bool := do
  let reg ← quiet Prog.get
  let subKey := (sessionId, topicName, typeName)
  match reg.sessionSubscriptions.lookup subKey with
  | none => return false
  | some readerId =>
    quiet (Prog.modify fun reg => { reg with sessionSubscriptions := reg.sessionSubscriptions.erase subKey })
    match reg.readers.lookup readerId with
    | none => return false
    | some reader =>
      let reader := reader.leave sessionId
      if reader.subscribers.isEmpty then
        quiet (Prog.modify fun reg => { reg with
          readers := (reg.readers.insert readerId reader).erase readerId
          keyToReader := Table.retain reg.keyToReader fun _ rid => rid != readerId })
        calls [reader.drop]
        return true
      else
        quiet (Prog.modify fun reg => { reg with readers := reg.readers.insert readerId reader })
        return true

def removeSession {ε : Type} (sessionId : UInt64) : Calling ReaderRegistry ε Unit := do
  let reg ← quiet Prog.get
  let (readers, toRemove) := ReaderRegistry.leaveAll sessionId (reg.affectedReaders sessionId) reg.readers
  quiet (Prog.modify fun reg => reg.removeSession sessionId)
  calls ((Table.removed readers toRemove).map DdsReader.drop)

end ReaderRegistry

namespace WriterRegistry

/-- `writers.insert` drops the writer that was there under the new one's id. -/
def register {ε : Type} (writer : DdsWriter) (sessionId : UInt64) : Calling WriterRegistry ε Unit := do
  let reg ← quiet Prog.get
  quiet (Prog.modify fun reg => reg.register writer sessionId)
  calls ((reg.writers.lookup writer.writerId).toList.map fun replaced => replaced.1.drop)

def delete (writerId : UInt32) (sessionId : UInt64) : Calling WriterRegistry DdsError Unit := do
  let reg ← quiet Prog.get
  quiet (DdsBridge.WriterRegistry.delete writerId sessionId)
  calls ((reg.writers.lookup writerId).toList.map fun removed => removed.1.drop)

def removeSession {ε : Type} (sessionId : UInt64) : Calling WriterRegistry ε Unit := do
  let reg ← quiet Prog.get
  quiet (Prog.modify fun reg => reg.removeSession sessionId)
  calls ((Table.removed reg.writers ((reg.sessionWriters.lookup sessionId).getD [])).map fun removed => removed.1.drop)

end WriterRegistry

/-! ## Handlers -/

def onParticipant {ε α : Type} (m : Calling DdsParticipant ε α) : Calling BridgeInner ε α :=
  m.zoomTraced BridgeInner.participant fun participant inner => { inner with participant }

def onWriters {ε α : Type} (m : Calling WriterRegistry ε α) : Calling BridgeInner ε α :=
  m.zoomTraced BridgeInner.writers fun writers inner => { inner with writers }

def onReaders {ε α : Type} (m : Calling ReaderRegistry ε α) : Calling BridgeInner ε α :=
  m.zoomTraced BridgeInner.readers fun readers inner => { inner with readers }

def orDdsError {α : Type} (requestId : UInt32) (m : Calling BridgeInner DdsError α) : Calling BridgeInner Bytes α :=
  m.mapErr fun e => makeErrorResponse requestId .ddsError e.toString

def orWriterError {α : Type} (requestId : UInt32) (m : Calling BridgeInner DdsError α) : Calling BridgeInner Bytes α :=
  m.mapErr fun e =>
    let code := match e with
      | .writerNotFound _ => .writerNotFound
      | .writerOwnership _ => .writerNotFound
      | _ => .ddsError
    makeErrorResponse requestId code e.toString

section
variable (dds : DdsReturns) (sessionId : UInt64) (requestId : UInt32)

def getOrCreateTopic (topicName typeName : String) (isKeyed : Bool) (keyDescriptors : KeyDescriptors) :
    Calling BridgeInner Bytes Topic :=
  orDdsError requestId (onParticipant
    (DdsParticipant.getOrCreateTopic dds.createTopic topicName typeName isKeyed keyDescriptors))

def handleSubscribe (payload : Bytes) : Calling BridgeInner Bytes (List Bytes) := do
  let sub ← quiet (parsed requestId (parseSubscribe payload))
  let topic ← getOrCreateTopic dds requestId sub.topicName sub.typeName sub.isKeyed sub.keyDescriptors
  withQos dds.createQos sub.qos fun qosPtr => do
    let _readerId ← orDdsError requestId (onReaders
      (ReaderRegistry.subscribe dds.createReader topic qosPtr sub.qos sessionId))
    return [okResponse requestId []]

def handleUnsubscribe (payload : Bytes) : Calling BridgeInner Bytes (List Bytes) := do
  let unsub ← quiet (parsed requestId (parseUnsubscribe payload))
  let found ← onReaders (ReaderRegistry.unsubscribe unsub.topicName unsub.typeName sessionId)
  quiet (Prog.require (found = true) (makeErrorResponse requestId .readerNotFound
    s!"no subscription for topic='{unsub.topicName}' type='{unsub.typeName}'"))
  return [okResponse requestId []]

/-- The block from `make_qos` to `register`. -/
def createWriter (topic : Topic) (qos : QosSet) : Calling BridgeInner Bytes UInt32 :=
  withQos dds.createQos qos fun qosPtr => do
    let inner ← quiet Prog.get
    calls [.createWriter topic.handle qosPtr dds.createWriter]
    let writer ← quiet (DdsBridge.orDdsError requestId (Prog.ofRes
      (DdsWriter.new dds.createWriter topic qosPtr qos.normalize inner.writers.nextWriterId)))
    onWriters (WriterRegistry.register writer sessionId)
    return writer.writerId

def executeWriteOp (writer : DdsWriter) (op : WriteOp) (sample : SampleWrapper) : Calling BridgeInner Bytes Unit := do
  calls [.send op writer.handle.handle sample (dds.code op)]
  quiet (DdsBridge.executeWriteOp dds requestId writer op)

def implicitWriter (topicName typeName : String) (qos : QosSet) (keyDescriptors : KeyDescriptors) :
    Calling BridgeInner Bytes DdsWriter := do
  let inner ← quiet Prog.get
  if inner.writers.findByTopic sessionId topicName typeName qos.normalize = none then
    let topic ← getOrCreateTopic dds requestId topicName typeName (!keyDescriptors.keys.isEmpty) keyDescriptors
    let _writerId ← createWriter dds sessionId requestId topic qos
  let inner ← quiet Prog.get
  match inner.writers.findByTopic sessionId topicName typeName qos.normalize with
  | some writer => return writer
  | none => quiet (Prog.throw (makeErrorResponse requestId .internalError "writer disappeared after creation"))

def findWriter (mode : WriteMode) : Calling BridgeInner Bytes DdsWriter :=
  match mode with
  | .topicName topicName typeName qos keyDescriptors _ =>
    implicitWriter dds sessionId requestId topicName typeName qos keyDescriptors
  | .writerId writerId _ _ => do
    let inner ← quiet Prog.get
    quiet (DdsBridge.orWriterError requestId (Prog.ofRes (inner.writers.get writerId sessionId)))

def doWriteOp (mode : WriteMode) (op : WriteOp) : Calling BridgeInner Bytes Bytes := do
  let writer ← findWriter dds sessionId requestId mode
  executeWriteOp dds requestId writer op mode.sample
  return okResponse requestId []

def handleWrite (payload : Bytes) : Calling BridgeInner Bytes (List Bytes) := do
  let writePayload ← quiet (parsed requestId (parseWrite payload))
  let resp ← doWriteOp dds sessionId requestId writePayload.mode .write
  return [resp]

def handleDispose (payload : Bytes) : Calling BridgeInner Bytes (List Bytes) := do
  let disposePayload ← quiet (parsed requestId (parseDispose payload))
  let resp ← doWriteOp dds sessionId requestId disposePayload.mode .dispose
  quiet (respWithDisposeNotification sessionId resp disposePayload.mode)

def handleWriteDispose (payload : Bytes) : Calling BridgeInner Bytes (List Bytes) := do
  let wdPayload ← quiet (parsed requestId (parseWriteDispose payload))
  let resp ← doWriteOp dds sessionId requestId wdPayload.mode .writeDispose
  quiet (respWithDisposeNotification sessionId resp wdPayload.mode)

def handleCreateWriter (payload : Bytes) : Calling BridgeInner Bytes (List Bytes) := do
  let cw ← quiet (parsed requestId (parseCreateWriter payload))
  let topic ← getOrCreateTopic dds requestId cw.topicName cw.typeName cw.isKeyed cw.keyDescriptors
  let writerId ← createWriter dds sessionId requestId topic cw.qos
  return [okResponse requestId (u32le writerId)]

def handleDeleteWriter (payload : Bytes) : Calling BridgeInner Bytes (List Bytes) := do
  let dw ← quiet (parsed requestId (parseDeleteWriter payload))
  orWriterError requestId (onWriters (WriterRegistry.delete dw.writerId sessionId))
  return [okResponse requestId []]

def dispatch (msgType : MsgType) (payload : Bytes) : Calling BridgeInner Bytes (List Bytes) :=
  match msgType with
  | .subscribe => handleSubscribe dds sessionId requestId payload
  | .unsubscribe => handleUnsubscribe sessionId requestId payload
  | .write => handleWrite dds sessionId requestId payload
  | .dispose => handleDispose dds sessionId requestId payload
  | .writeDispose => handleWriteDispose dds sessionId requestId payload
  | .createWriter => handleCreateWriter dds sessionId requestId payload
  | .deleteWriter => handleDeleteWriter sessionId requestId payload
  | msgType => quiet (DdsBridge.dispatch dds sessionId requestId msgType payload)

def handleMessage (msgType : MsgType) (payload : Bytes) : Calling BridgeInner Empty (List Bytes) :=
  (dispatch dds sessionId requestId msgType payload).recover fun errorMsg => [errorMsg]

end

def processBinaryFrame (dds : DdsReturns) (sessionId : UInt64) (data : Bytes) (maxPayloadSize : Nat) :
    Calling BridgeInner Empty (List Bytes) :=
  match checkFrame maxPayloadSize data with
  | .err errorMsg => return [errorMsg]
  | .ok (header, payload) => handleMessage dds sessionId header.requestId header.msgType payload
  | .panic => Prog.abort

def unregisterSession (sessionId : UInt64) : Calling BridgeInner Empty Unit := do
  quiet (Prog.modify fun inner => { inner with sessionSenders := inner.sessionSenders.erase sessionId })
  onWriters (WriterRegistry.removeSession sessionId)
  onReaders (ReaderRegistry.removeSession sessionId)

/-- `dds_take` until it has nothing, or `maxSamples` times. -/
def takeCalls (reader : DdsReader) (maxSamples available : Nat) : List DdsCall :=
  List.replicate (min maxSamples (available + 1)) (.take reader.handle.handle)

def collectReader (available : UInt64 → List TakenSample) (readerId : UInt64) :
    Calling BridgeInner Empty (Option Taken) := do
  let inner ← quiet Prog.get
  match inner.readers.readers.lookup readerId with
  | none => return none
  | some reader =>
    calls (takeCalls reader 256 (available readerId).length)
    return inner.collectReader available readerId

def collectReaders (available : UInt64 → List TakenSample) : List UInt64 → Calling BridgeInner Empty (List Taken)
  | [] => return []
  | readerId :: readerIds => do
    let taken ← collectReader available readerId
    let rest ← collectReaders available readerIds
    return taken.toList ++ rest

/-- The part of a tick of the poll loop under the lock. -/
def collect (available : UInt64 → List TakenSample) : Calling BridgeInner Empty (List Taken) := do
  let inner ← quiet Prog.get
  collectReaders available (inner.readers.allReaders.map (·.readerId))

/-! ## Without the calls -/

section Erased

theorem erases_withQos {σ ε α : Type} {created : Bool} {qos : QosSet} {body : Option DdsQos → Calling σ ε α}
    {m : Prog σ ε α} (h : Erases (body (makeQos created qos)) m) : Erases (withQos created qos body) m :=
  (h.atEnd fun _ => by simp).after_calls _

theorem erases_topic (rc : Int32) (topicName typeName : String) (isKeyed : Bool) (keyDescriptors : KeyDescriptors) :
    Erases (DdsParticipant.getOrCreateTopic rc topicName typeName isKeyed keyDescriptors)
      (DdsBridge.DdsParticipant.getOrCreateTopic rc topicName typeName isKeyed keyDescriptors) := by
  refine (erases_quiet _).bind fun participant => ?_
  cases participant.topics.lookup (topicName, typeName) with
  | some topic => exact erases_pure topic
  | none =>
    refine (erases_quiet _).bind fun _ => (erases_quiet _).bind fun _ => Erases.after_calls ?_ _
    exact (erases_quiet _).bind fun _ => (erases_quiet _).bind fun _ => erases_pure _

theorem erases_subscribe (rc : Int32) (topic : Topic) (qos : Option DdsQos) (qosSet : QosSet) (sid : UInt64) :
    Erases (ReaderRegistry.subscribe rc topic qos qosSet sid)
      (DdsBridge.ReaderRegistry.subscribe rc topic qos qosSet sid) := by
  refine (erases_quiet _).bind fun reg => ?_
  simp only
  cases reg.shared (ReaderKey.new topic.topicName topic.typeName qosSet) with
  | some p => exact (erases_quiet _).bind fun _ => erases_pure _
  | none =>
    refine Erases.after_calls ((erases_quiet _).bind fun reader => (erases_quiet _).bind fun _ => ?_) _
    exact (erases_pure _).after_calls _

/-- `unsubscribe` as a program. -/
def leaveTopic {ε : Type} (topicName typeName : String) (sid : UInt64) : Prog ReaderRegistry ε Bool := fun reg =>
  .ok (reg.unsubscribe topicName typeName sid)

theorem erases_unsubscribe {ε : Type} (topicName typeName : String) (sid : UInt64) :
    Erases (ReaderRegistry.unsubscribe topicName typeName sid : Calling ReaderRegistry ε Bool)
      (leaveTopic topicName typeName sid) := by
  intro t
  unfold ReaderRegistry.unsubscribe leaveTopic DdsBridge.ReaderRegistry.unsubscribe
  cases hs : t.state.sessionSubscriptions.lookup (sid, topicName, typeName) with
  | none => simp [bind_apply, quiet, Prog.zoom, Prog.get, hs, pure_apply, forget]
  | some readerId =>
    cases hr : t.state.readers.lookup readerId with
    | none => simp [bind_apply, quiet, Prog.zoom, Prog.get, hs, hr, Prog.modify, pure_apply, forget]
    | some reader =>
      by_cases he : (reader.leave sid).subscribers.isEmpty
      · simp [-bind_pure_comp, bind_apply, quiet, Prog.zoom, Prog.get, hs, hr, he, Prog.modify, calls, pure_apply, forget]
      · simp [-bind_pure_comp, bind_apply, quiet, Prog.zoom, Prog.get, hs, hr, he, Prog.modify, pure_apply, forget]

variable (dds : DdsReturns) (sid : UInt64) (r : UInt32)

theorem erases_getOrCreateTopic (topicName typeName : String) (isKeyed : Bool) (keyDescriptors : KeyDescriptors) :
    Erases (getOrCreateTopic dds r topicName typeName isKeyed keyDescriptors)
      (DdsBridge.getOrCreateTopic dds r topicName typeName isKeyed keyDescriptors) :=
  ((erases_topic _ _ _ _ _).zoom _ _).mapErr _

theorem erases_register {ε : Type} (writer : DdsWriter) :
    Erases (onWriters (WriterRegistry.register writer sid) : Calling BridgeInner ε Unit)
      (Prog.modify fun inner => { inner with writers := inner.writers.register writer sid }) := by
  have hregister : Erases (WriterRegistry.register writer sid : Calling WriterRegistry ε Unit)
      (Prog.modify fun reg => reg.register writer sid) :=
    Erases.after_get fun reg => (erases_quiet _).then_calls _
  exact hregister.zoom _ _

theorem erases_createWriter (topic : Topic) (qos : QosSet) :
    Erases (createWriter dds sid r topic qos) (DdsBridge.createWriter dds sid r topic qos) := by
  refine erases_withQos ((erases_quiet _).bind fun inner => Erases.after_calls ?_ _)
  exact (erases_quiet _).bind fun writer => (erases_register sid writer).bind fun _ => erases_pure _

theorem erases_implicitWriter (topicName typeName : String) (qos : QosSet) (keys : KeyDescriptors) :
    Erases (implicitWriter dds sid r topicName typeName qos keys)
      (DdsBridge.implicitWriter dds sid r topicName typeName qos keys) := by
  have hfound : ∀ inner : BridgeInner,
      Erases (match inner.writers.findByTopic sid topicName typeName qos.normalize with
          | some writer => pure writer
          | none => quiet (Prog.throw (makeErrorResponse r .internalError "writer disappeared after creation")) :
          Calling BridgeInner Bytes DdsWriter)
        (match inner.writers.findByTopic sid topicName typeName qos.normalize with
          | some writer => pure writer
          | none => Prog.throw (makeErrorResponse r .internalError "writer disappeared after creation")) := by
    intro inner
    cases inner.writers.findByTopic sid topicName typeName qos.normalize with
    | some writer => exact erases_pure writer
    | none => exact erases_quiet _
  refine (erases_quiet _).bind fun inner => ?_
  by_cases hnone : inner.writers.findByTopic sid topicName typeName qos.normalize = none
  · simp only [hnone, if_true]
    refine (erases_getOrCreateTopic dds r _ _ _ _).bind fun topic => ?_
    refine (erases_createWriter dds sid r topic qos).bind fun _ => (erases_quiet _).bind hfound
  · simp only [hnone, if_false]
    exact (erases_quiet _).bind hfound

theorem erases_doWriteOp (mode : WriteMode) (op : WriteOp) :
    Erases (doWriteOp dds sid r mode op) (DdsBridge.doWriteOp dds sid r mode op) := by
  cases mode with
  | topicName topicName typeName qos keys data =>
    refine (erases_implicitWriter dds sid r topicName typeName qos keys).bind fun writer => ?_
    exact ((erases_quiet _).after_calls _).bind fun _ => erases_pure _
  | writerId writerId keyBytes data =>
    unfold doWriteOp findWriter
    rw [bind_assoc]
    refine (erases_quiet _).bind fun inner => (erases_quiet _).bind fun writer => ?_
    exact ((erases_quiet _).after_calls _).bind fun _ => erases_pure _

theorem erases_dispatch (t : MsgType) (payload : Bytes) :
    Erases (dispatch dds sid r t payload) (DdsBridge.dispatch dds sid r t payload) := by
  cases t with
  | subscribe =>
    refine (erases_quiet _).bind fun sub => (erases_getOrCreateTopic dds r _ _ _ _).bind fun topic => ?_
    exact erases_withQos ((((erases_subscribe _ _ _ _ _).zoom _ _).mapErr _).bind fun _ => erases_pure _)
  | unsubscribe =>
    refine (erases_quiet _).bind fun unsub => ?_
    have hleave := (erases_unsubscribe (ε := Bytes) unsub.topicName unsub.typeName sid).zoom BridgeInner.readers
      fun readers inner => { inner with readers }
    exact hleave.bind fun found => (erases_quiet _).bind fun _ => erases_pure _
  | write => exact (erases_quiet _).bind fun _ => (erases_doWriteOp dds sid r _ _).bind fun _ => erases_pure _
  | dispose => exact (erases_quiet _).bind fun _ => (erases_doWriteOp dds sid r _ _).bind fun _ => erases_quiet _
  | writeDispose => exact (erases_quiet _).bind fun _ => (erases_doWriteOp dds sid r _ _).bind fun _ => erases_quiet _
  | createWriter =>
    refine (erases_quiet _).bind fun cw => (erases_getOrCreateTopic dds r _ _ _ _).bind fun topic => ?_
    exact (erases_createWriter dds sid r topic cw.qos).bind fun _ => erases_pure _
  | deleteWriter =>
    refine (erases_quiet _).bind fun dw => Erases.bind ?_ fun _ => erases_pure _
    refine Erases.mapErr (Erases.zoom ?_ _ _) _
    exact Erases.after_get fun reg => (erases_quiet _).then_calls _
  | _ => exact erases_quiet _

theorem erases_processBinaryFrame (data : Bytes) (maxPayloadSize : Nat) :
    Erases (processBinaryFrame dds sid data maxPayloadSize)
      (DdsBridge.processBinaryFrame dds sid data maxPayloadSize) := by
  unfold processBinaryFrame DdsBridge.processBinaryFrame
  cases checkFrame maxPayloadSize data with
  | ok p => exact (erases_dispatch dds sid p.1.requestId p.1.msgType p.2).recover _
  | err e => exact erases_pure _
  | panic => exact fun _ => by simp [Prog.abort, forget]

theorem erases_unregisterSession :
    Erases (unregisterSession sid) (Prog.modify (BridgeInner.unregisterSession sid)) := by
  intro t
  simp [unregisterSession, onWriters, onReaders, WriterRegistry.removeSession, ReaderRegistry.removeSession,
    zoomTraced, bind_apply, quiet, Prog.zoom, Prog.get, Prog.modify, calls, forget, BridgeInner.unregisterSession]

theorem erases_collectReader (available : UInt64 → List TakenSample) (readerId : UInt64) :
    Erases (collectReader available readerId) (Prog.get >>= fun inner => pure (inner.collectReader available readerId)) := by
  refine (erases_quiet _).bind fun inner => ?_
  cases h : inner.readers.readers.lookup readerId with
  | none =>
    have hnone : inner.collectReader available readerId = none := by simp [BridgeInner.collectReader, h]
    rw [hnone]
    exact erases_pure none
  | some reader => exact (erases_pure _).after_calls _

theorem erases_collectReaders (available : UInt64 → List TakenSample) (readerIds : List UInt64) :
    Erases (collectReaders available readerIds)
      (Prog.get >>= fun inner => pure (readerIds.filterMap (inner.collectReader available))) := by
  induction readerIds with
  | nil => exact erases_pure []
  | cons readerId readerIds ih =>
    have h := (erases_collectReader available readerId).bind fun taken => ih.bind fun rest =>
      erases_pure (taken.toList ++ rest)
    intro t
    refine (h t).trans ?_
    cases hr : t.state.collectReader available readerId with
    | none => simp [-bind_pure_comp, bind_apply, pure_apply, Prog.get, hr]
    | some taken => simp [-bind_pure_comp, bind_apply, pure_apply, Prog.get, hr]

/-- A tick changes nothing, and takes what `collect` says. -/
theorem erases_collect (available : UInt64 → List TakenSample) :
    Erases (collect available) (Prog.get >>= fun inner => pure (inner.collect available)) := by
  intro t
  exact erases_collectReaders available (t.state.readers.allReaders.map (·.readerId)) t

end Erased

/-! ## Runs -/

/-- What happens to the bridge, or the part of a tick under the lock. -/
inductive Action where
  | bridge (action : BridgeAction)
  | tick (available : UInt64 → List TakenSample)

def act (t : Traced BridgeInner DdsCall) : Action → Traced BridgeInner DdsCall
  | .bridge (.frame dds sessionId data maxPayloadSize) => (processBinaryFrame dds sessionId data maxPayloadSize).after t
  | .bridge (.unregister sessionId) => (unregisterSession sessionId).after t
  | .bridge action => { t with state := t.state.act action }
  | .tick available => (collect available).after t

def Step (t : Traced BridgeInner DdsCall) (action : Action) (t' : Traced BridgeInner DdsCall) : Prop :=
  t' = act t action

theorem step_act (t : Traced BridgeInner DdsCall) (action : Action) : Step t action (act t action) := by
  unfold Step
  rfl

/-- The bridge that an action leaves. -/
def Action.apply (inner : BridgeInner) : Action → BridgeInner
  | .bridge action => inner.act action
  | .tick _ => inner

theorem act_state (t : Traced BridgeInner DdsCall) (action : Action) : (act t action).state = action.apply t.state := by
  cases action with
  | tick available => exact (erases_collect available).state_after t
  | bridge action =>
    cases action with
    | register sid sender => simp [act, Action.apply]
    | channel sender channel => simp [act, Action.apply]
    | unregister sid => exact (erases_unregisterSession sid).state_after t
    | frame dds sid data maxPayloadSize =>
      exact (erases_processBinaryFrame dds sid data maxPayloadSize).state_after t

end Calls

end DdsBridge
