import DdsBridge.Participant

/-!
# The writer registry

`src/dds/writer.rs`: writers by id, each owned by a session. The counter behind `NEXT_WRITER_ID` is
kept with the registry.
-/

namespace DdsBridge

structure DdsWriter where
  handle : DdsEntity
  writerId : UInt32
  topic : Topic
  qosNormalized : QosSet
  deriving DecidableEq, Repr

def DdsWriter.new (rc : Int32) (topic : Topic) (qos : Option DdsQos) (qosNormalized : QosSet)
    (writerId : UInt32) : Res DdsError DdsWriter :=
  if rc < 0 then .err (.createWriter rc)
  else .ok { handle := { handle := rc, qos }, writerId, topic, qosNormalized }

/-- The three calls that send a sample, by the code they return. -/
def DdsWriter.write (_writer : DdsWriter) (rc : Int32) : Res DdsError Unit :=
  if rc < 0 then .err (.write rc) else .ok ()

def DdsWriter.dispose (_writer : DdsWriter) (rc : Int32) : Res DdsError Unit :=
  if rc < 0 then .err (.dispose rc) else .ok ()

def DdsWriter.writeDispose (_writer : DdsWriter) (rc : Int32) : Res DdsError Unit :=
  if rc < 0 then .err (.writeDispose rc) else .ok ()

structure WriterRegistry where
  writers : Table UInt32 (DdsWriter × UInt64)
  sessionWriters : Table UInt64 (List UInt32)
  nextWriterId : UInt32

namespace WriterRegistry

def new : WriterRegistry where
  writers := ∅
  sessionWriters := ∅
  nextWriterId := 1

def register (reg : WriterRegistry) (writer : DdsWriter) (sessionId : UInt64) : WriterRegistry where
  writers := reg.writers.insert writer.writerId (writer, sessionId)
  sessionWriters := reg.sessionWriters.insert sessionId
    ((reg.sessionWriters.lookup sessionId).getD [] ++ [writer.writerId])
  nextWriterId := reg.nextWriterId + 1

def findById (reg : WriterRegistry) (writerId : UInt32) : Option DdsWriter :=
  (reg.writers.lookup writerId).map (·.1)

def get (reg : WriterRegistry) (writerId : UInt32) (sessionId : UInt64) : Res DdsError DdsWriter :=
  match reg.writers.lookup writerId with
  | none => .err (.writerNotFound writerId)
  | some (writer, owner) => if owner ≠ sessionId then .err (.writerOwnership writerId) else .ok writer

def delete (writerId : UInt32) (sessionId : UInt64) : Prog WriterRegistry DdsError Unit := do
  let reg ← Prog.get
  let _writer ← Prog.ofRes (reg.get writerId sessionId)
  Prog.modify fun reg => { reg with
    writers := reg.writers.erase writerId
    sessionWriters := Table.modify reg.sessionWriters sessionId fun ids => ids.filter (· != writerId) }

def removeSession (reg : WriterRegistry) (sessionId : UInt64) : WriterRegistry :=
  match reg.sessionWriters.lookup sessionId with
  | some ids => { reg with
      sessionWriters := reg.sessionWriters.erase sessionId
      writers := Table.eraseAll reg.writers ids }
  | none => reg

/-- The first of the session's writers for the topic, type and QoS. -/
def findByTopic (reg : WriterRegistry) (sessionId : UInt64) (topicName typeName : String) (qos : QosSet) :
    Option DdsWriter :=
  match reg.sessionWriters.lookup sessionId with
  | none => none
  | some ids => ids.findSome? fun writerId =>
      match reg.writers.lookup writerId with
      | some (writer, _) =>
        if writer.topic.topicName = topicName ∧ writer.topic.typeName = typeName ∧
          writer.qosNormalized.normalizedEq qos then some writer else none
      | none => none

end WriterRegistry

end DdsBridge
