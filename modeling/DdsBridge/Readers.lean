import DdsBridge.Participant
import Mathlib.Data.List.Dedup

/-!
# The reader registry

`src/dds/reader.rs`: readers shared by topic, type and normalized QoS, and the subscriptions of
every session. The counter behind `NEXT_READER_ID` is kept with the registry.
-/

namespace DdsBridge

structure DdsReader where
  readerId : UInt64
  handle : DdsEntity
  topic : Topic
  qosNormalized : QosSet
  subscribers : TableSet UInt64

def DdsReader.new (rc : Int32) (topic : Topic) (qos : Option DdsQos) (qosNormalized : QosSet)
    (readerId : UInt64) : Res DdsError DdsReader :=
  if rc < 0 then .err (.createReader rc)
  else .ok { readerId, handle := { handle := rc, qos }, topic, qosNormalized, subscribers := ∅ }

def DdsReader.leave (reader : DdsReader) (sessionId : UInt64) : DdsReader :=
  { reader with subscribers := reader.subscribers.erase sessionId }

structure ReaderKey where
  topicName : String
  typeName : String
  qosBytes : Bytes
  deriving DecidableEq, Repr

def ReaderKey.new (topicName typeName : String) (qos : QosSet) : ReaderKey where
  topicName
  typeName
  qosBytes := serializeQos qos.normalize

structure ReaderRegistry where
  readers : Table UInt64 DdsReader
  keyToReader : Table ReaderKey UInt64
  sessionSubscriptions : Table (UInt64 × String × String) UInt64
  nextReaderId : UInt64

namespace ReaderRegistry

def new : ReaderRegistry where
  readers := ∅
  keyToReader := ∅
  sessionSubscriptions := ∅
  nextReaderId := 1

/-- The reader to share: the key is known and its reader is there. -/
def shared (reg : ReaderRegistry) (key : ReaderKey) : Option (UInt64 × DdsReader) :=
  match reg.keyToReader.lookup key with
  | some readerId => (reg.readers.lookup readerId).map fun reader => (readerId, reader)
  | none => none

def join (reg : ReaderRegistry) (readerId : UInt64) (reader : DdsReader) (topic : Topic)
    (sessionId : UInt64) : ReaderRegistry :=
  { reg with
    readers := reg.readers.insert readerId
      { reader with subscribers := reader.subscribers.insert sessionId () }
    sessionSubscriptions :=
      reg.sessionSubscriptions.insert (sessionId, topic.topicName, topic.typeName) readerId }

/-- Subscribe to a reader that was just created; its id has been drawn from the counter. -/
def add (reg : ReaderRegistry) (key : ReaderKey) (reader : DdsReader) (topic : Topic)
    (sessionId : UInt64) : ReaderRegistry where
  readers := reg.readers.insert reader.readerId
    { reader with subscribers := reader.subscribers.insert sessionId () }
  keyToReader := reg.keyToReader.insert key reader.readerId
  sessionSubscriptions :=
    reg.sessionSubscriptions.insert (sessionId, topic.topicName, topic.typeName) reader.readerId
  nextReaderId := reg.nextReaderId + 1

def subscribe (rc : Int32) (topic : Topic) (qos : Option DdsQos) (qosSet : QosSet) (sessionId : UInt64) :
    Prog ReaderRegistry DdsError UInt64 := do
  let reg ← Prog.get
  let key := ReaderKey.new topic.topicName topic.typeName qosSet
  match reg.shared key with
  | some (readerId, reader) =>
    Prog.modify fun reg => reg.join readerId reader topic sessionId
    return readerId
  | none =>
    let reader ← Prog.ofRes (DdsReader.new rc topic qos qosSet.normalize reg.nextReaderId)
    Prog.modify fun reg => reg.add key reader topic sessionId
    return reader.readerId

/-- Whether the session was subscribed, and the registry after it left. -/
def unsubscribe (reg : ReaderRegistry) (topicName typeName : String) (sessionId : UInt64) :
    Bool × ReaderRegistry :=
  let subKey := (sessionId, topicName, typeName)
  match reg.sessionSubscriptions.lookup subKey with
  | none => (false, reg)
  | some readerId =>
    let reg := { reg with sessionSubscriptions := reg.sessionSubscriptions.erase subKey }
    match reg.readers.lookup readerId with
    | none => (false, reg)
    | some reader =>
      let reader := reader.leave sessionId
      if reader.subscribers.isEmpty then
        (true, { reg with
          readers := (reg.readers.insert readerId reader).erase readerId
          keyToReader := Table.retain reg.keyToReader fun _ rid => rid != readerId })
      else (true, { reg with readers := reg.readers.insert readerId reader })

/-- The loop over `affected_readers`: the readers after it and the ones without subscribers. -/
def leaveAll (sessionId : UInt64) : List UInt64 → Table UInt64 DdsReader →
    Table UInt64 DdsReader × List UInt64
  | [], readers => (readers, [])
  | readerId :: affectedReaders, readers =>
    match readers.lookup readerId with
    | none => leaveAll sessionId affectedReaders readers
    | some reader =>
      let reader := reader.leave sessionId
      let (readers, toRemove) := leaveAll sessionId affectedReaders (readers.insert readerId reader)
      (readers, if reader.subscribers.isEmpty then readerId :: toRemove else toRemove)

def subKeys (reg : ReaderRegistry) (sessionId : UInt64) : List (UInt64 × String × String) :=
  reg.sessionSubscriptions.keys.filter fun key => key.1 == sessionId

def affectedReaders (reg : ReaderRegistry) (sessionId : UInt64) : List UInt64 :=
  ((reg.subKeys sessionId).filterMap reg.sessionSubscriptions.lookup).dedup

def removeSession (reg : ReaderRegistry) (sessionId : UInt64) : ReaderRegistry :=
  let (readers, toRemove) := leaveAll sessionId (reg.affectedReaders sessionId) reg.readers
  { reg with
    readers := Table.eraseAll readers toRemove
    keyToReader := Table.retain reg.keyToReader fun _ rid => !toRemove.contains rid
    sessionSubscriptions := Table.eraseAll reg.sessionSubscriptions (reg.subKeys sessionId) }

def allReaders (reg : ReaderRegistry) : List DdsReader := Table.values reg.readers

end ReaderRegistry

end DdsBridge
