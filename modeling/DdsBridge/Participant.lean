import DdsBridge.Lib.Table
import DdsBridge.Sertype

/-!
# DDS entities

The errors of `src/dds/error.rs`, topics and their cache from `src/dds/participant.rs`. A call into
DDS is modelled by the code it returns; negative codes are errors.
-/

namespace DdsBridge

inductive DdsError where
  | createParticipant (code : Int32)
  | createTopic (code : Int32)
  | createWriter (code : Int32)
  | createReader (code : Int32)
  | write (code : Int32)
  | dispose (code : Int32)
  | writeDispose (code : Int32)
  | read (code : Int32)
  | invalidName (name : String)
  | writerNotFound (writerId : UInt32)
  | writerOwnership (writerId : UInt32)
  deriving DecidableEq, Repr

def DdsError.toString : DdsError → String
  | createParticipant code => s!"failed to create DomainParticipant: DDS error code {code}"
  | createTopic code => s!"failed to create topic: DDS error code {code}"
  | createWriter code => s!"failed to create writer: DDS error code {code}"
  | createReader code => s!"failed to create reader: DDS error code {code}"
  | write code => s!"DDS write failed: error code {code}"
  | dispose code => s!"DDS dispose failed: error code {code}"
  | writeDispose code => s!"DDS writedispose failed: error code {code}"
  | read code => s!"DDS read/take failed: error code {code}"
  | invalidName name => s!"invalid name: {name}"
  | writerNotFound writerId => s!"writer not found: {writerId}"
  | writerOwnership writerId => s!"writer ownership violation: writer {writerId} belongs to another session"

/-- What the DDS calls of one request return. -/
structure DdsReturns where
  createTopic : Int32
  createReader : Int32
  createWriter : Int32
  write : Int32
  dispose : Int32
  writeDispose : Int32
  createQos : Bool
  deriving DecidableEq, Repr

/-- A reader or writer of DDS: its handle, and the QoS object it was created with. -/
structure DdsEntity where
  handle : Int32
  qos : Option DdsQos
  deriving DecidableEq, Repr

structure Topic where
  handle : Int32
  topicName : String
  typeName : String
  isKeyed : Bool
  keyDescriptors : KeyDescriptors
  deriving DecidableEq, Repr

structure DdsParticipant where
  handle : Int32
  topics : Table (String × String) Topic

namespace DdsParticipant

def getOrCreateTopic (rc : Int32) (topicName typeName : String) (isKeyed : Bool)
    (keyDescriptors : KeyDescriptors) : Prog DdsParticipant DdsError Topic := do
  let participant ← Prog.get
  match participant.topics.lookup (topicName, typeName) with
  | some topic => return topic
  | none =>
    Prog.require (cString topicName ≠ none) (.invalidName topicName)
    let _sertype ← Prog.ofRes (createOpaqueSertype typeName isKeyed keyDescriptors)
    Prog.require (0 ≤ rc) (.createTopic rc)
    let topic := { handle := rc, topicName, typeName, isKeyed, keyDescriptors }
    Prog.modify fun p => { p with topics := p.topics.insert (topicName, typeName) topic }
    return topic

end DdsParticipant

end DdsBridge
