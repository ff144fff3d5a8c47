import DdsBridge.Wire

/-!
# The codec of the Go client

`ddswsclient/protocol.go`: its payloads, the constructors of its policies, the encoders and the
decoders. A Go string is a list of bytes that need not be UTF-8, and a policy is kept as the bytes of
its value. A decoder reads from `data[pos:]`.
-/

namespace DdsBridge.GoCodec

open Cursor

def version : UInt8 := 0x01

def headerLen : Nat := 12

/-- `DefaultMaxPayloadSize`: 4 MiB. -/
def defaultMaxPayloadSize : Nat := 4 * 1024 * 1024

abbrev GoString := Bytes

structure Header where
  version : UInt8
  type : UInt8
  requestID : UInt32
  payloadLength : UInt32
  deriving DecidableEq, Repr

structure KeyField where
  offset : UInt32
  size : UInt32
  typeHint : UInt8
  deriving DecidableEq, Repr

/-- `data` is the value without the policy id. -/
structure QosPolicy where
  id : UInt8
  data : Bytes
  deriving DecidableEq, Repr

structure SubscribePayload where
  topicName : GoString
  typeName : GoString
  qos : List QosPolicy
  isKeyed : Bool
  keys : List KeyField
  deriving DecidableEq, Repr

structure UnsubscribePayload where
  topicName : GoString
  typeName : GoString
  deriving DecidableEq, Repr

structure CreateWriterPayload where
  topicName : GoString
  typeName : GoString
  qos : List QosPolicy
  isKeyed : Bool
  keys : List KeyField
  deriving DecidableEq, Repr

structure DeleteWriterPayload where
  writerID : UInt32
  deriving DecidableEq, Repr

def writeTopicMode : UInt8 := 0x00
def writeWriterMode : UInt8 := 0x01

/-- Of `WRITE`, `DISPOSE` and `WRITE_DISPOSE`; the fields of the other mode are empty. -/
structure WritePayload where
  mode : UInt8
  topicName : GoString
  typeName : GoString
  qos : List QosPolicy
  keys : List KeyField
  writerID : UInt32
  keyBytes : Bytes
  data : Bytes
  deriving DecidableEq, Repr

structure DataPayload where
  topicName : GoString
  sourceTimestamp : UInt64
  data : Bytes
  deriving DecidableEq, Repr

structure DataDisposedPayload where
  topicName : GoString
  sourceTimestamp : UInt64
  keyData : Bytes
  deriving DecidableEq, Repr

structure DataNoWritersPayload where
  topicName : GoString
  keyData : Bytes
  deriving DecidableEq, Repr

structure ErrorPayload where
  code : UInt16
  message : GoString
  deriving DecidableEq, Repr

/-! ## Encoders -/

def appendBool (dst : Bytes) (v : Bool) : Bytes := if v then dst ++ [1] else dst ++ [0]

def appendString (dst : Bytes) (s : GoString) : Bytes := dst ++ u32le (UInt32.ofNat s.length) ++ s

def encodeKeyDescriptors (keys : List KeyField) : Bytes :=
  UInt8.ofNat keys.length :: keys.flatMap fun k => u32le k.offset ++ u32le k.size ++ [k.typeHint]

def encodeQos (policies : List QosPolicy) : Bytes :=
  UInt8.ofNat policies.length :: policies.flatMap fun p => p.id :: p.data

def encodeEndpoint (topicName typeName : GoString) (qos : List QosPolicy) (isKeyed : Bool)
    (keys : List KeyField) : Bytes :=
  let buf := appendString [] topicName
  let buf := appendString buf typeName
  let buf := buf ++ encodeQos qos
  let buf := appendBool buf isKeyed
  buf ++ encodeKeyDescriptors keys

def encodeSubscribe (p : SubscribePayload) : Bytes :=
  encodeEndpoint p.topicName p.typeName p.qos p.isKeyed p.keys

def encodeCreateWriter (p : CreateWriterPayload) : Bytes :=
  encodeEndpoint p.topicName p.typeName p.qos p.isKeyed p.keys

def encodeUnsubscribe (p : UnsubscribePayload) : Bytes :=
  let buf := appendString [] p.topicName
  appendString buf p.typeName

def encodeDeleteWriter (p : DeleteWriterPayload) : Bytes := u32le p.writerID

def encodeWriteMode (p : WritePayload) : Bytes :=
  let buf := [p.mode]
  if p.mode = writeTopicMode then
    let buf := appendString buf p.topicName
    let buf := appendString buf p.typeName
    let buf := buf ++ encodeQos p.qos
    let buf := buf ++ encodeKeyDescriptors p.keys
    buf ++ p.data
  else if p.mode = writeWriterMode then
    let buf := buf ++ u32le p.writerID
    let buf := buf ++ u32le (UInt32.ofNat p.keyBytes.length)
    let buf := buf ++ p.keyBytes
    buf ++ p.data
  else buf

def encodeWrite (p : WritePayload) : Bytes := encodeWriteMode p
def encodeDispose (p : WritePayload) : Bytes := encodeWriteMode p
def encodeWriteDispose (p : WritePayload) : Bytes := encodeWriteMode p

/-! ## Policy constructors -/

def qosReliabilityPolicy (kind : UInt8) (maxBlockingTimeMs : UInt32) : QosPolicy :=
  ⟨0x01, kind :: u32le maxBlockingTimeMs⟩

def qosDurabilityPolicy (kind : UInt8) : QosPolicy := ⟨0x02, [kind]⟩

def qosHistoryPolicy (kind : UInt8) (depth : UInt32) : QosPolicy := ⟨0x03, kind :: u32le depth⟩

def qosDeadlinePolicy (periodMs : UInt32) : QosPolicy := ⟨0x04, u32le periodMs⟩

def qosLatencyBudgetPolicy (durationMs : UInt32) : QosPolicy := ⟨0x05, u32le durationMs⟩

def qosOwnershipStrengthPolicy (value : UInt32) : QosPolicy := ⟨0x06, u32le value⟩

def qosLivelinessPolicy (kind : UInt8) (leaseDurationMs : UInt32) : QosPolicy :=
  ⟨0x07, kind :: u32le leaseDurationMs⟩

def qosDestinationOrderPolicy (kind : UInt8) : QosPolicy := ⟨0x08, [kind]⟩

def qosPresentationPolicy (accessScope coherentAccess orderedAccess : UInt8) : QosPolicy :=
  ⟨0x09, [accessScope, coherentAccess, orderedAccess]⟩

def qosPartitionPolicy (partitions : List GoString) : QosPolicy :=
  ⟨0x0A, partitions.foldl appendString [UInt8.ofNat partitions.length]⟩

def qosOwnershipPolicy (kind : UInt8) : QosPolicy := ⟨0x0B, [kind]⟩

def qosWriterDataLifecyclePolicy (autodispose : UInt8) : QosPolicy := ⟨0x0C, [autodispose]⟩

def qosTimeBasedFilterPolicy (minSeparationMs : UInt32) : QosPolicy := ⟨0x0D, u32le minSeparationMs⟩

protected def encodeHeader (h : Header) : Bytes :=
  [0x44, 0x42, h.version, h.type] ++ (u32le h.requestID ++ u32le h.payloadLength)

protected def buildMessage (msgType : UInt8) (requestID : UInt32) (payload : Bytes) : Bytes :=
  GoCodec.encodeHeader { version, type := msgType, requestID, payloadLength := UInt32.ofNat payload.length } ++ payload

/-! ## Decoders -/

def readHeader : Cursor String Header := do
  ensure headerLen fun _ got => s!"header too short: {got} bytes"
  let magic0 ← getU8
  let magic1 ← getU8
  Prog.require (magic0 = 0x44 ∧ magic1 = 0x42) ("bad magic: [" ++ hexU8 magic0 ++ ", " ++ hexU8 magic1 ++ "]")
  let v ← getU8
  Prog.require (v ≤ version) s!"unsupported protocol version {v}; max supported is {version}"
  let type ← getU8
  let requestID ← getU32le
  let payloadLength ← getU32le
  return { version := v, type, requestID, payloadLength }

def decodeHeader (data : Bytes) : Res String Header := readHeader.eval data

def decodeBool : Cursor String Bool := do
  ensure 1 fun _ _ => "bool: truncated"
  return (← getU8) != 0

def decodeString : Cursor String GoString := do
  ensure 4 fun _ _ => "string: truncated length prefix"
  let length ← getU32le
  Prog.require (length.toNat ≤ defaultMaxPayloadSize) s!"string too long: {length} bytes"
  ensure length.toNat fun n got => s!"string: truncated body: need {4 + n}, have {4 + got}"
  take length.toNat

def decodeKeyField : Cursor String KeyField := do
  ensure 9 fun _ _ => "key descriptors: truncated key field"
  let offset ← getU32le
  let size ← getU32le
  let typeHint ← getU8
  return { offset, size, typeHint }

def decodeKeyDescriptors : Cursor String (List KeyField) := do
  ensure 1 fun _ _ => "key descriptors: truncated count"
  let count ← getU8
  decodeKeyField.times count.toNat

/-- The `for range count` loop of `partitionDataSize`, from `pos` on. -/
def partitionStringsSize (data : Bytes) : Nat → Nat → Res String Nat
  | 0, pos => .ok pos
  | count + 1, pos =>
    if pos + 4 > data.length then .err "partition: truncated string length"
    else
      let slen := UInt32.ofNat (ofLE ((data.drop pos).take 4))
      let pos := pos + (4 + slen.toNat)
      if pos > data.length then .err "partition: truncated string data"
      else partitionStringsSize data count pos

def partitionDataSize : Bytes → Res String Nat
  | [] => .err "partition: truncated count"
  | count :: strings => partitionStringsSize (count :: strings) count.toNat 1

def qosPolicyDataSize (id : UInt8) (data : Bytes) : Res String Nat :=
  match id with
  | 0x01 => .ok 5
  | 0x02 => .ok 1
  | 0x03 => .ok 5
  | 0x04 => .ok 4
  | 0x05 => .ok 4
  | 0x06 => .ok 4
  | 0x07 => .ok 5
  | 0x08 => .ok 1
  | 0x09 => .ok 3
  | 0x0A => partitionDataSize data
  | 0x0B => .ok 1
  | 0x0C => .ok 1
  | 0x0D => .ok 4
  | id => .err ("unknown qos policy id: " ++ hexU8 id)

def decodePolicy : Cursor String QosPolicy := do
  ensure 1 fun _ _ => "qos: truncated policy_id"
  let id ← getU8
  let data ← Prog.get
  let size ← Prog.ofRes (qosPolicyDataSize id data)
  ensure size fun _ _ => "qos: truncated policy " ++ hexU8 id ++ " data"
  let policyData ← take size
  return { id, data := policyData }

def decodeQos : Cursor String (List QosPolicy) := do
  ensure 1 fun _ _ => "qos: truncated count"
  let count ← getU8
  decodePolicy.times count.toNat

/-- `if pos != len(data) { return nil, fmt.Errorf("..: %d trailing bytes", len(data)-pos) }` -/
def noTrailing (message : String) : Cursor String Unit := do
  let data ← Prog.get
  Prog.require (data = []) s!"{message}: {data.length} trailing bytes"

def readEndpoint {α : Type} (message : String)
    (mk : GoString → GoString → List QosPolicy → Bool → List KeyField → α) : Cursor String α := do
  let topicName ← decodeString
  let typeName ← decodeString
  let qos ← decodeQos
  let isKeyed ← decodeBool
  let keys ← decodeKeyDescriptors
  noTrailing message
  return mk topicName typeName qos isKeyed keys

def decodeSubscribe (data : Bytes) : Res String SubscribePayload := (readEndpoint "subscribe" .mk).eval data

def decodeCreateWriter (data : Bytes) : Res String CreateWriterPayload :=
  (readEndpoint "create_writer" .mk).eval data

def readUnsubscribe : Cursor String UnsubscribePayload := do
  let topicName ← decodeString
  let typeName ← decodeString
  noTrailing "unsubscribe"
  return { topicName, typeName }

def decodeUnsubscribe (data : Bytes) : Res String UnsubscribePayload := readUnsubscribe.eval data

def readDeleteWriter : Cursor String DeleteWriterPayload := do
  ensure 4 fun _ got => s!"delete_writer: need 4 bytes, got {got}"
  let writerID ← getU32le
  noTrailing "delete_writer"
  return { writerID }

def decodeDeleteWriter (data : Bytes) : Res String DeleteWriterPayload := readDeleteWriter.eval data

def readTopicMode : Cursor String WritePayload := do
  let topicName ← decodeString
  let typeName ← decodeString
  let qos ← decodeQos
  let keys ← decodeKeyDescriptors
  let data ← rest
  return { mode := writeTopicMode, topicName, typeName, qos, keys, writerID := 0, keyBytes := [], data }

/-- The key length is compared with the low 32 bits of the number of bytes left. -/
def readWriterMode : Cursor String WritePayload := do
  ensure 8 fun _ got => s!"write writer-id mode: need 8 bytes for writer_id+key_len, got {got}"
  let writerID ← getU32le
  let keyLen ← getU32le
  let left ← Prog.get
  Prog.require (keyLen ≤ UInt32.ofNat left.length)
    s!"write writer-id mode: need {keyLen} key bytes, got {left.length}"
  let keyBytes ← take keyLen.toNat
  let data ← rest
  return { mode := writeWriterMode, topicName := [], typeName := [], qos := [], keys := [], writerID, keyBytes, data }

def readWriteMode : Cursor String WritePayload := do
  ensure 1 fun _ _ => "write: empty payload"
  let mode ← getU8
  if mode = writeTopicMode then readTopicMode
  else if mode = writeWriterMode then readWriterMode
  else Prog.throw ("write: invalid mode " ++ hexU8 mode)

def decodeWriteMode (data : Bytes) : Res String WritePayload := readWriteMode.eval data

def decodeWrite (data : Bytes) : Res String WritePayload := decodeWriteMode data
def decodeDispose (data : Bytes) : Res String WritePayload := decodeWriteMode data
def decodeWriteDispose (data : Bytes) : Res String WritePayload := decodeWriteMode data

def readError : Cursor String ErrorPayload := do
  ensure 2 fun _ got => s!"error: need at least 2 bytes, got {got}"
  let code ← getU16le
  let message ← decodeString
  noTrailing "error"
  return { code, message }

def decodeError (data : Bytes) : Res String ErrorPayload := readError.eval data

def readStamped {α : Type} (message : String) (mk : GoString → UInt64 → Bytes → α) : Cursor String α := do
  let topicName ← decodeString
  ensure 8 fun _ got => s!"{message}: need 8 bytes for timestamp, got {got}"
  let sourceTimestamp ← getU64le
  let data ← rest
  return mk topicName sourceTimestamp data

def decodeData (data : Bytes) : Res String DataPayload := (readStamped "data" .mk).eval data

def decodeDataDisposed (data : Bytes) : Res String DataDisposedPayload := (readStamped "data_disposed" .mk).eval data

def readDataNoWriters : Cursor String DataNoWritersPayload := do
  let topicName ← decodeString
  let keyData ← rest
  return { topicName, keyData }

def decodeDataNoWriters (data : Bytes) : Res String DataNoWritersPayload := readDataNoWriters.eval data

end DdsBridge.GoCodec
