import DdsBridge.Qos

/-!
# Message payloads

The payload of each message of `src/protocol.rs` with its parser and its serializer. Parsers that
differ only in the value they build share a reader.
-/

namespace DdsBridge

structure SubscribePayload where
  topicName : String
  typeName : String
  qos : QosSet
  isKeyed : Bool
  keyDescriptors : KeyDescriptors
  deriving DecidableEq, Repr

structure UnsubscribePayload where
  topicName : String
  typeName : String
  deriving DecidableEq, Repr

structure CreateWriterPayload where
  topicName : String
  typeName : String
  qos : QosSet
  isKeyed : Bool
  keyDescriptors : KeyDescriptors
  deriving DecidableEq, Repr

structure DeleteWriterPayload where
  writerId : UInt32
  deriving DecidableEq, Repr

inductive WriteMode where
  | topicName (topicName typeName : String) (qos : QosSet) (keyDescriptors : KeyDescriptors)
      (data : Bytes)
  | writerId (writerId : UInt32) (keyBytes data : Bytes)
  deriving DecidableEq, Repr

structure WritePayload where
  mode : WriteMode
  deriving DecidableEq, Repr

structure DisposePayload where
  mode : WriteMode
  deriving DecidableEq, Repr

structure WriteDisposePayload where
  mode : WriteMode
  deriving DecidableEq, Repr

structure DataPayload where
  topicName : String
  sourceTimestamp : UInt64
  data : Bytes
  deriving DecidableEq, Repr

structure DataDisposedPayload where
  topicName : String
  sourceTimestamp : UInt64
  keyData : Bytes
  deriving DecidableEq, Repr

structure DataNoWritersPayload where
  topicName : String
  keyData : Bytes
  deriving DecidableEq, Repr

inductive ErrorCode where
  | invalidMessage
  | topicNotFound
  | ddsError
  | writerNotFound
  | readerNotFound
  | invalidQos
  | alreadyExists
  | internalError
  | bufferOverflow
  deriving DecidableEq, Repr

namespace ErrorCode

def fromU16 : UInt16 → Res ProtocolError ErrorCode
  | 0x0001 => .ok .invalidMessage
  | 0x0002 => .ok .topicNotFound
  | 0x0003 => .ok .ddsError
  | 0x0004 => .ok .writerNotFound
  | 0x0005 => .ok .readerNotFound
  | 0x0006 => .ok .invalidQos
  | 0x0007 => .ok .alreadyExists
  | 0x0008 => .ok .internalError
  | 0x0009 => .ok .bufferOverflow
  | v => .err (.invalidErrorCode v)

def toU16 : ErrorCode → UInt16
  | .invalidMessage => 0x0001
  | .topicNotFound => 0x0002
  | .ddsError => 0x0003
  | .writerNotFound => 0x0004
  | .readerNotFound => 0x0005
  | .invalidQos => 0x0006
  | .alreadyExists => 0x0007
  | .internalError => 0x0008
  | .bufferOverflow => 0x0009

end ErrorCode

structure ErrorPayload where
  errorCode : ErrorCode
  errorMessage : String
  deriving DecidableEq, Repr

/-! ## Parsers -/

def readEndpoint {α : Type} (mk : String → String → QosSet → Bool → KeyDescriptors → α) :
    Cursor ProtocolError α := do
  let topicName ← readString
  let typeName ← readString
  let qos ← parseQos
  let isKeyed ← readBool
  let keyDescriptors ← parseKeyDescriptors
  checkNoTrailing
  return mk topicName typeName qos isKeyed keyDescriptors

def parseSubscribe (payload : Bytes) : Res ProtocolError SubscribePayload :=
  (readEndpoint .mk).eval payload

def parseCreateWriter (payload : Bytes) : Res ProtocolError CreateWriterPayload :=
  (readEndpoint .mk).eval payload

def readUnsubscribe : Cursor ProtocolError UnsubscribePayload := do
  let topicName ← readString
  let typeName ← readString
  checkNoTrailing
  return { topicName, typeName }

def parseUnsubscribe (payload : Bytes) : Res ProtocolError UnsubscribePayload :=
  readUnsubscribe.eval payload

def readDeleteWriter : Cursor ProtocolError DeleteWriterPayload := do
  ensureRemaining 4
  let writerId ← Cursor.getU32le
  checkNoTrailing
  return { writerId }

def parseDeleteWriter (payload : Bytes) : Res ProtocolError DeleteWriterPayload :=
  readDeleteWriter.eval payload

def readTopicNameMode : Cursor ProtocolError WriteMode := do
  let topicName ← readString
  let typeName ← readString
  let qos ← parseQos
  let keyDescriptors ← parseKeyDescriptors
  let data ← Cursor.rest
  return .topicName topicName typeName qos keyDescriptors data

def readWriterIdMode : Cursor ProtocolError WriteMode := do
  ensureRemaining 8
  let writerId ← Cursor.getU32le
  let keyLen ← Cursor.getU32le
  ensureRemaining keyLen.toNat
  let keyBytes ← Cursor.take keyLen.toNat
  let data ← Cursor.rest
  return .writerId writerId keyBytes data

def readWriteMode : Cursor ProtocolError WriteMode := do
  ensureRemaining 1
  let mode ← Cursor.getU8
  match mode with
  | 0x00 => readTopicNameMode
  | 0x01 => readWriterIdMode
  | mode => Prog.throw (.invalidWriteMode mode)

def parseWriteMode (payload : Bytes) : Res ProtocolError WriteMode := readWriteMode.eval payload

def parseWrite (payload : Bytes) : Res ProtocolError WritePayload :=
  WritePayload.mk <$> parseWriteMode payload

def parseDispose (payload : Bytes) : Res ProtocolError DisposePayload :=
  DisposePayload.mk <$> parseWriteMode payload

def parseWriteDispose (payload : Bytes) : Res ProtocolError WriteDisposePayload :=
  WriteDisposePayload.mk <$> parseWriteMode payload

def readError : Cursor ProtocolError ErrorPayload := do
  ensureRemaining 2
  let code ← Cursor.getU16le
  let errorCode ← Prog.ofRes (ErrorCode.fromU16 code)
  let errorMessage ← readString
  checkNoTrailing
  return { errorCode, errorMessage }

def parseError (payload : Bytes) : Res ProtocolError ErrorPayload := readError.eval payload

def readStamped {α : Type} (mk : String → UInt64 → Bytes → α) : Cursor ProtocolError α := do
  let topicName ← readString
  ensureRemaining 8
  let sourceTimestamp ← Cursor.getU64le
  let data ← Cursor.rest
  return mk topicName sourceTimestamp data

def parseData (payload : Bytes) : Res ProtocolError DataPayload :=
  (readStamped .mk).eval payload

def parseDataDisposed (payload : Bytes) : Res ProtocolError DataDisposedPayload :=
  (readStamped .mk).eval payload

def readDataNoWriters : Cursor ProtocolError DataNoWritersPayload := do
  let topicName ← readString
  let keyData ← Cursor.rest
  return { topicName, keyData }

def parseDataNoWriters (payload : Bytes) : Res ProtocolError DataNoWritersPayload :=
  readDataNoWriters.eval payload

/-! ## Serializers -/

def endpointBytes (topicName typeName : String) (qos : QosSet) (isKeyed : Bool)
    (keyDescriptors : KeyDescriptors) : Bytes :=
  writeString topicName ++ (writeString typeName ++ (serializeQos qos ++
    ([if isKeyed then 1 else 0] ++ serializeKeyDescriptors keyDescriptors)))

def serializeSubscribe (p : SubscribePayload) : Bytes :=
  endpointBytes p.topicName p.typeName p.qos p.isKeyed p.keyDescriptors

def serializeCreateWriter (p : CreateWriterPayload) : Bytes :=
  endpointBytes p.topicName p.typeName p.qos p.isKeyed p.keyDescriptors

def serializeUnsubscribe (p : UnsubscribePayload) : Bytes :=
  writeString p.topicName ++ writeString p.typeName

def serializeDeleteWriter (p : DeleteWriterPayload) : Bytes := u32le p.writerId

def serializeWriteMode : WriteMode → Bytes
  | .topicName topicName typeName qos keyDescriptors data =>
    0x00 :: (writeString topicName ++ (writeString typeName ++ (serializeQos qos ++
      (serializeKeyDescriptors keyDescriptors ++ data))))
  | .writerId writerId keyBytes data =>
    0x01 :: (u32le writerId ++ (u32le (UInt32.ofNat keyBytes.length) ++ (keyBytes ++ data)))

def serializeWrite (p : WritePayload) : Bytes := serializeWriteMode p.mode
def serializeDispose (p : DisposePayload) : Bytes := serializeWriteMode p.mode
def serializeWriteDispose (p : WriteDisposePayload) : Bytes := serializeWriteMode p.mode

def serializeError (p : ErrorPayload) : Bytes :=
  u16le p.errorCode.toU16 ++ writeString p.errorMessage

def stampedBytes (topicName : String) (sourceTimestamp : UInt64) (data : Bytes) : Bytes :=
  writeString topicName ++ (u64le sourceTimestamp ++ data)

def serializeData (p : DataPayload) : Bytes := stampedBytes p.topicName p.sourceTimestamp p.data

def serializeDataDisposed (p : DataDisposedPayload) : Bytes :=
  stampedBytes p.topicName p.sourceTimestamp p.keyData

def serializeDataNoWriters (p : DataNoWritersPayload) : Bytes :=
  writeString p.topicName ++ p.keyData

/-! ## What a payload may hold -/

def SubscribePayload.WF (p : SubscribePayload) : Prop :=
  StringFits p.topicName ∧ StringFits p.typeName ∧ p.qos.WF ∧ p.keyDescriptors.Fits

def CreateWriterPayload.WF (p : CreateWriterPayload) : Prop :=
  StringFits p.topicName ∧ StringFits p.typeName ∧ p.qos.WF ∧ p.keyDescriptors.Fits

def UnsubscribePayload.WF (p : UnsubscribePayload) : Prop :=
  StringFits p.topicName ∧ StringFits p.typeName

def WriteMode.WF : WriteMode → Prop
  | .topicName topic type qos keyDescriptors _ =>
    StringFits topic ∧ StringFits type ∧ qos.WF ∧ keyDescriptors.Fits
  | .writerId _ keyBytes _ => keyBytes.length < 2 ^ 32

end DdsBridge
