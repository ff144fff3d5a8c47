import DdsBridge.Payload

/-!
# Frames

The 12-byte header of `src/protocol.rs`, whole messages, and the checks a client's header passes.
-/

namespace DdsBridge

def headerSize : Nat := 12

def version : UInt8 := 0x01

inductive MsgType where
  | subscribe
  | unsubscribe
  | write
  | dispose
  | writeDispose
  | createWriter
  | deleteWriter
  | ping
  | ok
  | data
  | dataDisposed
  | dataNoWriters
  | error
  | pong
  deriving DecidableEq, Repr

namespace MsgType

def fromU8 : UInt8 → Res ProtocolError MsgType
  | 0x01 => .ok .subscribe
  | 0x02 => .ok .unsubscribe
  | 0x03 => .ok .write
  | 0x04 => .ok .dispose
  | 0x05 => .ok .writeDispose
  | 0x10 => .ok .createWriter
  | 0x11 => .ok .deleteWriter
  | 0x0F => .ok .ping
  | 0x80 => .ok .ok
  | 0xC0 => .ok .data
  | 0xC1 => .ok .dataDisposed
  | 0xC2 => .ok .dataNoWriters
  | 0xFE => .ok .error
  | 0x8F => .ok .pong
  | val => .err (.invalidMsgType val)

def toU8 : MsgType → UInt8
  | .subscribe => 0x01
  | .unsubscribe => 0x02
  | .write => 0x03
  | .dispose => 0x04
  | .writeDispose => 0x05
  | .createWriter => 0x10
  | .deleteWriter => 0x11
  | .ping => 0x0F
  | .ok => 0x80
  | .data => 0xC0
  | .dataDisposed => 0xC1
  | .dataNoWriters => 0xC2
  | .error => 0xFE
  | .pong => 0x8F

/-- The `{:?}` form, the name of the variant. -/
def debugName : MsgType → String
  | .subscribe => "Subscribe"
  | .unsubscribe => "Unsubscribe"
  | .write => "Write"
  | .dispose => "Dispose"
  | .writeDispose => "WriteDispose"
  | .createWriter => "CreateWriter"
  | .deleteWriter => "DeleteWriter"
  | .ping => "Ping"
  | .ok => "Ok"
  | .data => "Data"
  | .dataDisposed => "DataDisposed"
  | .dataNoWriters => "DataNoWriters"
  | .error => "Error"
  | .pong => "Pong"

theorem fromU8_toU8 (t : MsgType) : fromU8 t.toU8 = .ok t := by cases t <;> rfl

theorem fromU8_ne_panic (v : UInt8) : fromU8 v ≠ .panic := by
  unfold fromU8
  split <;> simp

end MsgType

structure Header where
  version : UInt8
  msgType : MsgType
  requestId : UInt32
  payloadLength : UInt32
  deriving DecidableEq, Repr

def readHeader : Cursor ProtocolError Header := do
  ensureRemaining headerSize
  let magic0 ← Cursor.getU8
  let magic1 ← Cursor.getU8
  Prog.require (magic0 = 0x44 ∧ magic1 = 0x42) (.badMagic magic0 magic1)
  let version ← Cursor.getU8
  let msgTypeByte ← Cursor.getU8
  let msgType ← Prog.ofRes (MsgType.fromU8 msgTypeByte)
  let requestId ← Cursor.getU32le
  let payloadLength ← Cursor.getU32le
  return { version, msgType, requestId, payloadLength }

def parseHeader (data : Bytes) : Res ProtocolError Header := readHeader.eval data

def serializeHeader (header : Header) : Bytes :=
  [0x44, 0x42, header.version, header.msgType.toU8] ++
    (u32le header.requestId ++ u32le header.payloadLength)

def buildMessage (msgType : MsgType) (requestId : UInt32) (payload : Bytes) : Bytes :=
  serializeHeader
    { version, msgType, requestId, payloadLength := UInt32.ofNat payload.length } ++ payload

def validateClientHeader (header : Header) (maxVersion : UInt8) (maxPayloadSize : Nat) :
    Res ProtocolError Unit :=
  if header.version > maxVersion then .err (.unsupportedVersion header.version maxVersion)
  else if header.payloadLength.toNat > maxPayloadSize then
    .err (.payloadTooLarge header.payloadLength.toNat maxPayloadSize)
  else if header.requestId = 0 then .err .reservedRequestId
  else .ok ()

@[simp] theorem serializeHeader_length (header : Header) : (serializeHeader header).length = 12 := by
  simp [serializeHeader]

end DdsBridge
