import DdsBridge.Hash
import DdsBridge.QosHandle

/-!
# Opaque sertypes and their serdata

`src/dds/sertype.rs`: the type Cyclone DDS is given for a topic, and the four ways a sample of it
is built. A pointer that may be null is an option; a length is the length of the list behind it.
-/

namespace DdsBridge

structure OpaqueSertype where
  /-- `base.type_name`, a C string. -/
  typeName : Bytes
  topickindNoKey : Bool
  keyFields : List KeyField
  deriving DecidableEq, Repr

inductive SerdataKind where
  | empty
  | key
  | data
  deriving DecidableEq, Repr

structure OpaqueSerdata where
  sertype : OpaqueSertype
  kind : SerdataKind
  hash : UInt32
  data : Option Bytes
  keyData : Option Bytes
  deriving DecidableEq, Repr

structure SampleWrapper where
  data : Bytes
  keyData : Option Bytes
  deriving DecidableEq, Repr

def SampleWrapper.fromBytes (data keyBytes : Bytes) : SampleWrapper where
  data
  keyData := if keyBytes.isEmpty then none else some keyBytes

/-- `CString::new(type_name).expect(..)` is the panic. -/
def createOpaqueSertype {ε : Type} (typeName : String) (isKeyed : Bool) (keyDescriptors : KeyDescriptors) :
    Res ε OpaqueSertype :=
  match cString typeName with
  | none => .panic
  | some cName =>
    .ok { typeName := cName, topickindNoKey := !isKeyed, keyFields := keyDescriptors.keys }

/-! ## Keys in a payload -/

/-- The low bit of the encapsulation header's second byte says little-endian. -/
def readU32Cdr (data : Bytes) (offset : Nat) : Option UInt32 :=
  if offset + 4 > data.length then none
  else
    let bytes := (data.drop offset).take 4
    if data.length ≥ 2 ∧ data.getD 1 0 &&& 0x01 ≠ 0 then some (u32FromLE bytes)
    else some (u32FromLE bytes.reverse)

def extractKeyBytes (data : Bytes) (field : KeyField) : Bytes :=
  let offset := field.offset.toNat
  if offset ≥ data.length then []
  else match field.typeHint with
    | .string => match readU32Cdr data offset with
      | some strLen => (data.drop offset).take (min (offset + 4 + strLen.toNat) data.length - offset)
      | none => []
    | _ => (data.drop offset).take (min (offset + field.size.toNat) data.length - offset)

def keysEqual (aData bData : Bytes) : List KeyField → Bool
  | [] => true
  | field :: keyFields =>
    if extractKeyBytes aData field ≠ extractKeyBytes bData field then false
    else keysEqual aData bData keyFields

def hashKeyBytes (data : Bytes) (keyFields : List KeyField) : UInt32 :=
  keyFields.foldl (fun hash field =>
    (extractKeyBytes data field).foldl (fun hash b => (hash ^^^ b.toUInt32) * 16777619) hash) 2166136261

/-! ## Callbacks -/

def stHash (st : OpaqueSertype) : UInt32 :=
  st.typeName.foldl (fun h b => h * 31 + b.toUInt32) 0

/-- `!key_data.is_null() && key_size > 0`, with the bytes. -/
def OpaqueSerdata.keyBytes? (sd : OpaqueSerdata) : Option Bytes := sd.keyData.filter fun k => !k.isEmpty

def sdEqkey (a b : OpaqueSerdata) : Bool :=
  match a.keyBytes?, b.keyBytes? with
  | some ka, some kb => ka == kb
  | _, _ =>
    if a.sertype.keyFields.isEmpty then true
    else match a.data, b.data with
      | some da, some db => keysEqual da db a.sertype.keyFields
      | da, db => da.isNone && db.isNone

/-- A key hash of at most 16 bytes, filled up with zeros. -/
def fillKeyhash (bytes : Bytes) : Bytes := bytes ++ List.replicate (16 - bytes.length) 0

def sdGetKeyhash (sd : OpaqueSerdata) (forceMd5 : Bool) : Bytes :=
  match sd.keyBytes? with
  | some keyBytes =>
    if !forceMd5 ∧ keyBytes.length ≤ 16 then fillKeyhash keyBytes else md5Hash keyBytes
  | none =>
    if sd.sertype.keyFields.isEmpty then fillKeyhash []
    else match sd.data with
      | none => fillKeyhash []
      | some data =>
        if data.isEmpty then fillKeyhash []
        else fillKeyhash (u32le (hashKeyBytes data sd.sertype.keyFields))

/-! ## Constructors -/

/-- `memcpy(buf + off, src, ..)` -/
def overwrite (buf : Bytes) (off : Nat) (src : Bytes) : Bytes :=
  buf.take off ++ (src ++ buf.drop (off + src.length))

structure Rdata where
  min : UInt32
  maxp1 : UInt32
  payload : Bytes
  deriving DecidableEq, Repr

def copyFragchainToBuf (size : Nat) : List Rdata → Nat → Bytes → Bytes
  | [], _, buf => buf
  | frag :: nextfrag, off, buf =>
    if frag.maxp1.toNat > off then
      let start := off - frag.min.toNat
      let count := frag.maxp1.toNat - off
      let count := if off + count > size then size - off else count
      let buf := overwrite buf off ((frag.payload.drop start).take count)
      if frag.maxp1.toNat ≥ size then buf
      else copyFragchainToBuf size nextfrag frag.maxp1.toNat buf
    else copyFragchainToBuf size nextfrag off buf

def copyIov (size : Nat) : List Bytes → Nat → Bytes → Bytes
  | [], _, buf => buf
  | io :: iovs, offset, buf =>
    let toCopy := min io.length (size - offset)
    if toCopy > 0 then copyIov size iovs (offset + toCopy) (overwrite buf offset (io.take toCopy))
    else copyIov size iovs offset buf

def unkeyedSerdata (st : OpaqueSertype) (kind : SerdataKind) (data : Bytes) : OpaqueSerdata where
  sertype := st
  kind
  hash := stHash st
  data := some data
  keyData := none

def sdFromSer (st : OpaqueSertype) (kind : SerdataKind) (fragchain : List Rdata) (size : Nat) :
    OpaqueSerdata :=
  unkeyedSerdata st kind (copyFragchainToBuf size fragchain 0 (List.replicate size 0))

def sdFromSerIov (st : OpaqueSertype) (kind : SerdataKind) (iov : List Bytes) (size : Nat) :
    OpaqueSerdata :=
  unkeyedSerdata st kind (copyIov size iov 0 (List.replicate size 0))

def sdFromKeyhash (st : OpaqueSertype) (kh : Vector UInt8 16) : OpaqueSerdata :=
  unkeyedSerdata st .key kh.toList

def sdFromSample (st : OpaqueSertype) (kind : SerdataKind) (sample : SampleWrapper) : OpaqueSerdata :=
  let keyData := sample.keyData.filter fun k => !k.isEmpty
  { sertype := st
    kind
    hash := match keyData with
      | some keyBytes => murmurhash3 keyBytes (stHash st)
      | none => stHash st
    data := some sample.data
    keyData }

end DdsBridge
