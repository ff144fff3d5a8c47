import DdsBridge.Lib.Heap
import DdsBridge.SerdataKeys

/-!
# Serdata in memory

The callbacks of `src/dds/sertype.rs` as they work on boxes, pointers and reference counts, and what Cyclone DDS does
with them: it builds serdata, counts its references, has them serialized and turned into samples, and gives all of it
back. `Sertype` has the same callbacks on values; a payload there is what lies behind a pointer here.
-/

namespace DdsBridge

/-- A range of the serialized form; one that goes past the end is all zeros. -/
def OpaqueSerdata.serialized (sd : OpaqueSerdata) (off sz : UInt64) : Bytes :=
  if off.toNat + sz.toNat ≤ sd.payload.length then (sd.payload.drop off.toNat).take sz.toNat
  else List.replicate sz.toNat 0

namespace Memory

/-- The fields of an `OpaqueSerdata` in its box. -/
structure SerdataBox where
  sertype : OpaqueSertype
  kind : SerdataKind
  hash : UInt32
  refc : UInt32
  data : Ptr
  size : Nat
  capacity : Nat
  keyData : Ptr
  keySize : Nat
  keyCapacity : Nat

/-- A `SampleWrapper` for the samples that are read: on the stack of `take_samples`, or in a box of Cyclone DDS. -/
structure Wrapper where
  data : Ptr
  len : Nat
  boxed : Bool

structure Iovec where
  iovBase : Ptr
  iovLen : Nat

structure SdMemory where
  heap : Heap UInt8
  boxes : Table Nat SerdataBox
  wrappers : Table Nat Wrapper
  iovecs : Table Nat Iovec

abbrev Mem := Prog SdMemory Empty

open Prog

def deref (sd : Nat) : Mem SerdataBox := get >>= fun mem => defined (mem.boxes.lookup sd)

def slice (p : Ptr) (len : Nat) : Mem Bytes := get >>= fun mem => defined (mem.heap.slice p len)

def vecIntoRaw (b : Nat) (buf : Buffer UInt8) : Mem Ptr := do
  let mem ← get
  let (p, heap) := mem.heap.forget b buf
  modify fun mem => { mem with heap }
  pure p

def dropVec (p : Ptr) (len capacity : Nat) : Mem Unit := do
  let mem ← get
  let heap ← defined (mem.heap.reclaim p len capacity)
  modify fun mem => { mem with heap }

/-- `if !p.is_null() && capacity > 0 { let _ = Vec::from_raw_parts(p, len, capacity); }` -/
def freeVec (p : Ptr) (len capacity : Nat) : Mem Unit :=
  if p ≠ .null ∧ capacity > 0 then dropVec p len capacity else pure ()

/-! ## References -/

def sdFree (sd : Nat) : Mem Unit := do
  let osd ← deref sd
  freeVec osd.data osd.size osd.capacity
  freeVec osd.keyData osd.keySize osd.keyCapacity
  modify fun mem => { mem with boxes := mem.boxes.erase sd }

def serdataRef (sd : Nat) : Mem Unit := do
  let osd ← deref sd
  modify fun mem => { mem with boxes := mem.boxes.insert sd { osd with refc := osd.refc + 1 } }

def serdataUnref (sd : Nat) : Mem Unit := do
  let osd ← deref sd
  modify fun mem => { mem with boxes := mem.boxes.insert sd { osd with refc := osd.refc - 1 } }
  if osd.refc = 1 then sdFree sd else pure ()

/-! ## Constructors -/

/-- Where the allocator puts a serdata, and how much more than asked for it gives. -/
structure Room where
  box : Nat
  data : Nat
  key : Nat
  spare : Nat
  keySpare : Nat
  deriving DecidableEq

/-- `to_vec`: at least as much capacity as bytes, and none for no bytes. -/
def toVec (bytes : Bytes) (spare : Nat) : Buffer UInt8 where
  items := bytes
  capacity := if bytes.isEmpty then 0 else bytes.length + spare

/-- The vectors of a serdata and its box; `ddsi_serdata_init` sets the reference count to one. -/
def newSerdata (room : Room) (spare : Nat) (value : OpaqueSerdata) : Mem Unit := do
  let buf := toVec value.payload spare
  let data ← vecIntoRaw room.data buf
  let keyBuf := toVec (value.keyData.getD []) room.keySpare
  let keyData ← if value.keyData.isSome then vecIntoRaw room.key keyBuf else pure .null
  let osd : SerdataBox :=
    { sertype := value.sertype, kind := value.kind, hash := value.hash, refc := 1, data, size := buf.items.length,
      capacity := buf.capacity, keyData, keySize := keyBuf.items.length, keyCapacity := keyBuf.capacity }
  modify fun mem => { mem with boxes := mem.boxes.insert room.box osd }

/-- `vec![0u8; size]` has the capacity it is asked for. -/
def sdFromSer (room : Room) (st : OpaqueSertype) (kind : SerdataKind) (fragchain : List Rdata) (size : Nat) : Mem Unit :=
  newSerdata room 0 (DdsBridge.sdFromSer st kind fragchain size)

def sdFromSerIov (room : Room) (st : OpaqueSertype) (kind : SerdataKind) (iov : List Bytes) (size : Nat) : Mem Unit :=
  newSerdata room 0 (DdsBridge.sdFromSerIov st kind iov size)

def sdFromKeyhash (room : Room) (st : OpaqueSertype) (kh : Vector UInt8 16) : Mem Unit :=
  newSerdata room room.spare (DdsBridge.sdFromKeyhash st kh)

def sdFromSample (room : Room) (st : OpaqueSertype) (kind : SerdataKind) (sample : SampleWrapper) : Mem Unit :=
  newSerdata room room.spare (DdsBridge.sdFromSample st kind sample)

/-! ## Keys -/

def SerdataBox.hasKey (osd : SerdataBox) : Bool := osd.keyData ≠ .null ∧ osd.keySize > 0

def sdEqkey (a b : Nat) : Mem Bool := do
  let oa ← deref a
  let ob ← deref b
  if oa.hasKey ∧ ob.hasKey then
    let ka ← slice oa.keyData oa.keySize
    let kb ← slice ob.keyData ob.keySize
    pure (ka == kb)
  else if oa.sertype.keyFields.isEmpty then pure true
  else if oa.data = .null ∨ ob.data = .null then pure (decide (oa.data = .null) && decide (ob.data = .null))
  else
    let da ← slice oa.data oa.size
    let db ← slice ob.data ob.size
    pure (keysEqual da db oa.sertype.keyFields)

def sdGetKeyhash (sd : Nat) (forceMd5 : Bool) : Mem Bytes := do
  let osd ← deref sd
  if osd.hasKey then
    let keyBytes ← slice osd.keyData osd.keySize
    pure (if !forceMd5 ∧ keyBytes.length ≤ 16 then fillKeyhash keyBytes else md5Hash keyBytes)
  else if osd.sertype.keyFields.isEmpty then pure (fillKeyhash [])
  else if osd.data = .null ∨ osd.size = 0 then pure (fillKeyhash [])
  else
    let data ← slice osd.data osd.size
    pure (fillKeyhash (u32le (hashKeyBytes data osd.sertype.keyFields)))

/-! ## Serialized form -/

def sdSize (sd : Nat) : Mem UInt32 := do
  let osd ← deref sd
  pure (UInt32.ofNat osd.size)

/-- The bytes written to `buf`. -/
def sdToSer (sd : Nat) (off sz : UInt64) : Mem Bytes := do
  let osd ← deref sd
  if osd.data ≠ .null ∧ (off + sz).toNat ≤ osd.size ∧ sz > 0 then slice (osd.data.add off.toNat) sz.toNat
  else pure (List.replicate sz.toNat 0)

/-- `vec![0u8; n]` -/
def zeroVec (n : Nat) : Buffer UInt8 where
  items := List.replicate n 0
  capacity := n

/-- A range of the payload, or zeros at `b` for one that goes past the end; those are never freed. -/
def iovecOf (osd : SerdataBox) (off sz : UInt64) (b : Nat) : Mem Iovec :=
  if osd.data ≠ .null ∧ (off + sz).toNat ≤ osd.size then
    pure { iovBase := osd.data.add off.toNat, iovLen := sz.toNat }
  else if sz > 0 then do
    let p ← vecIntoRaw b (zeroVec sz.toNat)
    pure { iovBase := p, iovLen := sz.toNat }
  else pure { iovBase := .addr 1, iovLen := 0 }

def sdToSerRef (sd : Nat) (off sz : UInt64) (ref b : Nat) : Mem Unit := do
  let osd ← deref sd
  let iov ← iovecOf osd off sz b
  modify fun mem => { mem with iovecs := mem.iovecs.insert ref iov }
  serdataRef sd

def sdToSerUnref (sd _ref : Nat) : Mem Unit := serdataUnref sd

def sdToUntyped (sd : Nat) : Mem Unit := serdataRef sd

/-! ## Samples -/

/-- `vec![0u8; size]` has the capacity it is asked for; the payload is copied into it. -/
def copyPayload (osd : SerdataBox) (b : Nat) : Mem Ptr :=
  if osd.size > 0 ∧ osd.data ≠ .null then do
    let bytes ← slice osd.data osd.size
    vecIntoRaw b ⟨bytes, osd.size⟩
  else pure .null

def sampleAt (sample : Nat) : Mem Wrapper := get >>= fun mem => defined (mem.wrappers.lookup sample)

def SdMemory.setWrapper (mem : SdMemory) (sample : Nat) (wrapper : Wrapper) : SdMemory :=
  { mem with wrappers := mem.wrappers.insert sample wrapper }

@[simp] theorem SdMemory.lookup_setWrapper (mem : SdMemory) (sample : Nat) (wrapper : Wrapper) (s : Nat) :
    (mem.setWrapper sample wrapper).wrappers.lookup s = if s = sample then some wrapper else mem.wrappers.lookup s :=
  Table.lookup_insert_eq _ _ _ _

/-- A wrapper that nothing has filled yet. -/
def emptyWrapper (boxed : Bool) : Wrapper where
  data := .null
  len := 0
  boxed := boxed

def newWrapper (sample : Nat) (boxed : Bool) : Mem Unit := modify fun mem => mem.setWrapper sample (emptyWrapper boxed)

def sdToSample (sd sample b : Nat) : Mem Unit := do
  let osd ← deref sd
  let wrapper ← sampleAt sample
  let data ← copyPayload osd b
  modify fun mem => mem.setWrapper sample { wrapper with data, len := osd.size }

def sdUntypedToSample (sd sample b : Nat) : Mem Unit := sdToSample sd sample b

/-- Frees the vector of a sample that has one, which is left with no data and the length `len`. -/
def dropSample (sample : Nat) (wrapper : Wrapper) (len : Nat) : Mem Unit :=
  if wrapper.data ≠ .null ∧ wrapper.len > 0 then do
    dropVec wrapper.data wrapper.len wrapper.len
    modify fun mem => mem.setWrapper sample { wrapper with data := .null, len }
  else pure ()

def freeSampleData (sample : Nat) : Mem Unit := do
  let wrapper ← sampleAt sample
  dropSample sample wrapper 0

/-- Which of `DDS_FREE_CONTENTS_BIT` and `DDS_FREE_ALL_BIT` is set. -/
structure FreeOp where
  contents : Bool
  all : Bool
  deriving DecidableEq

def freeContents : List Nat → Mem Unit
  | [] => pure ()
  | ptr :: ptrs => do
    let sample ← sampleAt ptr
    dropSample ptr sample sample.len
    freeContents ptrs

/-- `Box::from_raw`, dropped at once; undefined of what is not in a box. -/
def dropBox (sample : Nat) : Mem Unit := do
  let wrapper ← sampleAt sample
  if wrapper.boxed then modify fun mem => { mem with wrappers := mem.wrappers.erase sample }
  else abort

def freeBoxes : List Nat → Mem Unit
  | [] => pure ()
  | ptr :: ptrs => do
    dropBox ptr
    freeBoxes ptrs

def stFreeSamples (ptrs : List Nat) (op : FreeOp) : Mem Unit := do
  if op.contents then freeContents ptrs
  if op.all then freeBoxes ptrs

/-- The copy that `take_samples` makes of a sample. -/
def sampleData (sample : Nat) : Mem Bytes := do
  let wrapper ← sampleAt sample
  if wrapper.data ≠ .null ∧ wrapper.len > 0 then slice wrapper.data wrapper.len else pure []

/-! ## What Cyclone DDS does with them -/

/-- The zero buffers that `sd_to_ser_ref` has handed out for ranges past an end, with their lengths. -/
abbrev Leaked := Table Nat Nat

def Leaked.buffers (leaked : Leaked) : Multiset Nat := leaked.keys

/-- What Cyclone DDS has: serdata with what they stand for, references to them, ranges of their serialized form and
samples made of them; and what it was given and cannot give back. -/
structure Holding where
  values : Table Nat OpaqueSerdata
  refs : Multiset Nat
  iovs : Table Nat (Nat × Bytes)
  samples : Table Nat Bytes
  leaked : Leaked

inductive Action where
  | build (room : Room) (st : OpaqueSertype) (origin : SerdataOrigin)
  | ref (sd : Nat)
  | unref (sd : Nat)
  | toUntyped (sd : Nat)
  | eqkey (a b : Nat)
  | getKeyhash (sd : Nat) (forceMd5 : Bool)
  | size (sd : Nat)
  | toSer (sd : Nat) (off sz : UInt64)
  | toSerRef (sd : Nat) (off sz : UInt64) (ref b : Nat)
  | readIov (ref : Nat)
  | toSerUnref (sd ref : Nat)
  | newSample (sample : Nat) (boxed : Bool)
  | toSample (sd sample b : Nat)
  | untypedToSample (sd sample b : Nat)
  | readSample (sample : Nat)
  | freeSample (sample : Nat)
  | freeSamples (ptrs : List Nat) (op : FreeOp)

inductive Answer where
  | done
  | yesNo (b : Bool)
  | size (n : UInt32)
  | bytes (bytes : Bytes)
  deriving DecidableEq

def buildIn (room : Room) (st : OpaqueSertype) : SerdataOrigin → Mem Unit
  | .sample kind wrapper => sdFromSample room st kind wrapper
  | .ser kind fragchain size => sdFromSer room st kind fragchain size
  | .serIov kind iov size => sdFromSerIov room st kind iov size
  | .keyhash kh => sdFromKeyhash room st kh

def readIov (ref : Nat) : Mem Bytes := do
  let mem ← get
  let iov ← defined (mem.iovecs.lookup ref)
  slice iov.iovBase iov.iovLen

def done (m : Mem Unit) : Mem Answer := m >>= fun _ => pure .done

def Action.run : Action → Mem Answer
  | build room st origin => done (buildIn room st origin)
  | ref sd => done (serdataRef sd)
  | unref sd => done (serdataUnref sd)
  | toUntyped sd => done (sdToUntyped sd)
  | eqkey a b => .yesNo <$> sdEqkey a b
  | getKeyhash sd forceMd5 => .bytes <$> sdGetKeyhash sd forceMd5
  | size sd => .size <$> sdSize sd
  | toSer sd off sz => .bytes <$> sdToSer sd off sz
  | toSerRef sd off sz iov b => done (sdToSerRef sd off sz iov b)
  | readIov iov => .bytes <$> Memory.readIov iov
  | toSerUnref sd iov => done do
    sdToSerUnref sd iov
    modify fun mem => { mem with iovecs := mem.iovecs.erase iov }
  | newSample sample boxed => done (newWrapper sample boxed)
  | toSample sd sample b => done (sdToSample sd sample b)
  | untypedToSample sd sample b => done (sdUntypedToSample sd sample b)
  | readSample sample => .bytes <$> sampleData sample
  | freeSample sample => done (freeSampleData sample)
  | freeSamples ptrs op => done (stFreeSamples ptrs op)

namespace Holding

/-- How often a serdata is referred to, by itself or by a range of it. -/
def refCount (held : Holding) (sd : Nat) : Nat :=
  held.refs.count sd + ((Table.values held.iovs).map (·.1)).count sd

def payload (held : Holding) (sd : Nat) : Bytes := ((held.values.lookup sd).map (·.payload)).getD []

def serialized (held : Holding) (sd : Nat) (off sz : UInt64) : Bytes :=
  ((held.values.lookup sd).map (·.serialized off sz)).getD []

/-- A range past the end has zeros of its own. -/
def leakedWith (held : Holding) (sd : Nat) (off sz : UInt64) (b : Nat) : Leaked :=
  if off.toNat + sz.toNat ≤ (held.payload sd).length ∨ sz = 0 then held.leaked
  else held.leaked.insert b sz.toNat

/-- A serdata to which no reference is left is gone. -/
def settle (held : Holding) (sd : Nat) : Holding :=
  if held.refCount sd = 0 then { held with values := held.values.erase sd } else held

def next (held : Holding) : Action → Holding
  | .build room st origin =>
    { held with values := held.values.insert room.box (origin.build st), refs := room.box ::ₘ held.refs }
  | .ref sd | .toUntyped sd => { held with refs := sd ::ₘ held.refs }
  | .unref sd => settle { held with refs := held.refs.erase sd } sd
  | .toSerRef sd off sz ref b =>
    { held with
      iovs := held.iovs.insert ref (sd, held.serialized sd off sz)
      leaked := held.leakedWith sd off sz b }
  | .toSerUnref sd ref => settle { held with iovs := held.iovs.erase ref } sd
  | .toSample sd sample _ | .untypedToSample sd sample _ =>
    { held with samples := held.samples.insert sample (held.payload sd) }
  | .freeSample sample => { held with samples := held.samples.erase sample }
  | .freeSamples ptrs op => if op.contents then { held with samples := Table.eraseAll held.samples ptrs } else held
  | .eqkey _ _ | .getKeyhash _ _ | .size _ | .toSer _ _ _ | .readIov _ | .newSample _ _ | .readSample _ => held

/-- What the callbacks on values give. -/
def answer (held : Holding) : Action → Answer
  | .eqkey a b => .yesNo (match held.values.lookup a, held.values.lookup b with
    | some va, some vb => DdsBridge.sdEqkey va vb
    | _, _ => false)
  | .getKeyhash sd forceMd5 => .bytes (match held.values.lookup sd with
    | some v => DdsBridge.sdGetKeyhash v forceMd5
    | none => [])
  | .size sd => .size (UInt32.ofNat (held.payload sd).length)
  | .toSer sd off sz => .bytes (held.serialized sd off sz)
  | .readIov ref => .bytes (((held.iovs.lookup ref).map (·.2)).getD [])
  | .readSample sample => .bytes ((held.samples.lookup sample).getD [])
  | _ => .done

end Holding

/-- There is a wrapper at `sample`, in a box. -/
def SdMemory.Boxed (mem : SdMemory) (sample : Nat) : Prop := (mem.wrappers.lookup sample).map (·.boxed) = some true

instance (mem : SdMemory) (sample : Nat) : Decidable (mem.Boxed sample) :=
  inferInstanceAs (Decidable ((mem.wrappers.lookup sample).map (·.boxed) = some true))

/-- What Cyclone DDS keeps to: it names a serdata only while it has a reference to it, asks for no range that wraps
around, fills no sample twice, stays below 2³² references, and frees wrappers only that are in boxes, with their
contents and each once. The allocator gives out what is not in use. -/
def Action.Allowed (mem : SdMemory) (held : Holding) : Action → Prop
  | build room _ _ =>
    room.box ∉ mem.boxes ∧ room.data ∉ mem.heap ∧ room.key ∉ mem.heap ∧ room.data ≠ room.key
  | ref sd | toUntyped sd => 0 < held.refCount sd ∧ held.refCount sd + 1 < 2 ^ 32
  | unref sd => sd ∈ held.refs
  | eqkey a b => 0 < held.refCount a ∧ 0 < held.refCount b
  | getKeyhash sd _ | size sd => 0 < held.refCount sd
  | toSer sd off sz => 0 < held.refCount sd ∧ off.toNat + sz.toNat < 2 ^ 64
  | toSerRef sd off sz iov b =>
    0 < held.refCount sd ∧ held.refCount sd + 1 < 2 ^ 32 ∧ off.toNat + sz.toNat < 2 ^ 64 ∧ iov ∉ held.iovs ∧
      b ∉ mem.heap
  | readIov iov => iov ∈ held.iovs
  | toSerUnref sd iov => (held.iovs.lookup iov).map (·.1) = some sd
  | newSample sample _ => sample ∉ mem.wrappers
  | toSample sd sample b | untypedToSample sd sample b =>
    0 < held.refCount sd ∧ sample ∈ mem.wrappers ∧ sample ∉ held.samples ∧ b ∉ mem.heap
  | readSample sample | freeSample sample => sample ∈ mem.wrappers
  | freeSamples ptrs op =>
    (∀ ptr ∈ ptrs, ptr ∈ mem.wrappers) ∧
      (op.all = true → op.contents = true ∧ ptrs.Nodup ∧ ∀ ptr ∈ ptrs, mem.Boxed ptr)

instance (mem : SdMemory) (held : Holding) : ∀ action : Action, Decidable (action.Allowed mem held)
  | .build room _ _ =>
    inferInstanceAs (Decidable
      (room.box ∉ mem.boxes ∧ room.data ∉ mem.heap ∧ room.key ∉ mem.heap ∧ room.data ≠ room.key))
  | .ref sd => inferInstanceAs (Decidable (0 < held.refCount sd ∧ held.refCount sd + 1 < 2 ^ 32))
  | .unref sd => inferInstanceAs (Decidable (sd ∈ held.refs))
  | .toUntyped sd => inferInstanceAs (Decidable (0 < held.refCount sd ∧ held.refCount sd + 1 < 2 ^ 32))
  | .eqkey a b => inferInstanceAs (Decidable (0 < held.refCount a ∧ 0 < held.refCount b))
  | .getKeyhash sd _ => inferInstanceAs (Decidable (0 < held.refCount sd))
  | .size sd => inferInstanceAs (Decidable (0 < held.refCount sd))
  | .toSer sd off sz => inferInstanceAs (Decidable (0 < held.refCount sd ∧ off.toNat + sz.toNat < 2 ^ 64))
  | .toSerRef sd off sz iov b =>
    inferInstanceAs (Decidable (0 < held.refCount sd ∧ held.refCount sd + 1 < 2 ^ 32 ∧
      off.toNat + sz.toNat < 2 ^ 64 ∧ iov ∉ held.iovs ∧ b ∉ mem.heap))
  | .readIov iov => inferInstanceAs (Decidable (iov ∈ held.iovs))
  | .toSerUnref sd iov => inferInstanceAs (Decidable ((held.iovs.lookup iov).map (·.1) = some sd))
  | .newSample sample _ => inferInstanceAs (Decidable (sample ∉ mem.wrappers))
  | .toSample sd sample b =>
    inferInstanceAs (Decidable
      (0 < held.refCount sd ∧ sample ∈ mem.wrappers ∧ sample ∉ held.samples ∧ b ∉ mem.heap))
  | .untypedToSample sd sample b =>
    inferInstanceAs (Decidable
      (0 < held.refCount sd ∧ sample ∈ mem.wrappers ∧ sample ∉ held.samples ∧ b ∉ mem.heap))
  | .readSample sample => inferInstanceAs (Decidable (sample ∈ mem.wrappers))
  | .freeSample sample => inferInstanceAs (Decidable (sample ∈ mem.wrappers))
  | .freeSamples ptrs op =>
    inferInstanceAs (Decidable ((∀ ptr ∈ ptrs, ptr ∈ mem.wrappers) ∧
      (op.all = true → op.contents = true ∧ ptrs.Nodup ∧ ∀ ptr ∈ ptrs, mem.Boxed ptr)))

def advance (s : SdMemory × Holding) (action : Action) : SdMemory × Holding :=
  (action.run.after s.1, s.2.next action)

def Step (s : SdMemory × Holding) (action : Action) (t : SdMemory × Holding) : Prop :=
  action.Allowed s.1 s.2 ∧ t = advance s action

/-- Nothing built, nothing held. -/
def nothing : SdMemory × Holding := (⟨∅, ∅, ∅, ∅⟩, ⟨∅, 0, ∅, ∅, ∅⟩)

end Memory

end DdsBridge
