import DdsBridge.Bridge

/-!
# The poll loop

`reader_poll_loop` of `src/bridge.rs` and `take_samples` of `src/dds/reader.rs`: under the lock a tick
takes the samples of every reader and notes the senders of its subscribers, then it sends without the
lock. What DDS has for a reader is a list of samples, taken one at a time from the front.
-/

namespace DdsBridge

/-- What one `dds_take` hands over: the fields of the sample info that are read, and the data. -/
structure TakenSample where
  instanceState : UInt32
  validData : Bool
  sourceTimestamp : Int64
  data : Bytes
  deriving DecidableEq, Repr

inductive InstanceState where
  | alive
  | disposed
  | noWriters
  deriving DecidableEq, Repr

/-- `DDS_IST_ALIVE`, `DDS_IST_NOT_ALIVE_DISPOSED`, `DDS_IST_NOT_ALIVE_NO_WRITERS`. -/
def InstanceState.ofInfo : UInt32 → InstanceState
  | 1 => .alive
  | 2 => .disposed
  | 4 => .noWriters
  | _ => .alive

structure ReceivedSample where
  topicName : String
  instanceState : InstanceState
  sourceTimestamp : Int64
  data : Bytes
  deriving DecidableEq, Repr

namespace DdsReader

/-- The sample as it is forwarded; one without data of an instance that is alive is not. -/
def receive (reader : DdsReader) (taken : TakenSample) : Option ReceivedSample :=
  let instanceState := InstanceState.ofInfo taken.instanceState
  if taken.validData = true ∨ instanceState ≠ .alive then
    some { topicName := reader.topic.topicName, instanceState, sourceTimestamp := taken.sourceTimestamp,
           data := taken.data }
  else none

/-- The `for _ in 0..max_samples` loop: the samples to forward, and what is left in DDS. -/
def takeSamples (reader : DdsReader) : Nat → List TakenSample → List ReceivedSample × List TakenSample
  | 0, available => ([], available)
  | _ + 1, [] => ([], [])
  | maxSamples + 1, taken :: available =>
    let (results, left) := takeSamples reader maxSamples available
    match reader.receive taken with
    | some sample => (sample :: results, left)
    | none => (results, left)

end DdsReader

def sampleToMessage (sample : ReceivedSample) : Bytes :=
  match sample.instanceState with
  | .alive => buildMessage .data 0 (serializeData
      { topicName := sample.topicName, sourceTimestamp := sample.sourceTimestamp.toUInt64, data := sample.data })
  | .disposed => buildMessage .dataDisposed 0 (serializeDataDisposed
      { topicName := sample.topicName, sourceTimestamp := sample.sourceTimestamp.toUInt64, keyData := sample.data })
  | .noWriters => buildMessage .dataNoWriters 0 (serializeDataNoWriters
      { topicName := sample.topicName, keyData := sample.data })

/-! ## A tick -/

/-- What a tick has of one reader when it releases the lock: the samples, and the senders of the subscribers.
The topic is that of the reader. -/
structure Taken where
  topic : Topic
  samples : List ReceivedSample
  subscribers : List (UInt64 × Nat)

def ReaderRegistry.getSubscribers (reg : ReaderRegistry) (readerId : UInt64) : Option (List UInt64) :=
  (reg.readers.lookup readerId).map fun reader => reader.subscribers.keys

namespace BridgeInner

/-- The subscribers of the reader that have a sender. -/
def subscriberSenders (inner : BridgeInner) (readerId : UInt64) : List (UInt64 × Nat) :=
  ((inner.readers.getSubscribers readerId).getD []).filterMap fun sid =>
    (inner.sessionSenders.lookup sid).map fun tx => (sid, tx)

def collectReader (inner : BridgeInner) (available : UInt64 → List TakenSample) (readerId : UInt64) : Option Taken :=
  match inner.readers.readers.lookup readerId with
  | none => none
  | some reader =>
    let samples := (reader.takeSamples 256 (available readerId)).1
    if samples.isEmpty then none
    else some { topic := reader.topic, samples, subscribers := inner.subscriberSenders readerId }

/-- The part of a tick under the lock; `available` is what DDS has for each reader. -/
def collect (inner : BridgeInner) (available : UInt64 → List TakenSample) : List Taken :=
  (inner.readers.allReaders.map (·.readerId)).filterMap (inner.collectReader available)

end BridgeInner

theorem mem_takeSamples {reader : DdsReader} {sample : ReceivedSample} (maxSamples : Nat) :
    ∀ available, sample ∈ (reader.takeSamples maxSamples available).1 →
      ∃ taken ∈ available, reader.receive taken = some sample := by
  induction maxSamples with
  | zero => intro available h; cases h
  | succ n ih =>
    intro available h
    cases available with
    | nil => cases h
    | cons taken available =>
      unfold DdsReader.takeSamples at h
      cases hr : reader.receive taken with
      | none =>
        rw [hr] at h
        obtain ⟨t, ht, hs⟩ := ih available h
        exact ⟨t, List.mem_cons_of_mem _ ht, hs⟩
      | some first =>
        rw [hr] at h
        rcases List.mem_cons.mp h with rfl | h
        · exact ⟨taken, List.mem_cons_self, hr⟩
        · obtain ⟨t, ht, hs⟩ := ih available h
          exact ⟨t, List.mem_cons_of_mem _ ht, hs⟩

theorem DdsReader.topicName_of_receive {reader : DdsReader} {taken : TakenSample} {sample : ReceivedSample}
    (h : reader.receive taken = some sample) : sample.topicName = reader.topic.topicName := by
  unfold DdsReader.receive at h
  simp only at h
  split at h
  · cases h
    rfl
  · cases h

end DdsBridge
