import DdsBridge.Qos

/-!
# DDS QoS objects

`src/dds/qos_handle.rs`: a QoS set becomes one setter call for each of its policies, or the null
pointer. A setting is what one setter call leaves in the object; its slot is the policy it is for.
-/

namespace DdsBridge

/-- `CString::new(s)`: none if `s` has a NUL. -/
def cString (s : String) : Option Bytes :=
  if (0 : UInt8) ∈ utf8 s then none else some (utf8 s)

inductive ReliabilityKind where
  | bestEffort
  | reliable
  deriving DecidableEq, Repr

inductive DurabilityKind where
  | volatile
  | transientLocal
  | transient
  | persistent
  deriving DecidableEq, Repr

inductive HistoryKind where
  | keepLast
  | keepAll
  deriving DecidableEq, Repr

inductive LivelinessKind where
  | automatic
  | manualByParticipant
  | manualByTopic
  deriving DecidableEq, Repr

inductive DestinationOrderKind where
  | byReceptionTimestamp
  | bySourceTimestamp
  deriving DecidableEq, Repr

inductive AccessScopeKind where
  | instanceScope
  | topic
  | group
  deriving DecidableEq, Repr

inductive OwnershipKind where
  | shared
  | exclusive
  deriving DecidableEq, Repr

/-- Durations are in nanoseconds. -/
inductive DdsSetting where
  | reliability (kind : ReliabilityKind) (maxBlockingTime : Int64)
  | durability (kind : DurabilityKind)
  | history (kind : HistoryKind) (depth : Int32)
  | deadline (period : Int64)
  | latencyBudget (duration : Int64)
  | ownershipStrength (value : Int32)
  | liveliness (kind : LivelinessKind) (leaseDuration : Int64)
  | destinationOrder (kind : DestinationOrderKind)
  | presentation (scope : AccessScopeKind) (coherentAccess orderedAccess : Bool)
  | partition (partitions : List Bytes)
  | ownership (kind : OwnershipKind)
  | writerDataLifecycle (autodispose : Bool)
  | timeBasedFilter (minimumSeparation : Int64)
  deriving DecidableEq, Repr

/-- `DDS_INFINITY`, which is `i64::MAX`. -/
def infinity : Int64 := 9223372036854775807

def nanos (ms : UInt32) : Int64 := ms.toUInt64.toInt64 * 1000000

def nanosOrInfinity (ms : UInt32) : Int64 := if ms = 0 then infinity else nanos ms

def QosPolicy.setting : QosPolicy → DdsSetting
  | reliability kind maxBlockingTimeMs =>
    .reliability (match kind with | 0 => .bestEffort | _ => .reliable) (nanos maxBlockingTimeMs)
  | durability kind =>
    .durability (match kind with | 0 => .volatile | 1 => .transientLocal | 2 => .transient | _ => .persistent)
  | history kind depth =>
    .history (match kind with | 0 => .keepLast | _ => .keepAll) depth.toInt32
  | deadline periodMs => .deadline (nanosOrInfinity periodMs)
  | latencyBudget durationMs => .latencyBudget (nanos durationMs)
  | ownershipStrength value => .ownershipStrength value.toInt32
  | liveliness kind leaseDurationMs =>
    .liveliness (match kind with | 0 => .automatic | 1 => .manualByParticipant | _ => .manualByTopic)
      (nanosOrInfinity leaseDurationMs)
  | destinationOrder kind =>
    .destinationOrder (match kind with | 0 => .byReceptionTimestamp | _ => .bySourceTimestamp)
  | presentation accessScope coherentAccess orderedAccess =>
    .presentation (match accessScope with | 0 => .instanceScope | 1 => .topic | _ => .group)
      (coherentAccess != 0) (orderedAccess != 0)
  | partition partitions => .partition (partitions.map fun s => (cString s).getD [])
  | ownership kind => .ownership (match kind with | 0 => .shared | _ => .exclusive)
  | writerDataLifecycle autodispose => .writerDataLifecycle (autodispose != 0)
  | timeBasedFilter minimumSeparationMs => .timeBasedFilter (nanos minimumSeparationMs)

def DdsSetting.slot : DdsSetting → UInt8
  | reliability .. => 0x01
  | durability .. => 0x02
  | history .. => 0x03
  | deadline .. => 0x04
  | latencyBudget .. => 0x05
  | ownershipStrength .. => 0x06
  | liveliness .. => 0x07
  | destinationOrder .. => 0x08
  | presentation .. => 0x09
  | partition .. => 0x0A
  | ownership .. => 0x0B
  | writerDataLifecycle .. => 0x0C
  | timeBasedFilter .. => 0x0D

/-- The setter calls made on a `dds_qos_t`, in order. -/
structure DdsQos where
  settings : List DdsSetting
  deriving DecidableEq, Repr

/-- A later call for the same slot overwrites an earlier one. -/
def DdsQos.get (qos : DdsQos) (slot : UInt8) : Option DdsSetting :=
  qos.settings.reverse.find? fun setting => setting.slot == slot

/-- `created` tells whether `dds_create_qos` returned an object. -/
def fromQosSet (created : Bool) (qos : QosSet) : Option DdsQos :=
  if qos.policies.isEmpty then none
  else if created then some { settings := qos.policies.map QosPolicy.setting }
  else none

/-- The pointer for the DDS call; none is null. -/
def makeQos (created : Bool) (qos : QosSet) : Option DdsQos := fromQosSet created qos

@[simp] theorem QosPolicy.slot_setting (p : QosPolicy) : p.setting.slot = p.policyId := by
  cases p <;> rfl

end DdsBridge
