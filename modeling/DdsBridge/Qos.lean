import DdsBridge.Wire
import Mathlib.Data.List.Nodup

/-!
# QoS sets

The thirteen policies of `src/qos.rs`, their normal form, and their encoding: a count, then each
policy's id and its fields.
-/

namespace DdsBridge

inductive QosPolicy where
  | reliability (kind : UInt8) (maxBlockingTimeMs : UInt32)
  | durability (kind : UInt8)
  | history (kind : UInt8) (depth : UInt32)
  | deadline (periodMs : UInt32)
  | latencyBudget (durationMs : UInt32)
  | ownershipStrength (value : UInt32)
  | liveliness (kind : UInt8) (leaseDurationMs : UInt32)
  | destinationOrder (kind : UInt8)
  | presentation (accessScope coherentAccess orderedAccess : UInt8)
  | partition (partitions : List String)
  | ownership (kind : UInt8)
  | writerDataLifecycle (autodisposeUnregisteredInstances : UInt8)
  | timeBasedFilter (minimumSeparationMs : UInt32)
  deriving DecidableEq, Repr

namespace QosPolicy

def policyId : QosPolicy → UInt8
  | reliability .. => 0x01
  | durability .. => 0x02
  | history .. => 0x03
  | deadline .. => 0x04
  | latencyBudget .. => 0x05
  | ownershipStrength .. => 0x06
  | liveliness .. => 0x07
  | destinationOrder .. => 0x08
  | presentation .. => 0x09
  | partition .. => 0x0A
  | ownership .. => 0x0B
  | writerDataLifecycle .. => 0x0C
  | timeBasedFilter .. => 0x0D

def isDefault : QosPolicy → Bool
  | reliability kind maxBlockingTimeMs => kind == 1 && maxBlockingTimeMs == 100
  | durability kind => kind == 0
  | history kind depth => kind == 0 && depth == 1
  | deadline periodMs => periodMs == 0
  | latencyBudget durationMs => durationMs == 0
  | ownershipStrength value => value == 0
  | liveliness kind leaseDurationMs => kind == 0 && leaseDurationMs == 0
  | destinationOrder kind => kind == 0
  | presentation accessScope coherentAccess orderedAccess =>
    accessScope == 0 && coherentAccess == 0 && orderedAccess == 0
  | partition partitions => partitions.isEmpty
  | ownership kind => kind == 0
  | writerDataLifecycle autodispose => autodispose == 1
  | timeBasedFilter minimumSeparationMs => minimumSeparationMs == 0

/-- The values `parse_qos` lets through. -/
def WF : QosPolicy → Prop
  | reliability kind _ => kind ≤ 1
  | durability kind => kind ≤ 3
  | history kind _ => kind ≤ 1
  | deadline _ => True
  | latencyBudget _ => True
  | ownershipStrength _ => True
  | liveliness kind _ => kind ≤ 2
  | destinationOrder kind => kind ≤ 1
  | presentation accessScope coherentAccess orderedAccess =>
    accessScope ≤ 2 ∧ coherentAccess ≤ 1 ∧ orderedAccess ≤ 1
  | partition partitions => partitions.length ≤ 255 ∧ ∀ p ∈ partitions, StringFits p
  | ownership kind => kind ≤ 1
  | writerDataLifecycle autodispose => autodispose ≤ 1
  | timeBasedFilter _ => True

end QosPolicy

structure QosSet where
  policies : List QosPolicy
  deriving DecidableEq, Repr

namespace QosSet

def normalize (qos : QosSet) : QosSet where
  policies := qos.policies.filter fun p => !p.isDefault

/-- The same policies that are not defaults, in any order. -/
def normalizedEq (qos other : QosSet) : Bool :=
  let a := qos.normalize
  let b := other.normalize
  if a.policies.length != b.policies.length then false
  else a.policies.all fun pa => b.policies.any fun pb => pa == pb

structure WF (qos : QosSet) : Prop where
  nodup : (qos.policies.map QosPolicy.policyId).Nodup
  policies : ∀ p ∈ qos.policies, p.WF

end QosSet

/-! ## The encoding -/

def validateRange (name : String) (value max : UInt8) : Cursor ProtocolError Unit :=
  Prog.require (value ≤ max) (.invalidQosValue s!"{name}: {value} not in 0..={max}")

def validateBool (name : String) (value : UInt8) : Cursor ProtocolError Unit :=
  Prog.require (value ≤ 1) (.invalidQosValue s!"{name}: expected 0 or 1, got {value}")

def readKind (name : String) (max : UInt8) : Cursor ProtocolError UInt8 := do
  ensureRemaining 1
  let kind ← Cursor.getU8
  validateRange name kind max
  return kind

def readU32 : Cursor ProtocolError UInt32 := do
  ensureRemaining 4
  Cursor.getU32le

def readKindU32 (name : String) (max : UInt8) (policy : UInt8 → UInt32 → QosPolicy) :
    Cursor ProtocolError QosPolicy := do
  ensureRemaining 5
  let kind ← Cursor.getU8
  validateRange name kind max
  let value ← Cursor.getU32le
  return policy kind value

def readPresentation : Cursor ProtocolError QosPolicy := do
  ensureRemaining 3
  let accessScope ← Cursor.getU8
  let coherentAccess ← Cursor.getU8
  let orderedAccess ← Cursor.getU8
  validateRange "presentation access_scope" accessScope 2
  validateBool "presentation coherent_access" coherentAccess
  validateBool "presentation ordered_access" orderedAccess
  return .presentation accessScope coherentAccess orderedAccess

def readPartition : Cursor ProtocolError QosPolicy := do
  ensureRemaining 1
  let partitionCount ← Cursor.getU8
  let partitions ← readString.times partitionCount.toNat
  return .partition partitions

def readAutodispose : Cursor ProtocolError QosPolicy := do
  ensureRemaining 1
  let v ← Cursor.getU8
  validateBool "autodispose_unregistered_instances" v
  return .writerDataLifecycle v

/-- The `match policy_id` of `parse_qos`. -/
def parsePolicy : UInt8 → Cursor ProtocolError QosPolicy
  | 0x01 => readKindU32 "reliability kind" 1 .reliability
  | 0x02 => .durability <$> readKind "durability kind" 3
  | 0x03 => readKindU32 "history kind" 1 .history
  | 0x04 => .deadline <$> readU32
  | 0x05 => .latencyBudget <$> readU32
  | 0x06 => .ownershipStrength <$> readU32
  | 0x07 => readKindU32 "liveliness kind" 2 .liveliness
  | 0x08 => .destinationOrder <$> readKind "destination_order kind" 1
  | 0x09 => readPresentation
  | 0x0A => readPartition
  | 0x0B => .ownership <$> readKind "ownership kind" 1
  | 0x0C => readAutodispose
  | 0x0D => .timeBasedFilter <$> readU32
  | policyId => Prog.throw (.invalidQosPolicyId policyId)

/-- `1u16 << policy_id` -/
def idBit (policyId : UInt8) : UInt16 := 1 <<< policyId.toUInt16

/-- The duplicate check: the ids seen so far with `policyId` added. -/
def markSeen (seenIds : UInt16) (policyId : UInt8) : Cursor ProtocolError UInt16 :=
  if 0x01 ≤ policyId ∧ policyId ≤ 0x0D then do
    Prog.require (seenIds &&& idBit policyId = 0) (.duplicateQosPolicy policyId)
    return seenIds ||| idBit policyId
  else
    return seenIds

/-- The `for _ in 0..policy_count` loop of `parse_qos`. -/
def parsePolicies : Nat → UInt16 → Cursor ProtocolError (List QosPolicy)
  | 0, _ => return []
  | n + 1, seenIds => do
    ensureRemaining 1
    let policyId ← Cursor.getU8
    let seenIds ← markSeen seenIds policyId
    let policy ← parsePolicy policyId
    let policies ← parsePolicies n seenIds
    return policy :: policies

def parseQos : Cursor ProtocolError QosSet := do
  ensureRemaining 1
  let policyCount ← Cursor.getU8
  let policies ← parsePolicies policyCount.toNat 0
  return { policies }

def QosPolicy.valueBytes : QosPolicy → Bytes
  | reliability kind maxBlockingTimeMs => kind :: u32le maxBlockingTimeMs
  | durability kind => [kind]
  | history kind depth => kind :: u32le depth
  | deadline periodMs => u32le periodMs
  | latencyBudget durationMs => u32le durationMs
  | ownershipStrength value => u32le value
  | liveliness kind leaseDurationMs => kind :: u32le leaseDurationMs
  | destinationOrder kind => [kind]
  | presentation accessScope coherentAccess orderedAccess =>
    [accessScope, coherentAccess, orderedAccess]
  | partition partitions => UInt8.ofNat partitions.length :: partitions.flatMap writeString
  | ownership kind => [kind]
  | writerDataLifecycle autodispose => [autodispose]
  | timeBasedFilter minimumSeparationMs => u32le minimumSeparationMs

def serializePolicy (policy : QosPolicy) : Bytes := policy.policyId :: policy.valueBytes

def serializeQos (qos : QosSet) : Bytes :=
  UInt8.ofNat qos.policies.length :: qos.policies.flatMap serializePolicy

end DdsBridge
