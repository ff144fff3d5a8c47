import DdsBridge.QosSharing
import Mathlib.Algebra.Group.Int.Defs

/-!
# The values DDS is given

Each policy of a QoS set as the setter call of Cyclone DDS that says the same: the kinds by the numbers of
`docs/protocol.md`, durations in nanoseconds, integers and names as they are. Depth and strength go through an
`i32` and a name through a C string, and not every value survives that.
-/

namespace DdsBridge

/-! ## What a policy means -/

def ReliabilityKind.wire : ReliabilityKind → UInt8
  | bestEffort => 0
  | reliable => 1

def DurabilityKind.wire : DurabilityKind → UInt8
  | .volatile => 0
  | transientLocal => 1
  | transient => 2
  | persistent => 3

def HistoryKind.wire : HistoryKind → UInt8
  | keepLast => 0
  | keepAll => 1

def LivelinessKind.wire : LivelinessKind → UInt8
  | automatic => 0
  | manualByParticipant => 1
  | manualByTopic => 2

def DestinationOrderKind.wire : DestinationOrderKind → UInt8
  | byReceptionTimestamp => 0
  | bySourceTimestamp => 1

def AccessScopeKind.wire : AccessScopeKind → UInt8
  | instanceScope => 0
  | topic => 1
  | group => 2

def OwnershipKind.wire : OwnershipKind → UInt8
  | shared => 0
  | exclusive => 1

def IsNanos (ms : UInt32) (t : Int64) : Prop := t.toInt = ms.toNat * 10 ^ 6

def IsNanosOrInfinite (ms : UInt32) (t : Int64) : Prop := (t = infinity ↔ ms = 0) ∧ (ms ≠ 0 → IsNanos ms t)

/-- The call is the one for this policy, with the values the client sent. -/
def Handed : QosPolicy → DdsSetting → Prop
  | .reliability kind maxBlockingTimeMs, .reliability k t => k.wire = kind ∧ IsNanos maxBlockingTimeMs t
  | .durability kind, .durability k => k.wire = kind
  | .history kind depth, .history k d => k.wire = kind ∧ d.toInt = depth.toNat
  | .deadline periodMs, .deadline t => IsNanosOrInfinite periodMs t
  | .latencyBudget durationMs, .latencyBudget t => IsNanos durationMs t
  | .ownershipStrength value, .ownershipStrength v => v.toInt = value.toNat
  | .liveliness kind leaseDurationMs, .liveliness k t => k.wire = kind ∧ IsNanosOrInfinite leaseDurationMs t
  | .destinationOrder kind, .destinationOrder k => k.wire = kind
  | .presentation accessScope coherentAccess orderedAccess, .presentation k c o =>
    k.wire = accessScope ∧ c.toUInt8 = coherentAccess ∧ o.toUInt8 = orderedAccess
  | .partition partitions, .partition names => names = partitions.map utf8
  | .ownership kind, .ownership k => k.wire = kind
  | .writerDataLifecycle autodispose, .writerDataLifecycle a => a.toUInt8 = autodispose
  | .timeBasedFilter minimumSeparationMs, .timeBasedFilter t => IsNanos minimumSeparationMs t
  | _, _ => False

/-- With an object from `dds_create_qos`, every policy of the set is handed over by its call; the empty set is
the null pointer. -/
def HandedOver (qos : QosSet) : Prop :=
  match fromQosSet true qos with
  | none => qos.policies = []
  | some ddsQos => List.Forall₂ Handed qos.policies ddsQos.settings

/-- The value fits an `i32`, or a C string. -/
def QosPolicy.Fits : QosPolicy → Prop
  | .history _ depth => depth.toNat < 2 ^ 31
  | .ownershipStrength value => value.toNat < 2 ^ 31
  | .partition partitions => ∀ s ∈ partitions, (0 : UInt8) ∉ utf8 s
  | _ => True

/-! ## The translations -/

theorem isNanos_nanos (ms : UInt32) : IsNanos ms (nanos ms) := by
  have hms := ms.toNat_lt
  have hwide : ms.toUInt64.toInt64.toInt = ms.toNat := by
    change ms.toUInt64.toBitVec.toInt = _
    rw [BitVec.toInt_eq_toNat_of_lt]
    · simp
    · simp only [UInt64.toNat_toBitVec, UInt32.toNat_toUInt64]
      omega
  rw [IsNanos, nanos, Int64.toInt_mul, hwide]
  change ((ms.toNat : Int) * 1000000).bmod (2 ^ 64) = _
  rw [Int.bmod_eq_of_le]
  all_goals omega

theorem nanos_ne_infinity (ms : UInt32) : nanos ms ≠ infinity := by
  intro h
  have hms := ms.toNat_lt
  have hnanos := isNanos_nanos ms
  rw [IsNanos, h] at hnanos
  change (9223372036854775807 : Int) = _ at hnanos
  omega

theorem isNanosOrInfinite (ms : UInt32) : IsNanosOrInfinite ms (nanosOrInfinity ms) := by
  unfold nanosOrInfinity
  by_cases h : ms = 0
  · rw [if_pos h]
    exact ⟨iff_of_true rfl h, fun hne => absurd h hne⟩
  · rw [if_neg h]
    exact ⟨iff_of_false (nanos_ne_infinity ms) h, fun _ => isNanos_nanos ms⟩

theorem toInt32_eq_iff (n : UInt32) : n.toInt32.toInt = n.toNat ↔ n.toNat < 2 ^ 31 := by
  have hn := n.toNat_lt
  change n.toBitVec.toInt = n.toBitVec.toNat ↔ n.toBitVec.toNat < 2 ^ 31
  rw [BitVec.toInt_eq_toNat_cond]
  split
  · omega
  · omega

theorem cString_eq_iff (s : String) : (cString s).getD [] = utf8 s ↔ (0 : UInt8) ∉ utf8 s := by
  unfold cString
  split
  · rename_i h
    refine iff_of_false (fun hnil => ?_) (fun hnot => hnot h)
    rw [← hnil] at h
    cases h
  · rename_i h
    exact iff_of_true rfl h

theorem cStrings_eq_iff (partitions : List String) :
    (partitions.map fun s => (cString s).getD []) = partitions.map utf8 ↔ ∀ s ∈ partitions, (0 : UInt8) ∉ utf8 s := by
  simp only [List.map_inj_left, cString_eq_iff]

theorem kind_le_three {kind : UInt8} (h : kind ≤ 3) : kind = 0 ∨ kind = 1 ∨ kind = 2 ∨ kind = 3 := by
  rw [UInt8.le_iff_toNat_le] at h
  change kind.toNat ≤ 3 at h
  obtain h | h | h | h : kind.toNat = 0 ∨ kind.toNat = 1 ∨ kind.toNat = 2 ∨ kind.toNat = 3 := by omega
  · exact .inl (UInt8.toNat_inj.mp h)
  · exact .inr (.inl (UInt8.toNat_inj.mp h))
  · exact .inr (.inr (.inl (UInt8.toNat_inj.mp h)))
  · exact .inr (.inr (.inr (UInt8.toNat_inj.mp h)))

theorem kind_le_two {kind : UInt8} (h : kind ≤ 2) : kind = 0 ∨ kind = 1 ∨ kind = 2 := by
  obtain rfl | rfl | rfl | rfl := kind_le_three (UInt8.le_trans h (by decide))
  · exact .inl rfl
  · exact .inr (.inl rfl)
  · exact .inr (.inr rfl)
  · exact absurd h (by decide)

theorem kind_le_one {kind : UInt8} (h : kind ≤ 1) : kind = 0 ∨ kind = 1 := by
  obtain rfl | rfl | rfl := kind_le_two (UInt8.le_trans h (by decide))
  · exact .inl rfl
  · exact .inr rfl
  · exact absurd h (by decide)

theorem bool_of_le {b : UInt8} (h : b ≤ 1) : (b != 0).toUInt8 = b := by
  obtain rfl | rfl := kind_le_one h
  · rfl
  · rfl

/-- The kinds are told apart, and what an `i32` or a C string cannot hold is not. -/
theorem handed_setting_iff {p : QosPolicy} (h : p.WF) : Handed p p.setting ↔ p.Fits := by
  have hfixed : ∀ {P : Prop}, P → (P ↔ True) := fun hP => iff_of_true hP trivial
  cases p with
  | reliability kind ms =>
    refine hfixed ⟨?_, isNanos_nanos ms⟩
    obtain rfl | rfl := kind_le_one h
    · rfl
    · rfl
  | durability kind =>
    refine hfixed ?_
    obtain rfl | rfl | rfl | rfl := kind_le_three h
    all_goals rfl
  | history kind depth =>
    refine (and_iff_right ?_).trans (toInt32_eq_iff depth)
    obtain rfl | rfl := kind_le_one h
    · rfl
    · rfl
  | deadline ms => exact hfixed (isNanosOrInfinite ms)
  | latencyBudget ms => exact hfixed (isNanos_nanos ms)
  | ownershipStrength value => exact toInt32_eq_iff value
  | liveliness kind ms =>
    refine hfixed ⟨?_, isNanosOrInfinite ms⟩
    obtain rfl | rfl | rfl := kind_le_two h
    all_goals rfl
  | destinationOrder kind =>
    refine hfixed ?_
    obtain rfl | rfl := kind_le_one h
    · rfl
    · rfl
  | presentation accessScope coherentAccess orderedAccess =>
    obtain ⟨hscope, hcoherent, hordered⟩ := h
    refine hfixed ⟨?_, bool_of_le hcoherent, bool_of_le hordered⟩
    obtain rfl | rfl | rfl := kind_le_two hscope
    all_goals rfl
  | partition partitions => exact cStrings_eq_iff partitions
  | ownership kind =>
    refine hfixed ?_
    obtain rfl | rfl := kind_le_one h
    · rfl
    · rfl
  | writerDataLifecycle autodispose => exact hfixed (bool_of_le h)
  | timeBasedFilter ms => exact hfixed (isNanos_nanos ms)

/-- A parsed set reaches DDS as the client sent it exactly when every value fits. -/
theorem handedOver_iff {qos : QosSet} (h : Parsed qos) : HandedOver qos ↔ ∀ p ∈ qos.policies, p.Fits := by
  have hforall : List.Forall₂ Handed qos.policies (qos.policies.map QosPolicy.setting) ↔
      ∀ p ∈ qos.policies, p.Fits := by
    rw [List.forall₂_map_right_iff, List.forall₂_same]
    exact forall₂_congr fun p hp => handed_setting_iff (h.wf.policies p hp)
  unfold HandedOver fromQosSet
  cases hp : qos.policies with
  | nil => exact iff_of_true rfl nofun
  | cons p ps =>
    rw [hp] at hforall
    exact hforall

theorem handedOver_boundary :
    HandedOver ⟨[.history 0 0x7fffffff, .deadline 0, .latencyBudget 0xffffffff, .partition ["a", ""]]⟩ ↔
      ∀ p ∈ [QosPolicy.history 0 0x7fffffff, .deadline 0, .latencyBudget 0xffffffff, .partition ["a", ""]], p.Fits := by
  have ha : StringFits "a" := show (utf8 "a").length ≤ maxStringLength by decide
  have hempty : StringFits "" := show (utf8 "").length ≤ maxStringLength by decide
  exact handedOver_iff (QosSet.WF.parsed ⟨by decide, by simp [QosPolicy.WF, ha, hempty]⟩)

/-- The strength arrives as -2147483648, the name as the empty one. -/
theorem strength_and_name_changed :
    (Parsed ⟨[.ownershipStrength 0x80000000]⟩ ∧ ¬ HandedOver ⟨[.ownershipStrength 0x80000000]⟩) ∧
      Parsed ⟨[.partition ["a\x00b"]]⟩ ∧ ¬ HandedOver ⟨[.partition ["a\x00b"]]⟩ := by
  refine ⟨⟨QosSet.WF.parsed ⟨by decide, by simp [QosPolicy.WF]⟩, fun h => ?_⟩,
    QosSet.WF.parsed ⟨by decide, ?_⟩, fun h => ?_⟩
  · have hvalue : (0x80000000 : UInt32).toInt32.toInt = (0x80000000 : UInt32).toNat := (List.forall₂_cons.mp h).1
    exact absurd hvalue (by decide)
  · have hfits : StringFits "a\x00b" := show (utf8 "a\x00b").length ≤ maxStringLength by decide
    simp [QosPolicy.WF, hfits]
  · have hnames : [(cString "a\x00b").getD []] = [utf8 "a\x00b"] := (List.forall₂_cons.mp h).1
    exact absurd hnames (by decide)

end DdsBridge
