import DdsBridge.Lib.Defaults
import DdsBridge.QosSharing

/-!
# What two QoS sets with equal normal forms share

A set whose policies have distinct ids says one value for each policy: the one it holds, or the default.
`normalized_eq` compares these values.
-/

namespace DdsBridge

def DistinctIds (qos : QosSet) : Prop := (qos.policies.map QosPolicy.policyId).Nodup

/-- The value of a policy for which `is_default` holds. -/
def defaultPolicy : UInt8 → Option QosPolicy
  | 0x01 => some (.reliability 1 100)
  | 0x02 => some (.durability 0)
  | 0x03 => some (.history 0 1)
  | 0x04 => some (.deadline 0)
  | 0x05 => some (.latencyBudget 0)
  | 0x06 => some (.ownershipStrength 0)
  | 0x07 => some (.liveliness 0 0)
  | 0x08 => some (.destinationOrder 0)
  | 0x09 => some (.presentation 0 0 0)
  | 0x0A => some (.partition [])
  | 0x0B => some (.ownership 0)
  | 0x0C => some (.writerDataLifecycle 1)
  | 0x0D => some (.timeBasedFilter 0)
  | _ => none

/-- The value of the policy with this id in the set, or its default. -/
def QosSet.effective (qos : QosSet) : UInt8 → Option QosPolicy :=
  Defaults.value QosPolicy.policyId defaultPolicy qos.policies

theorem uniqueDefaults_policy : Defaults.UniqueDefaults QosPolicy.policyId QosPolicy.isDefault defaultPolicy := by
  intro id p
  constructor
  · intro h
    unfold defaultPolicy at h
    split at h
    case h_14 => cases h
    all_goals
      cases h
      exact ⟨rfl, rfl⟩
  · rintro ⟨rfl, hdef⟩
    cases p
    case partition partitions =>
      rw [List.isEmpty_iff.mp hdef]
      rfl
    all_goals
      simp only [QosPolicy.isDefault, Bool.and_eq_true, beq_iff_eq] at hdef
      simp only [QosPolicy.policyId, defaultPolicy, hdef]

theorem effective_isSome (qos : QosSet) {id : UInt8} (h : 1 ≤ id ∧ id ≤ 13) : (qos.effective id).isSome := by
  have hdefault : ∀ n ≤ 13, 1 ≤ n → (defaultPolicy (UInt8.ofNat n)).isSome := by decide
  have hid := hdefault id.toNat (UInt8.le_iff_toNat_le.mp h.2) (UInt8.le_iff_toNat_le.mp h.1)
  rw [UInt8.ofNat_toNat] at hid
  rw [QosSet.effective, Defaults.value, Option.isSome_or, hid, Bool.or_true]

section
variable {a b : QosSet} (ha : DistinctIds a)
include ha

theorem DistinctIds.normalize : DistinctIds a.normalize := Defaults.nodup_normalize ha

theorem effective_normalize : a.normalize.effective = a.effective :=
  Defaults.value_normalize uniqueDefaults_policy ha

theorem effective_perm (h : a.policies.Perm b.policies) : a.effective = b.effective :=
  Defaults.value_perm uniqueDefaults_policy ha h

theorem normalizedEq_iff_effective (hb : DistinctIds b) : a.normalizedEq b = true ↔ a.effective = b.effective := by
  rw [normalizedEq_iff_perm ha]
  exact (Defaults.value_eq_iff_perm uniqueDefaults_policy ha hb).symm

end

/-- A default that is added is dropped from the normal form. -/
theorem effective_add_default {before after : List QosPolicy} {d : QosPolicy} (hd : d.isDefault = true)
    (h : DistinctIds ⟨before ++ d :: after⟩) :
    QosSet.effective ⟨before ++ d :: after⟩ = QosSet.effective ⟨before ++ after⟩ := by
  have hless : DistinctIds ⟨before ++ after⟩ :=
    List.Nodup.sublist (((List.sublist_cons_self d after).append_left before).map _) h
  have hnormal : QosSet.normalize ⟨before ++ d :: after⟩ = QosSet.normalize ⟨before ++ after⟩ := by
    simp [QosSet.normalize, hd]
  rw [← effective_normalize h, hnormal, effective_normalize hless]

/-- The sets with distinct ids. -/
abbrev DistinctQos : Type := {qos : QosSet // DistinctIds qos}

theorem Parsed.distinctIds {qos : QosSet} (h : Parsed qos) : DistinctIds qos := h.wf.nodup

/-- `normalized_eq` is equality of effective policies. -/
theorem normalizedEq_effective :
    (∀ qos, Parsed qos → DistinctIds qos) ∧
    (∀ id p, defaultPolicy id = some p ↔ p.policyId = id ∧ p.isDefault = true) ∧
    (∀ (a : DistinctQos) id p, a.1.effective id = some p ↔
      p.policyId = id ∧ (p ∈ a.1.policies ∨ p.isDefault = true ∧ ∀ q ∈ a.1.policies, q.policyId ≠ id)) ∧
    (∀ (a : QosSet) (id : UInt8), 1 ≤ id ∧ id ≤ 13 → (a.effective id).isSome) ∧
    (∀ a b : DistinctQos, a.1.normalizedEq b.1 = true ↔ ∀ id, a.1.effective id = b.1.effective id) ∧
    (Equivalence fun a b : DistinctQos => a.1.normalizedEq b.1 = true) ∧
    (∀ a a' b : DistinctQos, a.1.policies.Perm a'.1.policies →
      a.1.normalizedEq b.1 = a'.1.normalizedEq b.1 ∧ b.1.normalizedEq a.1 = b.1.normalizedEq a'.1) ∧
    (∀ (a a' b : DistinctQos) before after d, d.isDefault = true → a.1.policies = before ++ after →
      a'.1.policies = before ++ d :: after →
      a.1.normalizedEq b.1 = a'.1.normalizedEq b.1 ∧ b.1.normalizedEq a.1 = b.1.normalizedEq a'.1) ∧
    (∀ a b : DistinctQos, a.1.normalize.normalize = a.1.normalize ∧ a.1.normalizedEq a.1.normalize = true ∧
      a.1.normalize.normalizedEq b.1.normalize = a.1.normalizedEq b.1) := by
  have hiff : ∀ a b : DistinctQos, a.1.normalizedEq b.1 = true ↔ a.1.effective = b.1.effective :=
    fun a b => normalizedEq_iff_effective a.2 b.2
  -- sets with the same effective policies are interchangeable
  have hcongr : ∀ a a' b : DistinctQos, a.1.effective = a'.1.effective →
      a.1.normalizedEq b.1 = a'.1.normalizedEq b.1 ∧ b.1.normalizedEq a.1 = b.1.normalizedEq a'.1 := by
    intro a a' b h
    constructor
    · rw [Bool.eq_iff_iff, hiff, hiff, h]
    · rw [Bool.eq_iff_iff, hiff, hiff, h]
  refine ⟨fun _ => Parsed.distinctIds, uniqueDefaults_policy,
    fun a _ _ => Defaults.value_eq_some uniqueDefaults_policy a.2, fun a _ => effective_isSome a,
    fun a b => (hiff a b).trans funext_iff, ⟨?_, ?_, ?_⟩, ?_, ?_, ?_⟩
  · intro a
    exact (hiff a a).mpr rfl
  · intro a b h
    exact (hiff b a).mpr ((hiff a b).mp h).symm
  · intro a b c hab hbc
    exact (hiff a c).mpr (((hiff a b).mp hab).trans ((hiff b c).mp hbc))
  · intro a a' b h
    exact hcongr a a' b (effective_perm a.2 h)
  · rintro ⟨a, ha⟩ ⟨a', ha'⟩ b before after d hd h h'
    apply hcongr
    cases a
    cases a'
    subst h h'
    exact (effective_add_default hd ha').symm
  · intro a b
    refine ⟨normalize_normalize a.1, (hiff a ⟨_, a.2.normalize⟩).mpr (effective_normalize a.2).symm, ?_⟩
    rw [Bool.eq_iff_iff, hiff ⟨_, a.2.normalize⟩ ⟨_, b.2.normalize⟩, hiff]
    change a.1.normalize.effective = b.1.normalize.effective ↔ _
    rw [effective_normalize a.2, effective_normalize b.2]

end DdsBridge
