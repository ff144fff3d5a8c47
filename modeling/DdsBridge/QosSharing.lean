import DdsBridge.QosWire
import DdsBridge.ReaderRuns

/-!
# Which QoS sets share a reader

`normalized_eq` compares normal forms in any order; a reader key holds the bytes of one order. And
an explicit default is dropped from the normal form although the entity is created with it, which
for a reader's reliability is not the DDS default.
-/

namespace DdsBridge

open ReaderRegistry

/-- What `parse_qos` can return. -/
def Parsed (qos : QosSet) : Prop := ∃ buf rest, parseQos buf = .ok (qos, rest)

theorem Parsed.wf {qos : QosSet} (h : Parsed qos) : qos.WF := by
  obtain ⟨buf, rest, h⟩ := h
  obtain ⟨_, -, hwf, -⟩ := consumes_parseQos buf qos rest h
  exact hwf

theorem QosSet.WF.parsed {qos : QosSet} (h : qos.WF) : Parsed qos :=
  ⟨serializeQos qos ++ [], [], reads_parseQos h []⟩

/-! ## Normal forms -/

section
variable {a b : QosSet}

theorem mem_normalize {qos : QosSet} {p : QosPolicy} :
    p ∈ qos.normalize.policies ↔ p ∈ qos.policies ∧ p.isDefault = false := by
  simp [QosSet.normalize, List.mem_filter]

theorem QosSet.WF.normalize {qos : QosSet} (h : qos.WF) : qos.normalize.WF where
  nodup := h.nodup.sublist (List.filter_sublist.map _)
  policies := fun p hp => h.policies p (mem_normalize.mp hp).1

theorem normalizedEq_iff_perm (ha : (a.policies.map QosPolicy.policyId).Nodup) :
    a.normalizedEq b = true ↔ a.normalize.policies.Perm b.normalize.policies := by
  have hnodup : a.normalize.policies.Nodup := (ha.of_map _).sublist List.filter_sublist
  have hall : (a.normalize.policies.all fun pa => b.normalize.policies.any fun pb => pa == pb) = true ↔
      a.normalize.policies ⊆ b.normalize.policies := by
    simp only [List.all_eq_true, List.any_eq_true, beq_iff_eq, exists_eq_right']
    rfl
  unfold QosSet.normalizedEq
  by_cases hlen : a.normalize.policies.length = b.normalize.policies.length
  · simp only [hlen, bne_self_eq_false, Bool.false_eq_true, if_false, hall]
    refine ⟨fun hsub => ?_, fun hperm => ?_⟩
    · exact (List.subperm_of_subset hnodup hsub).perm_of_length_le (Nat.le_of_eq hlen.symm)
    · exact hperm.subset
  · have hne : (a.normalize.policies.length != b.normalize.policies.length) = true := by simp [hlen]
    simp only [hne, if_true]
    refine iff_of_false (by simp) fun hperm => hlen hperm.length_eq

theorem readerKey_eq_iff (ha : a.WF) (hb : b.WF) (topicName typeName : String) :
    ReaderKey.new topicName typeName a = ReaderKey.new topicName typeName b ↔ a.normalize = b.normalize := by
  simp only [ReaderKey.new, ReaderKey.mk.injEq, true_and]
  constructor
  · exact serializeQos_inj ha.normalize hb.normalize
  · exact congrArg serializeQos

end

/-! ## Two subscriptions -/

/-- A call where the reader id it may draw is free. -/
def FreshCallStep (reg : ReaderRegistry) (call : ReaderCall) (reg' : ReaderRegistry) : Prop :=
  FreeId reg ∧ CallStep reg call reg'

theorem keysInv_of_reachable {reg : ReaderRegistry}
    (h : Runs.Reachable FreshCallStep ReaderRegistry.new reg) : KeysInv reg := by
  apply h.invariant registryInv_new.keys
  rintro reg call _ hinv ⟨hfree, rfl⟩
  exact call_keysInv hinv hfree call

theorem subscribe_key {reg reg' : ReaderRegistry} {rc : Int32} {topic : Topic} {qos : Option DdsQos}
    {qosSet : QosSet} {s r : UInt64} (h : subscribe rc topic qos qosSet s reg = .ok (r, reg')) :
    reg'.keyToReader.lookup (ReaderKey.new topic.topicName topic.typeName qosSet) = some r := by
  rcases subscribe_cases reg rc topic qos qosSet s with
    ⟨r', reader, hsh, he⟩ | ⟨-, -, he⟩ | ⟨-, -, reader, -, -, -, -, -, he⟩
  · rw [he] at h
    cases h
    exact (shared_eq_some.mp hsh).1
  · rw [he] at h
    cases h
  · rw [he] at h
    cases h
    rw [add_keys, if_pos rfl]

theorem subscribe_keeps_key {reg reg' : ReaderRegistry} {rc : Int32} {topic : Topic} {qos : Option DdsQos}
    {qosSet : QosSet} {s r r' : UInt64} {key : ReaderKey} (hinv : KeysInv reg)
    (h : subscribe rc topic qos qosSet s reg = .ok (r, reg')) (hkey : reg.keyToReader.lookup key = some r') :
    reg'.keyToReader.lookup key = some r' := by
  rcases subscribe_cases reg rc topic qos qosSet s with
    ⟨_, reader, -, he⟩ | ⟨-, -, he⟩ | ⟨hsh, -, reader, -, -, -, -, -, he⟩
  · rw [he] at h
    cases h
    exact hkey
  · rw [he] at h
    cases h
  · rw [he] at h
    cases h
    rw [add_keys, if_neg, hkey]
    rintro rfl
    rw [(shared_eq_none hinv).mp hsh] at hkey
    cases hkey

theorem subscribe_same_reader {reg reg' : ReaderRegistry} {topic : Topic} {rc : Int32} {q : Option DdsQos}
    {qosSet : QosSet} {s r r' : UInt64} {key : ReaderKey} (hinv : KeysInv reg) (hfree : FreeId reg)
    (hkey : reg.keyToReader.lookup key = some r) (h : subscribe rc topic q qosSet s reg = .ok (r', reg')) :
    r = r' ↔ key = ReaderKey.new topic.topicName topic.typeName qosSet := by
  have hinv' : KeysInv reg' := by
    have h' : KeysInv ((subscribe rc topic q qosSet s).after reg) := subscribe_keysInv hinv hfree
    simpa only [Prog.after, h] using h'
  have hold := subscribe_keeps_key hinv h hkey
  have hnew := subscribe_key h
  constructor
  · rintro rfl
    obtain ⟨x, hx, hxk⟩ := (hinv' _ _).mp hold
    obtain ⟨y, hy, hyk⟩ := (hinv' _ _).mp hnew
    rw [hx] at hy
    cases hy
    exact hxk.symm.trans hyk
  · rintro rfl
    rw [hnew] at hold
    exact (Option.some.inj hold).symm

/-- The comparison decides the reader key; and of two subscriptions, the second made while the first
one's reader is still there, it decides whether they share a reader. -/
def SharedExactly (a b : QosSet) : Prop :=
  (∀ topicName typeName, ReaderKey.new topicName typeName a = ReaderKey.new topicName typeName b ↔
    a.normalizedEq b = true) ∧
  ∀ reg reg₁ reg₂ reg₃ topic rc₁ rc₂ q₁ q₂ s₁ s₂ r₁ r₂,
    Runs.Reachable FreshCallStep ReaderRegistry.new reg → FreeId reg →
    subscribe rc₁ topic q₁ a s₁ reg = .ok (r₁, reg₁) →
    Runs.Reachable FreshCallStep reg₁ reg₂ → FreeId reg₂ →
    reg₂.keyToReader.lookup (ReaderKey.new topic.topicName topic.typeName a) = some r₁ →
    subscribe rc₂ topic q₂ b s₂ reg₂ = .ok (r₂, reg₃) →
    (r₁ = r₂ ↔ a.normalizedEq b = true)

/-- **Readers are shared by the order of the policies.** The key agrees with the comparison exactly for
QoS sets whose normal forms are not the same policies in another order. -/
theorem sharedExactly_iff {a b : QosSet} (ha : Parsed a) (hb : Parsed b) :
    SharedExactly a b ↔
      (a.normalize.policies.Perm b.normalize.policies → a.normalize.policies = b.normalize.policies) := by
  have hpolicies : a.normalize.policies = b.normalize.policies ↔ a.normalize = b.normalize := by
    constructor
    · exact fun h => congrArg QosSet.mk h
    · exact congrArg QosSet.policies
  rw [hpolicies]
  refine ⟨fun h hperm => ?_, fun hcond => ?_⟩
  · have hkey := (h.1 "" "").mpr ((normalizedEq_iff_perm ha.wf.nodup).mpr hperm)
    exact (readerKey_eq_iff ha.wf hb.wf "" "").mp hkey
  · have hkey : ∀ topicName typeName, ReaderKey.new topicName typeName a = ReaderKey.new topicName typeName b ↔
        a.normalizedEq b = true := by
      intro t T
      rw [readerKey_eq_iff ha.wf hb.wf, normalizedEq_iff_perm ha.wf.nodup]
      constructor
      · intro h
        rw [h]
      · exact hcond
    refine ⟨hkey, ?_⟩
    intro reg reg₁ reg₂ reg₃ topic rc₁ rc₂ q₁ q₂ s₁ s₂ r₁ r₂ hreach hfree h₁ hbetween hfree₂ hlive h₂
    have hstep : Runs.Reachable FreshCallStep reg reg₁ := by
      refine Relation.ReflTransGen.single ⟨.subscribe rc₁ topic q₁ a s₁, hfree, ?_⟩
      simp only [CallStep, ReaderRegistry.call, Prog.after, h₁]
    have hreach₂ : Runs.Reachable FreshCallStep ReaderRegistry.new reg₂ := (hreach.trans hstep).trans hbetween
    rw [subscribe_same_reader (keysInv_of_reachable hreach₂) hfree₂ hlive h₂]
    exact hkey _ _

/-- Two policies in either order: equal to the comparison, two readers. -/
theorem permuted_policies_differ :
    let a : QosSet := { policies := [.durability 1, .deadline 5] }
    let b : QosSet := { policies := [.deadline 5, .durability 1] }
    Parsed a ∧ Parsed b ∧ a.normalizedEq b = true ∧ ReaderKey.new "t" "T" a ≠ ReaderKey.new "t" "T" b ∧
      ∃ reg₁ reg₂, subscribe 10 chatter none a 1 ReaderRegistry.new = .ok (1, reg₁) ∧
        subscribe 11 chatter none b 2 reg₁ = .ok (2, reg₂) := by
  refine ⟨QosSet.WF.parsed ⟨by decide, ?_⟩, QosSet.WF.parsed ⟨by decide, ?_⟩, by decide, by decide,
    _, _, rfl, rfl⟩
  · simp [QosPolicy.WF]
  · simp [QosPolicy.WF]

/-- `sharedExactly_iff` where only one of the sets has an explicit default. -/
theorem sharedExactly_explicit_default :
    SharedExactly { policies := [.history 0 1, .durability 1] } { policies := [.durability 1] } := by
  refine (sharedExactly_iff (QosSet.WF.parsed ⟨by decide, ?_⟩) (QosSet.WF.parsed ⟨by decide, ?_⟩)).mpr ?_
  · simp [QosPolicy.WF]
  · simp [QosPolicy.WF]
  · exact fun _ => by decide

end DdsBridge
