import DdsBridge.QosSharing
import DdsBridge.Writers

/-!
# What a QoS set does to an entity

An entity has the settings made on its QoS object and the DDS defaults in the other slots. Dropping
an explicit default from a QoS set changes nothing, except that a reader is then best-effort.
-/

namespace DdsBridge

open ReaderRegistry

inductive EntityKind where
  | reader
  | writer
  deriving DecidableEq, Repr

/-- The DDS defaults by slot. `blocking` is the blocking time DDS gives a best-effort reader. -/
def defaultSetting (blocking : Int64) : EntityKind → UInt8 → Option DdsSetting
  | .reader, 0x01 => some (.reliability .bestEffort blocking)
  | .writer, 0x01 => some (.reliability .reliable 100000000)
  | _, 0x02 => some (.durability .volatile)
  | _, 0x03 => some (.history .keepLast 1)
  | _, 0x04 => some (.deadline infinity)
  | _, 0x05 => some (.latencyBudget 0)
  | _, 0x06 => some (.ownershipStrength 0)
  | _, 0x07 => some (.liveliness .automatic infinity)
  | _, 0x08 => some (.destinationOrder .byReceptionTimestamp)
  | _, 0x09 => some (.presentation .instanceScope false false)
  | _, 0x0A => some (.partition [])
  | _, 0x0B => some (.ownership .shared)
  | _, 0x0C => some (.writerDataLifecycle true)
  | _, 0x0D => some (.timeBasedFilter 0)
  | _, _ => none

def effective (blocking : Int64) (kind : EntityKind) (qos : Option DdsQos) (slot : UInt8) : Option DdsSetting :=
  (qos.bind fun q => q.get slot).or (defaultSetting blocking kind slot)

def eff (blocking : Int64) (kind : EntityKind) (qos : QosSet) : UInt8 → Option DdsSetting :=
  effective blocking kind (makeQos true qos)

def defaultReliability : QosPolicy := .reliability 1 100

/-! ## Slots -/

section
variable {qos : QosSet}

theorem get_makeQos (slot : UInt8) : ((makeQos true qos).bind fun q => q.get slot) =
    (qos.policies.map QosPolicy.setting).reverse.find? fun setting => setting.slot == slot := by
  unfold makeQos fromQosSet
  by_cases h : qos.policies.isEmpty
  · rw [if_pos h, List.isEmpty_iff.mp h]
    rfl
  · rw [if_neg h]
    rfl

theorem eff_of_mem (hwf : qos.WF) (blocking : Int64) (kind : EntityKind) {p : QosPolicy} (hp : p ∈ qos.policies) :
    eff blocking kind qos p.policyId = some p.setting := by
  have hget : ((makeQos true qos).bind fun q => q.get p.policyId) = some p.setting := by
    rw [get_makeQos]
    cases h : (qos.policies.map QosPolicy.setting).reverse.find? fun setting => setting.slot == p.policyId with
    | none =>
      rw [List.find?_eq_none] at h
      have hmem : p.setting ∈ (qos.policies.map QosPolicy.setting).reverse :=
        List.mem_reverse.mpr (List.mem_map_of_mem hp)
      exact absurd (by simp) (h p.setting hmem)
    | some setting =>
      have hmem := List.mem_reverse.mp (List.mem_of_find?_eq_some h)
      obtain ⟨p', hp', rfl⟩ := List.mem_map.mp hmem
      have hid : p'.policyId = p.policyId := by simpa using List.find?_some h
      rw [List.inj_on_of_nodup_map hwf.nodup hp' hp hid]
  rw [eff, effective, hget]
  rfl

theorem eff_of_not_mem (blocking : Int64) (kind : EntityKind) {slot : UInt8}
    (hno : ∀ p ∈ qos.policies, p.policyId ≠ slot) :
    eff blocking kind qos slot = defaultSetting blocking kind slot := by
  have hget : ((makeQos true qos).bind fun q => q.get slot) = none := by
    rw [get_makeQos, List.find?_eq_none]
    intro setting hmem
    obtain ⟨p, hp, rfl⟩ := List.mem_map.mp (List.mem_reverse.mp hmem)
    simpa using hno p hp
  rw [eff, effective, hget]
  rfl

end

/-! ## Explicit defaults -/

theorem setting_of_isDefault (blocking : Int64) {p : QosPolicy} (h : p.isDefault = true) :
    defaultSetting blocking .writer p.policyId = some p.setting := by
  cases p with
  | reliability kind maxBlockingTimeMs =>
    simp only [QosPolicy.isDefault, Bool.and_eq_true, beq_iff_eq] at h
    obtain ⟨rfl, rfl⟩ := h
    rfl
  | history kind depth =>
    simp only [QosPolicy.isDefault, Bool.and_eq_true, beq_iff_eq] at h
    obtain ⟨rfl, rfl⟩ := h
    rfl
  | liveliness kind leaseDurationMs =>
    simp only [QosPolicy.isDefault, Bool.and_eq_true, beq_iff_eq] at h
    obtain ⟨rfl, rfl⟩ := h
    rfl
  | presentation accessScope coherentAccess orderedAccess =>
    simp only [QosPolicy.isDefault, Bool.and_eq_true, beq_iff_eq] at h
    obtain ⟨⟨rfl, rfl⟩, rfl⟩ := h
    rfl
  | partition partitions =>
    simp only [QosPolicy.isDefault, List.isEmpty_iff] at h
    subst h
    rfl
  | durability kind | deadline kind | latencyBudget kind | ownershipStrength kind | destinationOrder kind
  | ownership kind | writerDataLifecycle kind | timeBasedFilter kind =>
    simp only [QosPolicy.isDefault, beq_iff_eq] at h
    subst h
    rfl

theorem defaultSetting_reader (blocking : Int64) {slot : UInt8} (h : slot ≠ 0x01) :
    defaultSetting blocking .reader slot = defaultSetting blocking .writer slot := by
  unfold defaultSetting
  split <;> simp_all

theorem isDefault_reliability {p : QosPolicy} (h : p.isDefault = true) (hid : p.policyId = 0x01) :
    p = defaultReliability := by
  cases p with
  | reliability kind maxBlockingTimeMs =>
    simp only [QosPolicy.isDefault, Bool.and_eq_true, beq_iff_eq] at h
    rw [h.1, h.2, defaultReliability]
  | _ => simp [QosPolicy.policyId] at hid

/-! ## Equal normal forms -/

section
variable {a b : QosSet} (blocking : Int64)

/-- A slot without a policy that counts in the normal form has the default, if an explicit default
sets the same. -/
theorem eff_of_no_normal (ha : a.WF) (kind : EntityKind) {slot : UInt8}
    (hno : ∀ p ∈ a.normalize.policies, p.policyId ≠ slot)
    (hdefault : defaultReliability ∈ a.policies → slot = 0x01 → kind = .writer) :
    eff blocking kind a slot = defaultSetting blocking kind slot := by
  by_cases hmem : ∃ p ∈ a.policies, p.policyId = slot
  · obtain ⟨p, hp, rfl⟩ := hmem
    have hpd : p.isDefault = true := by
      rw [← Bool.not_eq_false]
      exact fun hn => hno p (mem_normalize.mpr ⟨hp, hn⟩) rfl
    rw [eff_of_mem ha blocking kind hp, ← setting_of_isDefault blocking hpd]
    cases kind with
    | writer => rfl
    | reader =>
      refine (defaultSetting_reader blocking fun hid => ?_).symm
      cases hdefault (isDefault_reliability hpd hid ▸ hp) hid
  · exact eff_of_not_mem blocking kind fun p hp hid => hmem ⟨p, hp, hid⟩

theorem eff_congr (ha : a.WF) (hb : b.WF) (heq : a.normalizedEq b = true) (kind : EntityKind) {slot : UInt8}
    (hda : defaultReliability ∈ a.policies → slot = 0x01 → kind = .writer)
    (hdb : defaultReliability ∈ b.policies → slot = 0x01 → kind = .writer) :
    eff blocking kind a slot = eff blocking kind b slot := by
  have hperm := (normalizedEq_iff_perm ha.nodup).mp heq
  by_cases hsome : ∃ p ∈ a.normalize.policies, p.policyId = slot
  · obtain ⟨p, hp, rfl⟩ := hsome
    rw [eff_of_mem ha blocking kind (mem_normalize.mp hp).1,
      eff_of_mem hb blocking kind (mem_normalize.mp (hperm.mem_iff.mp hp)).1]
  · have hno : ∀ p ∈ a.normalize.policies, p.policyId ≠ slot := fun p hp hid => hsome ⟨p, hp, hid⟩
    rw [eff_of_no_normal blocking ha kind hno hda,
      eff_of_no_normal blocking hb kind (fun p hp => hno p (hperm.mem_iff.mpr hp)) hdb]

theorem eff_writer_eq (ha : a.WF) (hb : b.WF) (heq : a.normalizedEq b = true) :
    eff blocking .writer a = eff blocking .writer b := by
  funext slot
  exact eff_congr blocking ha hb heq .writer (fun _ _ => rfl) (fun _ _ => rfl)

theorem normalizedEq_symm (ha : a.WF) (hb : b.WF) (heq : a.normalizedEq b = true) :
    b.normalizedEq a = true :=
  (normalizedEq_iff_perm hb.nodup).mpr ((normalizedEq_iff_perm ha.nodup).mp heq).symm

theorem eff_default_reliability (ha : a.WF) (kind : EntityKind) (hmem : defaultReliability ∈ a.policies) :
    eff blocking kind a 0x01 = some (.reliability .reliable 100000000) :=
  eff_of_mem ha blocking kind hmem

theorem defaultReliability_of_eff_eq (ha : a.WF) (hb : b.WF) (heq : a.normalizedEq b = true)
    (heff : eff blocking .reader a = eff blocking .reader b) (hmem : defaultReliability ∈ a.policies) :
    defaultReliability ∈ b.policies := by
  by_contra hno
  have hperm := (normalizedEq_iff_perm ha.nodup).mp heq
  have hnormal : ∀ p ∈ b.normalize.policies, p.policyId ≠ 0x01 := by
    intro p hp hid
    obtain ⟨hpa, hpd⟩ := mem_normalize.mp (hperm.mem_iff.mpr hp)
    -- `a` has one policy with this id, and it is the explicit default
    have hp_eq : p = defaultReliability := List.inj_on_of_nodup_map ha.nodup hpa hmem hid
    rw [hp_eq] at hpd
    exact absurd hpd (by decide)
  have hslot := congrFun heff 0x01
  rw [eff_default_reliability blocking ha .reader hmem,
    eff_of_no_normal blocking hb .reader hnormal fun h => absurd h hno] at hslot
  cases hslot

theorem eff_reader_eq_iff (ha : a.WF) (hb : b.WF) (heq : a.normalizedEq b = true) :
    eff blocking .reader a = eff blocking .reader b ↔
      (defaultReliability ∈ a.policies ↔ defaultReliability ∈ b.policies) := by
  refine ⟨fun heff => ?_, fun hiff => ?_⟩
  · exact ⟨defaultReliability_of_eff_eq blocking ha hb heq heff,
      defaultReliability_of_eff_eq blocking hb ha (normalizedEq_symm ha hb heq) heff.symm⟩
  · funext slot
    by_cases hmem : defaultReliability ∈ a.policies ∧ slot = 0x01
    · obtain ⟨hmem, rfl⟩ := hmem
      rw [eff_default_reliability blocking ha .reader hmem,
        eff_default_reliability blocking hb .reader (hiff.mp hmem)]
    · exact eff_congr blocking ha hb heq .reader (fun h hs => absurd ⟨h, hs⟩ hmem)
        fun h hs => absurd ⟨hiff.mpr h, hs⟩ hmem

/-! ## Entities that are reused -/

/-- The reader and the writer that a request for `a` creates have the settings that a request for `b`
alone would have got. -/
def ReusedAlike (a b : QosSet) : Prop :=
  (∀ reg reg' rc topic s r reader,
    reg.shared (ReaderKey.new topic.topicName topic.typeName a) = none →
    subscribe rc topic (makeQos true a) a s reg = .ok (r, reg') → reg'.readers.lookup r = some reader →
    effective blocking .reader reader.handle.qos = eff blocking .reader b) ∧
  (∀ rc topic writerId writer, DdsWriter.new rc topic (makeQos true a) a.normalize writerId = .ok writer →
    effective blocking .writer writer.handle.qos = eff blocking .writer b)

theorem created_reader_qos {reg reg' : ReaderRegistry} {rc : Int32} {topic : Topic} {qos : Option DdsQos}
    {s r : UInt64} {reader : DdsReader}
    (hnew : reg.shared (ReaderKey.new topic.topicName topic.typeName a) = none)
    (h : subscribe rc topic qos a s reg = .ok (r, reg')) (hr : reg'.readers.lookup r = some reader) :
    reader.handle.qos = qos := by
  rcases subscribe_cases reg rc topic qos a s with
    ⟨r', x, hsh, -⟩ | ⟨-, -, he⟩ | ⟨-, -, x, -, -, -, -, hhandle, he⟩
  · rw [hnew] at hsh
    cases hsh
  · rw [he] at h
    cases h
  · rw [he] at h
    cases h
    rw [add_readers, if_pos rfl] at hr
    cases hr
    exact congrArg DdsEntity.qos hhandle

theorem created_writer_qos {rc : Int32} {topic : Topic} {qos : Option DdsQos} {writerId : UInt32}
    {writer : DdsWriter} (h : DdsWriter.new rc topic qos a writerId = .ok writer) :
    writer.handle.qos = qos := by
  unfold DdsWriter.new at h
  by_cases hrc : rc < 0
  · rw [if_pos hrc] at h
    cases h
  · rw [if_neg hrc] at h
    cases h
    rfl

/-- **What sharing does to the settings.** QoS sets that compare equal give readers and writers the same
settings exactly if both or neither spell out the default reliability. -/
theorem eff_eq_iff (ha : Parsed a) (hb : Parsed b) (heq : a.normalizedEq b = true) :
    (eff blocking .writer a = eff blocking .writer b ∧ eff blocking .reader a = eff blocking .reader b ∧
      ReusedAlike blocking a b) ↔
      (defaultReliability ∈ a.policies ↔ defaultReliability ∈ b.policies) := by
  refine ⟨fun h => ?_, fun hiff => ?_⟩
  · obtain ⟨-, hreader, -⟩ := h
    exact (eff_reader_eq_iff blocking ha.wf hb.wf heq).mp hreader
  · have hwriter := eff_writer_eq blocking ha.wf hb.wf heq
    have hreader := (eff_reader_eq_iff blocking ha.wf hb.wf heq).mpr hiff
    refine ⟨hwriter, hreader, ?_, ?_⟩
    · intro reg reg' rc topic s r reader hnew h hr
      rw [created_reader_qos hnew h hr]
      exact hreader
    · intro rc topic writerId writer h
      rw [created_writer_qos h]
      exact hwriter

end

/-- The empty QoS set makes a best-effort reader, the explicit default a reliable one. -/
theorem explicit_reliability_differs :
    let a : QosSet := { policies := [] }
    let b : QosSet := { policies := [.reliability 1 100] }
    Parsed a ∧ Parsed b ∧ a.normalizedEq b = true ∧
      eff 100000000 .reader a 0x01 = some (.reliability .bestEffort 100000000) ∧
      eff 100000000 .reader b 0x01 = some (.reliability .reliable 100000000) ∧
      eff 100000000 .reader a ≠ eff 100000000 .reader b := by
  refine ⟨QosSet.WF.parsed ⟨by decide, ?_⟩, QosSet.WF.parsed ⟨by decide, ?_⟩, by decide, by decide, by decide, ?_⟩
  · simp
  · simp [QosPolicy.WF]
  · intro h
    exact absurd (congrFun h 0x01) (by decide)

/-- `eff_eq_iff` where one set spells out a default other than reliability. -/
theorem eff_eq_explicit_history :
    eff 0 .reader { policies := [.history 0 1, .deadline 5] } = eff 0 .reader { policies := [.deadline 5] } := by
  refine ((eff_eq_iff 0 (QosSet.WF.parsed ⟨by decide, ?_⟩) (QosSet.WF.parsed ⟨by decide, ?_⟩) ?_).mpr ?_).2.1
  · simp [QosPolicy.WF]
  · simp [QosPolicy.WF]
  · decide
  · decide

end DdsBridge
