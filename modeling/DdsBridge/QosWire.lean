import DdsBridge.Qos
import Mathlib.Data.Fintype.Basic
import Mathlib.Data.List.Perm.Subperm

/-!
# The QoS encoding

Reading a written set gives it back in front of any tail; what is accepted is a well-formed set
and the bytes taken are its encoding; no read leaves the buffer. The bit mask of `parse_qos`
stands for the set of ids already read.
-/

namespace DdsBridge

open Cursor

/-! ## The mask of seen ids -/

theorem bits_of_ids : ∀ i j : Fin 14, idBit (UInt8.ofNat i) &&& idBit (UInt8.ofNat j) = 0 ↔ i ≠ j := by
  decide

theorem idBit_and_idBit {i j : UInt8} (hi : i ≤ 0x0D) (hj : j ≤ 0x0D) :
    idBit i &&& idBit j = 0 ↔ i ≠ j := by
  have hi' : i.toNat < 14 := Nat.lt_succ_of_le hi
  have hj' : j.toNat < 14 := Nat.lt_succ_of_le hj
  have h := bits_of_ids ⟨i.toNat, hi'⟩ ⟨j.toNat, hj'⟩
  simp only [UInt8.ofNat_toNat, ne_eq, Fin.mk.injEq, UInt8.toNat_inj] at h
  exact h

theorem seen_mark {seenIds : UInt16} {i j : UInt8} (hi : i ≤ 0x0D) (hj : j ≤ 0x0D) :
    (seenIds ||| idBit i) &&& idBit j = 0 ↔ seenIds &&& idBit j = 0 ∧ i ≠ j := by
  have hd : (seenIds ||| idBit i) &&& idBit j = seenIds &&& idBit j ||| idBit i &&& idBit j :=
    UInt16.toBitVec_inj.mp BitVec.and_or_distrib_right
  rw [hd, UInt16.or_eq_zero_iff, idBit_and_idBit hi hj]

def policyIds : List UInt8 := [1, 2, 3, 4, 5, 6, 7, 8, 9, 10, 11, 12, 13]

theorem QosPolicy.policyId_mem (p : QosPolicy) : p.policyId ∈ policyIds := by
  cases p <;> simp [policyId, policyIds]

theorem QosPolicy.policyId_range (p : QosPolicy) : 0x01 ≤ p.policyId ∧ p.policyId ≤ 0x0D := by
  cases p <;> simp [policyId]

/-- None of `ps` has an id in the mask. -/
def Unseen (seenIds : UInt16) (ps : List QosPolicy) : Prop :=
  ∀ p ∈ ps, seenIds &&& idBit p.policyId = 0

theorem unseen_zero (ps : List QosPolicy) : Unseen 0 ps := fun _ _ => UInt16.zero_and

theorem unseen_mark {seenIds : UInt16} {p : QosPolicy} {ps : List QosPolicy} :
    Unseen (seenIds ||| idBit p.policyId) ps ↔
      Unseen seenIds ps ∧ p.policyId ∉ ps.map QosPolicy.policyId := by
  have h : ∀ q : QosPolicy, (seenIds ||| idBit p.policyId) &&& idBit q.policyId = 0 ↔
      seenIds &&& idBit q.policyId = 0 ∧ p.policyId ≠ q.policyId :=
    fun q => seen_mark p.policyId_range.2 q.policyId_range.2
  simp only [Unseen, h, List.mem_map, not_exists, not_and]
  constructor
  · intro hq
    exact ⟨fun q hm => (hq q hm).1, fun q hm he => (hq q hm).2 he.symm⟩
  · rintro ⟨h1, h2⟩ q hm
    exact ⟨h1 q hm, fun he => h2 q hm he.symm⟩

/-! ## One policy -/

theorem reads_readKind {name : String} {max kind : UInt8} (hk : kind ≤ max) :
    Reads (readKind name max) [kind] kind := by
  refine Reads.ensure (by simp) (Reads.bind_nil (reads_getU8 _) ?_)
  exact Reads.check hk (reads_pure _)

theorem reads_readU32 (value : UInt32) : Reads readU32 (u32le value) value :=
  Reads.ensure (by simp) (reads_getU32le value)

theorem reads_readKindU32 {name : String} {max kind : UInt8} (value : UInt32)
    (policy : UInt8 → UInt32 → QosPolicy) (hk : kind ≤ max) :
    Reads (readKindU32 name max policy) (kind :: u32le value) (policy kind value) := by
  refine Reads.ensure (by simp) (Reads.bind (u := [kind]) (reads_getU8 _) ?_)
  exact Reads.check hk ((reads_getU32le value).bind_nil (reads_pure _))

theorem reads_readPartition {partitions : List String}
    (hp : partitions.length ≤ 255 ∧ ∀ p ∈ partitions, StringFits p) :
    Reads readPartition (UInt8.ofNat partitions.length :: partitions.flatMap writeString)
      (.partition partitions) := by
  have hlen : (UInt8.ofNat partitions.length).toNat = partitions.length := by
    rw [UInt8.toNat_ofNat']
    exact Nat.mod_eq_of_lt (Nat.lt_succ_of_le hp.1)
  refine Reads.ensure (by simp) (Reads.bind (u := [_]) (reads_getU8 _) ?_)
  rw [hlen]
  exact (reads_times partitions fun s hs => reads_readString (hp.2 s hs)).bind_nil (reads_pure _)

theorem reads_parsePolicy {p : QosPolicy} (hp : p.WF) :
    Reads (parsePolicy p.policyId) p.valueBytes p := by
  cases p with
  | reliability kind ms => exact reads_readKindU32 ms _ hp
  | durability kind => exact Reads.map _ (reads_readKind hp)
  | history kind depth => exact reads_readKindU32 depth _ hp
  | deadline ms => exact Reads.map _ (reads_readU32 ms)
  | latencyBudget ms => exact Reads.map _ (reads_readU32 ms)
  | ownershipStrength value => exact Reads.map _ (reads_readU32 value)
  | liveliness kind ms => exact reads_readKindU32 ms _ hp
  | destinationOrder kind => exact Reads.map _ (reads_readKind hp)
  | presentation scope coherent ordered =>
    apply Reads.ensure (by simp [QosPolicy.valueBytes])
    refine Reads.bind (u := [scope]) (reads_getU8 _) (Reads.bind (u := [coherent]) (reads_getU8 _) ?_)
    refine (reads_getU8 _).bind_nil (Reads.check hp.1 ?_)
    exact Reads.check hp.2.1 (Reads.check hp.2.2 (reads_pure _))
  | partition partitions => exact reads_readPartition hp
  | ownership kind => exact Reads.map _ (reads_readKind hp)
  | writerDataLifecycle v =>
    refine Reads.ensure (by simp [QosPolicy.valueBytes]) ((reads_getU8 _).bind_nil ?_)
    exact Reads.check hp (reads_pure _)
  | timeBasedFilter ms => exact Reads.map _ (reads_readU32 ms)

/-! ## The loop over the policies -/

theorem reads_markSeen {seenIds : UInt16} {p : QosPolicy}
    (h : seenIds &&& idBit p.policyId = 0) :
    Reads (markSeen seenIds p.policyId) [] (seenIds ||| idBit p.policyId) := by
  unfold markSeen
  rw [if_pos p.policyId_range]
  exact Reads.check h (reads_pure _)

theorem reads_parsePolicies :
    ∀ (ps : List QosPolicy) (seenIds : UInt16), (ps.map QosPolicy.policyId).Nodup →
      (∀ p ∈ ps, p.WF) → Unseen seenIds ps →
      Reads (parsePolicies ps.length seenIds) (ps.flatMap serializePolicy) ps
  | [], _, _, _, _ => reads_pure []
  | p :: ps, seenIds, hn, hw, hu => by
    rw [List.map_cons, List.nodup_cons] at hn
    have hp := reads_parsePolicy (hw p List.mem_cons_self)
    have hm := reads_markSeen (hu p List.mem_cons_self)
    have hu' : Unseen (seenIds ||| idBit p.policyId) ps :=
      unseen_mark.mpr ⟨fun q hq => hu q (List.mem_cons_of_mem _ hq), hn.1⟩
    have ih := reads_parsePolicies ps _ hn.2 (fun q hq => hw q (List.mem_cons_of_mem _ hq)) hu'
    apply Reads.ensure (by simp [serializePolicy])
    refine Reads.bind (u := [p.policyId]) (reads_getU8 _) (Reads.bind (u := []) hm ?_)
    exact hp.bind (ih.bind_nil (reads_pure _))

theorem length_le_of_nodup {ps : List QosPolicy} (h : (ps.map QosPolicy.policyId).Nodup) : ps.length ≤ 13 := by
  have hsub : ps.map QosPolicy.policyId ⊆ policyIds := by
    intro i hi
    obtain ⟨p, -, rfl⟩ := List.mem_map.mp hi
    exact p.policyId_mem
  have hle := (h.subperm hsub).length_le
  rwa [List.length_map] at hle

theorem QosSet.WF.length_le {qos : QosSet} (h : qos.WF) : qos.policies.length ≤ 13 := length_le_of_nodup h.nodup

theorem reads_parseQos {qos : QosSet} (h : qos.WF) : Reads parseQos (serializeQos qos) qos := by
  have hlen : (UInt8.ofNat qos.policies.length).toNat = qos.policies.length := by
    rw [UInt8.toNat_ofNat']
    exact Nat.mod_eq_of_lt (Nat.lt_of_le_of_lt h.length_le (by decide))
  refine Reads.ensure (by simp [serializeQos]) (Reads.bind (u := [_]) (reads_getU8 _) ?_)
  rw [hlen]
  exact (reads_parsePolicies _ 0 h.nodup h.policies (unseen_zero _)).bind_nil (reads_pure _)

theorem serializeQos_inj {a b : QosSet} (ha : a.WF) (hb : b.WF)
    (h : serializeQos a = serializeQos b) : a = b := by
  have h1 := reads_parseQos ha []
  rw [h, reads_parseQos hb []] at h1
  simp only [Res.ok.injEq, Prod.mk.injEq, and_true] at h1
  exact h1.symm

/-! ## What the parser accepts -/

theorem consumes_readKind (name : String) (max : UInt8) :
    Consumes (readKind name max) fun kind u => kind ≤ max ∧ u = [kind] := by
  refine Consumes.ensure (consumes_getU8.bind fun kind u hu => Consumes.check fun hk => ?_)
  refine (consumes_pure _).mono fun a v hv => ?_
  obtain ⟨rfl, rfl⟩ := hv
  exact ⟨hk, by rw [hu, List.append_nil]⟩

theorem consumes_readU32 : Consumes readU32 fun value u => u = u32le value :=
  Consumes.ensure consumes_getU32le

theorem consumes_readKindU32 (name : String) (max : UInt8) (policy : UInt8 → UInt32 → QosPolicy) :
    Consumes (readKindU32 name max policy) fun p u =>
      ∃ kind value, kind ≤ max ∧ p = policy kind value ∧ u = kind :: u32le value := by
  refine Consumes.ensure (consumes_getU8.bind fun kind u hu => Consumes.check fun hk => ?_)
  refine consumes_getU32le.bind fun value v hv => (consumes_pure _).mono fun a w hw => ?_
  obtain ⟨rfl, rfl⟩ := hw
  exact ⟨kind, value, hk, rfl, by simp [hu, hv]⟩

theorem consumes_readPresentation : Consumes readPresentation fun p u =>
    ∃ scope coherent ordered, scope ≤ 2 ∧ coherent ≤ 1 ∧ ordered ≤ 1 ∧
      p = .presentation scope coherent ordered ∧ u = [scope, coherent, ordered] := by
  refine Consumes.ensure (consumes_getU8.bind fun scope u hu => ?_)
  refine consumes_getU8.bind fun coherent v hv => consumes_getU8.bind fun ordered w hw => ?_
  refine Consumes.check fun h1 => Consumes.check fun h2 => Consumes.check fun h3 => ?_
  refine (consumes_pure _).mono fun p x hx => ?_
  obtain ⟨rfl, rfl⟩ := hx
  exact ⟨scope, coherent, ordered, h1, h2, h3, rfl, by simp [hu, hv, hw]⟩

theorem consumes_readPartition : Consumes readPartition fun p u =>
    ∃ partitions : List String, partitions.length ≤ 255 ∧ (∀ s ∈ partitions, StringFits s) ∧
      p = .partition partitions ∧
      u = UInt8.ofNat partitions.length :: partitions.flatMap writeString := by
  refine Consumes.ensure (consumes_getU8.bind fun count u hu => ?_)
  refine (consumes_times consumes_readString _).bind fun partitions v hv => ?_
  refine (consumes_pure _).mono fun p w hw => ?_
  obtain ⟨rfl, rfl⟩ := hw
  obtain ⟨hlen, hs, rfl⟩ := hv
  have hc := count.toNat_lt
  have hcount : UInt8.ofNat partitions.length = count := by rw [hlen, UInt8.ofNat_toNat]
  exact ⟨partitions, by omega, hs, rfl, by simp [hu, hcount]⟩

theorem consumes_readAutodispose : Consumes readAutodispose fun p u =>
    ∃ v, v ≤ 1 ∧ p = .writerDataLifecycle v ∧ u = [v] := by
  refine Consumes.ensure (consumes_getU8.bind fun v u hu => Consumes.check fun hv => ?_)
  refine (consumes_pure _).mono fun p w hw => ?_
  obtain ⟨rfl, rfl⟩ := hw
  exact ⟨v, hv, rfl, by rw [hu, List.append_nil]⟩

theorem consumes_parsePolicy (i : UInt8) :
    Consumes (parsePolicy i) fun p u => p.WF ∧ p.policyId = i ∧ u = p.valueBytes := by
  unfold parsePolicy
  split
  · refine (consumes_readKindU32 _ _ _).mono fun p u h => ?_
    obtain ⟨kind, ms, hk, rfl, rfl⟩ := h
    exact ⟨hk, rfl, rfl⟩
  · refine (Consumes.map _ (consumes_readKind _ _)).mono fun p u h => ?_
    obtain ⟨kind, rfl, hk, rfl⟩ := h
    exact ⟨hk, rfl, rfl⟩
  · refine (consumes_readKindU32 _ _ _).mono fun p u h => ?_
    obtain ⟨kind, depth, hk, rfl, rfl⟩ := h
    exact ⟨hk, rfl, rfl⟩
  · refine (Consumes.map _ consumes_readU32).mono fun p u h => ?_
    obtain ⟨ms, rfl, rfl⟩ := h
    exact ⟨trivial, rfl, rfl⟩
  · refine (Consumes.map _ consumes_readU32).mono fun p u h => ?_
    obtain ⟨ms, rfl, rfl⟩ := h
    exact ⟨trivial, rfl, rfl⟩
  · refine (Consumes.map _ consumes_readU32).mono fun p u h => ?_
    obtain ⟨value, rfl, rfl⟩ := h
    exact ⟨trivial, rfl, rfl⟩
  · refine (consumes_readKindU32 _ _ _).mono fun p u h => ?_
    obtain ⟨kind, ms, hk, rfl, rfl⟩ := h
    exact ⟨hk, rfl, rfl⟩
  · refine (Consumes.map _ (consumes_readKind _ _)).mono fun p u h => ?_
    obtain ⟨kind, rfl, hk, rfl⟩ := h
    exact ⟨hk, rfl, rfl⟩
  · refine consumes_readPresentation.mono fun p u h => ?_
    obtain ⟨scope, coherent, ordered, h1, h2, h3, rfl, rfl⟩ := h
    exact ⟨⟨h1, h2, h3⟩, rfl, rfl⟩
  · refine consumes_readPartition.mono fun p u h => ?_
    obtain ⟨partitions, hlen, hs, rfl, rfl⟩ := h
    exact ⟨⟨hlen, hs⟩, rfl, rfl⟩
  · refine (Consumes.map _ (consumes_readKind _ _)).mono fun p u h => ?_
    obtain ⟨kind, rfl, hk, rfl⟩ := h
    exact ⟨hk, rfl, rfl⟩
  · refine consumes_readAutodispose.mono fun p u h => ?_
    obtain ⟨v, hv, rfl, rfl⟩ := h
    exact ⟨hv, rfl, rfl⟩
  · refine (Consumes.map _ consumes_readU32).mono fun p u h => ?_
    obtain ⟨ms, rfl, rfl⟩ := h
    exact ⟨trivial, rfl, rfl⟩
  · intro s p t h
    cases h

theorem consumes_markSeen (seenIds : UInt16) (p : QosPolicy) :
    Consumes (markSeen seenIds p.policyId) fun m u =>
      seenIds &&& idBit p.policyId = 0 ∧ m = seenIds ||| idBit p.policyId ∧ u = [] := by
  unfold markSeen
  rw [if_pos p.policyId_range]
  refine Consumes.check fun h => (consumes_pure _).mono fun m u hm => ?_
  exact ⟨h, hm.1, hm.2⟩

theorem consumes_parsePolicies :
    ∀ (n : Nat) (seenIds : UInt16), Consumes (parsePolicies n seenIds) fun ps u =>
      ps.length = n ∧ (ps.map QosPolicy.policyId).Nodup ∧ (∀ p ∈ ps, p.WF) ∧ Unseen seenIds ps ∧
        u = ps.flatMap serializePolicy
  | 0, _ => (consumes_pure []).mono fun ps u h => by
    obtain ⟨rfl, rfl⟩ := h
    exact ⟨rfl, List.nodup_nil, by simp, by simp [Unseen], rfl⟩
  | n + 1, seenIds => by
    intro s ps t h
    obtain ⟨_, _, h0, h⟩ := Prog.bind_eq_ok.mp h
    obtain ⟨-, rfl⟩ := Prog.require_eq_ok.mp h0
    obtain ⟨i, s1, h1, h⟩ := Prog.bind_eq_ok.mp h
    obtain ⟨m, s2, h2, h⟩ := Prog.bind_eq_ok.mp h
    obtain ⟨p, s3, h3, h⟩ := Prog.bind_eq_ok.mp h
    obtain ⟨qs, s4, h4, h⟩ := Prog.bind_eq_ok.mp h
    obtain ⟨rfl, rfl⟩ := Prog.pure_eq_ok.mp h
    obtain ⟨u1, rfl, rfl⟩ := consumes_getU8 _ _ _ h1
    obtain ⟨u3, rfl, hw, rfl, rfl⟩ := consumes_parsePolicy _ _ _ _ h3
    obtain ⟨u2, rfl, hs, rfl, rfl⟩ := consumes_markSeen seenIds p _ _ _ h2
    obtain ⟨u4, rfl, hlen, hn, hwf, hu, rfl⟩ := consumes_parsePolicies n _ _ _ _ h4
    obtain ⟨hu, hp⟩ := unseen_mark.mp hu
    refine ⟨(p :: qs).flatMap serializePolicy, by simp [serializePolicy], by simp [hlen], ?_, ?_, ?_, rfl⟩
    · exact List.nodup_cons.mpr ⟨hp, hn⟩
    · exact List.forall_mem_cons.mpr ⟨hw, hwf⟩
    · exact List.forall_mem_cons.mpr ⟨hs, hu⟩

theorem consumes_parseQos : Consumes parseQos fun qos u => qos.WF ∧ u = serializeQos qos := by
  refine Consumes.ensure (consumes_getU8.bind fun count u hu => ?_)
  refine (consumes_parsePolicies _ 0).bind fun ps v hv => (consumes_pure _).mono fun qos w hw => ?_
  obtain ⟨rfl, rfl⟩ := hw
  obtain ⟨hlen, hn, hwf, -, rfl⟩ := hv
  have hcount : UInt8.ofNat ps.length = count := by rw [hlen, UInt8.ofNat_toNat]
  exact ⟨⟨hn, hwf⟩, by simp [hu, serializeQos, hcount]⟩

/-! ## No read leaves the buffer -/

theorem needs_readKind (name : String) (max : UInt8) : Needs 0 (readKind name max) :=
  Needs.ensure (Needs.getU8 fun _ => Needs.check fun _ => needs_pure 0 _)

theorem needs_readU32 : Needs 0 readU32 := by
  apply Needs.ensure
  have h := Needs.getU32le (ε := ProtocolError) (n := 0) (f := pure) fun a => needs_pure 0 a
  rwa [bind_pure] at h

theorem needs_readKindU32 (name : String) (max : UInt8) (policy : UInt8 → UInt32 → QosPolicy) :
    Needs 0 (readKindU32 name max policy) :=
  Needs.ensure (Needs.getU8 fun _ => Needs.check fun _ => Needs.getU32le fun _ => needs_pure 0 _)

theorem needs_parsePolicy (i : UInt8) : Needs 0 (parsePolicy i) := by
  unfold parsePolicy
  split
  · exact needs_readKindU32 _ _ _
  · exact (needs_readKind _ _).map _
  · exact needs_readKindU32 _ _ _
  · exact needs_readU32.map _
  · exact needs_readU32.map _
  · exact needs_readU32.map _
  · exact needs_readKindU32 _ _ _
  · exact (needs_readKind _ _).map _
  · refine Needs.ensure (Needs.getU8 fun _ => Needs.getU8 fun _ => Needs.getU8 fun _ => ?_)
    exact Needs.check fun _ => Needs.check fun _ => Needs.check fun _ => needs_pure 0 _
  · refine Needs.ensure (Needs.getU8 fun _ => ?_)
    exact (needs_readString.times _).bind fun _ => needs_pure 0 _
  · exact (needs_readKind _ _).map _
  · exact Needs.ensure (Needs.getU8 fun _ => Needs.check fun _ => needs_pure 0 _)
  · exact needs_readU32.map _
  · exact needs_throw 0 _

theorem needs_markSeen (seenIds : UInt16) (i : UInt8) : Needs 0 (markSeen seenIds i) := by
  unfold markSeen
  split
  · exact Needs.check fun _ => needs_pure 0 _
  · exact needs_pure 0 _

theorem needs_parsePolicies : ∀ n seenIds, Needs 0 (parsePolicies n seenIds)
  | 0, _ => needs_pure 0 _
  | n + 1, seenIds => by
    refine Needs.ensure (Needs.getU8 fun i => (needs_markSeen seenIds i).bind fun m => ?_)
    exact (needs_parsePolicy i).bind fun p => (needs_parsePolicies n m).bind fun _ => needs_pure 0 _

theorem needs_parseQos : Needs 0 parseQos :=
  Needs.ensure (Needs.getU8 fun _ => (needs_parsePolicies _ 0).bind fun _ => needs_pure 0 _)

end DdsBridge
