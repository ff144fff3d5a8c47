import DdsBridge.GoAgree

/-!
# Lists longer than their counts

Key descriptors and partition names are written behind a count of one byte, whatever their number. The parser
reads as many as the byte says; what the others become depends on what follows.
-/

namespace DdsBridge

open Cursor

/-! ## Values in range, in any number -/

def QosPolicy.InRange : QosPolicy → Prop
  | .partition partitions => ∀ p ∈ partitions, StringFits p
  | p => p.WF

/-- The names can be counted. -/
def QosPolicy.Countable : QosPolicy → Prop
  | .partition partitions => partitions.length ≤ 255
  | _ => True

theorem QosPolicy.wf_iff {p : QosPolicy} : p.WF ↔ p.InRange ∧ p.Countable := by
  cases p with
  | partition partitions => exact and_comm
  | _ => exact (and_true _).symm.to_iff

structure QosSet.InRange (qos : QosSet) : Prop where
  nodup : (qos.policies.map QosPolicy.policyId).Nodup
  policies : ∀ p ∈ qos.policies, p.InRange

def QosSet.Countable (qos : QosSet) : Prop := ∀ p ∈ qos.policies, p.Countable

theorem QosSet.InRange.wf {qos : QosSet} (h : qos.InRange) (hf : qos.Countable) : qos.WF where
  nodup := h.nodup
  policies p hp := QosPolicy.wf_iff.mpr ⟨h.policies p hp, hf p hp⟩

theorem QosSet.WF.countable {qos : QosSet} (h : qos.WF) : qos.Countable :=
  fun p hp => (QosPolicy.wf_iff.mp (h.policies p hp)).2

theorem QosPolicy.countable_of_id {p : QosPolicy} (h : p.policyId ≠ 0x0A) : p.Countable := by
  cases p with
  | partition partitions => exact absurd rfl h
  | _ => trivial

/-- The Partition with too many names, and the policies on its two sides. -/
theorem QosSet.InRange.split {qos : QosSet} (h : qos.InRange) (hf : ¬ qos.Countable) :
    ∃ before names after, qos.policies = before ++ .partition names :: after ∧ 255 < names.length ∧
      (∀ p ∈ before, p.WF) := by
  obtain ⟨p, hp, hlong⟩ : ∃ p ∈ qos.policies, ¬ p.Countable := by
    by_contra hall
    exact hf fun p hp => Classical.not_not.mp fun hn => hall ⟨p, hp, hn⟩
  cases p with
  | partition names =>
    obtain ⟨before, after, hsplit⟩ := List.append_of_mem hp
    refine ⟨before, names, after, hsplit, Nat.lt_of_not_le hlong, fun q hq => QosPolicy.wf_iff.mpr ⟨?_, ?_⟩⟩
    · exact h.policies q (hsplit ▸ List.mem_append_left _ hq)
    · -- the ids differ, so there is no other Partition
      have hnodup := h.nodup
      rw [hsplit, List.map_append, List.map_cons] at hnodup
      refine QosPolicy.countable_of_id fun hid => ?_
      exact (List.nodup_append.mp hnodup).2.2 _ (List.mem_map_of_mem hq) _ List.mem_cons_self hid
  | _ => exact absurd trivial hlong

/-! ## What the bytes behind the names are read as -/

/-- The names that a Partition's count leaves out, and all that follows, begin with as many policies as the count
of the set leaves to be read, with an `Ending` behind them. -/
def Misread (qos : QosSet) (tail : Bytes) (Ending : Bytes → Prop) : Prop :=
  ∃ before names after others ending, qos.policies = before ++ .partition names :: after ∧ 255 < names.length ∧
    others.length = after.length ∧
    QosSet.WF ⟨before ++ .partition (names.take (names.length % 256)) :: others⟩ ∧
    (names.drop (names.length % 256)).flatMap writeString ++ (after.flatMap serializePolicy ++ tail) =
      others.flatMap serializePolicy ++ ending ∧
    Ending ending

theorem not_countable_of_misread {qos : QosSet} {tail : Bytes} {Ending : Bytes → Prop} (h : Misread qos tail Ending) :
    ¬ qos.Countable := by
  obtain ⟨before, names, after, _, _, hsplit, hlong, _⟩ := h
  intro hf
  have hnames : names.length ≤ 255 := hf (.partition names) (hsplit ▸ List.mem_append_right _ List.mem_cons_self)
  omega

theorem take_mod_length {α : Type} (as : List α) (n : Nat) : (as.take (as.length % n)).length = as.length % n := by
  rw [List.length_take]
  exact Nat.min_eq_left (Nat.mod_le _ _)

theorem ofNat_take_mod {α : Type} (as : List α) :
    UInt8.ofNat (as.take (as.length % 256)).length = UInt8.ofNat as.length := by
  apply UInt8.toNat_inj.mp
  rw [UInt8.toNat_ofNat', UInt8.toNat_ofNat', take_mod_length]
  exact Nat.mod_mod _ _

theorem flatMap_take_drop {α : Type} (as : List α) (n : Nat) (enc : α → Bytes) :
    as.flatMap enc = (as.take n).flatMap enc ++ (as.drop n).flatMap enc := by
  rw [← List.flatMap_append, List.take_append_drop]

theorem reads_policy {p : QosPolicy} (hp : p.WF) :
    Reads (Cursor.getU8 >>= parsePolicy) (serializePolicy p) p :=
  Reads.bind (u := [p.policyId]) (reads_getU8 _) (reads_parsePolicy hp)

/-- A list whose count is a byte begins with the elements that the byte counts, in any reading. -/
theorem counted_unique {α : Type} {p : Cursor ProtocolError α} {enc : α → Bytes} {as bs : List α} {x y : Bytes}
    (ha : ∀ a ∈ as, Reads p (enc a) a) (hb : ∀ b ∈ bs, Reads p (enc b) b) (hlen : bs.length ≤ 255)
    (h : UInt8.ofNat as.length :: (as.flatMap enc ++ x) = UInt8.ofNat bs.length :: (bs.flatMap enc ++ y)) :
    bs = as.take (as.length % 256) ∧ y = (as.drop (as.length % 256)).flatMap enc ++ x := by
  obtain ⟨hcount, hrest⟩ := List.cons.inj h
  have hlength : bs.length = as.length % 256 := by
    have hnat := congrArg UInt8.toNat hcount
    rw [UInt8.toNat_ofNat', UInt8.toNat_ofNat'] at hnat
    exact (Nat.mod_eq_of_lt (Nat.lt_succ_of_le hlen)).symm.trans hnat.symm
  rw [flatMap_take_drop as (as.length % 256), List.append_assoc] at hrest
  obtain ⟨htake, htail⟩ := unique_of_length (fun a h => ha a (List.mem_of_mem_take h)) hb
    ((take_mod_length as 256).trans hlength.symm) hrest
  exact ⟨htake.symm, htail.symm⟩

theorem partition_unique {names : List String} (hs : ∀ s ∈ names, StringFits s) {q : QosPolicy} (hq : q.WF)
    {x y : Bytes} (h : serializePolicy (.partition names) ++ x = serializePolicy q ++ y) :
    q = .partition (names.take (names.length % 256)) ∧
      y = (names.drop (names.length % 256)).flatMap writeString ++ x := by
  obtain ⟨hid, hrest⟩ := List.cons.inj h
  cases q with
  | partition strings =>
    obtain ⟨rfl, htail⟩ := counted_unique (fun s h => reads_readString (hs s h))
      (fun s h => reads_readString (hq.2 s h)) hq.1 hrest
    exact ⟨rfl, htail⟩
  | _ => simp [QosPolicy.policyId] at hid

/-- Any reading of a set agrees with what was written up to the Partition. -/
theorem policies_unique {names : List String} (hs : ∀ s ∈ names, StringFits s) {after : List QosPolicy} {x y : Bytes}
    {before ps : List QosPolicy} (hbefore : ∀ p ∈ before, p.WF) (hps : ∀ p ∈ ps, p.WF)
    (hlen : (before ++ .partition names :: after).length = ps.length)
    (h : (before ++ .partition names :: after).flatMap serializePolicy ++ x = ps.flatMap serializePolicy ++ y) :
    ∃ others, ps = before ++ .partition (names.take (names.length % 256)) :: others ∧ others.length = after.length ∧
      (names.drop (names.length % 256)).flatMap writeString ++ (after.flatMap serializePolicy ++ x) =
        others.flatMap serializePolicy ++ y := by
  induction before generalizing ps with
  | nil =>
    cases ps with
    | nil => cases hlen
    | cons q others =>
      rw [List.nil_append, List.flatMap_cons, List.flatMap_cons, List.append_assoc, List.append_assoc] at h
      obtain ⟨rfl, htail⟩ := partition_unique hs (hps q List.mem_cons_self) h
      exact ⟨others, rfl, (Nat.succ.inj hlen).symm, htail.symm⟩
  | cons p before ih =>
    cases ps with
    | nil => cases hlen
    | cons q ps =>
      rw [List.cons_append, List.flatMap_cons, List.flatMap_cons, List.append_assoc, List.append_assoc] at h
      obtain ⟨rfl, hrest⟩ := (reads_policy (hbefore p List.mem_cons_self)).unique
        (reads_policy (hps q List.mem_cons_self)) h
      obtain ⟨others, rfl, hothers, htail⟩ := ih (fun p h => hbefore p (List.mem_cons_of_mem _ h))
        (fun p h => hps p (List.mem_cons_of_mem _ h)) (Nat.succ.inj hlen) hrest
      exact ⟨others, rfl, hothers, htail⟩

theorem misread_iff {qos : QosSet} (h : qos.InRange) {tail : Bytes} {Ending : Bytes → Prop} :
    Misread qos tail Ending ↔ ¬ qos.Countable ∧
      ∃ qos' ending, QosSet.WF qos' ∧ serializeQos qos ++ tail = serializeQos qos' ++ ending ∧ Ending ending := by
  constructor
  · intro hm
    refine ⟨not_countable_of_misread hm, ?_⟩
    obtain ⟨before, names, after, others, ending, hsplit, -, hlen, hwf, hbytes, hending⟩ := hm
    refine ⟨_, ending, hwf, ?_, hending⟩
    have hcount : qos.policies.length =
        (before ++ .partition (names.take (names.length % 256)) :: others).length := by
      rw [hsplit, List.length_append, List.length_append, List.length_cons, List.length_cons, hlen]
    have hnames : serializePolicy (.partition names) =
        serializePolicy (.partition (names.take (names.length % 256))) ++
          (names.drop (names.length % 256)).flatMap writeString := by
      simp only [serializePolicy, QosPolicy.policyId, QosPolicy.valueBytes, ofNat_take_mod, List.cons_append]
      rw [← flatMap_take_drop]
    rw [serializeQos, serializeQos, hcount, hsplit]
    simp only [List.flatMap_append, List.flatMap_cons, hnames, List.cons_append, List.append_assoc, hbytes]
  · rintro ⟨hf, qos', ending, hwf, hbytes, hending⟩
    obtain ⟨before, names, after, hsplit, hlong, hbefore⟩ := h.split hf
    have hstrings := h.policies (.partition names) (hsplit ▸ List.mem_append_right _ List.mem_cons_self)
    obtain ⟨hcount, hrest⟩ := List.cons.inj hbytes
    have hlength : qos.policies.length = qos'.policies.length := by
      have hnat := congrArg UInt8.toNat hcount
      have hle := length_le_of_nodup h.nodup
      have hle' := hwf.length_le
      rw [UInt8.toNat_ofNat', UInt8.toNat_ofNat'] at hnat
      omega
    rw [hsplit] at hlength hrest
    obtain ⟨others, hpolicies, hothers, htail⟩ := policies_unique hstrings hbefore hwf.policies hlength hrest
    exact ⟨before, names, after, others, ending, hsplit, hlong, hothers, hpolicies ▸ hwf, htail, hending⟩

/-! ## Requests -/

/-- Rejected, or parsed to the same request. -/
def Kept {α : Type} (parsed : Res ProtocolError α) (same : α → Prop) : Prop :=
  (∃ e, parsed = .err e) ∨ ∃ p, parsed = .ok p ∧ same p

theorem kept_iff {α : Type} {parsed : Res ProtocolError α} (hp : parsed ≠ .panic) {same : α → Prop} :
    Kept parsed same ↔ ∀ p, parsed = .ok p → same p := by
  cases parsed with
  | ok p =>
    refine ⟨fun h q hq => ?_, fun h => .inr ⟨p, rfl, h p rfl⟩⟩
    rcases h with ⟨e, he⟩ | ⟨r, hr, hsame⟩
    · cases he
    · exact Res.ok.inj (hr.symm.trans hq) ▸ hsame
  | err e => exact ⟨fun _ _ => nofun, fun _ => .inl ⟨e, rfl⟩⟩
  | panic => exact absurd rfl hp

theorem kept_congr {α : Type} {parsed : Res ProtocolError α} {same same' : α → Prop}
    (h : ∀ p, parsed = .ok p → (same p ↔ same' p)) : Kept parsed same ↔ Kept parsed same' :=
  or_congr_right (exists_congr fun p => and_congr_right (h p))

/-- `is_keyed` and key descriptors with nothing behind them. -/
def EndpointEnding (b : Bytes) : Prop :=
  ∃ (flag : UInt8) (keys : KeyDescriptors), keys.Fits ∧ b = [flag] ++ serializeKeyDescriptors keys

/-- Key descriptors and data. -/
def WriteEnding (b : Bytes) : Prop :=
  ∃ (keys : KeyDescriptors) (data : Bytes), keys.Fits ∧ b = serializeKeyDescriptors keys ++ data

theorem serializeKeyDescriptors_inj {keys keys' : KeyDescriptors}
    (h : serializeKeyDescriptors keys = serializeKeyDescriptors keys') : keys = keys' := by
  have hne : ∀ key : KeyField, serializeKeyField key ≠ [] := fun key h => by
    simpa [serializeKeyField] using congrArg List.length h
  have hkeys := unique_of_ne_nil hne (fun k _ => reads_parseKeyField k) (fun k _ => reads_parseKeyField k)
    (List.cons.inj h).2
  cases keys
  cases keys'
  exact congrArg KeyDescriptors.mk hkeys

section
variable {topic type : String} {qos : QosSet} {keys : KeyDescriptors}

theorem endpoint_kept_iff {α : Type} (mk : String → String → QosSet → Bool → KeyDescriptors → α)
    (hmk : ∀ t T q k ks q' k' ks', mk t T q k ks = mk t T q' k' ks' → q = q')
    (hpanic : ∀ b, (readEndpoint mk).eval b ≠ .panic)
    (ht : StringFits topic) (hT : StringFits type) (hq : qos.InRange) (isKeyed : Bool) :
    Kept ((readEndpoint mk).eval (endpointBytes topic type qos isKeyed keys))
        (fun p => p = mk topic type qos isKeyed keys) ↔
      ¬ Misread qos ([if isKeyed then 1 else 0] ++ serializeKeyDescriptors keys) EndpointEnding := by
  rw [kept_iff (hpanic _)]
  constructor
  · intro h hm
    obtain ⟨hf, qos', ending, hwf, hbytes, flag, keys', hk, rfl⟩ := (misread_iff hq).mp hm
    have hread := readEndpoint_flaggedBytes mk flag ⟨ht, hT, hwf, hk⟩
    rw [flaggedBytes, ← hbytes] at hread
    have hsame := hmk _ _ _ _ _ _ _ _ (h _ hread)
    exact hf (hsame ▸ hwf.countable)
  · intro hm p hp
    obtain ⟨topic', type', qos', flag, keys', rfl, ⟨ht', hT', hq', hk'⟩, hbytes⟩ := (covers_readEndpoint mk).eval hp
    obtain ⟨rfl, htypes⟩ := (reads_readString ht).unique (reads_readString ht') hbytes
    obtain ⟨rfl, hsets⟩ := (reads_readString hT).unique (reads_readString hT') htypes
    by_cases hf : qos.Countable
    · obtain ⟨rfl, hendings⟩ := (reads_parseQos (hq.wf hf)).unique (reads_parseQos hq') hsets
      obtain ⟨hflag, hkeys⟩ := List.cons.inj hendings
      rw [serializeKeyDescriptors_inj hkeys, ← hflag]
      cases isKeyed with
      | false => rfl
      | true => rfl
    · exact absurd ((misread_iff hq).mpr ⟨hf, qos', _, hq', hsets, flag, keys', hk', rfl⟩) hm

/-- The key descriptors that the count leaves out are data. -/
theorem serializeWriteMode_short (data : Bytes) :
    serializeWriteMode (.topicName topic type qos keys data) =
      serializeWriteMode (.topicName topic type qos ⟨keys.keys.take (keys.keys.length % 256)⟩
        ((keys.keys.drop (keys.keys.length % 256)).flatMap serializeKeyField ++ data)) := by
  simp only [serializeWriteMode, serializeKeyDescriptors, ofNat_take_mod, List.cons_append]
  rw [← List.append_assoc (List.flatMap _ (keys.keys.take _)), ← flatMap_take_drop]

theorem short_fits (keys : List KeyField) : KeyDescriptors.Fits ⟨keys.take (keys.length % 256)⟩ := by
  have hmod : keys.length % 256 < 256 := Nat.mod_lt _ (by decide)
  have hlen := take_mod_length keys 256
  change (keys.take (keys.length % 256)).length ≤ 255
  omega

theorem topicName_kept_iff (ht : StringFits topic) (hT : StringFits type) (hq : qos.InRange) (data : Bytes) :
    Kept (parseWriteMode (serializeWriteMode (.topicName topic type qos keys data)))
        (fun mode => mode = .topicName topic type qos keys data) ↔
      ¬ Misread qos (serializeKeyDescriptors keys ++ data) WriteEnding ∧ (qos.Countable → keys.Fits) := by
  rw [kept_iff (parseWriteMode_ne_panic _)]
  constructor
  · refine fun h => ⟨fun hm => ?_, fun hf => ?_⟩
    · obtain ⟨hf, qos', ending, hwf, hbytes, keys', data', hk, rfl⟩ := (misread_iff hq).mp hm
      have hread := writeMode_undoes (.topicName topic type qos' keys' data') ⟨ht, hT, hwf, hk⟩
      rw [serializeWriteMode, ← hbytes] at hread
      have hsame := h _ hread
      cases hsame
      exact hf hwf.countable
    · have hread := writeMode_undoes (.topicName topic type qos _
        ((keys.keys.drop (keys.keys.length % 256)).flatMap serializeKeyField ++ data))
        ⟨ht, hT, hq.wf hf, short_fits keys.keys⟩
      rw [← serializeWriteMode_short] at hread
      have hkeys : (⟨keys.keys.take (keys.keys.length % 256)⟩ : KeyDescriptors) = keys :=
        (WriteMode.topicName.inj (h _ hread)).2.2.2.1
      exact hkeys ▸ short_fits keys.keys
  · rintro ⟨hm, hkeys⟩ mode hmode
    obtain ⟨hwf, hbytes⟩ := (writeMode_canonical _ mode).mp hmode
    cases mode with
    | writerId id keyBytes data' => cases (List.cons.inj hbytes).1
    | topicName topic' type' qos' keys' data' =>
      obtain ⟨ht', hT', hq', hk'⟩ := hwf
      obtain ⟨rfl, htypes⟩ := (reads_readString ht).unique (reads_readString ht') (List.cons.inj hbytes).2.symm
      obtain ⟨rfl, hsets⟩ := (reads_readString hT).unique (reads_readString hT') htypes
      by_cases hf : qos.Countable
      · obtain ⟨rfl, hendings⟩ := (reads_parseQos (hq.wf hf)).unique (reads_parseQos hq') hsets
        obtain ⟨rfl, rfl⟩ := (reads_parseKeyDescriptors (hkeys hf)).unique (reads_parseKeyDescriptors hk') hendings
        rfl
      · exact absurd ((misread_iff hq).mpr ⟨hf, qos', _, hq', hsets, keys', data', hk', rfl⟩) hm

theorem writerId_kept_iff (id : UInt32) (keyBytes data : Bytes) :
    Kept (parseWriteMode (serializeWriteMode (.writerId id keyBytes data)))
        (fun mode => mode = .writerId id keyBytes data) ↔
      keyBytes.length < 2 ^ 32 := by
  constructor
  · intro h
    have hlen : (keyBytes.take (keyBytes.length % 2 ^ 32)).length < 2 ^ 32 := by
      rw [take_mod_length]
      exact Nat.mod_lt _ (by decide)
    have hread := writeMode_undoes (.writerId id _ (keyBytes.drop (keyBytes.length % 2 ^ 32) ++ data)) hlen
    have hbytes : serializeWriteMode (.writerId id (keyBytes.take (keyBytes.length % 2 ^ 32))
        (keyBytes.drop (keyBytes.length % 2 ^ 32) ++ data)) = serializeWriteMode (.writerId id keyBytes data) := by
      have hcount : UInt32.ofNat (keyBytes.length % 2 ^ 32) = UInt32.ofNat keyBytes.length := by
        apply UInt32.toNat_inj.mp
        rw [UInt32.toNat_ofNat', UInt32.toNat_ofNat']
        exact Nat.mod_mod _ _
      rw [serializeWriteMode, serializeWriteMode, take_mod_length, hcount, ← List.append_assoc (List.take _ _),
        List.take_append_drop]
    rw [hbytes] at hread
    have hsame := (kept_iff (parseWriteMode_ne_panic _)).mp h _ hread
    have hkeys : keyBytes.take (keyBytes.length % 2 ^ 32) = keyBytes := (WriteMode.writerId.inj hsame).2.1
    rwa [hkeys] at hlen
  · exact fun hlen => .inr ⟨_, writeMode_undoes (.writerId id keyBytes data) hlen, rfl⟩

end

def SubscribePayload.InRange (p : SubscribePayload) : Prop :=
  StringFits p.topicName ∧ StringFits p.typeName ∧ p.qos.InRange

def CreateWriterPayload.InRange (p : CreateWriterPayload) : Prop :=
  StringFits p.topicName ∧ StringFits p.typeName ∧ p.qos.InRange

def WriteMode.InRange : WriteMode → Prop
  | .topicName topic type qos _ _ => StringFits topic ∧ StringFits type ∧ qos.InRange
  | .writerId .. => True

/-- More than 255 key descriptors are noticed: they leave bytes behind the payload. -/
def SubscribePayload.Counted (p : SubscribePayload) : Prop :=
  ¬ Misread p.qos ([if p.isKeyed then 1 else 0] ++ serializeKeyDescriptors p.keyDescriptors) EndpointEnding

def CreateWriterPayload.Counted (p : CreateWriterPayload) : Prop :=
  ¬ Misread p.qos ([if p.isKeyed then 1 else 0] ++ serializeKeyDescriptors p.keyDescriptors) EndpointEnding

def WriteMode.Counted : WriteMode → Prop
  | .topicName _ _ qos keys data =>
    ¬ Misread qos (serializeKeyDescriptors keys ++ data) WriteEnding ∧ (qos.Countable → keys.Fits)
  | .writerId _ keyBytes _ => keyBytes.length < 2 ^ 32

theorem subscribe_kept_iff {p : SubscribePayload} (h : p.InRange) :
    Kept (parseSubscribe (serializeSubscribe p)) (fun p' => p' = p) ↔ p.Counted :=
  endpoint_kept_iff SubscribePayload.mk (fun _ _ _ _ _ _ _ _ h => (SubscribePayload.mk.inj h).2.2.1)
    parseSubscribe_ne_panic h.1 h.2.1 h.2.2 p.isKeyed

theorem createWriter_kept_iff {p : CreateWriterPayload} (h : p.InRange) :
    Kept (parseCreateWriter (serializeCreateWriter p)) (fun p' => p' = p) ↔ p.Counted :=
  endpoint_kept_iff CreateWriterPayload.mk (fun _ _ _ _ _ _ _ _ h => (CreateWriterPayload.mk.inj h).2.2.1)
    parseCreateWriter_ne_panic h.1 h.2.1 h.2.2 p.isKeyed

theorem writeMode_kept_iff {mode : WriteMode} (h : mode.InRange) :
    Kept (parseWriteMode (serializeWriteMode mode)) (fun mode' => mode' = mode) ↔ mode.Counted := by
  cases mode with
  | topicName topic type qos keys data => exact topicName_kept_iff h.1 h.2.1 h.2.2 data
  | writerId id keyBytes data => exact writerId_kept_iff id keyBytes data

theorem kept_map {α β : Type} {mk : α → β} {parsed : Res ProtocolError α} {same : β → Prop} :
    Kept (mk <$> parsed) same ↔ Kept parsed fun a => same (mk a) := by
  refine or_congr (exists_congr fun e => Res.map_eq_err) ?_
  constructor
  · rintro ⟨_, hb, hsame⟩
    obtain ⟨a, ha, rfl⟩ := Res.map_eq_ok.mp hb
    exact ⟨a, ha, hsame⟩
  · rintro ⟨a, ha, hsame⟩
    exact ⟨mk a, Res.map_eq_ok.mpr ⟨a, ha, rfl⟩, hsame⟩

theorem write_kept_iff {p : WritePayload} (h : p.mode.InRange) :
    Kept (parseWrite (serializeWrite p)) (fun p' => p' = p) ↔ p.mode.Counted := by
  rw [← writeMode_kept_iff h, parseWrite, serializeWrite, kept_map]
  exact kept_congr fun mode _ => ⟨fun h => congrArg WritePayload.mode h, fun h => congrArg WritePayload.mk h⟩

/-! ## Requests of the Go client -/

namespace GoCodec

/-- What the policy constructors make from values in range, with any number of partition names. -/
def QosPolicy.InRange (p : QosPolicy) : Prop :=
  GoCodec.InRange p ∨ ∃ partitions, (∀ s ∈ partitions, ValidString s) ∧ qosPartitionPolicy partitions = p

structure FieldsInRange (topicName typeName : GoString) (qos : List QosPolicy) (keys : List KeyField) : Prop where
  topicName : ValidString topicName
  typeName : ValidString typeName
  policies : ∀ p ∈ qos, p.InRange
  ids : (qos.map QosPolicy.id).Nodup
  hints : ∀ k ∈ keys, k.typeHint ≤ 4

def SubscribePayload.InRange (p : SubscribePayload) : Prop := FieldsInRange p.topicName p.typeName p.qos p.keys

def CreateWriterPayload.InRange (p : CreateWriterPayload) : Prop := FieldsInRange p.topicName p.typeName p.qos p.keys

def WritePayload.InRange (p : WritePayload) : Prop :=
  p.mode = writeTopicMode ∧ FieldsInRange p.topicName p.typeName p.qos p.keys ∨ p.mode = writeWriterMode

end GoCodec

theorem exists_policy_inRange {p : GoCodec.QosPolicy} (h : p.InRange) : ∃ q : QosPolicy, q.InRange ∧ q.toGo = p := by
  rcases h with h | ⟨partitions, hs, rfl⟩
  · obtain ⟨q, hq, rfl⟩ := exists_policy h
    exact ⟨q, (QosPolicy.wf_iff.mp hq).1, rfl⟩
  · obtain ⟨strings, hfits, -, hgo⟩ := exists_partition hs
    exact ⟨.partition strings, hfits, hgo⟩

theorem exists_fields_inRange {topic type : GoCodec.GoString} {qos : List GoCodec.QosPolicy}
    {keys : List GoCodec.KeyField} (h : GoCodec.FieldsInRange topic type qos keys) :
    ∃ (t T : String) (qos' : QosSet) (keys' : KeyDescriptors),
      (StringFits t ∧ StringFits T ∧ qos'.InRange) ∧
      utf8 t = topic ∧ utf8 T = type ∧ qos'.toGo = qos ∧ keys'.toGo = keys := by
  obtain ⟨t, ht, rfl⟩ := exists_string h.topicName
  obtain ⟨T, hT, rfl⟩ := exists_string h.typeName
  obtain ⟨ps, hps, rfl⟩ := exists_map_eq fun p hp => exists_policy_inRange (h.policies p hp)
  obtain ⟨ks, rfl⟩ := exists_keys h.hints
  have hids := h.ids
  rw [List.map_map] at hids
  exact ⟨t, T, ⟨ps⟩, ks, ⟨ht, hT, ⟨hids, hps⟩⟩, rfl, rfl, rfl, rfl⟩

/-! ### A request has one form in Go -/

theorem utf8_inj {s t : String} (h : utf8 s = utf8 t) : s = t := by
  have hs := fromUtf8_utf8 s
  rw [h, fromUtf8_utf8] at hs
  exact (Res.ok.inj hs).symm

theorem writeString_ne_nil (s : String) : writeString s ≠ [] := fun h => by
  simpa [writeString] using congrArg List.length h

/-- The form in Go has all names. -/
theorem countable_of_toGo {p q : QosPolicy} (hp : p.WF) (hq : q.InRange) (h : p.toGo = q.toGo) : q.Countable := by
  cases q with
  | partition names =>
    have hbytes : serializePolicy (.partition names) ++ [] = serializePolicy p ++ [] := by
      obtain ⟨hid, hvalue⟩ := GoCodec.QosPolicy.mk.inj h
      rw [serializePolicy, serializePolicy, hid, hvalue]
    obtain ⟨rfl, hrest⟩ := partition_unique hq hp hbytes
    rw [List.append_nil] at hrest
    have hnone : names.drop (names.length % 256) = [] := by
      rw [List.nil_eq, List.flatMap_eq_nil_iff] at hrest
      refine List.eq_nil_iff_forall_not_mem.mpr fun s hs => writeString_ne_nil s (hrest s hs)
    have hlen := List.drop_eq_nil_iff.mp hnone
    have hmod : names.length % 256 < 256 := Nat.mod_lt _ (by decide)
    change names.length ≤ 255
    omega
  | _ => trivial

theorem qosToGo_inj {qos qos' : QosSet} (h' : qos'.WF) (h : qos.InRange) (hgo : qos'.toGo = qos.toGo) : qos' = qos := by
  have hf : qos.Countable := by
    intro q hq
    obtain ⟨p, hp, hsame⟩ : ∃ p ∈ qos'.policies, p.toGo = q.toGo := by
      have hmem : q.toGo ∈ qos'.toGo := hgo ▸ List.mem_map_of_mem hq
      exact List.mem_map.mp hmem
    exact countable_of_toGo (h'.policies p hp) (h.policies q hq) hsame
  exact serializeQos_inj h' (h.wf hf) (by rw [← encodeQos_toGo, hgo, encodeQos_toGo])

theorem keysToGo_inj {keys keys' : KeyDescriptors} (h : keys'.toGo = keys.toGo) : keys' = keys :=
  serializeKeyDescriptors_inj (by rw [← encodeKeyDescriptors_toGo, h, encodeKeyDescriptors_toGo])

theorem fieldsToGo_inj {topic type topic' type' : String} {qos qos' : QosSet} {keys keys' : KeyDescriptors}
    (hq' : qos'.WF) (hq : qos.InRange) (ht : utf8 topic' = utf8 topic) (hT : utf8 type' = utf8 type)
    (hgo : qos'.toGo = qos.toGo) (hkeys : keys'.toGo = keys.toGo) :
    topic' = topic ∧ type' = type ∧ qos' = qos ∧ keys' = keys :=
  ⟨utf8_inj ht, utf8_inj hT, qosToGo_inj hq' hq hgo, keysToGo_inj hkeys⟩

theorem goSubscribe_kept_iff {p : SubscribePayload} (h : p.InRange) :
    Kept (parseSubscribe (GoCodec.encodeSubscribe p.toGo)) (fun p' => p'.toGo = p.toGo) ↔ p.Counted := by
  rw [← subscribe_kept_iff h, GoCodec.encodeSubscribe, SubscribePayload.toGo, encodeEndpoint_toGo]
  refine kept_congr fun p' hp => ⟨fun hgo => ?_, fun hsame => hsame ▸ rfl⟩
  obtain ⟨⟨-, -, hq', -⟩, -⟩ := (subscribe_canonical _ p').mp hp
  obtain ⟨ht, hT, hq, hkeyed, hkeys⟩ := GoCodec.SubscribePayload.mk.inj hgo
  obtain ⟨ht, hT, hq, hkeys⟩ := fieldsToGo_inj hq' h.2.2 ht hT hq hkeys
  cases p
  cases p'
  exact SubscribePayload.mk.injEq .. ▸ ⟨ht, hT, hq, hkeyed, hkeys⟩

theorem goCreateWriter_kept_iff {p : CreateWriterPayload} (h : p.InRange) :
    Kept (parseCreateWriter (GoCodec.encodeCreateWriter p.toGo)) (fun p' => p'.toGo = p.toGo) ↔ p.Counted := by
  rw [← createWriter_kept_iff h, GoCodec.encodeCreateWriter, CreateWriterPayload.toGo, encodeEndpoint_toGo]
  refine kept_congr fun p' hp => ⟨fun hgo => ?_, fun hsame => hsame ▸ rfl⟩
  obtain ⟨⟨-, -, hq', -⟩, -⟩ := (createWriter_canonical _ p').mp hp
  obtain ⟨ht, hT, hq, hkeyed, hkeys⟩ := GoCodec.CreateWriterPayload.mk.inj hgo
  obtain ⟨ht, hT, hq, hkeys⟩ := fieldsToGo_inj hq' h.2.2 ht hT hq hkeys
  cases p
  cases p'
  exact CreateWriterPayload.mk.injEq .. ▸ ⟨ht, hT, hq, hkeyed, hkeys⟩

theorem sameAs_iff {mode mode' : WriteMode} {g : GoCodec.WritePayload} (h : mode.InRange) (h' : mode'.WF)
    (hsame : mode.SameAs g) : mode'.SameAs g ↔ mode' = mode := by
  refine ⟨fun hsame' => ?_, fun heq => heq ▸ hsame⟩
  cases mode with
  | topicName topic type qos keys data =>
    obtain ⟨hm, ht, hT, hq, hk, rfl⟩ := hsame
    cases mode' with
    | topicName topic' type' qos' keys' data' =>
      obtain ⟨-, ht', hT', hq', hk', rfl⟩ := hsame'
      obtain ⟨rfl, rfl, rfl, rfl⟩ := fieldsToGo_inj h'.2.2.1 h.2.2 (ht'.symm.trans ht) (hT'.symm.trans hT)
        (hq'.symm.trans hq) (hk'.symm.trans hk)
      rfl
    | writerId => exact absurd (hm.symm.trans hsame'.1) (by decide)
  | writerId id keyBytes data =>
    obtain ⟨hm, rfl, rfl, rfl⟩ := hsame
    cases mode' with
    | topicName => exact absurd (hm.symm.trans hsame'.1) (by decide)
    | writerId id' keyBytes' data' =>
      obtain ⟨-, rfl, rfl, rfl⟩ := hsame'
      rfl

theorem goWrite_kept_iff {mode : WriteMode} {g : GoCodec.WritePayload} (h : mode.InRange) (hsame : mode.SameAs g) :
    Kept (parseWrite (GoCodec.encodeWrite g)) (fun p => p.mode.SameAs g) ↔ mode.Counted := by
  rw [← writeMode_kept_iff h, GoCodec.encodeWrite, encodeWriteMode_sameAs hsame, parseWrite, kept_map]
  exact kept_congr fun mode' hmode => sameAs_iff h ((writeMode_canonical _ mode').mp hmode).1 hsame

theorem exists_writeMode {g : GoCodec.WritePayload} (h : g.InRange) :
    ∃ mode : WriteMode, mode.InRange ∧ mode.SameAs g := by
  rcases h with ⟨hm, hfields⟩ | hm
  · obtain ⟨t, T, qos, keys, hr, ht, hT, hq, hk⟩ := exists_fields_inRange hfields
    exact ⟨.topicName t T qos keys g.data, hr, hm, ht.symm, hT.symm, hq.symm, hk.symm, rfl⟩
  · exact ⟨.writerId g.writerID g.keyBytes g.data, trivial, hm, rfl, rfl, rfl⟩

/-- A payload is rejected or parsed to the same request exactly when its lists are counted, or what is left of a
Partition's names is not read as the rest of another request. -/
theorem kept_iff_counted (p : SubscribePayload) (q : CreateWriterPayload) (w : WritePayload)
    (gp : GoCodec.SubscribePayload) (gq : GoCodec.CreateWriterPayload) (gw : GoCodec.WritePayload) :
    (p.InRange → (Kept (parseSubscribe (serializeSubscribe p)) (fun p' => p' = p) ↔ p.Counted)) ∧
    (q.InRange → (Kept (parseCreateWriter (serializeCreateWriter q)) (fun q' => q' = q) ↔ q.Counted)) ∧
    (w.mode.InRange → (Kept (parseWrite (serializeWrite w)) (fun w' => w' = w) ↔ w.mode.Counted)) ∧
    (gp.InRange → ∃ p : SubscribePayload, p.InRange ∧ p.toGo = gp ∧
      (Kept (parseSubscribe (GoCodec.encodeSubscribe gp)) (fun p' => p'.toGo = gp) ↔ p.Counted)) ∧
    (gq.InRange → ∃ q : CreateWriterPayload, q.InRange ∧ q.toGo = gq ∧
      (Kept (parseCreateWriter (GoCodec.encodeCreateWriter gq)) (fun q' => q'.toGo = gq) ↔ q.Counted)) ∧
    (gw.InRange → ∃ mode : WriteMode, mode.InRange ∧ mode.SameAs gw ∧
      (Kept (parseWrite (GoCodec.encodeWrite gw)) (fun w' => w'.mode.SameAs gw) ↔ mode.Counted)) := by
  refine ⟨subscribe_kept_iff, createWriter_kept_iff, write_kept_iff, fun h => ?_, fun h => ?_, fun h => ?_⟩
  · obtain ⟨t, T, qos, keys, hr, ht, hT, hq, hk⟩ := exists_fields_inRange h
    have hgo : (⟨t, T, qos, gp.isKeyed, keys⟩ : SubscribePayload).toGo = gp := by
      rw [SubscribePayload.toGo, ht, hT, hq, hk]
    have hp : (⟨t, T, qos, gp.isKeyed, keys⟩ : SubscribePayload).InRange := hr
    exact ⟨_, hp, hgo, hgo ▸ goSubscribe_kept_iff hp⟩
  · obtain ⟨t, T, qos, keys, hr, ht, hT, hq, hk⟩ := exists_fields_inRange h
    have hgo : (⟨t, T, qos, gq.isKeyed, keys⟩ : CreateWriterPayload).toGo = gq := by
      rw [CreateWriterPayload.toGo, ht, hT, hq, hk]
    have hp : (⟨t, T, qos, gq.isKeyed, keys⟩ : CreateWriterPayload).InRange := hr
    exact ⟨_, hp, hgo, hgo ▸ goCreateWriter_kept_iff hp⟩
  · obtain ⟨mode, hr, hsame⟩ := exists_writeMode h
    exact ⟨mode, hr, hsame, goWrite_kept_iff hr hsame⟩

/-! ### One name too many -/

/-- The count is 0, and 1024 zeros come behind it. -/
def manyNames : QosSet := ⟨[.partition (List.replicate 256 "")]⟩

theorem manyNames_inRange : manyNames.InRange where
  nodup := List.nodup_singleton _
  policies p hp := by
    obtain rfl := List.mem_singleton.mp hp
    intro s hs
    rw [List.eq_of_mem_replicate hs]
    exact Nat.zero_le _

theorem manyNames_misread {tail : Bytes} {Ending : Bytes → Prop} :
    Misread manyNames tail Ending ↔ Ending (List.replicate 1024 0 ++ tail) := by
  have hnames : (List.replicate 256 "").flatMap writeString = List.replicate 1024 0 := by decide +kernel
  have hmod : (List.replicate 256 "").length % 256 = 0 := by rw [List.length_replicate]
  constructor
  · rintro ⟨before, names, after, others, ending, hsplit, -, hlen, -, hbytes, hending⟩
    obtain ⟨rfl, hsplit⟩ | ⟨rest, rfl, hrest⟩ := List.cons_eq_append_iff.mp hsplit
    · obtain ⟨hpartition, rfl⟩ := List.cons.inj hsplit
      obtain rfl := QosPolicy.partition.inj hpartition
      rw [List.length_nil, List.length_eq_zero_iff] at hlen
      rw [hmod, List.drop_zero, hnames, hlen] at hbytes
      exact hbytes ▸ hending
    · cases rest <;> cases hrest
  · intro h
    have hlong : 255 < (List.replicate 256 "").length := by
      rw [List.length_replicate]
      decide
    refine ⟨[], _, [], [], _, rfl, hlong, rfl, ⟨List.nodup_singleton _, fun p hp => ?_⟩, ?_, h⟩
    · obtain rfl := List.mem_singleton.mp hp
      rw [hmod, List.take_zero]
      exact ⟨Nat.zero_le _, nofun⟩
    · rw [hmod, List.drop_zero, hnames]
      rfl

/-- A WRITE with 256 partition names is accepted as one with none; a SUBSCRIBE is rejected. -/
theorem kept_iff_counted_many_names :
    let write : WriteMode := .topicName "t" "T" manyNames ⟨[]⟩ [7]
    let sub : SubscribePayload := ⟨"t", "T", manyNames, false, ⟨[]⟩⟩
    (¬ Kept (parseWrite (serializeWrite ⟨write⟩)) fun p => p = ⟨write⟩) ∧
      Kept (parseSubscribe (serializeSubscribe sub)) fun p => p = sub := by
  intro write sub
  obtain ⟨hsub, -, hwrite, -⟩ := kept_iff_counted sub ⟨"t", "T", manyNames, false, ⟨[]⟩⟩ ⟨write⟩ sub.toGo
    ⟨[], [], [], false, []⟩ ⟨0, [], [], [], [], 0, [], []⟩
  have ht : StringFits "t" := by unfold StringFits; decide
  have hT : StringFits "T" := by unfold StringFits; decide
  refine ⟨fun hkept => ?_, (hsub ⟨ht, hT, manyNames_inRange⟩).mpr fun hmis => ?_⟩
  · refine ((hwrite ⟨ht, hT, manyNames_inRange⟩).mp hkept).1 (manyNames_misread.mpr ?_)
    exact ⟨⟨[]⟩, _, Nat.zero_le _, rfl⟩
  · obtain ⟨flag, keys, hkeys, hbytes⟩ := manyNames_misread.mp hmis
    have hlen := congrArg List.length hbytes
    have hzeros : List.replicate 1024 (0 : UInt8) = 0 :: 0 :: List.replicate 1022 0 := rfl
    rw [hzeros] at hbytes
    have hcount : (0 : UInt8) = UInt8.ofNat keys.keys.length := (List.cons.inj (List.cons.inj hbytes).2).1
    have hnone : keys.keys = [] := by
      rw [← List.length_eq_zero_iff]
      have hnat := congrArg UInt8.toNat hcount
      rw [UInt8.toNat_ofNat'] at hnat
      exact (Nat.mod_eq_of_lt (Nat.lt_succ_of_le hkeys)).symm.trans hnat.symm
    have hshort : (serializeKeyDescriptors keys).length = 1 := by
      rw [serializeKeyDescriptors, hnone]
      rfl
    simp only [List.length_append, List.length_replicate, List.length_singleton, hshort] at hlen
    omega

/-! ### One key field too many -/

/-- The count is 0, and all key fields become data. -/
def manyKeysMode : WriteMode := .topicName "t" "T" ⟨[]⟩ ⟨List.replicate 256 ⟨0, 4, .int32⟩⟩ [7]

def manyKeysGo : GoCodec.WritePayload :=
  ⟨GoCodec.writeTopicMode, utf8 "t", utf8 "T", [], List.replicate 256 ⟨0, 4, 2⟩, 0, [], [7]⟩

theorem manyKeys_inRange : manyKeysMode.InRange := by
  refine ⟨?_, ?_, List.nodup_nil, nofun⟩
  · unfold StringFits; decide
  · unfold StringFits; decide

theorem manyKeys_not_counted : ¬ manyKeysMode.Counted := by
  intro h
  have hfits : (List.replicate 256 (⟨0, 4, .int32⟩ : KeyField)).length ≤ 255 := h.2 nofun
  rw [List.length_replicate] at hfits
  omega

theorem manyKeys_sameAs : manyKeysMode.SameAs manyKeysGo := by
  refine ⟨rfl, rfl, rfl, rfl, ?_, rfl⟩
  change List.replicate 256 _ = (List.replicate 256 _).map KeyField.toGo
  rw [List.map_replicate]
  rfl

theorem manyKeysGo_inRange : manyKeysGo.InRange := by
  have hvalid : ∀ s : String, StringFits s → GoCodec.ValidString (utf8 s) :=
    fun s h => ⟨h, by simpa [utf8] using s.isValidUTF8⟩
  refine .inl ⟨rfl, hvalid "t" manyKeys_inRange.1, hvalid "T" manyKeys_inRange.2.1, List.forall_mem_nil _, List.nodup_nil, ?_⟩
  intro k hk
  rw [List.eq_of_mem_replicate hk]
  decide

/-- A WRITE with 256 key fields is accepted as one without. -/
theorem many_keys_become_data :
    (¬ ∀ p : WritePayload, p.mode.InRange → Kept (parseWrite (serializeWrite p)) fun p' => p' = p) ∧
    ¬ ∀ g : GoCodec.WritePayload, g.InRange → Kept (parseWrite (GoCodec.encodeWrite g)) fun p => p.mode.SameAs g := by
  refine ⟨fun h => manyKeys_not_counted ?_, fun h => manyKeys_not_counted ?_⟩
  · exact (write_kept_iff (p := ⟨manyKeysMode⟩) manyKeys_inRange).mp (h ⟨manyKeysMode⟩ manyKeys_inRange)
  · exact (goWrite_kept_iff manyKeys_inRange manyKeys_sameAs).mp (h _ manyKeysGo_inRange)

end DdsBridge
