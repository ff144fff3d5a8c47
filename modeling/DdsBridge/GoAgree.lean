import DdsBridge.Canonical
import DdsBridge.GoCodec

/-!
# The two codecs agree

What the Go encoders write is what `serialize_*` writes for the same fields, and the Go decoders read
back what `serialize_*` wrote. With what the parsers accept, this gives both directions for requests.
-/

namespace DdsBridge

open Cursor

/-! ## The same fields -/

def KeyField.toGo (key : KeyField) : GoCodec.KeyField := ⟨key.offset, key.size, key.typeHint.toU8⟩

def KeyDescriptors.toGo (keys : KeyDescriptors) : List GoCodec.KeyField := keys.keys.map KeyField.toGo

def QosPolicy.toGo (policy : QosPolicy) : GoCodec.QosPolicy := ⟨policy.policyId, policy.valueBytes⟩

def QosSet.toGo (qos : QosSet) : List GoCodec.QosPolicy := qos.policies.map QosPolicy.toGo

def SubscribePayload.toGo (p : SubscribePayload) : GoCodec.SubscribePayload :=
  ⟨utf8 p.topicName, utf8 p.typeName, p.qos.toGo, p.isKeyed, p.keyDescriptors.toGo⟩

def CreateWriterPayload.toGo (p : CreateWriterPayload) : GoCodec.CreateWriterPayload :=
  ⟨utf8 p.topicName, utf8 p.typeName, p.qos.toGo, p.isKeyed, p.keyDescriptors.toGo⟩

def UnsubscribePayload.toGo (p : UnsubscribePayload) : GoCodec.UnsubscribePayload :=
  ⟨utf8 p.topicName, utf8 p.typeName⟩

def DeleteWriterPayload.toGo (p : DeleteWriterPayload) : GoCodec.DeleteWriterPayload := ⟨p.writerId⟩

/-- The fields of the mode that the Go value is in. -/
def WriteMode.SameAs (mode : WriteMode) (p : GoCodec.WritePayload) : Prop :=
  match mode with
  | .topicName topic type qos keys data =>
    p.mode = GoCodec.writeTopicMode ∧ p.topicName = utf8 topic ∧ p.typeName = utf8 type ∧
      p.qos = qos.toGo ∧ p.keys = keys.toGo ∧ p.data = data
  | .writerId id keyBytes data =>
    p.mode = GoCodec.writeWriterMode ∧ p.writerID = id ∧ p.keyBytes = keyBytes ∧ p.data = data

/-! ## Encoders -/

theorem appendString_utf8 (dst : Bytes) (s : String) :
    GoCodec.appendString dst (utf8 s) = dst ++ writeString s := by
  rw [GoCodec.appendString, writeString, List.append_assoc]

theorem encodeKeyDescriptors_toGo (keys : KeyDescriptors) :
    GoCodec.encodeKeyDescriptors keys.toGo = serializeKeyDescriptors keys := by
  have hkey : ∀ key : KeyField, u32le key.offset ++ u32le key.size ++ [key.typeHint.toU8] = serializeKeyField key :=
    fun key => by rw [List.append_assoc]; rfl
  simp only [GoCodec.encodeKeyDescriptors, KeyDescriptors.toGo, KeyField.toGo, serializeKeyDescriptors,
    List.length_map, List.flatMap_map, hkey]

theorem encodeQos_toGo (qos : QosSet) : GoCodec.encodeQos qos.toGo = serializeQos qos := by
  have hpolicy : ∀ p : QosPolicy, p.policyId :: p.valueBytes = serializePolicy p := fun _ => rfl
  simp only [GoCodec.encodeQos, QosSet.toGo, QosPolicy.toGo, serializeQos, List.length_map, List.flatMap_map,
    hpolicy]

theorem encodeEndpoint_toGo (topic type : String) (qos : QosSet) (isKeyed : Bool) (keys : KeyDescriptors) :
    GoCodec.encodeEndpoint (utf8 topic) (utf8 type) qos.toGo isKeyed keys.toGo =
      endpointBytes topic type qos isKeyed keys := by
  simp only [GoCodec.encodeEndpoint, appendString_utf8, encodeQos_toGo, encodeKeyDescriptors_toGo,
    GoCodec.appendBool, endpointBytes]
  cases isKeyed <;> simp

theorem encodeWriteMode_sameAs {mode : WriteMode} {p : GoCodec.WritePayload} (h : mode.SameAs p) :
    GoCodec.encodeWriteMode p = serializeWriteMode mode := by
  cases mode with
  | topicName topic type qos keys data =>
    obtain ⟨hm, ht, hT, hq, hk, hd⟩ := h
    simp [GoCodec.encodeWriteMode, hm, ht, hT, hq, hk, hd, GoCodec.writeTopicMode, appendString_utf8,
      encodeQos_toGo, encodeKeyDescriptors_toGo, serializeWriteMode]
  | writerId id keyBytes data =>
    obtain ⟨hm, hid, hk, hd⟩ := h
    simp [GoCodec.encodeWriteMode, hm, hid, hk, hd, GoCodec.writeTopicMode, GoCodec.writeWriterMode,
      serializeWriteMode]

/-! ## Decoders -/

theorem reads_decodeString {s : String} (hs : (utf8 s).length ≤ GoCodec.defaultMaxPayloadSize) :
    Reads GoCodec.decodeString (writeString s) (utf8 s) := by
  have hlen : (UInt32.ofNat (utf8 s).length).toNat = (utf8 s).length := by
    rw [UInt32.toNat_ofNat']
    exact Nat.mod_eq_of_lt (Nat.lt_of_le_of_lt hs (by decide))
  apply Reads.ensure (by simp [writeString])
  apply (reads_getU32le _).bind
  rw [hlen]
  exact Reads.check hs (Reads.ensure (Nat.le_refl _) (reads_take _))

theorem StringFits.go {s : String} (h : StringFits s) : (utf8 s).length ≤ GoCodec.defaultMaxPayloadSize :=
  Nat.le_trans h (by decide)

theorem reads_decodeBool (flag : UInt8) : Reads GoCodec.decodeBool [flag] (flag != 0) :=
  Reads.ensure (by simp) ((reads_getU8 flag).bind_nil (reads_pure _))

theorem reads_decodeKeyField (key : KeyField) : Reads GoCodec.decodeKeyField (serializeKeyField key) key.toGo := by
  apply Reads.ensure (by simp [serializeKeyField])
  apply (reads_getU32le _).bind
  apply (reads_getU32le _).bind
  exact (reads_getU8 _).bind_nil (reads_pure _)

theorem reads_decodeKeyDescriptors {keys : KeyDescriptors} (hk : keys.Fits) :
    Reads GoCodec.decodeKeyDescriptors (serializeKeyDescriptors keys) keys.toGo := by
  have hlen : (UInt8.ofNat keys.keys.length).toNat = keys.keys.length := by
    rw [UInt8.toNat_ofNat']
    exact Nat.mod_eq_of_lt (Nat.lt_succ_of_le hk)
  apply Reads.ensure (by simp [serializeKeyDescriptors])
  apply Reads.bind (u := [_]) (reads_getU8 _)
  rw [hlen]
  exact reads_times_map keys.keys fun key _ => reads_decodeKeyField key

/-! ### The size table -/

/-- The loop ends behind the strings: it steps over one length and its bytes at a time. -/
theorem partitionStringsSize_eq (buf : Bytes) :
    ∀ (strings : List String) (pre : Bytes), (∀ s ∈ strings, StringFits s) →
      GoCodec.partitionStringsSize (pre ++ (strings.flatMap writeString ++ buf)) strings.length pre.length =
        .ok (pre ++ strings.flatMap writeString).length
  | [], pre, _ => by simp [GoCodec.partitionStringsSize]
  | s :: strings, pre, h => by
    have hs : StringFits s := h s List.mem_cons_self
    have hlen : (UInt32.ofNat (utf8 s).length).toNat = (utf8 s).length := by
      rw [UInt32.toNat_ofNat']
      exact Nat.mod_eq_of_lt (Nat.lt_of_le_of_lt hs (by decide))
    have ih := partitionStringsSize_eq buf strings (pre ++ writeString s)
      fun t ht => h t (List.mem_cons_of_mem _ ht)
    have hdata : pre ++ ((s :: strings).flatMap writeString ++ buf) =
        (pre ++ writeString s) ++ (strings.flatMap writeString ++ buf) := by simp
    have hslen : UInt32.ofNat (ofLE (((pre ++ writeString s ++ (strings.flatMap writeString ++ buf)).drop
        pre.length).take 4)) = UInt32.ofNat (utf8 s).length := by
      have htake : (((pre ++ writeString s ++ (strings.flatMap writeString ++ buf)).drop pre.length).take 4) =
          u32le (UInt32.ofNat (utf8 s).length) := by
        simp [writeString]
      rw [htake, ofLE_u32le]
    have hpos : pre.length + (4 + (utf8 s).length) = (pre ++ writeString s).length := by
      simp [writeString]
    rw [hdata, List.length_cons, GoCodec.partitionStringsSize]
    simp only [hslen, hlen, hpos]
    rw [if_neg, if_neg, ih]
    · simp
    · simp
    · simp [writeString]

theorem qosPolicyDataSize_valueBytes {p : QosPolicy} (hp : p.WF) (buf : Bytes) :
    GoCodec.qosPolicyDataSize p.policyId (p.valueBytes ++ buf) = .ok p.valueBytes.length := by
  cases p with
  | partition partitions =>
    have hlen : (UInt8.ofNat partitions.length).toNat = partitions.length := by
      rw [UInt8.toNat_ofNat']
      exact Nat.mod_eq_of_lt (Nat.lt_succ_of_le hp.1)
    have h := partitionStringsSize_eq buf partitions [UInt8.ofNat partitions.length] hp.2
    simp only [GoCodec.qosPolicyDataSize, QosPolicy.policyId, QosPolicy.valueBytes, List.cons_append,
      GoCodec.partitionDataSize, hlen]
    exact h
  | _ => simp [GoCodec.qosPolicyDataSize, QosPolicy.policyId, QosPolicy.valueBytes]

theorem reads_decodePolicy {p : QosPolicy} (hp : p.WF) : Reads GoCodec.decodePolicy (serializePolicy p) p.toGo := by
  apply Reads.ensure (by simp [serializePolicy])
  apply Reads.bind (u := [p.policyId]) (v := p.valueBytes) (reads_getU8 _)
  -- the size comes from the bytes in front, which are the value
  refine Reads.peek fun buf => Reads.bind (u := []) (reads_ofRes (qosPolicyDataSize_valueBytes hp buf)) ?_
  exact Reads.ensure (Nat.le_refl _) ((reads_take _).bind_nil (reads_pure _))

theorem reads_decodeQos {qos : QosSet} (h : qos.WF) : Reads GoCodec.decodeQos (serializeQos qos) qos.toGo := by
  have hlen : (UInt8.ofNat qos.policies.length).toNat = qos.policies.length := by
    rw [UInt8.toNat_ofNat']
    exact Nat.mod_eq_of_lt (Nat.lt_of_le_of_lt h.length_le (by decide))
  refine Reads.ensure (by simp [serializeQos]) (Reads.bind (u := [_]) (reads_getU8 _) ?_)
  rw [hlen]
  exact reads_times_map qos.policies fun p hp => reads_decodePolicy (h.policies p hp)

/-! ### Whole payloads -/

theorem ends_noTrailing {α : Type} (message : String) {p : Cursor String α} {a : α} (hp : Ends p [] a) :
    Ends (GoCodec.noTrailing message >>= fun _ => p) [] a := by
  unfold Ends
  rw [Prog.bind_of_ok (show GoCodec.noTrailing message [] = .ok ((), []) from rfl)]
  exact hp

theorem goReadEndpoint_flaggedBytes {α : Type} (message : String)
    (mk : GoCodec.GoString → GoCodec.GoString → List GoCodec.QosPolicy → Bool → List GoCodec.KeyField → α)
    {topic type : String} {qos : QosSet} {keys : KeyDescriptors} (flag : UInt8)
    (h : StringFits topic ∧ StringFits type ∧ qos.WF ∧ keys.Fits) :
    (GoCodec.readEndpoint message mk).eval (flaggedBytes topic type qos flag keys) =
      .ok (mk (utf8 topic) (utf8 type) qos.toGo (flag != 0) keys.toGo) := by
  refine Ends.eval ((reads_decodeString h.1.go).ends ((reads_decodeString h.2.1.go).ends ?_))
  refine (reads_decodeQos h.2.2.1).ends ((reads_decodeBool flag).ends ?_)
  exact (reads_decodeKeyDescriptors h.2.2.2).ends_nil (ends_noTrailing _ (ends_pure _))

theorem decodeSubscribe_toGo {b : Bytes} {p : SubscribePayload} (h : parseSubscribe b = .ok p) :
    GoCodec.decodeSubscribe b = .ok p.toGo := by
  obtain ⟨hwf, flag, hflag, rfl⟩ := (subscribe_canonical b p).mp h
  rw [SubscribePayload.toGo, hflag]
  exact goReadEndpoint_flaggedBytes _ _ flag hwf

theorem decodeCreateWriter_toGo {b : Bytes} {p : CreateWriterPayload} (h : parseCreateWriter b = .ok p) :
    GoCodec.decodeCreateWriter b = .ok p.toGo := by
  obtain ⟨hwf, flag, hflag, rfl⟩ := (createWriter_canonical b p).mp h
  rw [CreateWriterPayload.toGo, hflag]
  exact goReadEndpoint_flaggedBytes _ _ flag hwf

theorem decodeUnsubscribe_toGo {b : Bytes} {p : UnsubscribePayload} (h : parseUnsubscribe b = .ok p) :
    GoCodec.decodeUnsubscribe b = .ok p.toGo := by
  obtain ⟨hwf, rfl⟩ := (unsubscribe_canonical b p).mp h
  refine Ends.eval ((reads_decodeString hwf.1.go).ends ?_)
  exact (reads_decodeString hwf.2.go).ends_nil (ends_noTrailing _ (ends_pure _))

theorem decodeDeleteWriter_toGo {b : Bytes} {p : DeleteWriterPayload} (h : parseDeleteWriter b = .ok p) :
    GoCodec.decodeDeleteWriter b = .ok p.toGo := by
  obtain ⟨-, rfl⟩ := (deleteWriter_canonical b p).mp h
  refine Ends.eval (Ends.ensure (by simp [serializeDeleteWriter]) ?_)
  exact (reads_getU32le _).ends_nil (ends_noTrailing _ (ends_pure _))

theorem decodeWriteMode_sameAs {b : Bytes} {mode : WriteMode} (hb : b.length < 2 ^ 32)
    (h : parseWriteMode b = .ok mode) : ∃ p, GoCodec.decodeWriteMode b = .ok p ∧ mode.SameAs p := by
  obtain ⟨hwf, rfl⟩ := (writeMode_canonical b mode).mp h
  cases mode with
  | topicName topic type qos keys data =>
    refine ⟨⟨GoCodec.writeTopicMode, utf8 topic, utf8 type, qos.toGo, keys.toGo, 0, [], data⟩, ?_,
      rfl, rfl, rfl, rfl, rfl, rfl⟩
    refine Ends.eval (Ends.ensure (by simp [serializeWriteMode]) ?_)
    refine Reads.ends (u := [0x00]) (reads_getU8 _) ?_
    refine (reads_decodeString hwf.1.go).ends ((reads_decodeString hwf.2.1.go).ends ?_)
    refine (reads_decodeQos hwf.2.2.1).ends ((reads_decodeKeyDescriptors hwf.2.2.2).ends ?_)
    exact Ends.rest (ends_pure _)
  | writerId id keyBytes data =>
    refine ⟨⟨GoCodec.writeWriterMode, [], [], [], [], id, keyBytes, data⟩, ?_, rfl, rfl, rfl, rfl⟩
    have hlen : (UInt32.ofNat keyBytes.length).toNat = keyBytes.length := by
      rw [UInt32.toNat_ofNat']
      exact Nat.mod_eq_of_lt hwf
    -- the comparison is made modulo 2 ^ 32, which the payload does not reach
    have hleft : UInt32.ofNat keyBytes.length ≤ UInt32.ofNat (keyBytes ++ data).length := by
      have hsmall : (keyBytes ++ data).length < 2 ^ 32 := by
        simp only [serializeWriteMode, List.length_cons, List.length_append, u32le_length] at hb ⊢
        omega
      rw [UInt32.le_iff_toNat_le, hlen, UInt32.toNat_ofNat', Nat.mod_eq_of_lt hsmall, List.length_append]
      omega
    refine Ends.eval (Ends.ensure (by simp [serializeWriteMode]) ?_)
    refine Reads.ends (u := [0x01]) (reads_getU8 _) ?_
    refine Ends.ensure (by simp; omega) ((reads_getU32le _).ends ((reads_getU32le _).ends ?_))
    refine Ends.peek (Ends.check hleft ?_)
    rw [hlen]
    exact (reads_take keyBytes).ends (Ends.rest (ends_pure _))

/-! ## Requests within the limits of the protocol -/

namespace GoCodec

def ValidString (s : GoString) : Prop := s.length ≤ maxStringLength ∧ ByteArray.IsValidUTF8 ⟨s.toArray⟩

/-- What the policy constructors make from arguments in range. -/
inductive InRange : QosPolicy → Prop
  | reliability {kind : UInt8} (ms : UInt32) : kind ≤ 1 → InRange (qosReliabilityPolicy kind ms)
  | durability {kind : UInt8} : kind ≤ 3 → InRange (qosDurabilityPolicy kind)
  | history {kind : UInt8} (depth : UInt32) : kind ≤ 1 → InRange (qosHistoryPolicy kind depth)
  | deadline (ms : UInt32) : InRange (qosDeadlinePolicy ms)
  | latencyBudget (ms : UInt32) : InRange (qosLatencyBudgetPolicy ms)
  | ownershipStrength (value : UInt32) : InRange (qosOwnershipStrengthPolicy value)
  | liveliness {kind : UInt8} (ms : UInt32) : kind ≤ 2 → InRange (qosLivelinessPolicy kind ms)
  | destinationOrder {kind : UInt8} : kind ≤ 1 → InRange (qosDestinationOrderPolicy kind)
  | presentation {scope coherent ordered : UInt8} : scope ≤ 2 → coherent ≤ 1 → ordered ≤ 1 →
      InRange (qosPresentationPolicy scope coherent ordered)
  | partition {partitions : List GoString} : partitions.length ≤ 255 → (∀ s ∈ partitions, ValidString s) →
      InRange (qosPartitionPolicy partitions)
  | ownership {kind : UInt8} : kind ≤ 1 → InRange (qosOwnershipPolicy kind)
  | writerDataLifecycle {autodispose : UInt8} : autodispose ≤ 1 → InRange (qosWriterDataLifecyclePolicy autodispose)
  | timeBasedFilter (ms : UInt32) : InRange (qosTimeBasedFilterPolicy ms)

structure WithinLimits (topicName typeName : GoString) (qos : List QosPolicy) (keys : List KeyField) : Prop where
  topicName : ValidString topicName
  typeName : ValidString typeName
  policies : ∀ p ∈ qos, InRange p
  ids : (qos.map QosPolicy.id).Nodup
  keyCount : keys.length ≤ 255
  hints : ∀ k ∈ keys, k.typeHint ≤ 4

/-- The fields of the mode; the payload has to fit the length field of the header. -/
def WritePayload.WithinLimits (p : WritePayload) : Prop :=
  p.mode = writeTopicMode ∧ GoCodec.WithinLimits p.topicName p.typeName p.qos p.keys ∨
    p.mode = writeWriterMode ∧ (encodeWriteMode p).length < 2 ^ 32

end GoCodec

open GoCodec (ValidString InRange)

theorem exists_map_eq {α β : Type} {f : α → β} {P : α → Prop} {bs : List β}
    (h : ∀ b ∈ bs, ∃ a, P a ∧ f a = b) : ∃ as : List α, (∀ a ∈ as, P a) ∧ as.map f = bs := by
  induction bs with
  | nil => exact ⟨[], List.forall_mem_nil _, rfl⟩
  | cons b bs ih =>
    obtain ⟨a, ha, rfl⟩ := h b List.mem_cons_self
    obtain ⟨as, has, rfl⟩ := ih fun b hb => h b (List.mem_cons_of_mem _ hb)
    exact ⟨a :: as, List.forall_mem_cons.mpr ⟨ha, has⟩, rfl⟩

theorem exists_string {s : GoCodec.GoString} (h : ValidString s) : ∃ t : String, StringFits t ∧ utf8 t = s := by
  have hs : utf8 (String.fromUTF8 ⟨s.toArray⟩ h.2) = s := by simp [utf8, String.fromUTF8]
  refine ⟨String.fromUTF8 ⟨s.toArray⟩ h.2, ?_, hs⟩
  rw [StringFits, hs]
  exact h.1

theorem foldl_appendString (strings : List String) :
    ∀ dst, (strings.map utf8).foldl GoCodec.appendString dst = dst ++ strings.flatMap writeString := by
  induction strings with
  | nil => intro dst; simp
  | cons s strings ih =>
    intro dst
    rw [List.map_cons, List.foldl_cons, ih, appendString_utf8, List.flatMap_cons, List.append_assoc]

theorem exists_partition {partitions : List GoCodec.GoString} (h : ∀ s ∈ partitions, ValidString s) :
    ∃ strings : List String, (∀ s ∈ strings, StringFits s) ∧ strings.length = partitions.length ∧
      (QosPolicy.partition strings).toGo = GoCodec.qosPartitionPolicy partitions := by
  obtain ⟨strings, hfits, rfl⟩ := exists_map_eq fun s hs => exists_string (h s hs)
  refine ⟨strings, hfits, (List.length_map utf8).symm, ?_⟩
  rw [GoCodec.qosPartitionPolicy, foldl_appendString, List.length_map]
  rfl

theorem exists_policy {p : GoCodec.QosPolicy} (h : InRange p) : ∃ q : QosPolicy, q.WF ∧ q.toGo = p := by
  cases h with
  | reliability ms h => exact ⟨.reliability _ ms, h, rfl⟩
  | durability h => exact ⟨.durability _, h, rfl⟩
  | history depth h => exact ⟨.history _ depth, h, rfl⟩
  | deadline ms => exact ⟨.deadline ms, trivial, rfl⟩
  | latencyBudget ms => exact ⟨.latencyBudget ms, trivial, rfl⟩
  | ownershipStrength value => exact ⟨.ownershipStrength value, trivial, rfl⟩
  | liveliness ms h => exact ⟨.liveliness _ ms, h, rfl⟩
  | destinationOrder h => exact ⟨.destinationOrder _, h, rfl⟩
  | presentation h1 h2 h3 => exact ⟨.presentation _ _ _, ⟨h1, h2, h3⟩, rfl⟩
  | partition hlen h =>
    obtain ⟨strings, hfits, hcount, hgo⟩ := exists_partition h
    exact ⟨.partition strings, ⟨hcount.trans_le hlen, hfits⟩, hgo⟩
  | ownership h => exact ⟨.ownership _, h, rfl⟩
  | writerDataLifecycle h => exact ⟨.writerDataLifecycle _, h, rfl⟩
  | timeBasedFilter ms => exact ⟨.timeBasedFilter ms, trivial, rfl⟩

theorem exists_hint {v : UInt8} (h : v ≤ 4) : ∃ hint : KeyTypeHint, hint.toU8 = v := by
  have hall : ∀ n : Fin 5, ∃ hint : KeyTypeHint, hint.toU8 = UInt8.ofNat n := by
    intro n
    match n with
    | 0 => exact ⟨.opaqueBytes, rfl⟩
    | 1 => exact ⟨.uuid, rfl⟩
    | 2 => exact ⟨.int32, rfl⟩
    | 3 => exact ⟨.int64, rfl⟩
    | 4 => exact ⟨.string, rfl⟩
  have hn := hall ⟨v.toNat, Nat.lt_succ_of_le h⟩
  rwa [UInt8.ofNat_toNat] at hn

theorem exists_keys {keys : List GoCodec.KeyField} (h : ∀ k ∈ keys, k.typeHint ≤ 4) :
    ∃ keys' : KeyDescriptors, keys'.toGo = keys := by
  have hkey : ∀ k ∈ keys, ∃ k' : KeyField, True ∧ k'.toGo = k := by
    intro k hk
    obtain ⟨hint, hhint⟩ := exists_hint (h k hk)
    exact ⟨⟨k.offset, k.size, hint⟩, trivial, by rw [KeyField.toGo, hhint]⟩
  obtain ⟨ks, -, rfl⟩ := exists_map_eq hkey
  exact ⟨⟨ks⟩, rfl⟩

/-- A request within the limits has the fields of a well-formed payload. -/
theorem exists_fields {topic type : GoCodec.GoString} {qos : List GoCodec.QosPolicy} {keys : List GoCodec.KeyField}
    (h : GoCodec.WithinLimits topic type qos keys) :
    ∃ (t T : String) (qos' : QosSet) (keys' : KeyDescriptors),
      (StringFits t ∧ StringFits T ∧ qos'.WF ∧ keys'.Fits) ∧
      utf8 t = topic ∧ utf8 T = type ∧ qos'.toGo = qos ∧ keys'.toGo = keys := by
  obtain ⟨t, ht, rfl⟩ := exists_string h.topicName
  obtain ⟨T, hT, rfl⟩ := exists_string h.typeName
  obtain ⟨ps, hps, rfl⟩ := exists_map_eq fun p hp => exists_policy (h.policies p hp)
  obtain ⟨ks, rfl⟩ := exists_keys h.hints
  have hids := h.ids
  have hcount := h.keyCount
  rw [List.map_map] at hids
  rw [KeyDescriptors.toGo, List.length_map] at hcount
  exact ⟨t, T, ⟨ps⟩, ks, ⟨ht, hT, ⟨hids, hps⟩, hcount⟩, rfl, rfl, rfl, rfl⟩

theorem parseSubscribe_encodeSubscribe (g : GoCodec.SubscribePayload)
    (h : GoCodec.WithinLimits g.topicName g.typeName g.qos g.keys) :
    ∃ p : SubscribePayload, parseSubscribe (GoCodec.encodeSubscribe g) = .ok p ∧ p.toGo = g := by
  obtain ⟨topic, type, qos, isKeyed, keys⟩ := g
  obtain ⟨t, T, qos, keys, hwf, rfl, rfl, rfl, rfl⟩ := exists_fields h
  refine ⟨⟨t, T, qos, isKeyed, keys⟩, ?_, rfl⟩
  rw [GoCodec.encodeSubscribe, encodeEndpoint_toGo]
  exact readEndpoint_endpointBytes _ isKeyed hwf

theorem parseCreateWriter_encodeCreateWriter (g : GoCodec.CreateWriterPayload)
    (h : GoCodec.WithinLimits g.topicName g.typeName g.qos g.keys) :
    ∃ p : CreateWriterPayload, parseCreateWriter (GoCodec.encodeCreateWriter g) = .ok p ∧ p.toGo = g := by
  obtain ⟨topic, type, qos, isKeyed, keys⟩ := g
  obtain ⟨t, T, qos, keys, hwf, rfl, rfl, rfl, rfl⟩ := exists_fields h
  refine ⟨⟨t, T, qos, isKeyed, keys⟩, ?_, rfl⟩
  rw [GoCodec.encodeCreateWriter, encodeEndpoint_toGo]
  exact readEndpoint_endpointBytes _ isKeyed hwf

theorem parseUnsubscribe_encodeUnsubscribe (g : GoCodec.UnsubscribePayload) (ht : ValidString g.topicName)
    (hT : ValidString g.typeName) :
    ∃ p : UnsubscribePayload, parseUnsubscribe (GoCodec.encodeUnsubscribe g) = .ok p ∧ p.toGo = g := by
  obtain ⟨topic, type⟩ := g
  obtain ⟨t, htopic, rfl⟩ := exists_string ht
  obtain ⟨T, htype, rfl⟩ := exists_string hT
  refine ⟨⟨t, T⟩, ?_, rfl⟩
  simp only [GoCodec.encodeUnsubscribe, appendString_utf8, List.nil_append]
  exact unsubscribe_undoes ⟨t, T⟩ ⟨htopic, htype⟩

theorem parseDeleteWriter_encodeDeleteWriter (g : GoCodec.DeleteWriterPayload) :
    ∃ p : DeleteWriterPayload, parseDeleteWriter (GoCodec.encodeDeleteWriter g) = .ok p ∧ p.toGo = g :=
  ⟨⟨g.writerID⟩, deleteWriter_undoes ⟨g.writerID⟩ trivial, rfl⟩

theorem parseWriteMode_encodeWriteMode (g : GoCodec.WritePayload) (h : g.WithinLimits) :
    ∃ mode : WriteMode, parseWriteMode (GoCodec.encodeWriteMode g) = .ok mode ∧ mode.SameAs g := by
  rcases h with ⟨hm, hlimits⟩ | ⟨hm, hlen⟩
  · obtain ⟨t, T, qos, keys, hwf, ht, hT, hq, hk⟩ := exists_fields hlimits
    have hsame : (WriteMode.topicName t T qos keys g.data).SameAs g :=
      ⟨hm, ht.symm, hT.symm, hq.symm, hk.symm, rfl⟩
    refine ⟨_, ?_, hsame⟩
    rw [encodeWriteMode_sameAs hsame]
    exact writeMode_undoes _ hwf
  · have hsame : (WriteMode.writerId g.writerID g.keyBytes g.data).SameAs g := ⟨hm, rfl, rfl, rfl⟩
    refine ⟨_, ?_, hsame⟩
    rw [encodeWriteMode_sameAs hsame] at hlen ⊢
    apply writeMode_undoes
    simp only [serializeWriteMode, List.length_cons, List.length_append] at hlen
    rw [WriteMode.WF]
    omega

end DdsBridge
