import DdsBridge.Lib.Prefer
import DdsBridge.Sertype

/-!
# Which serdata are the same instance

`sd_eqkey` compares per-sample key bytes where both sides have them and payload keys otherwise.
For serdata from any of the constructors: when that is an equivalence, and when equal keys come
with equal hashes and key hashes.
-/

namespace DdsBridge

inductive SerdataOrigin where
  | sample (kind : SerdataKind) (wrapper : SampleWrapper)
  | ser (kind : SerdataKind) (fragchain : List Rdata) (size : Nat)
  | serIov (kind : SerdataKind) (iov : List Bytes) (size : Nat)
  | keyhash (kh : Vector UInt8 16)

def SerdataOrigin.build (st : OpaqueSertype) : SerdataOrigin → OpaqueSerdata
  | sample kind wrapper => sdFromSample st kind wrapper
  | ser kind fragchain size => sdFromSer st kind fragchain size
  | serIov kind iov size => sdFromSerIov st kind iov size
  | keyhash kh => sdFromKeyhash st kh

namespace OpaqueSerdata

def payload (sd : OpaqueSerdata) : Bytes := sd.data.getD []

def payloadKeys (sd : OpaqueSerdata) : List Bytes := sd.sertype.keyFields.map (extractKeyBytes sd.payload)

end OpaqueSerdata

/-! ## What the constructors have in common -/

section
variable (st : OpaqueSertype) (o : SerdataOrigin)

@[simp] theorem build_sertype : (o.build st).sertype = st := by cases o <;> rfl

theorem build_data : (o.build st).data = some (o.build st).payload := by cases o <;> rfl

theorem sdFromSample_keyBytes (kind : SerdataKind) (sample : SampleWrapper) :
    (sdFromSample st kind sample).keyBytes? = (sdFromSample st kind sample).keyData := by
  simp [OpaqueSerdata.keyBytes?, sdFromSample, Option.filter_filter]

theorem build_hash : (o.build st).hash =
    ((o.build st).keyBytes?.map fun k => murmurhash3 k (stHash st)).getD (stHash st) := by
  cases o with
  | sample kind wrapper =>
    rw [SerdataOrigin.build, sdFromSample_keyBytes]
    simp only [sdFromSample]
    cases wrapper.keyData.filter fun k => !k.isEmpty with
    | none => rfl
    | some k => rfl
  | ser kind fragchain size => rfl
  | serIov kind iov size => rfl
  | keyhash kh => rfl

end

/-! ## `sd_eqkey` -/

theorem keysEqual_iff (aData bData : Bytes) : ∀ keyFields : List KeyField,
    keysEqual aData bData keyFields = true ↔
      keyFields.map (extractKeyBytes aData) = keyFields.map (extractKeyBytes bData)
  | [] => by simp [keysEqual]
  | field :: keyFields => by
    have ih := keysEqual_iff aData bData keyFields
    by_cases h : extractKeyBytes aData field = extractKeyBytes bData field
    · simp [keysEqual, h, ih]
    · simp [keysEqual, h]

theorem hashKeyBytes_congr {aData bData : Bytes} : ∀ {keyFields : List KeyField},
    keyFields.map (extractKeyBytes aData) = keyFields.map (extractKeyBytes bData) →
      hashKeyBytes aData keyFields = hashKeyBytes bData keyFields := by
  intro keyFields h
  have hfold : ∀ data : Bytes, hashKeyBytes data keyFields =
      (keyFields.map (extractKeyBytes data)).foldl (fun hash key =>
        key.foldl (fun hash b => (hash ^^^ b.toUInt32) * 16777619) hash) 2166136261 := by
    intro data
    rw [hashKeyBytes, List.foldl_map]
  rw [hfold, hfold, h]

section
variable (st : OpaqueSertype) (o₁ o₂ o₃ : SerdataOrigin)

theorem sdEqkey_build : sdEqkey (o₁.build st) (o₂.build st) = true ↔
    Prefer.Same OpaqueSerdata.keyBytes? OpaqueSerdata.payloadKeys (o₁.build st) (o₂.build st) := by
  have hpayload : (if st.keyFields.isEmpty then true
      else keysEqual (o₁.build st).payload (o₂.build st).payload st.keyFields) = true ↔
      (o₁.build st).payloadKeys = (o₂.build st).payloadKeys := by
    simp only [OpaqueSerdata.payloadKeys, build_sertype]
    by_cases h : st.keyFields.isEmpty
    · simp [List.isEmpty_iff.mp h]
    · simp only [h, if_false, Bool.false_eq_true]
      exact keysEqual_iff _ _ _
  unfold sdEqkey
  rw [build_data st o₁, build_data st o₂, build_sertype]
  cases h₁ : (o₁.build st).keyBytes? with
  | none => rw [Prefer.same_of_no_key_left h₁]; exact hpayload
  | some k₁ =>
    cases h₂ : (o₂.build st).keyBytes? with
    | none => rw [Prefer.same_of_no_key_right h₂]; exact hpayload
    | some k₂ =>
      rw [Prefer.same_of_keys (by simp [h₁]) (by simp [h₂]), h₁, h₂]
      simp

theorem sdEqkey_refl : sdEqkey (o₁.build st) (o₁.build st) = true :=
  (sdEqkey_build st o₁ o₁).mpr (Prefer.same_refl _)

theorem sdEqkey_symm : sdEqkey (o₁.build st) (o₂.build st) = sdEqkey (o₂.build st) (o₁.build st) := by
  rw [Bool.eq_iff_iff, sdEqkey_build, sdEqkey_build]
  exact ⟨Prefer.same_symm, Prefer.same_symm⟩

/-- Two of the three have key bytes, and the third, compared by its payload, ties them or their
payloads together although they differ. -/
def Tied (a b c : OpaqueSerdata) : Prop :=
  Prefer.Broken OpaqueSerdata.keyBytes? OpaqueSerdata.payloadKeys a b c

/-- **`sd_eqkey` is an equivalence on three serdata unless one ties the other two.** -/
theorem sdEqkey_equivalence_iff :
    (sdEqkey (o₁.build st) (o₁.build st) = true ∧
      (sdEqkey (o₁.build st) (o₂.build st) = true → sdEqkey (o₂.build st) (o₁.build st) = true) ∧
      (sdEqkey (o₁.build st) (o₂.build st) = true → sdEqkey (o₂.build st) (o₃.build st) = true →
        sdEqkey (o₁.build st) (o₃.build st) = true)) ↔
      ¬ Tied (o₁.build st) (o₂.build st) (o₃.build st) := by
  have htrans : (sdEqkey (o₁.build st) (o₂.build st) = true →
      sdEqkey (o₂.build st) (o₃.build st) = true → sdEqkey (o₁.build st) (o₃.build st) = true) ↔
      ¬ Tied (o₁.build st) (o₂.build st) (o₃.build st) := by
    rw [sdEqkey_build, sdEqkey_build, sdEqkey_build]
    exact Prefer.same_trans_iff
  refine ⟨fun h => ?_, fun h => ?_⟩
  · exact htrans.mp h.2.2
  · refine ⟨sdEqkey_refl st o₁, fun h₁₂ => ?_, htrans.mpr h⟩
    rw [← sdEqkey_symm]
    exact h₁₂

end

/-- Two writers' samples with different key bytes and the same sample from the network. -/
theorem sdEqkey_not_trans :
    let st : OpaqueSertype := { typeName := [84], topickindNoKey := false, keyFields := [⟨4, 4, .int32⟩] }
    let data : Bytes := [0, 1, 0, 0, 7, 0, 0, 0]
    let a := sdFromSample st .data (.fromBytes data [1])
    let b := sdFromSerIov st .data [data] 8
    let c := sdFromSample st .data (.fromBytes data [2])
    sdEqkey a b = true ∧ sdEqkey b c = true ∧ sdEqkey a c = false := by decide

/-! ## Hashes -/

def HashesAgree (a b : OpaqueSerdata) : Prop :=
  sdEqkey a b = true → a.hash = b.hash ∧ ∀ forceMd5, sdGetKeyhash a forceMd5 = sdGetKeyhash b forceMd5

/-- The payload hash that stands for the key where a serdata has no key bytes. -/
def payloadHash (sd : OpaqueSerdata) : Bytes :=
  if sd.sertype.keyFields = [] ∨ sd.payload = [] then fillKeyhash []
  else fillKeyhash (u32le (hashKeyBytes sd.payload sd.sertype.keyFields))

/-- The key bytes `k` happen to hash to what the payload of `sd` hashes to, three times over. -/
def Collides (k : Bytes) (sd : OpaqueSerdata) : Prop :=
  murmurhash3 k (stHash sd.sertype) = stHash sd.sertype ∧ md5Hash k = payloadHash sd ∧
    (k.length ≤ 16 → fillKeyhash k = payloadHash sd)

/-- One of the two has key bytes, and they collide with the payload of the other. -/
def HashCollision (a b : OpaqueSerdata) : Prop :=
  (∃ k, a.keyBytes? = some k ∧ b.keyBytes? = none ∧ Collides k b) ∨
    ∃ k, a.keyBytes? = none ∧ b.keyBytes? = some k ∧ Collides k a

/-- What has to hold of two serdata, by which of them has key bytes. -/
def HashCondition (a b : OpaqueSerdata) : Prop :=
  match a.keyBytes?, b.keyBytes? with
  | some _, some _ => True
  | some _, none => a.payloadKeys ≠ b.payloadKeys
  | none, some _ => a.payloadKeys ≠ b.payloadKeys
  | none, none => a.sertype.keyFields ≠ [] → a.payloadKeys = b.payloadKeys → (a.payload = [] ↔ b.payload = [])

theorem sdGetKeyhash_of_key {sd : OpaqueSerdata} {k : Bytes} (h : sd.keyBytes? = some k) (forceMd5 : Bool) :
    sdGetKeyhash sd forceMd5 = if !forceMd5 ∧ k.length ≤ 16 then fillKeyhash k else md5Hash k := by
  rw [sdGetKeyhash, h]

section
variable {st : OpaqueSertype} {o₁ o₂ : SerdataOrigin}

theorem sdGetKeyhash_of_no_key (h : (o₁.build st).keyBytes? = none) (forceMd5 : Bool) :
    sdGetKeyhash (o₁.build st) forceMd5 = payloadHash (o₁.build st) := by
  rw [sdGetKeyhash, h, build_data, payloadHash, build_sertype]
  by_cases hf : st.keyFields = []
  · simp [hf]
  · by_cases hd : (o₁.build st).payload = []
    · simp [hf, hd]
    · simp [hf, hd]

/-- A keyed and an unkeyed serdata agree only by a collision. -/
theorem agree_mixed {k : Bytes} (h₁ : (o₁.build st).keyBytes? = some k)
    (h₂ : (o₂.build st).keyBytes? = none) :
    ((o₁.build st).hash = (o₂.build st).hash ∧
      ∀ forceMd5, sdGetKeyhash (o₁.build st) forceMd5 = sdGetKeyhash (o₂.build st) forceMd5) ↔
      Collides k (o₂.build st) := by
  have hh₁ : (o₁.build st).hash = murmurhash3 k (stHash st) := by rw [build_hash, h₁]; rfl
  have hh₂ : (o₂.build st).hash = stHash st := by rw [build_hash, h₂]; rfl
  simp only [hh₁, hh₂, sdGetKeyhash_of_key h₁, sdGetKeyhash_of_no_key h₂, Collides, build_sertype]
  refine ⟨fun h => ?_, fun h => ?_⟩
  · obtain ⟨hm, hk⟩ := h
    have htrue := hk true
    have hfalse := hk false
    refine ⟨hm, by simpa using htrue, fun hle => ?_⟩
    simpa [hle] using hfalse
  · obtain ⟨hm, hmd5, hraw⟩ := h
    refine ⟨hm, fun forceMd5 => ?_⟩
    by_cases hc : !forceMd5 ∧ k.length ≤ 16
    · rw [if_pos hc, hraw hc.2]
    · rw [if_neg hc, hmd5]

theorem hashKeyBytes_of_empty_keys {data : Bytes} {keyFields : List KeyField}
    (h : keyFields.map (extractKeyBytes data) = keyFields.map (extractKeyBytes [])) :
    hashKeyBytes data keyFields = 2166136261 := by
  have hnil : ∀ (l : List KeyField) (hash : UInt32), l.foldl (fun hash field =>
      (extractKeyBytes [] field).foldl (fun hash b => (hash ^^^ b.toUInt32) * 16777619) hash) hash = hash := by
    intro l
    induction l with
    | nil => intro hash; rfl
    | cons field l ih =>
      intro hash
      have hf : extractKeyBytes [] field = [] := by simp [extractKeyBytes]
      rw [List.foldl_cons, hf]
      exact ih hash
  rw [hashKeyBytes_congr h]
  exact hnil keyFields _

/-- With the same payload keys, an empty payload and one that is not have different hashes. -/
theorem payloadHash_eq_iff (hf : st.keyFields ≠ [])
    (hk : (o₁.build st).payloadKeys = (o₂.build st).payloadKeys) :
    payloadHash (o₁.build st) = payloadHash (o₂.build st) ↔
      ((o₁.build st).payload = [] ↔ (o₂.build st).payload = []) := by
  simp only [OpaqueSerdata.payloadKeys, build_sertype] at hk
  have hbasis : fillKeyhash (u32le 2166136261) ≠ fillKeyhash [] := by decide
  unfold payloadHash
  simp only [build_sertype, hf, false_or]
  by_cases h₁ : (o₁.build st).payload = []
  · by_cases h₂ : (o₂.build st).payload = []
    · simp [h₁, h₂]
    · rw [h₁] at hk
      rw [hashKeyBytes_of_empty_keys hk.symm]
      simp [h₁, h₂, hbasis.symm]
  · by_cases h₂ : (o₂.build st).payload = []
    · rw [h₂] at hk
      rw [hashKeyBytes_of_empty_keys hk]
      simp [h₁, h₂, hbasis]
    · simp [h₁, h₂, hashKeyBytes_congr hk]

theorem agree_unkeyed (h₁ : (o₁.build st).keyBytes? = none) (h₂ : (o₂.build st).keyBytes? = none) :
    ((o₁.build st).hash = (o₂.build st).hash ∧
      ∀ forceMd5, sdGetKeyhash (o₁.build st) forceMd5 = sdGetKeyhash (o₂.build st) forceMd5) ↔
      payloadHash (o₁.build st) = payloadHash (o₂.build st) := by
  simp only [build_hash, h₁, h₂, sdGetKeyhash_of_no_key h₁, sdGetKeyhash_of_no_key h₂]
  simp

theorem agree_keyed {k : Bytes} (h₁ : (o₁.build st).keyBytes? = some k)
    (h₂ : (o₂.build st).keyBytes? = some k) :
    (o₁.build st).hash = (o₂.build st).hash ∧
      ∀ forceMd5, sdGetKeyhash (o₁.build st) forceMd5 = sdGetKeyhash (o₂.build st) forceMd5 := by
  simp [build_hash, h₁, h₂, sdGetKeyhash_of_key h₁, sdGetKeyhash_of_key h₂]

end

/-- **When equal keys have equal hashes**: under the condition, and otherwise only by a collision. -/
theorem hashesAgree_of_condition (st : OpaqueSertype) (o₁ o₂ : SerdataOrigin) :
    (HashCondition (o₁.build st) (o₂.build st) → HashesAgree (o₁.build st) (o₂.build st)) ∧
      (HashesAgree (o₁.build st) (o₂.build st) →
        HashCondition (o₁.build st) (o₂.build st) ∨ HashCollision (o₁.build st) (o₂.build st)) := by
  unfold HashesAgree HashCondition HashCollision
  rw [sdEqkey_build]
  cases h₁ : (o₁.build st).keyBytes? with
  | none =>
    rw [Prefer.same_of_no_key_left h₁]
    cases h₂ : (o₂.build st).keyBytes? with
    | none =>
      rw [agree_unkeyed h₁ h₂, build_sertype]
      by_cases hf : st.keyFields = []
      · simp [payloadHash, hf]
      · refine ⟨fun h hk => (payloadHash_eq_iff hf hk).mpr (h hf hk), fun h => .inl fun _ hk => ?_⟩
        exact (payloadHash_eq_iff hf hk).mp (h hk)
    | some k =>
      refine ⟨fun hne hk => absurd hk hne, fun h => ?_⟩
      by_cases hk : (o₁.build st).payloadKeys = (o₂.build st).payloadKeys
      · obtain ⟨hhash, hkeyhash⟩ := h hk
        have hc := (agree_mixed h₂ h₁).mp ⟨hhash.symm, fun forceMd5 => (hkeyhash forceMd5).symm⟩
        exact .inr (.inr ⟨k, rfl, rfl, hc⟩)
      · exact .inl hk
  | some k₁ =>
    cases h₂ : (o₂.build st).keyBytes? with
    | none =>
      rw [Prefer.same_of_no_key_right h₂]
      refine ⟨fun hne hk => absurd hk hne, fun h => ?_⟩
      by_cases hk : (o₁.build st).payloadKeys = (o₂.build st).payloadKeys
      · exact .inr (.inl ⟨k₁, rfl, rfl, (agree_mixed h₁ h₂).mp (h hk)⟩)
      · exact .inl hk
    | some k₂ =>
      rw [Prefer.same_of_keys (by simp [h₁]) (by simp [h₂]), h₁, h₂]
      refine ⟨fun _ hk => ?_, fun _ => .inl trivial⟩
      cases hk
      exact agree_keyed h₁ h₂

/-- A written sample and the same sample received from the network: one key, two hashes. -/
theorem hashes_differ :
    let st : OpaqueSertype := { typeName := [84], topickindNoKey := false, keyFields := [⟨4, 4, .int32⟩] }
    let data : Bytes := [0, 1, 0, 0, 7, 0, 0, 0]
    let a := sdFromSample st .data (.fromBytes data [7, 0, 0, 0])
    let b := sdFromSerIov st .data [data] 8
    sdEqkey a b = true ∧ a.hash ≠ b.hash ∧ sdGetKeyhash a false ≠ sdGetKeyhash b false := by decide

end DdsBridge
