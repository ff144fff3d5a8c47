import DdsBridge.Lib.Runs
import DdsBridge.SerdataMemory

/-!
# Who owns the buffers of the serdata

Every buffer on the heap is the payload or the key of one live serdata, the data of one sample that has not been freed,
or one of the zero buffers that `sd_to_ser_ref` hands out and nothing frees. A serdata is live while a reference to it
is left. So no callback touches what is gone, none frees anything twice, and what the callbacks say is what the
callbacks on values say.
-/

namespace DdsBridge

namespace Memory

open Prog

/-! ## Boxes -/

def SerdataBox.buffers (osd : SerdataBox) : Multiset Nat := osd.data.buffers + osd.keyData.buffers

/-- In the box and behind its pointers lies `v`. -/
structure SerdataBox.Holds (osd : SerdataBox) (heap : Heap UInt8) (v : OpaqueSerdata) : Prop where
  base : osd.sertype = v.sertype ∧ osd.kind = v.kind ∧ osd.hash = v.hash
  payload : v.data = some v.payload
  data : heap.HasVec ⟨v.payload, osd.capacity⟩ osd.data
  size : osd.size = v.payload.length
  key : match v.keyData with
    | none => osd.keyData = .null
    | some key => heap.HasVec ⟨key, osd.keyCapacity⟩ osd.keyData ∧ osd.keySize = key.length

section
variable {osd : SerdataBox} {heap heap' : Heap UInt8} {v : OpaqueSerdata}

theorem SerdataBox.Holds.congr (h : osd.Holds heap v) (hsame : ∀ b ∈ osd.buffers, heap'.lookup b = heap.lookup b) :
    osd.Holds heap' v where
  base := h.base
  payload := h.payload
  data := h.data.congr fun b hb => hsame b (Multiset.mem_add.mpr (.inl hb))
  size := h.size
  key := by
    have hkey := h.key
    cases hk : v.keyData with
    | none =>
      rw [hk] at hkey
      exact hkey
    | some key =>
      rw [hk] at hkey
      exact ⟨hkey.1.congr fun b hb => hsame b (Multiset.mem_add.mpr (.inr hb)), hkey.2⟩

theorem SerdataBox.Holds.hasKey (h : osd.Holds heap v) : osd.hasKey = v.keyBytes?.isSome := by
  have hkey := h.key
  unfold SerdataBox.hasKey OpaqueSerdata.keyBytes?
  cases hk : v.keyData with
  | none =>
    rw [hk] at hkey
    simp [hkey]
  | some key =>
    rw [hk] at hkey
    have hne := hkey.1.ne_null
    cases key with
    | nil => simp [hkey.2]
    | cons b key => simp [hkey.2, hne]

end

theorem deref_of {mem : SdMemory} {sd : Nat} {osd : SerdataBox} (h : mem.boxes.lookup sd = some osd) :
    deref sd mem = .ok (osd, mem) := by
  simp [deref, bind_apply, Prog.get, h, pure_apply]

theorem slice_of {mem : SdMemory} {p : Ptr} {len : Nat} {bytes : Bytes} (h : mem.heap.slice p len = some bytes) :
    slice p len mem = .ok (bytes, mem) := by
  simp [slice, bind_apply, Prog.get, h, pure_apply]

/-! ## Questions -/

section
variable {mem : SdMemory} {sd a b : Nat} {osd oa ob : SerdataBox} {v va vb : OpaqueSerdata}

theorem keySlice (h : osd.Holds mem.heap v) {key : Bytes} (hk : v.keyBytes? = some key) :
    slice osd.keyData osd.keySize mem = .ok (key, mem) := by
  have hkey := h.key
  rw [(Option.filter_eq_some_iff.mp hk).1] at hkey
  rw [hkey.2]
  exact slice_of hkey.1.slice_all

theorem dataSlice (h : osd.Holds mem.heap v) : slice osd.data osd.size mem = .ok (v.payload, mem) := by
  rw [h.size]
  exact slice_of h.data.slice_all

theorem sdEqkey_eq (ha : mem.boxes.lookup a = some oa) (hb : mem.boxes.lookup b = some ob) (hva : oa.Holds mem.heap va)
    (hvb : ob.Holds mem.heap vb) : sdEqkey a b mem = .ok (DdsBridge.sdEqkey va vb, mem) := by
  unfold sdEqkey DdsBridge.sdEqkey
  rw [bind_of_ok (deref_of ha), bind_of_ok (deref_of hb), hva.hasKey, hvb.hasKey, hva.payload, hvb.payload, hva.base.1]
  have hpayloads : (if va.sertype.keyFields.isEmpty then pure true
      else if oa.data = .null ∨ ob.data = .null then pure (decide (oa.data = .null) && decide (ob.data = .null))
      else do
        let da ← slice oa.data oa.size
        let db ← slice ob.data ob.size
        pure (keysEqual da db va.sertype.keyFields) : Mem Bool) mem =
      .ok (if va.sertype.keyFields.isEmpty then true else keysEqual va.payload vb.payload va.sertype.keyFields, mem) := by
    by_cases hfields : va.sertype.keyFields.isEmpty
    · simp only [hfields, if_true, pure_apply]
    · simp only [hfields, if_false, hva.data.ne_null, hvb.data.ne_null, or_self, Bool.false_eq_true]
      rw [bind_of_ok (dataSlice hva), bind_of_ok (dataSlice hvb), pure_apply]
  cases hka : va.keyBytes? with
  | none => simpa using hpayloads
  | some ka =>
    cases hkb : vb.keyBytes? with
    | none => simpa using hpayloads
    | some kb =>
      simp only [Option.isSome_some, and_self, if_true]
      rw [bind_of_ok (keySlice hva hka), bind_of_ok (keySlice hvb hkb), pure_apply]

theorem sdGetKeyhash_eq (hsd : mem.boxes.lookup sd = some osd) (hv : osd.Holds mem.heap v) (forceMd5 : Bool) :
    sdGetKeyhash sd forceMd5 mem = .ok (DdsBridge.sdGetKeyhash v forceMd5, mem) := by
  unfold sdGetKeyhash DdsBridge.sdGetKeyhash
  rw [bind_of_ok (deref_of hsd), hv.hasKey, hv.payload, hv.base.1]
  cases hk : v.keyBytes? with
  | some key =>
    simp only [Option.isSome_some, if_true]
    rw [bind_of_ok (keySlice hv hk), pure_apply]
  | none =>
    simp only [Option.isSome_none, Bool.false_eq_true, if_false, hv.data.ne_null, false_or, hv.size,
      List.length_eq_zero_iff, List.isEmpty_iff]
    by_cases hfields : v.sertype.keyFields = []
    · simp only [hfields, if_true, pure_apply]
    · by_cases hempty : v.payload = []
      · simp only [hfields, hempty, if_true, if_false, pure_apply]
      · simp only [hfields, hempty, if_false]
        rw [← hv.size, bind_of_ok (dataSlice hv), pure_apply]

theorem sdSize_eq (hsd : mem.boxes.lookup sd = some osd) (hv : osd.Holds mem.heap v) :
    sdSize sd mem = .ok (UInt32.ofNat v.payload.length, mem) := by
  unfold sdSize
  rw [bind_of_ok (deref_of hsd), hv.size, pure_apply]

theorem toNat_add_of_lt {off sz : UInt64} (h : off.toNat + sz.toNat < 2 ^ 64) :
    (off + sz).toNat = off.toNat + sz.toNat := by
  rw [UInt64.toNat_add, Nat.mod_eq_of_lt h]

theorem rangeSlice (hv : osd.Holds mem.heap v) {off sz : UInt64} (hin : off.toNat + sz.toNat ≤ v.payload.length) :
    mem.heap.slice (osd.data.add off.toNat) sz.toNat = some (v.serialized off sz) := by
  rw [OpaqueSerdata.serialized, if_pos hin]
  exact hv.data.slice hin

theorem sdToSer_eq (hsd : mem.boxes.lookup sd = some osd) (hv : osd.Holds mem.heap v) {off sz : UInt64}
    (hwrap : off.toNat + sz.toNat < 2 ^ 64) : sdToSer sd off sz mem = .ok (v.serialized off sz, mem) := by
  unfold sdToSer
  rw [bind_of_ok (deref_of hsd), toNat_add_of_lt hwrap, hv.size]
  by_cases hzero : sz = 0
  · subst hzero
    simp [OpaqueSerdata.serialized, pure_apply]
  · have hpos : sz > 0 := UInt64.pos_iff_ne_zero.mpr hzero
    by_cases hin : off.toNat + sz.toNat ≤ v.payload.length
    · simp only [hv.data.ne_null, hin, hpos, ne_eq, not_false_eq_true, and_self, if_true]
      exact slice_of (rangeSlice hv hin)
    · simp [hin, OpaqueSerdata.serialized, pure_apply]

end

/-! ## Vectors and boxes come and go -/

/-- Every buffer of `owned` is as it was. -/
def SameOn (owned : Multiset Nat) (heap heap' : Heap UInt8) : Prop := ∀ b ∈ owned, heap'.lookup b = heap.lookup b

theorem vecIntoRaw_eq (mem : SdMemory) (b : Nat) (buf : Buffer UInt8) :
    vecIntoRaw b buf mem = .ok ((mem.heap.forget b buf).1, { mem with heap := (mem.heap.forget b buf).2 }) := rfl

theorem dropVec_of {mem : SdMemory} {p : Ptr} {len capacity : Nat} {heap' : Heap UInt8}
    (h : mem.heap.reclaim p len capacity = some heap') :
    dropVec p len capacity mem = .ok ((), { mem with heap := heap' }) := by
  simp [dropVec, bind_apply, Prog.get, h, pure_apply, Prog.modify]

section
variable {mem : SdMemory} {sd : Nat} {osd : SerdataBox} {v : OpaqueSerdata} {rest : Multiset Nat}

/-- A vector whose capacity is not zero is freed; one of no capacity has no buffer. -/
theorem freeVec_eq {p : Ptr} {buf : Buffer UInt8} (hv : mem.heap.HasVec buf p)
    (ho : mem.heap.OwnedBy (p.buffers + rest)) : ∃ heap', heap'.OwnedBy rest ∧ SameOn rest mem.heap heap' ∧
      freeVec p buf.items.length buf.capacity mem = .ok ((), { mem with heap := heap' }) := by
  unfold freeVec
  by_cases hcap : buf.capacity = 0
  · rw [hv.buffers_of_empty hcap, zero_add] at ho
    refine ⟨mem.heap, ho, fun _ _ => rfl, ?_⟩
    rw [if_neg (by simp [hcap]), pure_apply]
  · obtain ⟨b, hb, hreclaim⟩ := hv.reclaim (Nat.pos_iff_ne_zero.mpr hcap)
    rw [hb] at ho
    refine ⟨mem.heap.erase b, ho.erase, fun c hc => ho.other hc, ?_⟩
    rw [if_pos ⟨hv.ne_null, Nat.pos_iff_ne_zero.mpr hcap⟩]
    exact dropVec_of hreclaim

theorem sdFree_eq (hsd : mem.boxes.lookup sd = some osd) (hv : osd.Holds mem.heap v)
    (ho : mem.heap.OwnedBy (osd.buffers + rest)) : ∃ heap', heap'.OwnedBy rest ∧ SameOn rest mem.heap heap' ∧
      sdFree sd mem = .ok ((), { mem with heap := heap', boxes := mem.boxes.erase sd }) := by
  unfold sdFree
  rw [SerdataBox.buffers, add_assoc] at ho
  obtain ⟨heap₁, ho₁, hsame₁, hdata⟩ := freeVec_eq hv.data ho
  rw [← hv.size] at hdata
  have hkey : ∃ heap₂, heap₂.OwnedBy rest ∧ SameOn rest heap₁ heap₂ ∧
      freeVec osd.keyData osd.keySize osd.keyCapacity { mem with heap := heap₁ } = .ok ((), { mem with heap := heap₂ }) := by
    have hkey := hv.key
    cases hk : v.keyData with
    | none =>
      rw [hk] at hkey
      rw [hkey, Ptr.buffers_null, zero_add] at ho₁
      refine ⟨heap₁, ho₁, fun _ _ => rfl, ?_⟩
      simp [freeVec, hkey, pure_apply]
    | some key =>
      rw [hk] at hkey
      rw [hkey.2]
      refine @freeVec_eq { mem with heap := heap₁ } _ _ _ (hkey.1.congr fun b hb => hsame₁ b ?_) ho₁
      exact Multiset.mem_add.mpr (.inl hb)
  obtain ⟨heap₂, ho₂, hsame₂, hkey⟩ := hkey
  refine ⟨heap₂, ho₂, fun b hb => (hsame₂ b hb).trans (hsame₁ b (Multiset.mem_add.mpr (.inr hb))), ?_⟩
  rw [bind_of_ok (deref_of hsd), bind_of_ok hdata, bind_of_ok hkey]
  rfl

end

/-! ## The invariant -/

/-- An empty sample has no vector. -/
def Wrapper.Holds (wrapper : Wrapper) (heap : Heap UInt8) (bytes : Bytes) : Prop :=
  wrapper.len = bytes.length ∧
    if bytes = [] then wrapper.data = .null else heap.HasVec ⟨bytes, bytes.length⟩ wrapper.data

def SdMemory.owners (mem : SdMemory) : Multiset Nat :=
  Table.owned SerdataBox.buffers mem.boxes + Table.owned (fun wrapper => wrapper.data.buffers) mem.wrappers

/-- A range that was handed out can be read: it lies in a buffer of its serdata, or in zeros. -/
def Readable (mem : SdMemory) (zeros : Leaked) (sd : Nat) (bytes : Bytes) (iov : Iovec) : Prop :=
  mem.heap.slice iov.iovBase iov.iovLen = some bytes ∧
    ∀ b ∈ iov.iovBase.buffers, b ∈ zeros.buffers ∨ ∃ osd, mem.boxes.lookup sd = some osd ∧ b ∈ osd.buffers

/-- What lies in memory is what Cyclone DDS has. -/
structure Facts (mem : SdMemory) (held : Holding) (zeros : Leaked) : Prop where
  live : ∀ sd, 0 < held.refCount sd ↔ (held.values.lookup sd).isSome
  boxes : ∀ sd v, held.values.lookup sd = some v →
    ∃ osd, mem.boxes.lookup sd = some osd ∧ osd.Holds mem.heap v ∧ osd.refc.toNat = held.refCount sd
  gone : ∀ sd, held.values.lookup sd = none → mem.boxes.lookup sd = none
  iovs : ∀ ref sd bytes, held.iovs.lookup ref = some (sd, bytes) →
    ∃ iov, mem.iovecs.lookup ref = some iov ∧ Readable mem zeros sd bytes iov
  samples : ∀ sample bytes, held.samples.lookup sample = some bytes →
    ∃ wrapper, mem.wrappers.lookup sample = some wrapper ∧ wrapper.Holds mem.heap bytes
  freed : ∀ sample wrapper, mem.wrappers.lookup sample = some wrapper → held.samples.lookup sample = none →
    wrapper.data = .null
  zeros : ∀ b n, zeros.lookup b = some n → mem.heap.lookup b = some (zeroVec n)

/-- And every buffer has one owner. -/
structure Refines (mem : SdMemory) (held : Holding) (zeros : Leaked) : Prop where
  facts : Facts mem held zeros
  owned : mem.heap.OwnedBy (mem.owners + zeros.buffers)

section
variable {mem : SdMemory} {held held' : Holding} {zeros : Leaked} {sd a : Nat} {osd : SerdataBox}

theorem Leaked.mem_buffers {b n : Nat} (h : zeros.lookup b = some n) : b ∈ zeros.buffers :=
  Multiset.mem_coe.mpr (AList.mem_keys.mpr (AList.lookup_isSome.mp (by simp [h])))

theorem mem_owners_of_box (h : mem.boxes.lookup sd = some osd) {b : Nat} (hb : b ∈ osd.buffers) :
    b ∈ mem.owners + zeros.buffers := by
  have hbox := Table.mem_owned (f := SerdataBox.buffers) h hb
  simp [SdMemory.owners, hbox]

theorem mem_owners_of_wrapper {wrapper : Wrapper} (h : mem.wrappers.lookup a = some wrapper) {b : Nat}
    (hb : b ∈ wrapper.data.buffers) : b ∈ mem.owners + zeros.buffers := by
  have hwrapper := Table.mem_owned (f := fun wrapper : Wrapper => wrapper.data.buffers) h hb
  simp [SdMemory.owners, hwrapper]

theorem Wrapper.Holds.congr {wrapper : Wrapper} {heap heap' : Heap UInt8} {bytes : Bytes} (h : wrapper.Holds heap bytes)
    (hsame : SameOn wrapper.data.buffers heap heap') : wrapper.Holds heap' bytes := by
  unfold Wrapper.Holds at h ⊢
  refine ⟨h.1, ?_⟩
  have hdata := h.2
  split
  · rw [if_pos (by assumption)] at hdata
    exact hdata
  · rw [if_neg (by assumption)] at hdata
    exact hdata.congr hsame

/-- Facts stay facts while no buffer with an owner changes. -/
theorem Facts.sameHeap (h : Facts mem held zeros) {heap' : Heap UInt8}
    (hsame : SameOn (mem.owners + zeros.buffers) mem.heap heap') : Facts { mem with heap := heap' } held zeros where
  live := h.live
  boxes := fun sd v hv => by
    obtain ⟨osd, hosd, hholds, hrefc⟩ := h.boxes sd v hv
    exact ⟨osd, hosd, hholds.congr fun b hb => hsame b (mem_owners_of_box hosd hb), hrefc⟩
  gone := h.gone
  iovs := fun ref sd bytes hiov => by
    obtain ⟨iov, hlook, hslice, howner⟩ := h.iovs ref sd bytes hiov
    refine ⟨iov, hlook, ?_, howner⟩
    rw [← hslice]
    refine Heap.slice_congr (fun b hb => ?_) _
    rcases howner b hb with hz | ⟨osd, hosd, hb⟩
    · exact hsame b (Multiset.mem_add.mpr (.inr hz))
    · exact hsame b (mem_owners_of_box hosd hb)
  samples := fun sample bytes hs => by
    obtain ⟨wrapper, hlook, hholds⟩ := h.samples sample bytes hs
    exact ⟨wrapper, hlook, hholds.congr fun b hb => hsame b (mem_owners_of_wrapper hlook hb)⟩
  freed := h.freed
  zeros := fun b n hb => (hsame b (Multiset.mem_add.mpr (.inr (Leaked.mem_buffers hb)))).trans (h.zeros b n hb)

theorem Facts.box (h : Facts mem held zeros) (hsd : 0 < held.refCount sd) : ∃ v osd, held.values.lookup sd = some v ∧
    mem.boxes.lookup sd = some osd ∧ osd.Holds mem.heap v ∧ osd.refc.toNat = held.refCount sd := by
  obtain ⟨v, hv⟩ := Option.isSome_iff_exists.mp ((h.live sd).mp hsd)
  obtain ⟨osd, hosd, hholds, hrefc⟩ := h.boxes sd v hv
  exact ⟨v, osd, hv, hosd, hholds, hrefc⟩

/-! ### Counting -/

theorem refCount_ref (hrefs : held'.refs = sd ::ₘ held.refs) (hiovs : held'.iovs = held.iovs) (a : Nat) :
    held'.refCount a = held.refCount a + if a = sd then 1 else 0 := by
  simp only [Holding.refCount, hrefs, hiovs, Multiset.count_cons]
  omega

theorem refCount_unref (h : sd ∈ held.refs) :
    { held with refs := held.refs.erase sd : Holding }.refCount a + (if a = sd then 1 else 0) = held.refCount a := by
  have hcons := congrArg (Multiset.count a) (Multiset.cons_erase h)
  rw [Multiset.count_cons] at hcons
  simp only [Holding.refCount]
  omega

theorem refCount_insertIov {ref : Nat} {bytes : Bytes} (h : held.iovs.lookup ref = none) :
    { held with iovs := held.iovs.insert ref (sd, bytes) : Holding }.refCount a =
      held.refCount a + if a = sd then 1 else 0 := by
  have hperm := ((Table.values_perm_erase held.iovs ref).map (·.1)).count_eq a
  rw [h] at hperm
  simp only [Holding.refCount, Table.values_insert, List.map_cons, List.count_cons, beq_iff_eq, eq_comm (a := sd)]
  simp only [Option.toList_none, List.nil_append] at hperm
  omega

theorem refCount_eraseIov {ref : Nat} {bytes : Bytes} (h : held.iovs.lookup ref = some (sd, bytes)) :
    { held with iovs := held.iovs.erase ref : Holding }.refCount a + (if a = sd then 1 else 0) = held.refCount a := by
  have hperm := ((Table.values_perm_erase held.iovs ref).map (·.1)).count_eq a
  rw [h] at hperm
  simp only [Option.toList_some, List.singleton_append, List.map_cons, List.count_cons, beq_iff_eq,
    eq_comm (a := sd)] at hperm
  simp only [Holding.refCount]
  omega

/-! ### References -/

theorem Readable.setBox {osd' : SerdataBox} {bytes : Bytes} {iov : Iovec} (h : Readable mem zeros a bytes iov)
    (hosd : mem.boxes.lookup sd = some osd) (hbuffers : osd'.buffers = osd.buffers) :
    Readable { mem with boxes := mem.boxes.insert sd osd' } zeros a bytes iov := by
  refine ⟨h.1, fun b hb => ?_⟩
  rcases h.2 b hb with hz | ⟨own, hown, hb⟩
  · exact .inl hz
  · refine .inr ?_
    rw [Table.lookup_insert_eq]
    by_cases ha : a = sd
    · rw [ha, hosd] at hown
      cases hown
      exact ⟨osd', if_pos ha, hbuffers ▸ hb⟩
    · exact ⟨own, (if_neg ha).trans hown, hb⟩

/-- A reference count that follows the references. -/
theorem Refines.setRefc (h : Refines mem held zeros) (hosd : mem.boxes.lookup sd = some osd) {refc : UInt32}
    (hrefc : refc.toNat = held'.refCount sd) (hpos : 0 < held'.refCount sd)
    (hcount : ∀ a, a ≠ sd → held'.refCount a = held.refCount a) (hvalues : held'.values = held.values)
    (hsamples : held'.samples = held.samples)
    (hiovs : ∀ ref a bytes, held'.iovs.lookup ref = some (a, bytes) →
      ∃ iov, mem.iovecs.lookup ref = some iov ∧ Readable mem zeros a bytes iov) :
    Refines { mem with boxes := mem.boxes.insert sd { osd with refc } } held' zeros := by
  have hvalue : (held.values.lookup sd).isSome := by
    cases hv : held.values.lookup sd with
    | some v => rfl
    | none => exact absurd ((h.facts.gone sd hv).symm.trans hosd) (by simp)
  refine ⟨⟨fun a => ?_, fun a v hv => ?_, fun a hv => ?_, fun ref a bytes hiov => ?_, ?_, ?_, h.facts.zeros⟩, ?_⟩
  · rw [hvalues]
    by_cases ha : a = sd
    · rw [ha]
      exact iff_of_true hpos hvalue
    · rw [hcount a ha]
      exact h.facts.live a
  · rw [hvalues] at hv
    obtain ⟨own, hown, hholds, hcounted⟩ := h.facts.boxes a v hv
    rw [Table.lookup_insert_eq]
    by_cases ha : a = sd
    · rw [ha, hosd] at hown
      cases hown
      exact ⟨{ osd with refc }, if_pos ha, ⟨hholds.base, hholds.payload, hholds.data, hholds.size, hholds.key⟩, ha ▸ hrefc⟩
    · exact ⟨own, (if_neg ha).trans hown, hholds, (hcount a ha).symm ▸ hcounted⟩
  · rw [hvalues] at hv
    rw [Table.lookup_insert_eq, if_neg, h.facts.gone a hv]
    rintro rfl
    rw [hv] at hvalue
    cases hvalue
  · obtain ⟨iov, hlook, hread⟩ := hiovs ref a bytes hiov
    exact ⟨iov, hlook, hread.setBox hosd rfl⟩
  · rw [hsamples]
    exact h.facts.samples
  · rw [hsamples]
    exact h.facts.freed
  · have hboxes : Table.owned SerdataBox.buffers (mem.boxes.insert sd { osd with refc }) =
        Table.owned SerdataBox.buffers mem.boxes := Table.owned_replace hosd rfl
    change mem.heap.OwnedBy (Table.owned SerdataBox.buffers (mem.boxes.insert sd { osd with refc }) + _ + zeros.buffers)
    rw [hboxes]
    exact h.owned

theorem Refines.retain (h : Refines mem held zeros) (held' : Holding) (hpos : 0 < held.refCount sd) (hlt : held.refCount sd + 1 < 2 ^ 32)
    (hcount : ∀ a, held'.refCount a = held.refCount a + if a = sd then 1 else 0) (hvalues : held'.values = held.values)
    (hsamples : held'.samples = held.samples)
    (hiovs : ∀ ref a bytes, held'.iovs.lookup ref = some (a, bytes) →
      ∃ iov, mem.iovecs.lookup ref = some iov ∧ Readable mem zeros a bytes iov) :
    ∃ mem', serdataRef sd mem = .ok ((), mem') ∧ Refines mem' held' zeros := by
  obtain ⟨v, osd, -, hosd, -, hrefc⟩ := h.facts.box hpos
  have hsd : held'.refCount sd = held.refCount sd + 1 := by
    rw [hcount sd, if_pos rfl]
  have hnew : (osd.refc + 1).toNat = held'.refCount sd := by
    rw [UInt32.toNat_add, hrefc, hsd, UInt32.toNat_one, Nat.mod_eq_of_lt hlt]
  refine ⟨_, bind_of_ok (deref_of hosd), h.setRefc hosd hnew (by omega) (fun a ha => ?_) hvalues hsamples hiovs⟩
  rw [hcount a, if_neg ha, Nat.add_zero]

theorem Facts.release_last (h : Facts mem held zeros) {heap' : Heap UInt8}
    (hsame : SameOn (Table.owned SerdataBox.buffers (mem.boxes.erase sd) +
      Table.owned (fun wrapper => wrapper.data.buffers) mem.wrappers + zeros.buffers) mem.heap heap')
    (hcount : ∀ a, held'.refCount a + (if a = sd then 1 else 0) = held.refCount a)
    (hlast : held'.refCount sd = 0) (hvalues : held'.values = held.values.erase sd)
    (hsamples : held'.samples = held.samples)
    (hiovs : ∀ ref p, held'.iovs.lookup ref = some p → held.iovs.lookup ref = some p ∧ p.1 ≠ sd) :
    Facts { mem with heap := heap', boxes := mem.boxes.erase sd } held' zeros := by
  have hother : ∀ {a : Nat} {own : SerdataBox}, a ≠ sd → mem.boxes.lookup a = some own →
      (mem.boxes.erase sd).lookup a = some own := fun ha hown => by
    rw [Table.lookup_erase_eq, if_neg ha, hown]
  have hbuffers : ∀ {a : Nat} {own : SerdataBox}, a ≠ sd → mem.boxes.lookup a = some own →
      SameOn own.buffers mem.heap heap' := fun ha hown b hb => by
    refine hsame b ?_
    have hmem := Table.mem_owned (f := SerdataBox.buffers) (hother ha hown) hb
    simp [hmem]
  refine ⟨fun a => ?_, fun a v hv => ?_, fun a hv => ?_, fun ref a bytes hiov => ?_, fun sample bytes hs => ?_, ?_,
    fun b n hb => ?_⟩
  · rw [hvalues, Table.lookup_erase_eq]
    by_cases ha : a = sd
    · simp [ha, hlast]
    · have hsum := hcount a
      rw [if_neg ha, Nat.add_zero] at hsum
      rw [if_neg ha, hsum]
      exact h.live a
  · rw [hvalues, Table.lookup_erase_eq] at hv
    by_cases ha : a = sd
    · simp [ha] at hv
    · rw [if_neg ha] at hv
      obtain ⟨own, hown, hholds, hcounted⟩ := h.boxes a v hv
      have hsum := hcount a
      rw [if_neg ha, Nat.add_zero] at hsum
      exact ⟨own, hother ha hown, hholds.congr (hbuffers ha hown), hsum ▸ hcounted⟩
  · rw [hvalues, Table.lookup_erase_eq] at hv
    rw [Table.lookup_erase_eq]
    by_cases ha : a = sd
    · rw [if_pos ha]
    · rw [if_neg ha] at hv ⊢
      exact h.gone a hv
  · obtain ⟨hiov, ha⟩ := hiovs ref _ hiov
    obtain ⟨iov, hlook, hslice, howner⟩ := h.iovs ref a bytes hiov
    refine ⟨iov, hlook, ?_, fun b hb => ?_⟩
    · rw [← hslice]
      refine Heap.slice_congr (fun b hb => ?_) _
      rcases howner b hb with hz | ⟨own, hown, hb⟩
      · exact hsame b (by simp [hz])
      · exact hbuffers ha hown b hb
    · rcases howner b hb with hz | ⟨own, hown, hb⟩
      · exact .inl hz
      · exact .inr ⟨own, hother ha hown, hb⟩
  · rw [hsamples] at hs
    obtain ⟨wrapper, hlook, hholds⟩ := h.samples sample bytes hs
    refine ⟨wrapper, hlook, hholds.congr fun b hb => hsame b ?_⟩
    have hmem := Table.mem_owned (f := fun wrapper : Wrapper => wrapper.data.buffers) hlook hb
    simp [hmem]
  · rw [hsamples]
    exact h.freed
  · exact (hsame b (by simp [Leaked.mem_buffers hb])).trans (h.zeros b n hb)

theorem not_referred (h : held.refCount sd = 0) {ref : Nat} {p : Nat × Bytes} (hiov : held.iovs.lookup ref = some p) :
    p.1 ≠ sd := by
  rintro rfl
  have hmem : p.1 ∈ (Table.values held.iovs).map (·.1) := List.mem_map_of_mem (Table.mem_values.mpr ⟨ref, hiov⟩)
  have hpos := List.count_pos_iff.mpr hmem
  unfold Holding.refCount at h
  omega

/-- A reference is given back, and with the last one the serdata goes. -/
theorem Refines.release (h : Refines mem held zeros) (held' : Holding)
    (hcount : ∀ a, held'.refCount a + (if a = sd then 1 else 0) = held.refCount a) (hvalues : held'.values = held.values)
    (hsamples : held'.samples = held.samples)
    (hiovs : ∀ ref p, held'.iovs.lookup ref = some p → held.iovs.lookup ref = some p) :
    ∃ mem', serdataUnref sd mem = .ok ((), mem') ∧ mem'.iovecs = mem.iovecs ∧
      Refines mem' (held'.settle sd) zeros := by
  have hsd := hcount sd
  rw [if_pos rfl] at hsd
  have hpos : 0 < held.refCount sd := by omega
  obtain ⟨v, osd, -, hosd, hholds, hrefc⟩ := h.facts.box hpos
  have hone : osd.refc = 1 ↔ held'.refCount sd = 0 := by
    rw [← UInt32.toNat_inj, hrefc, UInt32.toNat_one]
    omega
  unfold serdataUnref
  rw [bind_of_ok (deref_of hosd)]
  by_cases hlast : held'.refCount sd = 0
  · have hfree : ∃ heap', heap'.OwnedBy (Table.owned SerdataBox.buffers (mem.boxes.erase sd) +
          Table.owned (fun wrapper => wrapper.data.buffers) mem.wrappers + zeros.buffers) ∧
        SameOn (Table.owned SerdataBox.buffers (mem.boxes.erase sd) +
          Table.owned (fun wrapper => wrapper.data.buffers) mem.wrappers + zeros.buffers) mem.heap heap' ∧
        sdFree sd { mem with boxes := mem.boxes.insert sd { osd with refc := osd.refc - 1 } } =
          .ok ((), { mem with heap := heap', boxes := (mem.boxes.insert sd { osd with refc := osd.refc - 1 }).erase sd }) := by
      refine @sdFree_eq { mem with boxes := mem.boxes.insert sd { osd with refc := osd.refc - 1 } } _ _ _ _
        (AList.lookup_insert mem.boxes) ⟨hholds.base, hholds.payload, hholds.data, hholds.size, hholds.key⟩ ?_
      have howned := h.owned
      rw [SdMemory.owners, Table.owned_erase_of_some hosd, add_assoc, add_assoc] at howned
      rw [add_assoc]
      exact howned
    obtain ⟨heap', howned, hsame, hfree⟩ := hfree
    have hsettle : held'.settle sd = { held' with values := held'.values.erase sd } := if_pos hlast
    have herase := Table.erase_insert mem.boxes sd { osd with refc := osd.refc - 1 }
    refine ⟨{ mem with heap := heap', boxes := mem.boxes.erase sd }, ?_, rfl, ?_, howned⟩
    · rw [bind_of_ok rfl, if_pos (hone.mpr hlast), hfree, herase]
    · rw [hsettle]
      exact h.facts.release_last hsame hcount hlast (by rw [hvalues]) hsamples fun ref p hp =>
        ⟨hiovs ref p hp, not_referred hlast hp⟩
  · have hsettle : held'.settle sd = held' := if_neg hlast
    have hnew : (osd.refc - 1).toNat = held'.refCount sd := by
      rw [UInt32.toNat_sub_of_le _ _ (UInt32.le_iff_toNat_le.mpr (by rw [hrefc, UInt32.toNat_one]; omega)), hrefc,
        UInt32.toNat_one]
      omega
    refine ⟨{ mem with boxes := mem.boxes.insert sd { osd with refc := osd.refc - 1 } }, ?_, rfl, ?_⟩
    · rw [bind_of_ok rfl, if_neg fun h => hlast (hone.mp h), pure_apply]
    · rw [hsettle]
      refine h.setRefc hosd hnew (by omega) (fun a ha => ?_) hvalues hsamples
        fun ref a bytes hiov => h.facts.iovs ref a bytes (hiovs ref _ hiov)
      have hsum := hcount a
      rw [if_neg ha] at hsum
      exact hsum

/-! ### A new serdata -/

theorem toVec_fits (bytes : Bytes) (spare : Nat) : (toVec bytes spare).items.length ≤ (toVec bytes spare).capacity := by
  unfold toVec
  cases bytes with
  | nil => simp
  | cons b bytes => simp

theorem Facts.addBox (h : Facts mem held zeros) (hnew : mem.boxes.lookup sd = none) {v : OpaqueSerdata}
    (hholds : osd.Holds mem.heap v) (hrefc : osd.refc = 1) : Facts { mem with boxes := mem.boxes.insert sd osd }
      { held with values := held.values.insert sd v, refs := sd ::ₘ held.refs } zeros := by
  have hdead : held.values.lookup sd = none := by
    cases hv : held.values.lookup sd with
    | none => rfl
    | some v =>
      obtain ⟨own, hown, -⟩ := h.boxes sd v hv
      exact absurd (hnew.symm.trans hown) (by simp)
  have hzero : held.refCount sd = 0 := by
    have hlive := h.live sd
    simp only [hdead, Option.isSome_none, Bool.false_eq_true, iff_false] at hlive
    omega
  have hcount : ∀ a, { held with values := held.values.insert sd v, refs := sd ::ₘ held.refs : Holding }.refCount a =
      held.refCount a + if a = sd then 1 else 0 := refCount_ref rfl rfl
  refine ⟨fun a => ?_, fun a w hw => ?_, fun a ha => ?_, fun ref a bytes hiov => ?_, h.samples, h.freed, h.zeros⟩
  · rw [hcount a, Table.lookup_insert_eq]
    by_cases ha : a = sd
    · simp [ha]
    · simp only [ha, if_false, Nat.add_zero]
      exact h.live a
  · rw [hcount a]
    rw [Table.lookup_insert_eq] at hw ⊢
    by_cases ha : a = sd
    · rw [if_pos ha] at hw
      cases hw
      exact ⟨osd, if_pos ha, hholds, by simp [ha, hrefc, hzero]⟩
    · rw [if_neg ha] at hw ⊢
      obtain ⟨own, hown, hown', hcounted⟩ := h.boxes a w hw
      exact ⟨own, hown, hown', by simp [ha, hcounted]⟩
  · rw [Table.lookup_insert_eq] at ha ⊢
    by_cases hsd : a = sd
    · simp [hsd] at ha
    · rw [if_neg hsd] at ha ⊢
      exact h.gone a ha
  · obtain ⟨iov, hlook, hslice, howner⟩ := h.iovs ref a bytes hiov
    refine ⟨iov, hlook, hslice, fun b hb => (howner b hb).imp_right fun hbox => ?_⟩
    obtain ⟨own, hown, hb⟩ := hbox
    refine ⟨own, ?_, hb⟩
    rw [Table.lookup_insert_eq, if_neg, hown]
    rintro rfl
    exact absurd (hnew.symm.trans hown) (by simp)

theorem forget_sameOn {heap : Heap UInt8} {owned : Multiset Nat} (ho : heap.OwnedBy owned) {b : Nat} (hb : b ∉ heap)
    {buf : Buffer UInt8} (hfits : buf.items.length ≤ buf.capacity) : SameOn owned heap (heap.forget b buf).2 :=
  fun _ hc => (heap.forget_spec hfits).2 _ (ho.fresh hb hc)

/-- The pointer to the key of a serdata and the heap with it. -/
def forgetKey (room : Room) (keyBuf : Buffer UInt8) (keyData : Option Bytes) (heap : Heap UInt8) : Ptr × Heap UInt8 :=
  if keyData.isSome then heap.forget room.key keyBuf else (.null, heap)

theorem newSerdata_run (room : Room) (spare : Nat) (value : OpaqueSerdata) :
    let buf := toVec value.payload spare
    let keyBuf := toVec (value.keyData.getD []) room.keySpare
    let data := mem.heap.forget room.data buf
    let key := forgetKey room keyBuf value.keyData data.2
    newSerdata room spare value mem = .ok ((), { mem with
      heap := key.2
      boxes := mem.boxes.insert room.box
        { sertype := value.sertype, kind := value.kind, hash := value.hash, refc := 1, data := data.1,
          size := buf.items.length, capacity := buf.capacity, keyData := key.1, keySize := keyBuf.items.length,
          keyCapacity := keyBuf.capacity } }) := by
  unfold newSerdata forgetKey
  rw [bind_of_ok (vecIntoRaw_eq mem room.data _)]
  cases value.keyData with
  | none => rfl
  | some key => rfl

theorem Refines.build (h : Refines mem held zeros) {room : Room} (hbox : room.box ∉ mem.boxes)
    (hdata : room.data ∉ mem.heap) (hkey : room.key ∉ mem.heap) (hne : room.data ≠ room.key) (spare : Nat)
    {value : OpaqueSerdata} (hpayload : value.data = some value.payload) :
    ∃ mem', newSerdata room spare value mem = .ok ((), mem') ∧ Refines mem'
      { held with values := held.values.insert room.box value, refs := room.box ::ₘ held.refs } zeros := by
  refine ⟨_, newSerdata_run room spare value, ?_⟩
  set buf := toVec value.payload spare with hbuf
  set keyBuf := toVec (value.keyData.getD []) room.keySpare with hkeyBuf
  set data := mem.heap.forget room.data buf with hdataEq
  set key := forgetKey room keyBuf value.keyData data.2 with hkeyEq
  have hfits : buf.items.length ≤ buf.capacity := toVec_fits _ _
  have hkeyFits : keyBuf.items.length ≤ keyBuf.capacity := toVec_fits _ _
  have hkeyFresh : room.key ∉ data.2 := by
    rw [← AList.lookup_eq_none, (mem.heap.forget_spec hfits).2 _ hne.symm]
    exact AList.lookup_eq_none.mpr hkey
  have howned₁ : Heap.OwnedBy data.2 (data.1.buffers + (mem.owners + zeros.buffers)) := h.owned.forget hdata
  have hvec₁ : Heap.HasVec data.2 buf data.1 := (mem.heap.forget_spec hfits).1
  have hsame₁ : SameOn (mem.owners + zeros.buffers) mem.heap data.2 := forget_sameOn h.owned hdata hfits
  have hsame₂ : SameOn (data.1.buffers + (mem.owners + zeros.buffers)) data.2 key.2 := by
    rw [hkeyEq, forgetKey]
    split
    · exact forget_sameOn howned₁ hkeyFresh hkeyFits
    · exact fun _ _ => rfl
  have howned₂ : Heap.OwnedBy key.2 (key.1.buffers + (data.1.buffers + (mem.owners + zeros.buffers))) := by
    rw [hkeyEq, forgetKey]
    split
    · exact howned₁.forget hkeyFresh
    · rw [Ptr.buffers_null, zero_add]
      exact howned₁
  have hholds : SerdataBox.Holds
      { sertype := value.sertype, kind := value.kind, hash := value.hash, refc := 1, data := data.1,
        size := buf.items.length, capacity := buf.capacity, keyData := key.1, keySize := keyBuf.items.length,
        keyCapacity := keyBuf.capacity } key.2 value := by
    refine ⟨⟨rfl, rfl, rfl⟩, hpayload, hvec₁.congr fun b hb => hsame₂ b (Multiset.mem_add.mpr (.inl hb)), rfl, ?_⟩
    cases hk : value.keyData with
    | none => rw [hkeyEq, forgetKey, hk]; rfl
    | some bytes =>
      have hkeyVec : Heap.HasVec (data.2.forget room.key keyBuf).2 keyBuf (data.2.forget room.key keyBuf).1 :=
        (Heap.forget_spec data.2 hkeyFits).1
      simp only [hkeyEq, forgetKey, hk, Option.isSome_some, if_true]
      rw [hkeyBuf, hk] at hkeyVec ⊢
      exact ⟨hkeyVec, rfl⟩
  refine ⟨?_, ?_⟩
  · have hsame : SameOn (mem.owners + zeros.buffers) mem.heap key.2 := fun b hb =>
      (hsame₂ b (Multiset.mem_add.mpr (.inr hb))).trans (hsame₁ b hb)
    exact (h.facts.sameHeap hsame).addBox (AList.lookup_eq_none.mpr hbox) hholds rfl
  · simp only [SdMemory.owners, Table.owned_insert_new (AList.lookup_eq_none.mpr hbox), SerdataBox.buffers]
    rw [SdMemory.owners] at howned₂
    convert howned₂ using 1
    ac_rfl

end

end Memory

end DdsBridge
