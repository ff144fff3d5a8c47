import DdsBridge.SerdataOwners

/-!
# Memory over whole runs

The ranges that are handed out, the samples, and what follows for every run of Cyclone DDS that keeps to its side: no
callback does anything undefined, each gives what the one on values gives, a serdata lives exactly as long as a
reference to it, and what is left on the heap when everything has been given back are the zeros of ranges past an end.
-/

namespace DdsBridge

namespace Memory

open Prog

section
variable {mem : SdMemory} {held held' : Holding} {zeros : Leaked} {sd sample b : Nat} {osd : SerdataBox}
  {v : OpaqueSerdata}

@[simp] theorem settle_iovs : (held.settle sd).iovs = held.iovs := by
  unfold Holding.settle
  split
  · rfl
  · rfl

@[simp] theorem settle_leaked : (held.settle sd).leaked = held.leaked := by
  unfold Holding.settle
  split
  · rfl
  · rfl

/-! ## Ranges -/

theorem Leaked.buffers_insert {n : Nat} (hb : b ∉ zeros) : Leaked.buffers (zeros.insert b n) = {b} + zeros.buffers := by
  unfold Leaked.buffers
  rw [AList.keys_insert, List.erase_of_not_mem fun hm => hb (AList.mem_keys.mpr hm), ← Multiset.cons_coe,
    Multiset.singleton_add]

/-- A zero buffer that nothing frees. -/
theorem Refines.addZeros (h : Refines mem held zeros) (hb : b ∉ mem.heap) {n : Nat} (hn : 0 < n) :
    Refines { mem with heap := (mem.heap.forget b (zeroVec n)).2 } held (zeros.insert b n) := by
  have hfits : (zeroVec n).items.length ≤ (zeroVec n).capacity := by simp [zeroVec]
  have hsame : SameOn (mem.owners + zeros.buffers) mem.heap (mem.heap.forget b (zeroVec n)).2 :=
    forget_sameOn h.owned hb hfits
  have hfacts := h.facts.sameHeap hsame
  have hforget : mem.heap.forget b (zeroVec n) = (.into b 0, mem.heap.insert b (zeroVec n)) :=
    if_neg (Nat.pos_iff_ne_zero.mp hn)
  have hnew : b ∉ zeros := fun hm => by
    obtain ⟨k, hk⟩ := Option.isSome_iff_exists.mp (AList.lookup_isSome.mpr hm)
    exact hb (h.owned.mem.mp (Multiset.mem_add.mpr (.inr (Leaked.mem_buffers hk))))
  have hbuffers := Leaked.buffers_insert (n := n) hnew
  refine ⟨⟨hfacts.live, hfacts.boxes, hfacts.gone, fun ref a bytes hiov => ?_, hfacts.samples, hfacts.freed,
    fun c k hc => ?_⟩, ?_⟩
  · obtain ⟨iov, hlook, hslice, howner⟩ := hfacts.iovs ref a bytes hiov
    refine ⟨iov, hlook, hslice, fun c hc => (howner c hc).imp_left fun hz => ?_⟩
    rw [hbuffers]
    exact Multiset.mem_add.mpr (.inr hz)
  · rw [Table.lookup_insert_eq] at hc
    by_cases hcb : c = b
    · rw [if_pos hcb, Option.some_inj] at hc
      rw [hforget, hcb, ← hc]
      exact AList.lookup_insert mem.heap
    · rw [if_neg hcb] at hc
      exact hfacts.zeros c k hc
  · have howned : Heap.OwnedBy (mem.heap.forget b (zeroVec n)).2
        ((mem.heap.forget b (zeroVec n)).1.buffers + (mem.owners + zeros.buffers)) := h.owned.forget hb
    rw [hbuffers]
    convert howned using 1
    simp only [SdMemory.owners, hforget, Ptr.buffers]
    ac_rfl

theorem iovecOf_eq (h : Refines mem held zeros) (hsd : mem.boxes.lookup sd = some osd) (hv : osd.Holds mem.heap v)
    {off sz : UInt64} (hwrap : off.toNat + sz.toNat < 2 ^ 64) (hb : b ∉ mem.heap) :
    let zeros' := if off.toNat + sz.toNat ≤ v.payload.length ∨ sz = 0 then zeros else zeros.insert b sz.toNat
    ∃ heap' iov, iovecOf osd off sz b mem = .ok (iov, { mem with heap := heap' }) ∧
      Refines { mem with heap := heap' } held zeros' ∧
        Readable { mem with heap := heap' } zeros' sd (v.serialized off sz) iov := by
  intro zeros'
  unfold iovecOf
  rw [toNat_add_of_lt hwrap, hv.size]
  by_cases hin : off.toNat + sz.toNat ≤ v.payload.length
  · have hzeros' : zeros' = zeros := if_pos (.inl hin)
    rw [if_pos ⟨hv.data.ne_null, hin⟩, hzeros']
    refine ⟨mem.heap, _, pure_apply _ _, h, rangeSlice hv hin, fun c hc => .inr ⟨osd, hsd, ?_⟩⟩
    rw [Ptr.buffers_add] at hc
    exact Multiset.mem_add.mpr (.inl hc)
  · rw [if_neg fun hc => hin hc.2]
    have hzeros : v.serialized off sz = List.replicate sz.toNat 0 := if_neg hin
    by_cases hpos : sz > 0
    · have hsz : 0 < sz.toNat := UInt64.lt_iff_toNat_lt.mp hpos
      have hvec : Heap.HasVec (mem.heap.forget b (zeroVec sz.toNat)).2 (zeroVec sz.toNat)
          (mem.heap.forget b (zeroVec sz.toNat)).1 := (mem.heap.forget_spec (by simp [zeroVec])).1
      have hforget : mem.heap.forget b (zeroVec sz.toNat) = (.into b 0, mem.heap.insert b (zeroVec sz.toNat)) :=
        if_neg (Nat.pos_iff_ne_zero.mp hsz)
      have hzeros' : zeros' = zeros.insert b sz.toNat := if_neg (by simp [hin, UInt64.pos_iff_ne_zero.mp hpos])
      rw [if_pos hpos, bind_of_ok (vecIntoRaw_eq mem b _), hzeros']
      refine ⟨_, _, pure_apply _ _, h.addZeros hb hsz, ?_, fun c hc => .inl ?_⟩
      · rw [hzeros]
        simpa [zeroVec] using hvec.slice_all
      · rw [hforget, Ptr.buffers, Multiset.mem_singleton] at hc
        rw [hc]
        exact Leaked.mem_buffers (AList.lookup_insert zeros)
    · have hsz : sz = 0 := by
        by_contra hne
        exact hpos (UInt64.pos_iff_ne_zero.mpr hne)
      have hzeros' : zeros' = zeros := if_pos (.inr hsz)
      rw [if_neg hpos, hzeros']
      refine ⟨mem.heap, _, pure_apply _ _, h, ?_, fun c hc => ?_⟩
      · rw [hzeros]
        simp [hsz, Heap.slice]
      · simp [Ptr.buffers] at hc

theorem Refines.toSerRef (h : Refines mem held held.leaked) {off sz : UInt64} {ref : Nat}
    (hallowed : (Action.toSerRef sd off sz ref b).Allowed mem held) :
    ∃ mem', sdToSerRef sd off sz ref b mem = .ok ((), mem') ∧
      Refines mem' (held.next (.toSerRef sd off sz ref b)) (held.leakedWith sd off sz b) := by
  obtain ⟨hpos, hlt, hwrap, href, hb⟩ := hallowed
  obtain ⟨v, osd, hv, hosd, hholds, -⟩ := h.facts.box hpos
  have hpayload : held.payload sd = v.payload := by
    simp [Holding.payload, hv]
  obtain ⟨heap', iov, hiov, h', hread⟩ := iovecOf_eq h hosd hholds hwrap hb
  rw [← hpayload] at h' hread
  have hfresh : held.iovs.lookup ref = none := AList.lookup_eq_none.mpr href
  have hserialized : held.serialized sd off sz = v.serialized off sz := by
    simp [Holding.serialized, hv]
  have hiovs : ∀ r a bytes, (held.iovs.insert ref (sd, held.serialized sd off sz)).lookup r = some (a, bytes) →
      ∃ i, (mem.iovecs.insert ref iov).lookup r = some i ∧
        Readable { mem with heap := heap' } (held.leakedWith sd off sz b) a bytes i := by
    intro r a bytes hr
    rw [Table.lookup_insert_eq] at hr ⊢
    by_cases hrr : r = ref
    · rw [if_pos hrr, hserialized] at hr
      cases hr
      exact ⟨iov, if_pos hrr, hread⟩
    · rw [if_neg hrr] at hr
      obtain ⟨i, hi, hri⟩ := h'.facts.iovs r a bytes hr
      exact ⟨i, (if_neg hrr).trans hi, hri⟩
  -- The range is the new iovec's before the reference is counted.
  have hplaced : Refines { mem with heap := heap', iovecs := mem.iovecs.insert ref iov } held
      (held.leakedWith sd off sz b) := by
    refine ⟨⟨h'.facts.live, h'.facts.boxes, h'.facts.gone, fun r a bytes hr => ?_, h'.facts.samples, h'.facts.freed,
      h'.facts.zeros⟩, h'.owned⟩
    obtain ⟨i, hi, hri⟩ := hiovs r a bytes (by
      rw [Table.lookup_insert_eq, if_neg, hr]
      rintro rfl
      rw [hfresh] at hr
      cases hr)
    exact ⟨i, hi, hri⟩
  obtain ⟨mem', hrun, hrefines⟩ := hplaced.retain (held.next (.toSerRef sd off sz ref b)) hpos hlt
    (fun a => refCount_insertIov hfresh) rfl rfl hiovs
  refine ⟨mem', ?_, hrefines⟩
  unfold sdToSerRef
  rw [bind_of_ok (deref_of hosd), bind_of_ok hiov, bind_of_ok rfl]
  exact hrun

theorem Refines.toSerUnref (h : Refines mem held zeros) {ref : Nat}
    (hallowed : (Action.toSerUnref sd ref).Allowed mem held) :
    ∃ mem', (Action.toSerUnref sd ref).run mem = .ok (.done, mem') ∧
      Refines mem' (held.next (.toSerUnref sd ref)) zeros := by
  obtain ⟨p, hp, rfl⟩ := Option.map_eq_some_iff.mp hallowed
  obtain ⟨a, bytes⟩ := p
  have hsubset : ∀ r p, (held.iovs.erase ref).lookup r = some p → r ≠ ref ∧ held.iovs.lookup r = some p := by
    intro r p hr
    rw [Table.lookup_erase_eq] at hr
    by_cases hrr : r = ref
    · simp [hrr] at hr
    · rw [if_neg hrr] at hr
      exact ⟨hrr, hr⟩
  obtain ⟨mem', hrun, hiovecs, h'⟩ := h.release { held with iovs := held.iovs.erase ref }
    (fun a => refCount_eraseIov hp) rfl rfl fun r p hr => (hsubset r p hr).2
  refine ⟨{ mem' with iovecs := mem'.iovecs.erase ref }, ?_, ⟨⟨h'.facts.live, h'.facts.boxes, h'.facts.gone,
    fun r a bytes hr => ?_, h'.facts.samples, h'.facts.freed, h'.facts.zeros⟩, h'.owned⟩⟩
  · have hrun' : sdToSerUnref a ref mem = .ok ((), mem') := hrun
    change (done (sdToSerUnref a ref >>= fun _ => Prog.modify _)) mem = _
    rw [done, bind_of_ok (bind_of_ok hrun')]
    rfl
  · have hiov : (held.iovs.erase ref).lookup r = some (a, bytes) := by
      rw [← hr, Holding.next, settle_iovs]
    obtain ⟨i, hi, hri⟩ := h'.facts.iovs r a bytes hr
    refine ⟨i, ?_, hri⟩
    rw [Table.lookup_erase_eq, if_neg (hsubset r _ hiov).1, hi]

/-! ## Samples -/

theorem sampleAt_of {wrapper : Wrapper} (h : mem.wrappers.lookup sample = some wrapper) :
    sampleAt sample mem = .ok (wrapper, mem) := by
  simp [sampleAt, bind_apply, Prog.get, h, pure_apply]

theorem copyPayload_eq (hv : osd.Holds mem.heap v) (ho : mem.heap.OwnedBy (mem.owners + zeros.buffers))
    (hb : b ∉ mem.heap) :
    ∃ p heap', copyPayload osd b mem = .ok (p, { mem with heap := heap' }) ∧
      heap'.OwnedBy (p.buffers + (mem.owners + zeros.buffers)) ∧ SameOn (mem.owners + zeros.buffers) mem.heap heap' ∧
        ∀ boxed, Wrapper.Holds ⟨p, osd.size, boxed⟩ heap' v.payload := by
  unfold copyPayload Wrapper.Holds
  rw [hv.size]
  by_cases hempty : v.payload = []
  · refine ⟨.null, mem.heap, ?_, ?_, fun _ _ => rfl, fun _ => ⟨rfl, ?_⟩⟩
    · simp [hempty, pure_apply]
    · simpa using ho
    · rw [if_pos hempty]
  · have hsize : v.payload.length > 0 := List.length_pos_iff.mpr hempty
    rw [if_pos ⟨hsize, hv.data.ne_null⟩, ← hv.size, bind_of_ok (dataSlice hv), hv.size]
    refine ⟨_, _, vecIntoRaw_eq mem b _, ho.forget hb, forget_sameOn ho hb (Nat.le_refl _), fun _ => ⟨rfl, ?_⟩⟩
    rw [if_neg hempty]
    exact (mem.heap.forget_spec (Nat.le_refl _)).1

/-- A sample that has no vector may be filled. -/
theorem Refines.setSample (h : Refines mem held zeros) (hfree : held.samples.lookup sample = none)
    {heap' : Heap UInt8} {wrapper : Wrapper} {bytes : Bytes}
    (hsame : SameOn (mem.owners + zeros.buffers) mem.heap heap')
    (howned : heap'.OwnedBy (wrapper.data.buffers + (mem.owners + zeros.buffers)))
    (hholds : wrapper.Holds heap' bytes) :
    Refines ({ mem with heap := heap' }.setWrapper sample wrapper)
      { held with samples := held.samples.insert sample bytes } zeros := by
  have hfacts := h.facts.sameHeap hsame
  refine ⟨⟨hfacts.live, hfacts.boxes, hfacts.gone, hfacts.iovs, fun s own hs => ?_, fun s own hs hnone => ?_,
    hfacts.zeros⟩, ?_⟩
  · rw [Table.lookup_insert_eq] at hs
    rw [SdMemory.lookup_setWrapper]
    by_cases hss : s = sample
    · rw [if_pos hss] at hs
      cases hs
      exact ⟨wrapper, if_pos hss, hholds⟩
    · rw [if_neg hss] at hs ⊢
      exact hfacts.samples s own hs
  · rw [SdMemory.lookup_setWrapper] at hs
    rw [Table.lookup_insert_eq] at hnone
    by_cases hss : s = sample
    · simp [hss] at hnone
    · rw [if_neg hss] at hs hnone
      exact hfacts.freed s own hs hnone
  · have hempty : Table.owned (fun wrapper : Wrapper => wrapper.data.buffers) (mem.wrappers.erase sample) =
        Table.owned (fun wrapper => wrapper.data.buffers) mem.wrappers := by
      cases hw : mem.wrappers.lookup sample with
      | none => exact Table.owned_erase_of_none hw
      | some own =>
        rw [Table.owned_erase_of_some hw, h.facts.freed sample own hw hfree, Ptr.buffers_null, zero_add]
    have hset : ({ mem with heap := heap' }.setWrapper sample wrapper).owners = wrapper.data.buffers + mem.owners := by
      simp only [SdMemory.owners, SdMemory.setWrapper, Table.owned_insert, hempty]
      ac_rfl
    rw [hset, add_assoc]
    exact howned

theorem Refines.toSample (h : Refines mem held zeros) (hpos : 0 < held.refCount sd) (hs : sample ∈ mem.wrappers)
    (hfree : sample ∉ held.samples) (hb : b ∉ mem.heap) : ∃ mem', sdToSample sd sample b mem = .ok ((), mem') ∧
      Refines mem' { held with samples := held.samples.insert sample (held.payload sd) } zeros := by
  obtain ⟨v, osd, hv, hosd, hholds, -⟩ := h.facts.box hpos
  obtain ⟨wrapper, hw⟩ := Option.isSome_iff_exists.mp (AList.lookup_isSome.mpr hs)
  obtain ⟨p, heap', hcopy, howned, hsame, hsample⟩ := copyPayload_eq hholds h.owned hb
  have hpayload : held.payload sd = v.payload := by
    simp [Holding.payload, hv]
  refine ⟨{ mem with heap := heap' }.setWrapper sample ⟨p, osd.size, wrapper.boxed⟩, ?_, ?_⟩
  · unfold sdToSample
    rw [bind_of_ok (deref_of hosd), bind_of_ok (sampleAt_of hw), bind_of_ok hcopy]
    rfl
  · rw [hpayload]
    exact h.setSample (AList.lookup_eq_none.mpr hfree) hsame howned (hsample wrapper.boxed)

theorem sampleData_of {wrapper : Wrapper} {bytes : Bytes} (hw : mem.wrappers.lookup sample = some wrapper)
    (hholds : wrapper.Holds mem.heap bytes) : sampleData sample mem = .ok (bytes, mem) := by
  obtain ⟨hlen, hdata⟩ := hholds
  unfold sampleData
  rw [bind_of_ok (sampleAt_of hw)]
  by_cases hempty : bytes = []
  · rw [if_pos hempty] at hdata
    rw [if_neg fun hc => hc.1 hdata, hempty]
    exact pure_apply _ _
  · rw [if_neg hempty] at hdata
    rw [if_pos ⟨hdata.ne_null, by rw [hlen]; exact List.length_pos_iff.mpr hempty⟩, hlen]
    exact slice_of hdata.slice_all

theorem sampleData_eq (h : Facts mem held zeros) (hs : sample ∈ mem.wrappers) :
    sampleData sample mem = .ok ((held.samples.lookup sample).getD [], mem) := by
  obtain ⟨wrapper, hw⟩ := Option.isSome_iff_exists.mp (AList.lookup_isSome.mpr hs)
  cases hfilled : held.samples.lookup sample with
  | none =>
    unfold sampleData
    rw [bind_of_ok (sampleAt_of hw), if_neg fun hc => hc.1 (h.freed sample wrapper hw hfilled)]
    exact pure_apply _ _
  | some bytes =>
    obtain ⟨own, hown, hholds⟩ := h.samples sample bytes hfilled
    exact sampleData_of hown hholds

theorem lookup_erase_some {K V : Type} [DecidableEq K] {m : Table K V} {k a : K} {x : V}
    (h : (m.erase k).lookup a = some x) : a ≠ k ∧ m.lookup a = some x := by
  rw [Table.lookup_erase_eq] at h
  by_cases ha : a = k
  · simp [ha] at h
  · rw [if_neg ha] at h
    exact ⟨ha, h⟩

/-- A sample without data, whatever its length says. -/
theorem Facts.clearSample (h : Facts mem held zeros) {wrapper : Wrapper} (hdata : wrapper.data = .null) :
    Facts (mem.setWrapper sample wrapper) { held with samples := held.samples.erase sample } zeros := by
  refine ⟨h.live, h.boxes, h.gone, h.iovs, fun s bytes hs => ?_, fun s own hs hnone => ?_, h.zeros⟩
  · obtain ⟨hss, hs⟩ := lookup_erase_some hs
    rw [SdMemory.lookup_setWrapper, if_neg hss]
    exact h.samples s bytes hs
  · rw [SdMemory.lookup_setWrapper] at hs
    rw [Table.lookup_erase_eq] at hnone
    by_cases hss : s = sample
    · rw [if_pos hss] at hs
      cases hs
      exact hdata
    · rw [if_neg hss] at hs hnone
      exact h.freed s own hs hnone

theorem owners_clearSample {wrapper wrapper' : Wrapper} (hw : mem.wrappers.lookup sample = some wrapper)
    (hdata : wrapper'.data = .null) :
    mem.owners = wrapper.data.buffers + (mem.setWrapper sample wrapper').owners := by
  simp only [SdMemory.owners, SdMemory.setWrapper, Table.owned_insert, Table.owned_erase_of_some hw, hdata,
    Ptr.buffers_null, zero_add]
  ac_rfl

/-- An empty wrapper where no sample is. -/
theorem Refines.setEmpty (h : Refines mem held zeros) (hfree : sample ∉ held.samples) (boxed : Bool) :
    Refines (mem.setWrapper sample (emptyWrapper boxed)) held zeros := by
  have hnone : held.samples.lookup sample = none := AList.lookup_eq_none.mpr hfree
  have hfacts : Facts (mem.setWrapper sample (emptyWrapper boxed))
      { held with samples := held.samples.erase sample } zeros := h.facts.clearSample rfl
  rw [Table.erase_of_notMem hfree] at hfacts
  refine ⟨hfacts, ?_⟩
  have howned := h.owned
  cases hw : mem.wrappers.lookup sample with
  | none =>
    simp only [SdMemory.setWrapper, SdMemory.owners, Table.owned_insert_new hw, emptyWrapper, Ptr.buffers_null, zero_add]
    exact howned
  | some wrapper =>
    have hempty : (emptyWrapper boxed).data = .null := rfl
    rw [owners_clearSample hw hempty, h.facts.freed sample wrapper hw hnone, Ptr.buffers_null, zero_add] at howned
    exact howned

/-- The same wrappers are in boxes. -/
def SameBoxes (mem mem' : SdMemory) : Prop :=
  ∀ s, (mem'.wrappers.lookup s).map (·.boxed) = (mem.wrappers.lookup s).map (·.boxed)

theorem SameBoxes.keeps {mem' : SdMemory} (h : SameBoxes mem mem') (hs : sample ∈ mem.wrappers) :
    sample ∈ mem'.wrappers := by
  rw [← AList.lookup_isSome] at hs ⊢
  rw [← Option.isSome_map (f := fun wrapper : Wrapper => wrapper.boxed), h sample, Option.isSome_map, hs]

theorem sameBoxes_insert {mem' : SdMemory} {wrapper wrapper' : Wrapper}
    (hset : mem'.wrappers = mem.wrappers.insert sample wrapper') (hw : mem.wrappers.lookup sample = some wrapper)
    (hboxed : wrapper'.boxed = wrapper.boxed) : SameBoxes mem mem' := by
  intro s
  rw [hset, Table.lookup_insert_eq]
  by_cases hss : s = sample
  · rw [if_pos hss, hss, hw, Option.map_some, Option.map_some, hboxed]
  · rw [if_neg hss]

/-- Freeing a sample that has no vector does nothing. -/
theorem Refines.dropSample (h : Refines mem held zeros) {wrapper : Wrapper}
    (hw : mem.wrappers.lookup sample = some wrapper) (len : Nat) :
    ∃ mem', Memory.dropSample sample wrapper len mem = .ok ((), mem') ∧
      Refines mem' { held with samples := held.samples.erase sample } zeros ∧ SameBoxes mem mem' := by
  unfold Memory.dropSample
  by_cases hdata : wrapper.data = .null
  · rw [if_neg fun hc => hc.1 hdata]
    refine ⟨mem, pure_apply _ _, ⟨⟨h.facts.live, h.facts.boxes, h.facts.gone, h.facts.iovs,
      fun s bytes hs => h.facts.samples s bytes (lookup_erase_some hs).2, fun s own hs hnone => ?_, h.facts.zeros⟩,
      h.owned⟩, fun _ => rfl⟩
    rw [Table.lookup_erase_eq] at hnone
    by_cases hss : s = sample
    · rw [hss, hw] at hs
      cases hs
      exact hdata
    · rw [if_neg hss] at hnone
      exact h.facts.freed s own hs hnone
  · obtain ⟨bytes, hfilled⟩ : ∃ bytes, held.samples.lookup sample = some bytes := by
      cases hfilled : held.samples.lookup sample with
      | none => exact absurd (h.facts.freed sample wrapper hw hfilled) hdata
      | some bytes => exact ⟨bytes, rfl⟩
    obtain ⟨own, hown, hlen, hholds⟩ := h.facts.samples sample bytes hfilled
    rw [hw] at hown
    cases hown
    have hempty : bytes ≠ [] := fun hempty => by
      rw [if_pos hempty] at hholds
      exact hdata hholds
    rw [if_neg hempty] at hholds
    have hpos : 0 < bytes.length := List.length_pos_iff.mpr hempty
    obtain ⟨c, hc, hreclaim⟩ := hholds.reclaim hpos
    have hcleared : ({ wrapper with data := .null, len } : Wrapper).data = .null := rfl
    have howned := h.owned
    rw [owners_clearSample hw hcleared, hc, add_assoc] at howned
    refine ⟨{ mem with heap := mem.heap.erase c }.setWrapper sample { wrapper with data := .null, len }, ?_,
      ⟨(h.facts.clearSample hcleared).sameHeap fun b hb => howned.other hb, howned.erase⟩, ?_⟩
    · rw [if_pos ⟨hdata, by rw [hlen]; exact hpos⟩, hlen, bind_of_ok (dropVec_of hreclaim)]
      rfl
    · exact sameBoxes_insert (by rfl) hw (by rfl)

theorem Refines.freeContents {ptrs : List Nat} : ∀ {mem : SdMemory} {held : Holding}, Refines mem held zeros →
    (∀ ptr ∈ ptrs, ptr ∈ mem.wrappers) → ∃ mem', Memory.freeContents ptrs mem = .ok ((), mem') ∧
      Refines mem' { held with samples := Table.eraseAll held.samples ptrs } zeros ∧ SameBoxes mem mem' := by
  induction ptrs with
  | nil => exact fun {mem} _ h _ => ⟨mem, rfl, h, fun _ => rfl⟩
  | cons ptr ptrs ih =>
    intro mem held h hptrs
    obtain ⟨wrapper, hw⟩ := Option.isSome_iff_exists.mp (AList.lookup_isSome.mpr (hptrs ptr List.mem_cons_self))
    obtain ⟨mem₁, hdrop, h₁, hsame₁⟩ := h.dropSample hw wrapper.len
    obtain ⟨mem', hrun, h', hsame⟩ := ih h₁ fun s hs => hsame₁.keeps (hptrs s (List.mem_cons_of_mem _ hs))
    refine ⟨mem', ?_, h', fun s => (hsame s).trans (hsame₁ s)⟩
    rw [Memory.freeContents, bind_of_ok (sampleAt_of hw), bind_of_ok hdrop]
    exact hrun

/-- A box goes whose wrapper has no vector any more. -/
theorem Refines.dropBox (h : Refines mem held zeros) (hboxed : mem.Boxed sample)
    (hnone : held.samples.lookup sample = none) : ∃ mem', Memory.dropBox sample mem = .ok ((), mem') ∧
      Refines mem' held zeros ∧ ∀ s, s ≠ sample → mem'.wrappers.lookup s = mem.wrappers.lookup s := by
  obtain ⟨wrapper, hw, hbox⟩ := Option.map_eq_some_iff.mp hboxed
  have hdata : wrapper.data = .null := h.facts.freed sample wrapper hw hnone
  refine ⟨{ mem with wrappers := mem.wrappers.erase sample }, ?_, ⟨⟨h.facts.live, h.facts.boxes, h.facts.gone,
    h.facts.iovs, fun s bytes hs => ?_, fun s own hs => h.facts.freed s own (lookup_erase_some hs).2, h.facts.zeros⟩,
    ?_⟩, fun s hs => ?_⟩
  · rw [Memory.dropBox, bind_of_ok (sampleAt_of hw), if_pos hbox]
    rfl
  · obtain ⟨own, hown, hholds⟩ := h.facts.samples s bytes hs
    refine ⟨own, ?_, hholds⟩
    rw [Table.lookup_erase_eq, if_neg, hown]
    rintro rfl
    rw [hnone] at hs
    cases hs
  · have howned := h.owned
    rw [SdMemory.owners, Table.owned_erase_of_some hw, hdata, Ptr.buffers_null, zero_add] at howned
    exact howned
  · rw [Table.lookup_erase_eq, if_neg hs]

theorem Refines.freeBoxes {ptrs : List Nat} : ∀ {mem : SdMemory}, Refines mem held zeros → ptrs.Nodup →
    (∀ ptr ∈ ptrs, mem.Boxed ptr ∧ held.samples.lookup ptr = none) →
      ∃ mem', Memory.freeBoxes ptrs mem = .ok ((), mem') ∧ Refines mem' held zeros := by
  induction ptrs with
  | nil => exact fun {mem} h _ _ => ⟨mem, rfl, h⟩
  | cons ptr ptrs ih =>
    intro mem h hnodup hptrs
    obtain ⟨hnew, hrest⟩ := List.nodup_cons.mp hnodup
    obtain ⟨hboxed, hnone⟩ := hptrs ptr List.mem_cons_self
    obtain ⟨mem₁, hdrop, h₁, hsame⟩ := h.dropBox hboxed hnone
    obtain ⟨mem', hrun, h'⟩ := ih h₁ hrest fun s hs => by
      obtain ⟨hbox, hs'⟩ := hptrs s (List.mem_cons_of_mem _ hs)
      refine ⟨?_, hs'⟩
      unfold SdMemory.Boxed
      rw [hsame s fun heq => hnew (heq ▸ hs)]
      exact hbox
    refine ⟨mem', ?_, h'⟩
    rw [Memory.freeBoxes, bind_of_ok hdrop]
    exact hrun

theorem Refines.freeSamples (h : Refines mem held zeros) {ptrs : List Nat} {op : FreeOp}
    (hallowed : (Action.freeSamples ptrs op).Allowed mem held) : ∃ mem', stFreeSamples ptrs op mem = .ok ((), mem') ∧
      Refines mem' (held.next (.freeSamples ptrs op)) zeros := by
  obtain ⟨hptrs, hall⟩ := hallowed
  obtain ⟨contents, all⟩ := op
  cases contents with
  | false =>
    cases all with
    | false => exact ⟨mem, rfl, h⟩
    | true => exact absurd (hall rfl).1 nofun
  | true =>
    obtain ⟨mem₁, hfree, h₁, hsame⟩ := h.freeContents hptrs
    cases all with
    | false =>
      refine ⟨mem₁, ?_, h₁⟩
      rw [stFreeSamples]
      exact bind_of_ok hfree
    | true =>
      obtain ⟨-, hnodup, hboxed⟩ := hall rfl
      obtain ⟨mem', hboxes, h'⟩ := h₁.freeBoxes hnodup fun ptr hptr =>
        ⟨(hsame ptr).trans (hboxed ptr hptr), by rw [Table.lookup_eraseAll, if_pos hptr]⟩
      refine ⟨mem', ?_, h'⟩
      rw [stFreeSamples]
      exact (bind_of_ok hfree).trans hboxes

end

/-! ## Runs -/

theorem done_ok {m : Mem Unit} {mem mem' : SdMemory} (h : m mem = .ok ((), mem')) :
    done m mem = .ok (.done, mem') := by
  rw [done, bind_of_ok h]
  rfl

theorem map_ok {α : Type} {m : Mem α} {mem mem' : SdMemory} {a : α} (f : α → Answer) (h : m mem = .ok (a, mem')) :
    (f <$> m) mem = .ok (f a, mem') := by
  rw [map_eq_pure_bind, bind_of_ok h, pure_apply]

theorem buildIn_eq (room : Room) (st : OpaqueSertype) (origin : SerdataOrigin) :
    ∃ spare, buildIn room st origin = newSerdata room spare (origin.build st) := by
  cases origin with
  | sample kind wrapper => exact ⟨_, rfl⟩
  | ser kind fragchain size => exact ⟨_, rfl⟩
  | serIov kind iov size => exact ⟨_, rfl⟩
  | keyhash kh => exact ⟨_, rfl⟩

/-- What one action of Cyclone DDS does, all of it defined. -/
theorem Refines.step {mem : SdMemory} {held : Holding} (h : Refines mem held held.leaked) {action : Action}
    (hallowed : action.Allowed mem held) : ∃ mem', action.run mem = .ok (held.answer action, mem') ∧
      Refines mem' (held.next action) (held.next action).leaked := by
  cases action with
  | build room st origin =>
    obtain ⟨hbox, hdata, hkey, hne⟩ := hallowed
    obtain ⟨spare, hspare⟩ := buildIn_eq room st origin
    obtain ⟨mem', hrun, h'⟩ := h.build hbox hdata hkey hne spare (build_data st origin)
    exact ⟨mem', done_ok (hspare ▸ hrun), h'⟩
  | ref sd =>
    obtain ⟨mem', hrun, h'⟩ := h.retain (held.next (.ref sd)) hallowed.1 hallowed.2 (refCount_ref rfl rfl) rfl rfl
      h.facts.iovs
    exact ⟨mem', done_ok hrun, h'⟩
  | unref sd =>
    obtain ⟨mem', hrun, -, h'⟩ := h.release { held with refs := held.refs.erase sd }
      (fun a => refCount_unref hallowed) rfl rfl fun _ _ h => h
    refine ⟨mem', done_ok hrun, ?_⟩
    rw [Holding.next, settle_leaked]
    exact h'
  | toUntyped sd =>
    obtain ⟨mem', hrun, h'⟩ := h.retain (held.next (.toUntyped sd)) hallowed.1 hallowed.2 (refCount_ref rfl rfl) rfl
      rfl h.facts.iovs
    exact ⟨mem', done_ok hrun, h'⟩
  | eqkey a b =>
    obtain ⟨va, oa, hva, hoa, ha, -⟩ := h.facts.box hallowed.1
    obtain ⟨vb, ob, hvb, hob, hb, -⟩ := h.facts.box hallowed.2
    refine ⟨mem, ?_, h⟩
    simp only [Holding.answer, hva, hvb]
    exact map_ok _ (sdEqkey_eq hoa hob ha hb)
  | getKeyhash sd forceMd5 =>
    obtain ⟨v, osd, hv, hosd, hholds, -⟩ := h.facts.box hallowed
    refine ⟨mem, ?_, h⟩
    simp only [Holding.answer, hv]
    exact map_ok _ (sdGetKeyhash_eq hosd hholds forceMd5)
  | size sd =>
    obtain ⟨v, osd, hv, hosd, hholds, -⟩ := h.facts.box hallowed
    refine ⟨mem, ?_, h⟩
    simp only [Holding.answer, Holding.payload, hv, Option.map_some, Option.getD_some]
    exact map_ok _ (sdSize_eq hosd hholds)
  | toSer sd off sz =>
    obtain ⟨v, osd, hv, hosd, hholds, -⟩ := h.facts.box hallowed.1
    refine ⟨mem, ?_, h⟩
    simp only [Holding.answer, Holding.serialized, hv, Option.map_some, Option.getD_some]
    exact map_ok _ (sdToSer_eq hosd hholds hallowed.2)
  | toSerRef sd off sz iov b =>
    obtain ⟨mem', hrun, h'⟩ := h.toSerRef hallowed
    exact ⟨mem', done_ok hrun, h'⟩
  | readIov iov =>
    obtain ⟨p, hp⟩ := Option.isSome_iff_exists.mp (AList.lookup_isSome.mpr hallowed)
    obtain ⟨i, hi, hread, -⟩ := h.facts.iovs iov p.1 p.2 hp
    refine ⟨mem, map_ok _ ?_, h⟩
    simp only [hp, Option.map_some, Option.getD_some]
    simp [readIov, slice, bind_apply, Prog.get, hi, hread, pure_apply]
  | toSerUnref sd iov =>
    obtain ⟨mem', hrun, h'⟩ := h.toSerUnref hallowed
    refine ⟨mem', hrun, ?_⟩
    rw [Holding.next, settle_leaked]
    exact h'
  | newSample sample boxed =>
    have hfree : sample ∉ held.samples := fun hm => by
      obtain ⟨bytes, hs⟩ := Option.isSome_iff_exists.mp (AList.lookup_isSome.mpr hm)
      obtain ⟨wrapper, hw, -⟩ := h.facts.samples sample bytes hs
      exact hallowed (AList.lookup_isSome.mp (by simp [hw]))
    exact ⟨_, rfl, h.setEmpty hfree boxed⟩
  | toSample sd sample b =>
    obtain ⟨mem', hrun, h'⟩ := h.toSample hallowed.1 hallowed.2.1 hallowed.2.2.1 hallowed.2.2.2
    exact ⟨mem', done_ok hrun, h'⟩
  | untypedToSample sd sample b =>
    obtain ⟨mem', hrun, h'⟩ := h.toSample hallowed.1 hallowed.2.1 hallowed.2.2.1 hallowed.2.2.2
    exact ⟨mem', done_ok hrun, h'⟩
  | readSample sample => exact ⟨mem, map_ok _ (sampleData_eq h.facts hallowed), h⟩
  | freeSample sample =>
    obtain ⟨wrapper, hw⟩ := Option.isSome_iff_exists.mp (AList.lookup_isSome.mpr hallowed)
    obtain ⟨mem', hdrop, h', -⟩ := h.dropSample hw 0
    refine ⟨mem', done_ok ?_, h'⟩
    unfold freeSampleData
    rw [bind_of_ok (sampleAt_of hw)]
    exact hdrop
  | freeSamples ptrs op =>
    obtain ⟨mem', hrun, h'⟩ := h.freeSamples hallowed
    have hleaked : (held.next (.freeSamples ptrs op)).leaked = held.leaked := by
      rw [Holding.next]
      split
      · rfl
      · rfl
    exact ⟨mem', done_ok hrun, hleaked.symm ▸ h'⟩

theorem refines_nothing : Refines nothing.1 nothing.2 nothing.2.leaked where
  facts :=
    { live := fun sd => by simp [nothing, Holding.refCount, Table.values]
      boxes := fun sd v hv => by simp [nothing] at hv
      gone := fun sd _ => by simp [nothing]
      iovs := fun ref sd bytes hiov => by simp [nothing] at hiov
      samples := fun sample bytes hs => by simp [nothing] at hs
      freed := fun sample wrapper hs => by simp [nothing] at hs
      zeros := fun b n hb => by simp [nothing] at hb }
  owned := by simp [nothing, SdMemory.owners, Table.owned, Table.values, Heap.OwnedBy, Leaked.buffers]

theorem Refines.reachable {s : SdMemory × Holding} (h : Runs.Reachable Step nothing s) :
    Refines s.1 s.2 s.2.leaked := by
  refine h.invariant (I := fun s => Refines s.1 s.2 s.2.leaked) refines_nothing fun s action t hs hstep => ?_
  obtain ⟨hallowed, rfl⟩ := hstep
  obtain ⟨mem', hrun, h'⟩ := hs.step hallowed
  rw [advance, after_of_ok hrun]
  exact h'

theorem Facts.box_iff {mem : SdMemory} {held : Holding} {zeros : Leaked} (h : Facts mem held zeros) (sd : Nat) :
    sd ∈ mem.boxes ↔ 0 < held.refCount sd := by
  rw [h.live sd, ← AList.lookup_isSome]
  cases hv : held.values.lookup sd with
  | none => simp [h.gone sd hv]
  | some v =>
    obtain ⟨osd, hosd, -⟩ := h.boxes sd v hv
    simp [hosd]

theorem owned_eq_zero {K V : Type} {f : V → Multiset Nat} {m : Table K V} (h : ∀ v ∈ Table.values m, f v = 0) :
    Table.owned f m = 0 := by
  unfold Table.owned
  refine List.sum_eq_zero fun x hx => ?_
  obtain ⟨v, hv, rfl⟩ := List.mem_map.mp hx
  exact h v hv

theorem Facts.no_owners {mem : SdMemory} {held : Holding} {zeros : Leaked} (h : Facts mem held zeros)
    (hrefs : ∀ sd, held.refCount sd = 0) (hsamples : held.samples = ∅) : mem.owners = 0 := by
  have hboxes : Table.owned SerdataBox.buffers mem.boxes = 0 := owned_eq_zero fun osd hosd => by
    obtain ⟨sd, hsd⟩ := Table.mem_values.mp hosd
    have hlive := (h.box_iff sd).mp (AList.lookup_isSome.mp (by simp [hsd]))
    rw [hrefs sd] at hlive
    cases hlive
  have hwrappers : Table.owned (fun wrapper => wrapper.data.buffers) mem.wrappers = 0 := owned_eq_zero fun wrapper hw => by
    obtain ⟨sample, hs⟩ := Table.mem_values.mp hw
    rw [h.freed sample wrapper hs (by simp [hsamples]), Ptr.buffers_null]
  rw [SdMemory.owners, hboxes, hwrappers, add_zero]

/-- What is to hold of the memory while Cyclone DDS has `held`. -/
structure Sound (mem : SdMemory) (held : Holding) : Prop where
  /-- Whatever Cyclone DDS may do next is defined, and is answered as on values. -/
  answers : ∀ action : Action, action.Allowed mem held → ∃ mem', action.run mem = .ok (held.answer action, mem')
  /-- A serdata has its box exactly while there is a reference to it. -/
  live : ∀ sd, sd ∈ mem.boxes ↔ 0 < held.refCount sd
  /-- Each buffer has one owner, or is one that `sd_to_ser_ref` has handed out for a range past an end. -/
  owners : (mem.heap.keys : Multiset Nat) = mem.owners + held.leaked.buffers
  zeros : ∀ b n, held.leaked.lookup b = some n → mem.heap.lookup b = some (zeroVec n)
  /-- When everything is given back, only those are left. -/
  leftovers : (∀ sd, held.refCount sd = 0) → held.samples = ∅ →
    ∀ b, mem.heap.lookup b = (held.leaked.lookup b).map zeroVec

theorem Refines.sound {mem : SdMemory} {held : Holding} (h : Refines mem held held.leaked) : Sound mem held := by
  refine ⟨fun action hallowed => ?_, h.facts.box_iff, h.owned, h.facts.zeros, fun hrefs hsamples b => ?_⟩
  · obtain ⟨mem', hstep, -⟩ := h.step hallowed
    exact ⟨mem', hstep⟩
  · cases hb : held.leaked.lookup b with
    | some n => exact h.facts.zeros b n hb
    | none =>
      have howned := h.owned
      rw [h.facts.no_owners hrefs hsamples, zero_add] at howned
      refine AList.lookup_eq_none.mpr fun hm => AList.lookup_eq_none.mp hb ?_
      exact AList.mem_keys.mp (Multiset.mem_coe.mp (howned.mem.mpr hm))

end Memory

end DdsBridge
