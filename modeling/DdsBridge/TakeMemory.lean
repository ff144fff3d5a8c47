import DdsBridge.Poll
import DdsBridge.SerdataRuns

/-!
# Taking samples out of memory

`take_samples` on a wrapper on its stack: `dds_take` has one of the callbacks fill it with a copy of the payload, the
loop copies that once more and frees it. What it returns is what `DdsReader.takeSamples` returns for the payloads, and
the heap is afterwards as it was.
-/

namespace DdsBridge

namespace Memory

open Prog

/-- A sample in the history of a reader: its serdata, its info, and where the allocator puts the copy of the payload. -/
structure Pending where
  sd : Nat
  instanceState : UInt32
  validData : Bool
  sourceTimestamp : Int64
  buffer : Nat

/-- What of the sample `dds_take` hands over, with the payload for the pointer. -/
def Pending.taken (held : Holding) (pending : Pending) : TakenSample where
  instanceState := pending.instanceState
  validData := pending.validData
  sourceTimestamp := pending.sourceTimestamp
  data := held.payload pending.sd

/-- The callback that `dds_take` fills the wrapper with; a sample without data has an untyped serdata. -/
def ddsTake (pending : Pending) (sample : Nat) : Mem Unit :=
  if pending.validData then sdToSample pending.sd sample pending.buffer
  else sdUntypedToSample pending.sd sample pending.buffer

/-- The sample as it is forwarded, with a copy of what the wrapper points to. -/
def forwarded (reader : DdsReader) (sample : Nat) (pending : Pending) : Mem (Option ReceivedSample) :=
  let instanceState := InstanceState.ofInfo pending.instanceState
  if pending.validData = true ∨ instanceState ≠ .alive then do
    let data ← sampleData sample
    pure (some { topicName := reader.topic.topicName, instanceState, sourceTimestamp := pending.sourceTimestamp, data })
  else pure none

/-- The rounds of the loop, with the wrapper at `sample`; `dds_take` on an empty history ends it. -/
def takeSamples (reader : DdsReader) (sample : Nat) : Nat → List Pending → Mem (List ReceivedSample × List Pending)
  | 0, available => pure ([], available)
  | _ + 1, [] => do
    newWrapper sample false
    pure ([], [])
  | maxSamples + 1, pending :: available => do
    newWrapper sample false
    ddsTake pending sample
    let result ← forwarded reader sample pending
    freeSampleData sample
    let (results, left) ← takeSamples reader sample maxSamples available
    pure (result.toList ++ results, left)

section
variable {mem : SdMemory} {held : Holding} {zeros : Leaked} {sample : Nat} {osd : SerdataBox} {v : OpaqueSerdata}

/-- The copy of the payload is made and freed, and the heap is the one before. -/
theorem fill_and_free (hw : mem.wrappers.lookup sample = some (emptyWrapper false))
    (hsd : mem.boxes.lookup sd = some osd) (hv : osd.Holds mem.heap v) {b : Nat} (hb : b ∉ mem.heap) :
    ∃ heap' wrapper, wrapper.Holds heap' v.payload ∧
      sdToSample sd sample b mem = .ok ((), { mem with heap := heap' }.setWrapper sample wrapper) ∧
      freeSampleData sample ({ mem with heap := heap' }.setWrapper sample wrapper) =
        .ok ((), mem.setWrapper sample (emptyWrapper false)) := by
  unfold sdToSample freeSampleData
  rw [bind_of_ok (deref_of hsd), bind_of_ok (sampleAt_of hw)]
  by_cases hempty : v.payload = []
  · have hsize : osd.size = 0 := by
      rw [hv.size, hempty, List.length_nil]
    have hcopy : copyPayload osd b mem = .ok (.null, mem) := by
      simp [copyPayload, hsize, pure_apply]
    refine ⟨mem.heap, emptyWrapper false, ⟨by simp [hempty, emptyWrapper], by simp [hempty, emptyWrapper]⟩, ?_, ?_⟩
    · rw [bind_of_ok hcopy, hsize]
      rfl
    · rw [bind_of_ok (sampleAt_of (AList.lookup_insert mem.wrappers))]
      simp [dropSample, emptyWrapper, pure_apply]
  · have hpos : v.payload.length > 0 := List.length_pos_iff.mpr hempty
    have hcap : v.payload.length ≠ 0 := Nat.pos_iff_ne_zero.mp hpos
    have hforget : mem.heap.forget b ⟨v.payload, v.payload.length⟩ =
        (.into b 0, mem.heap.insert b ⟨v.payload, v.payload.length⟩) := if_neg hcap
    have hcopy : copyPayload osd b mem =
        .ok (.into b 0, { mem with heap := mem.heap.insert b ⟨v.payload, v.payload.length⟩ }) := by
      unfold copyPayload
      rw [if_pos ⟨hv.size ▸ hpos, hv.data.ne_null⟩, bind_of_ok (dataSlice hv), hv.size, vecIntoRaw_eq, hforget]
    refine ⟨mem.heap.insert b ⟨v.payload, v.payload.length⟩, ⟨.into b 0, v.payload.length, false⟩, ⟨rfl, ?_⟩, ?_, ?_⟩
    · rw [if_neg hempty]
      exact ⟨rfl, hpos, Nat.le_refl _, AList.lookup_insert mem.heap⟩
    · rw [bind_of_ok hcopy, hv.size]
      rfl
    · have hreclaim : ({ mem with heap := mem.heap.insert b ⟨v.payload, v.payload.length⟩ }.setWrapper sample
          ⟨.into b 0, v.payload.length, false⟩).heap.reclaim (.into b 0) v.payload.length v.payload.length =
            some mem.heap := by
        simp [SdMemory.setWrapper, Heap.reclaim, AList.lookup_insert, Table.erase_insert, Table.erase_of_notMem hb]
      rw [bind_of_ok (sampleAt_of (AList.lookup_insert mem.wrappers)), dropSample, if_pos ⟨by simp, hpos⟩,
        bind_of_ok (dropVec_of hreclaim)]
      simp [Prog.modify, SdMemory.setWrapper, AList.insert_insert, emptyWrapper]

theorem forwarded_eq (reader : DdsReader) (pending : Pending) {wrapper : Wrapper}
    (hw : mem.wrappers.lookup sample = some wrapper) (hholds : wrapper.Holds mem.heap (held.payload pending.sd)) :
    forwarded reader sample pending mem = .ok (reader.receive (pending.taken held), mem) := by
  unfold forwarded DdsReader.receive
  by_cases hforward : pending.validData = true ∨ InstanceState.ofInfo pending.instanceState ≠ .alive
  · rw [if_pos hforward, bind_of_ok (sampleData_of hw hholds), pure_apply]
    simp [Pending.taken, hforward]
  · rw [if_neg hforward, pure_apply]
    simp [Pending.taken, hforward]

theorem setWrapper_setWrapper (mem : SdMemory) (sample : Nat) (wrapper wrapper' : Wrapper) :
    (mem.setWrapper sample wrapper).setWrapper sample wrapper' = mem.setWrapper sample wrapper' := by
  simp [SdMemory.setWrapper, AList.insert_insert]

/-- What the loop leaves: the wrapper of the last round, empty. -/
def SdMemory.afterTake (mem : SdMemory) (sample maxSamples : Nat) : SdMemory :=
  if maxSamples = 0 then mem else mem.setWrapper sample (emptyWrapper false)

theorem afterTake_setWrapper (mem : SdMemory) (sample maxSamples : Nat) :
    (mem.setWrapper sample (emptyWrapper false)).afterTake sample maxSamples =
      mem.setWrapper sample (emptyWrapper false) := by
  unfold SdMemory.afterTake
  split
  · rfl
  · exact setWrapper_setWrapper mem sample (emptyWrapper false) (emptyWrapper false)

theorem takeSamples_cons (reader : DdsReader) (maxSamples : Nat) (taken : TakenSample) (available : List TakenSample) :
    (reader.takeSamples (maxSamples + 1) (taken :: available)).1 =
      (reader.receive taken).toList ++ (reader.takeSamples maxSamples available).1 := by
  rw [DdsReader.takeSamples]
  cases reader.receive taken with
  | none => rfl
  | some sample => rfl

theorem takeSamples_run (h : Facts mem held zeros) (reader : DdsReader) (sample maxSamples : Nat) :
    ∀ (available : List Pending) (mem₁ : SdMemory), mem₁.heap = mem.heap → mem₁.boxes = mem.boxes →
      (∀ pending ∈ available, 0 < held.refCount pending.sd ∧ pending.buffer ∉ mem.heap) →
      takeSamples reader sample maxSamples available mem₁ =
        .ok (((reader.takeSamples maxSamples (available.map (·.taken held))).1, available.drop maxSamples),
          mem₁.afterTake sample maxSamples) := by
  induction maxSamples with
  | zero => exact fun available mem₁ _ _ _ => rfl
  | succ n ih =>
    intro available mem₁ hheap hboxes hpending
    cases available with
    | nil => rfl
    | cons pending available =>
      obtain ⟨hpos, hb⟩ := hpending pending List.mem_cons_self
      obtain ⟨v, osd, hv, hosd, hholds, -⟩ := h.box hpos
      have hpayload : held.payload pending.sd = v.payload := by
        simp [Holding.payload, hv]
      rw [← hheap] at hholds hb
      rw [← hboxes] at hosd
      obtain ⟨heap', wrapper, hsample, hfill, hfree⟩ := @fill_and_free (mem₁.setWrapper sample (emptyWrapper false))
        sample osd v _ (AList.lookup_insert _) hosd hholds _ hb
      have htake : ddsTake pending sample (mem₁.setWrapper sample (emptyWrapper false)) =
          .ok ((), { mem₁.setWrapper sample (emptyWrapper false) with heap := heap' }.setWrapper sample wrapper) := by
        unfold ddsTake sdUntypedToSample
        rw [ite_self]
        exact hfill
      have hforward := @forwarded_eq
        ({ mem₁.setWrapper sample (emptyWrapper false) with heap := heap' }.setWrapper sample wrapper) held sample reader pending wrapper (AList.lookup_insert _) (hpayload ▸ hsample)
      have hnext := ih available (mem₁.setWrapper sample (emptyWrapper false)) hheap hboxes fun p hp =>
        hpending p (List.mem_cons_of_mem _ hp)
      rw [afterTake_setWrapper] at hnext
      rw [setWrapper_setWrapper] at hfree
      have hnew : newWrapper sample false mem₁ = .ok ((), mem₁.setWrapper sample (emptyWrapper false)) := rfl
      rw [takeSamples, bind_of_ok hnew, bind_of_ok htake, bind_of_ok hforward, bind_of_ok hfree, bind_of_ok hnext,
        List.map_cons, takeSamples_cons]
      rfl

theorem Refines.afterTake (h : Refines mem held zeros) (hfree : sample ∉ held.samples) (maxSamples : Nat) :
    Refines (mem.afterTake sample maxSamples) held zeros := by
  unfold SdMemory.afterTake
  split
  · exact h
  · exact h.setEmpty hfree false

theorem afterTake_heap (mem : SdMemory) (sample maxSamples : Nat) : (mem.afterTake sample maxSamples).heap = mem.heap := by
  unfold SdMemory.afterTake
  split
  · rfl
  · rfl

end

/-- **Taking samples.** In every state of a run, with serdata in the history that are referred to: the loop gives what
is received of their payloads and what is left in the history, and the heap is as it was and as sound. -/
theorem samples_taken {s : SdMemory × Holding} (hs : Runs.Reachable Step nothing s) (reader : DdsReader)
    (sample maxSamples : Nat) (hfree : sample ∉ s.2.samples) (available : List Pending)
    (hpending : ∀ pending ∈ available, 0 < s.2.refCount pending.sd ∧ pending.buffer ∉ s.1.heap) :
    ∃ mem', takeSamples reader sample maxSamples available s.1 =
        .ok (((reader.takeSamples maxSamples (available.map (·.taken s.2))).1, available.drop maxSamples), mem') ∧
      mem'.heap = s.1.heap ∧ Sound mem' s.2 := by
  have h := Refines.reachable hs
  exact ⟨s.1.afterTake sample maxSamples, takeSamples_run h.facts reader sample maxSamples available s.1 rfl rfl hpending,
    afterTake_heap s.1 sample maxSamples, (h.afterTake hfree maxSamples).sound⟩

theorem samples_taken_twice :
    let reader : DdsReader :=
      { readerId := 1, handle := { handle := 1, qos := none }, qosNormalized := ⟨[]⟩, subscribers := ∅
        topic := { handle := 1, topicName := "a", typeName := "T", isKeyed := true, keyDescriptors := ⟨[]⟩ } }
    let s := advance nothing (.build ⟨0, 1, 2, 0, 5⟩ ⟨[84], false, []⟩ (.sample .data ⟨[1, 2, 3], some [7]⟩))
    let available : List Pending := [⟨0, 1, true, 5, 3⟩, ⟨0, 2, false, 6, 3⟩]
    let results : List ReceivedSample := [⟨"a", .alive, 5, [1, 2, 3]⟩, ⟨"a", .disposed, 6, [1, 2, 3]⟩]
    ∃ mem', takeSamples reader 9 256 available s.1 = .ok ((results, []), mem') ∧ mem'.heap = s.1.heap ∧
      Sound mem' s.2 := by
  intro reader s available results
  have hs : Runs.Reachable Step nothing s := .tail .refl ⟨_, by decide +kernel, rfl⟩
  exact samples_taken hs reader 9 256 (by decide +kernel) available (by decide +kernel)

end Memory

end DdsBridge
