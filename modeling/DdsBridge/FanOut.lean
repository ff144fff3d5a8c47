import DdsBridge.Isolation
import DdsBridge.Offers

/-!
# The fan-out over whole runs

A tick of `reader_poll_loop` takes samples away from the readers, so what it does not deliver nobody does. Every
sample is numbered among those that `take_samples` has returned for its reader; a log has each `try_send` with what
came of it.
-/

namespace DdsBridge

open BridgeInner ReaderRegistry

/-! ## The system -/

/-- A `try_send` of the poll loop: which sample of which reader, to whom. -/
structure Delivery where
  readerId : UInt64
  index : Nat
  sample : ReceivedSample
  sid : UInt64
  sender : Nat

def Delivery.trySend (d : Delivery) (inner : BridgeInner) : BridgeInner :=
  { inner with channels := Table.modify inner.channels d.sender fun c => c.trySend (sampleToMessage d.sample) }

/-- To the session, on behalf of the reader. -/
def Delivery.For (r sid : UInt64) (d : Delivery) : Bool := d.readerId = r ∧ d.sid = sid

/-- Each sample to each subscriber; `first` samples of the reader were taken before. -/
def Taken.deliveries (t : Taken) (r : UInt64) (first : Nat) : List Delivery :=
  (t.samples.zipIdx first).flatMap fun (sample, index) => t.subscribers.map fun (sid, sender) =>
    { readerId := r, index, sample, sid, sender }

/-- What a tick that finds the bridge like this has to send, after `taken`. -/
def deliveries (inner : BridgeInner) (available : UInt64 → List TakenSample) (taken : UInt64 → List ReceivedSample) :
    List Delivery :=
  (inner.readers.allReaders.map (·.readerId)).flatMap fun r =>
    ((inner.collectReader available r).map fun t => t.deliveries r (taken r).length).getD []

def BridgeInner.samplesOf (inner : BridgeInner) (available : UInt64 → List TakenSample) (r : UInt64) :
    List ReceivedSample := ((inner.collectReader available r).map (·.samples)).getD []

/-- The bridge and a tick between its sends. `taken` has all that was taken from each reader, `seen` what was taken
from it in ticks that saw the session among its subscribers with a sender, `log` the sends that were tried. -/
structure FanState where
  bridge : BridgeInner
  pending : List Delivery
  taken : UInt64 → List ReceivedSample
  seen : UInt64 → UInt64 → List Nat
  log : List (Delivery × Bool)

inductive FanAction where
  | act (action : BridgeAction)
  | collect (available : UInt64 → List TakenSample)
  | send

inductive FanStep : FanState → FanAction → FanState → Prop
  | act {s} (action : BridgeAction) : FanStep s (.act action) { s with bridge := s.bridge.act action }
  | collect {s} (available : UInt64 → List TakenSample) (hp : s.pending = []) :
      FanStep s (.collect available)
        { s with
          pending := deliveries s.bridge available s.taken
          taken := fun r => s.taken r ++ s.bridge.samplesOf available r
          seen := fun r sid => s.seen r sid ++ if sid ∈ (s.bridge.subscriberSenders r).map (·.1)
            then List.range' (s.taken r).length (s.bridge.samplesOf available r).length else [] }
  | send {s d rest} (hp : s.pending = d :: rest) :
      FanStep s .send
        { s with
          bridge := d.trySend s.bridge
          pending := rest
          log := s.log ++ [(d, s.bridge.takes d.sender)] }

def FanState.start (handle : Int32) (config : BridgeConfig) : FanState where
  bridge := BridgeInner.create handle config
  pending := []
  taken _ := []
  seen _ _ := []
  log := []

/-- What was put on the session's channel on behalf of the reader. -/
def FanState.put (s : FanState) (r sid : UInt64) : List Nat :=
  (s.log.filter fun p => p.1.For r sid && p.2).map (·.1.index)

/-- What the channel had no room for, or was closed for. -/
def FanState.refused (s : FanState) (r sid : UInt64) : List Nat :=
  (s.log.filter fun p => p.1.For r sid && !p.2).map (·.1.index)

def FanState.toSend (s : FanState) (r sid : UInt64) : List Nat := (s.pending.filter (·.For r sid)).map (·.index)

/-- A session gets what was taken while it was seen, in order and once, save what its channel has refused. -/
structure FanState.InOrder (s : FanState) : Prop where
  sample : ∀ p ∈ s.log, (s.taken p.1.readerId)[p.1.index]? = some p.1.sample
  once : ∀ r sid, (s.seen r sid).Pairwise (· < ·)
  order : ∀ r sid, (s.put r sid).Sublist (s.seen r sid)
  complete : ∀ r sid, ∀ i ∈ s.seen r sid, i ∈ s.put r sid ∨ i ∈ s.refused r sid ∨ i ∈ s.toSend r sid

def FanState.SendsAlone (s : FanState) : FanAction → Prop
  | .send => ∀ d rest, s.pending = d :: rest → ∀ tx, (d.trySend s.bridge).channels.lookup tx =
      if tx = d.sender ∧ s.bridge.takes d.sender = true
      then (s.bridge.channels.lookup tx).map fun c => { c with queue := c.queue ++ [sampleToMessage d.sample] }
      else s.bridge.channels.lookup tx
  | _ => True

/-- The deliveries are the offers of the tick, with their numbers. -/
theorem deliveries_fanOut (inner : BridgeInner) (available : UInt64 → List TakenSample)
    (taken : UInt64 → List ReceivedSample) :
    (deliveries inner available taken).map (fun d => (d.sid, d.sender, sampleToMessage d.sample)) =
      (fanOut (inner.collect available)).map fun o => (o.sid, o.sender, o.msg) := by
  have hreader : ∀ (t : Taken) r first, (t.deliveries r first).map (fun d => (d.sid, d.sender, sampleToMessage d.sample)) =
      t.offers.map fun o => (o.sid, o.sender, o.msg) := by
    intro t r first
    unfold Taken.deliveries Taken.offers
    induction t.samples generalizing first with
    | nil => rfl
    | cons sample samples ih =>
      rw [List.zipIdx_cons, List.flatMap_cons, List.flatMap_cons, List.map_append, List.map_append, ih, List.map_map,
        List.map_map]
      rfl
  unfold deliveries fanOut BridgeInner.collect
  induction inner.readers.allReaders.map (·.readerId) with
  | nil => rfl
  | cons r ids ih =>
    rw [List.flatMap_cons, List.map_append, ih, List.filterMap_cons]
    cases inner.collectReader available r with
    | none => rfl
    | some t =>
      rw [List.flatMap_cons, List.map_append]
      exact congrArg (· ++ _) (hreader t r _)

/-! ## The readers by their ids -/

/-- A reader is filed under its own id. -/
def FiledById (reg : ReaderRegistry) : Prop := ∀ r reader, reg.readers.lookup r = some reader → reader.readerId = r

section
variable {reg reg' : ReaderRegistry} {inner : BridgeInner}

theorem FiledById.ids (h : FiledById reg) : reg.allReaders.map (·.readerId) = reg.readers.keys := by
  unfold allReaders Table.values AList.keys List.keys
  rw [List.map_map]
  exact List.map_congr_left fun e he => h e.1 e.2 (AList.mem_lookup_iff.mpr he)

theorem FiledById.departs {sid : UInt64} (h : FiledById reg) (hd : Departs sid reg reg') : FiledById reg' := by
  intro r x hx
  obtain ⟨reader, hr, rfl | rfl⟩ := hd.source r x hx
  · exact h r _ hr
  · exact h r reader hr

theorem FiledById.subscribe (h : FiledById reg) (rc : Int32) (topic : Topic) (qos : Option DdsQos) (qosSet : QosSet)
    (sid : UInt64) : FiledById ((ReaderRegistry.subscribe rc topic qos qosSet sid).after reg) := by
  unfold Prog.after
  rcases subscribe_cases reg rc topic qos qosSet sid with
    ⟨id, reader, hsh, he⟩ | ⟨-, -, he⟩ | ⟨-, -, reader, -, -, -, -, -, he⟩
  · rw [he]
    intro r x hx
    simp only [join_readers] at hx
    by_cases hr : r = id
    · rw [if_pos hr] at hx
      cases hx
      exact (h id reader (shared_eq_some.mp hsh).2).trans hr.symm
    · rw [if_neg hr] at hx
      exact h r x hx
  · rw [he]
    exact h
  · rw [he]
    intro r x hx
    simp only [add_readers] at hx
    by_cases hr : r = reader.readerId
    · rw [if_pos hr] at hx
      cases hx
      exact hr.symm
    · rw [if_neg hr] at hx
      exact h r x hx

theorem FiledById.act (h : FiledById inner.readers) (action : BridgeAction) : FiledById (inner.act action).readers := by
  cases action with
  | register sessionId sender => exact h
  | channel sender channel => exact h
  | unregister sessionId => exact h.departs removeSession_departs
  | frame dds sid data maxPayloadSize =>
    rcases (effect_after dds sid data maxPayloadSize inner).readers with
      hr | ⟨rc, topic, qos, qosSet, hr⟩ | ⟨t, T, hr⟩
    · exact hr ▸ h
    · exact hr ▸ h.subscribe rc topic qos qosSet sid
    · exact hr ▸ h.departs (unsubscribe_departs t T)

end

/-! ## One tick -/

section
variable {inner : BridgeInner} {available : UInt64 → List TakenSample} {taken : UInt64 → List ReceivedSample} {r sid : UInt64}

theorem subscriberSenders_nodup (inner : BridgeInner) (r : UInt64) : ((inner.subscriberSenders r).map (·.1)).Nodup := by
  have hkeys : ((inner.readers.getSubscribers r).getD []).Nodup := by
    unfold getSubscribers
    cases inner.readers.readers.lookup r with
    | none => exact List.nodup_nil
    | some reader => exact reader.subscribers.keys_nodup
  unfold subscriberSenders
  rw [List.map_filterMap]
  refine hkeys.filterMap fun a a' b hb hb' => ?_
  simp only [Option.map_map, Option.mem_def, Option.map_eq_some_iff] at hb hb'
  obtain ⟨_, -, rfl⟩ := hb
  obtain ⟨_, -, he⟩ := hb'
  exact he.symm

theorem deliveries_for {t : Taken} (hnodup : (t.subscribers.map (·.1)).Nodup) (r sid : UInt64) (first : Nat) :
    ((t.deliveries r first).filter (·.For r sid)).map (·.index) =
      if sid ∈ t.subscribers.map (·.1) then List.range' first t.samples.length else [] := by
  have hone : ∀ sample index, ((t.subscribers.map fun p : UInt64 × Nat => (⟨r, index, sample, p.1, p.2⟩ : Delivery)).filter
      (·.For r sid)).map (·.index) = List.replicate ((t.subscribers.map (·.1)).count sid) index := by
    intro sample index
    induction t.subscribers with
    | nil => rfl
    | cons p subs ih =>
      rw [List.map_cons, List.filter_cons, List.map_cons, List.count_cons]
      by_cases hp : p.1 = sid
      · rw [if_pos (by simp [Delivery.For, hp]), List.map_cons, ih, if_pos (by simp [hp]), List.replicate_succ]
      · rw [if_neg (by simp [Delivery.For, hp]), ih, if_neg (by simp [hp])]
        rfl
  have hcount : (t.subscribers.map (·.1)).count sid = if sid ∈ t.subscribers.map (·.1) then 1 else 0 := hnodup.count
  unfold Taken.deliveries
  induction t.samples generalizing first with
  | nil => simp
  | cons sample samples ih =>
    rw [List.zipIdx_cons, List.flatMap_cons, List.filter_append, List.map_append, ih, hone, hcount]
    by_cases hsid : sid ∈ t.subscribers.map (·.1)
    · simp only [if_pos hsid, List.replicate_one, List.length_cons, List.range'_succ, List.singleton_append]
    · simp only [if_neg hsid, List.replicate_zero, List.append_nil]

theorem deliveries_other {t : Taken} {r' : UInt64} (hr : r' ≠ r) (first : Nat) :
    (t.deliveries r' first).filter (·.For r sid) = [] := by
  rw [List.filter_eq_nil_iff]
  intro d hd
  obtain ⟨p, -, hd⟩ := List.mem_flatMap.mp hd
  obtain ⟨q, -, rfl⟩ := List.mem_map.mp hd
  simp [Delivery.For, hr]

theorem tick_deliveries (h : FiledById inner.readers) :
    ((deliveries inner available taken).filter (·.For r sid)).map (·.index) =
      if sid ∈ (inner.subscriberSenders r).map (·.1)
      then List.range' (taken r).length (inner.samplesOf available r).length else [] := by
  unfold deliveries samplesOf
  rw [h.ids, List.filter_flatMap, List.map_flatMap, List.flatMap_of_nodup (a := r) inner.readers.readers.keys_nodup]
  · cases hcollect : inner.collectReader available r with
    | none => simp
    | some t =>
      unfold collectReader at hcollect
      cases hr : inner.readers.readers.lookup r with
      | none =>
        rw [hr] at hcollect
        cases hcollect
      | some reader =>
        rw [hr] at hcollect
        simp only at hcollect
        split at hcollect
        · cases hcollect
        · cases hcollect
          rw [if_pos ((Table.mem_keys_iff _ r).mpr ⟨reader, hr⟩)]
          exact deliveries_for (subscriberSenders_nodup inner r) r sid _
  · intro r' hr'
    cases inner.collectReader available r' with
    | none => rfl
    | some t => exact congrArg (List.map _) (deliveries_other hr' _)

theorem sample_of_delivery {d : Delivery} (hd : d ∈ deliveries inner available taken) :
    (taken d.readerId ++ inner.samplesOf available d.readerId)[d.index]? = some d.sample := by
  obtain ⟨r, -, hd⟩ := List.mem_flatMap.mp hd
  unfold samplesOf
  cases hcollect : inner.collectReader available r with
  | none =>
    rw [hcollect] at hd
    cases hd
  | some t =>
    rw [hcollect] at hd
    obtain ⟨p, hp, hd⟩ := List.mem_flatMap.mp hd
    obtain ⟨q, -, rfl⟩ := List.mem_map.mp hd
    obtain ⟨hle, hget⟩ := List.mem_zipIdx_iff_le_and_getElem?_sub.mp hp
    simp only [hcollect, Option.map_some, Option.getD_some]
    rw [List.getElem?_append_right hle]
    exact hget

end

/-! ## Runs -/

def FanState.tried (s : FanState) (r sid : UInt64) : List Nat := (s.log.filter (·.1.For r sid)).map (·.1.index)

/-- What was tried and what is still to be sent are what was seen. -/
structure FanInv (s : FanState) : Prop where
  ids : FiledById s.bridge.readers
  order : ∀ r sid, s.tried r sid ++ s.toSend r sid = s.seen r sid
  once : ∀ r sid, (s.seen r sid).Pairwise (· < ·)
  bounded : ∀ r sid, ∀ i ∈ s.seen r sid, i < (s.taken r).length
  logged : ∀ p ∈ s.log, (s.taken p.1.readerId)[p.1.index]? = some p.1.sample
  waiting : ∀ d ∈ s.pending, (s.taken d.readerId)[d.index]? = some d.sample

section
variable {s t : FanState} {a : FanAction}

theorem fanInv_start (handle : Int32) (config : BridgeConfig) : FanInv (.start handle config) where
  ids r reader h := by cases h
  order _ _ := rfl
  once _ _ := .nil
  bounded _ _ i h := by cases h
  logged p h := by cases h
  waiting d h := by cases h

theorem FanInv.collect (hi : FanInv s) (available : UInt64 → List TakenSample) (hp : s.pending = []) :
    FanInv { s with
      pending := deliveries s.bridge available s.taken
      taken := fun r => s.taken r ++ s.bridge.samplesOf available r
      seen := fun r sid => s.seen r sid ++ if sid ∈ (s.bridge.subscriberSenders r).map (·.1)
        then List.range' (s.taken r).length (s.bridge.samplesOf available r).length else [] } where
  ids := hi.ids
  order r sid := by
    have hold := hi.order r sid
    unfold FanState.toSend at hold
    rw [hp, List.filter_nil, List.map_nil, List.append_nil] at hold
    exact congrArg₂ (· ++ ·) hold (tick_deliveries hi.ids)
  once r sid := by
    refine List.pairwise_append.mpr ⟨hi.once r sid, ?_, fun i hseen j hj => ?_⟩
    · split
      · exact List.pairwise_lt_range'
      · exact .nil
    · have hlt := hi.bounded r sid i hseen
      split at hj
      · exact Nat.lt_of_lt_of_le hlt (List.mem_range'_1.mp hj).1
      · cases hj
  bounded r sid i hmem := by
    rw [List.length_append]
    rcases List.mem_append.mp hmem with hseen | hnew
    · exact Nat.lt_add_right _ (hi.bounded r sid i hseen)
    · split at hnew
      · exact (List.mem_range'_1.mp hnew).2
      · cases hnew
  logged p hmem := by
    have hold := hi.logged p hmem
    exact (List.getElem?_append_left (List.getElem?_eq_some_iff.mp hold).1).trans hold
  waiting d hd := sample_of_delivery hd

theorem FanInv.send (hi : FanInv s) {d : Delivery} {rest : List Delivery} (hp : s.pending = d :: rest) (took : Bool) :
    FanInv { s with bridge := d.trySend s.bridge, pending := rest, log := s.log ++ [(d, took)] } where
  ids := hi.ids
  order r sid := by
    rw [← hi.order r sid]
    unfold FanState.tried FanState.toSend
    rw [hp, List.filter_append, List.map_append, List.append_assoc, List.filter_cons, List.filter_cons, List.filter_nil]
    by_cases hfor : d.For r sid = true
    · rw [if_pos hfor, if_pos hfor]
      rfl
    · rw [if_neg hfor, if_neg hfor]
      rfl
  once := hi.once
  bounded := hi.bounded
  logged p hmem := by
    rcases List.mem_append.mp hmem with hold | hnew
    · exact hi.logged p hold
    · cases List.mem_singleton.mp hnew
      exact hi.waiting d (hp ▸ List.mem_cons_self)
  waiting d' hd := hi.waiting d' (hp ▸ List.mem_cons_of_mem _ hd)

theorem FanInv.step (hi : FanInv s) (hstep : FanStep s a t) : FanInv t := by
  cases hstep with
  | act action => exact ⟨hi.ids.act action, hi.order, hi.once, hi.bounded, hi.logged, hi.waiting⟩
  | collect available hp => exact hi.collect available hp
  | send hp => exact hi.send hp _

theorem FanInv.inOrder (hi : FanInv s) : s.InOrder where
  sample := hi.logged
  once := hi.once
  order r sid := by
    rw [← hi.order r sid]
    refine List.Sublist.trans ?_ (List.sublist_append_left _ _)
    have hput : s.put r sid = ((s.log.filter (·.1.For r sid)).filter (·.2)).map (·.1.index) := by
      rw [List.filter_filter]
      unfold FanState.put
      simp only [Bool.and_comm]
    rw [hput]
    exact List.filter_sublist.map _
  complete r sid i hseen := by
    rw [← hi.order r sid] at hseen
    rcases List.mem_append.mp hseen with htried | hwaits
    · obtain ⟨⟨d, took⟩, hmem, rfl⟩ := List.mem_map.mp htried
      obtain ⟨hlog, hfor⟩ := List.mem_filter.mp hmem
      cases took with
      | true => exact .inl (List.mem_map.mpr ⟨_, List.mem_filter.mpr ⟨hlog, by simpa using hfor⟩, rfl⟩)
      | false => exact .inr (.inl (List.mem_map.mpr ⟨_, List.mem_filter.mpr ⟨hlog, by simpa using hfor⟩, rfl⟩))
    · exact .inr (.inr hwaits)

theorem sends_alone (s : FanState) (a : FanAction) : s.SendsAlone a := by
  cases a with
  | act action => trivial
  | collect available => trivial
  | send =>
    intro d rest _ tx
    change (Table.modify s.bridge.channels d.sender _).lookup tx = _
    rw [Table.lookup_modify]
    by_cases htx : tx = d.sender
    · rw [if_pos htx, htx]
      unfold takes
      cases hc : s.bridge.channels.lookup d.sender with
      | none => simp
      | some c =>
        unfold Channel.trySend
        by_cases hroom : c.isOpen ∧ c.queue.length < c.capacity
        · simp [hroom]
        · simp [hroom]
    · rw [if_neg htx, if_neg fun h => htx h.1]

end

/-- **The fan-out is ordered and free of duplicates.** Of what was taken from a reader while a session was seen among
its subscribers, the session is sent each sample once and in order; one is missing only where its own channel was full
or closed, and that touches no other channel. -/
theorem fan_out_in_order {handle : Int32} {config : BridgeConfig} {tr : List (FanAction × FanState)}
    (hrun : Runs.Run FanStep (.start handle config) tr) :
    Runs.Always FanState.InOrder (.start handle config) tr ∧
      Runs.EachStep FanState.SendsAlone (.start handle config) tr := by
  have hinv : Runs.Always FanInv (.start handle config) tr :=
    hrun.reachable.mono fun s hr => hr.invariant (fanInv_start handle config) fun _ _ _ hi hstep => hi.step hstep
  exact ⟨hinv.mono fun _ hi => hi.inOrder, Runs.eachStep_of_always (fun s _ a => sends_alone s a) hinv⟩

/-- `fan_out_in_order` where two sessions share a reader and one has room for a single message. -/
theorem full_channel_is_alone :
    ∃ tr p, Runs.Run FanStep (.start 1 { sessionBufferSize := 1, maxPayloadSize := 1024 }) tr ∧ tr.getLast? = some p ∧
      p.2.InOrder ∧ p.2.put 1 1 = [0] ∧ p.2.refused 1 1 = [1] ∧ p.2.put 1 2 = [0, 1] := by
  let subscribes (sid : UInt64) := BridgeAction.frame ddsSucceeds sid (subscribeFrame 0x61) 1024
  let available (_ : UInt64) : List TakenSample := [⟨1, true, 0, [1]⟩, ⟨1, true, 0, [2]⟩]
  have hrun : ∃ tr, Runs.Run FanStep (.start 1 { sessionBufferSize := 1, maxPayloadSize := 1024 }) tr ∧
      ∃ p, tr.getLast? = some p ∧ p.2.put 1 1 = [0] ∧ p.2.refused 1 1 = [1] ∧ p.2.put 1 2 = [0, 1] := by
    refine ⟨_, .cons (.act (.register 1 0)) <| .cons (.act (.register 2 1)) <| .cons (.act (.channel 0 ⟨1, [], true⟩)) <|
      .cons (.act (.channel 1 ⟨2, [], true⟩)) <| .cons (.act (subscribes 1)) <| .cons (.act (subscribes 2)) <|
      .cons (.collect available rfl) <| .cons (.send rfl) <| .cons (.send rfl) <| .cons (.send rfl) <|
      .cons (.send rfl) (.nil _), _, rfl, ?_, ?_, ?_⟩
    · rfl
    · rfl
    · rfl
  obtain ⟨tr, hrun, p, hlast, hput⟩ := hrun
  exact ⟨tr, p, hrun, hlast, (fan_out_in_order hrun).1.2 p (List.mem_of_getLast? hlast), hput⟩

end DdsBridge
