import DdsBridge.Isolation
import DdsBridge.Offers

/-!
# A write and a dispose

A sample that is written goes through DDS and a tick of `reader_poll_loop` to the channels of the
subscribers, the notification after a dispose goes there at once: it overtakes what no tick has taken yet,
and what a tick has taken and, without the lock, not sent yet.
-/

namespace DdsBridge

open BridgeInner ReaderRegistry

/-! ## Samples and the writes they come from -/

/-- A sample that DDS has for a reader, with the number of the WRITE that it comes from if the bridge has
handled it. -/
abbrev Tagged := TakenSample × Option Nat

def HasSample (available : UInt64 → List Tagged) (r : UInt64) (n : Nat) : Prop := ∃ x ∈ available r, x.2 = some n

def DdsReader.takeTagged (reader : DdsReader) (maxSamples : Nat) (available : List Tagged) :
    List (ReceivedSample × Option Nat) :=
  (available.take maxSamples).filterMap fun (taken, tag) => (reader.receive taken).map fun sample => (sample, tag)

/-- The fan-out of a tick. -/
def taggedOffers (inner : BridgeInner) (available : UInt64 → List Tagged) : List (Offer × Option Nat) :=
  (inner.readers.allReaders.map (·.readerId)).flatMap fun r =>
    match inner.readers.readers.lookup r with
    | none => []
    | some reader =>
      (reader.takeTagged 256 (available r)).flatMap fun (sample, tag) =>
        (inner.subscriberSenders r).map fun (sid, sender) =>
          ({ sid, sender, topicName := reader.topic.topicName, typeName := reader.topic.typeName,
             msg := sampleToMessage sample }, tag)

section
variable {inner : BridgeInner} {available : UInt64 → List Tagged}

theorem map_takeTagged (reader : DdsReader) (maxSamples : Nat) (available : List Tagged) :
    (reader.takeTagged maxSamples available).map Prod.fst =
      (reader.takeSamples maxSamples (available.map Prod.fst)).1 := by
  unfold DdsReader.takeTagged
  induction maxSamples generalizing available with
  | zero => rfl
  | succ n ih =>
    cases available with
    | nil => rfl
    | cons x available =>
      obtain ⟨taken, tag⟩ := x
      rw [List.take_succ_cons, List.filterMap_cons, List.map_cons, DdsReader.takeSamples]
      cases hr : reader.receive taken with
      | none =>
        simp only [hr, Option.map_none]
        exact ih available
      | some sample =>
        simp only [hr, Option.map_some, List.map_cons]
        rw [ih available]

/-- Without the numbers it is the fan-out of the poll loop. -/
theorem map_taggedOffers : (taggedOffers inner available).map Prod.fst =
    fanOut (inner.collect fun r => (available r).map Prod.fst) := by
  unfold taggedOffers fanOut collect
  induction inner.readers.allReaders.map (·.readerId) with
  | nil => rfl
  | cons r rs ih =>
    rw [List.flatMap_cons, List.map_append, ih, List.filterMap_cons, collectReader]
    cases hr : inner.readers.readers.lookup r with
    | none => rfl
    | some reader =>
      simp only
      rw [← map_takeTagged]
      cases hx : reader.takeTagged 256 (available r) with
      | nil => rfl
      | cons first rest =>
        simp [Taken.offers, List.map_flatMap, List.flatMap_map, Function.comp_def]

theorem hasSample_of_mem_taggedOffers {o : Offer} {n : Nat} (h : (o, some n) ∈ taggedOffers inner available) :
    ∃ r, Member inner.readers o.sid r ∧ HasSample available r n := by
  obtain ⟨r, -, h⟩ := List.mem_flatMap.mp h
  cases hr : inner.readers.readers.lookup r with
  | none =>
    rw [hr] at h
    cases h
  | some reader =>
    rw [hr] at h
    obtain ⟨⟨sample, tag⟩, hsample, h⟩ := List.mem_flatMap.mp h
    obtain ⟨⟨sid, sender⟩, hsid, heq⟩ := List.mem_map.mp h
    cases heq
    obtain ⟨⟨taken, tag⟩, htaken, hreceive⟩ := List.mem_filterMap.mp hsample
    obtain ⟨sample', -, heq⟩ := Option.map_eq_some_iff.mp hreceive
    cases heq
    unfold subscriberSenders ReaderRegistry.getSubscribers at hsid
    rw [hr] at hsid
    obtain ⟨sid', hmem, hsender⟩ := List.mem_filterMap.mp hsid
    obtain ⟨tx, -, heq⟩ := Option.map_eq_some_iff.mp hsender
    cases heq
    exact ⟨r, ⟨reader, hr, AList.mem_keys.mpr hmem⟩, _, List.mem_of_mem_take htaken, rfl⟩

end

/-! ## The system -/

/-- The topic, type and data of an operation that succeeds. -/
def operated (dds : DdsReturns) (sid : UInt64) (r : UInt32) (op : WriteOp) (mode : Res ProtocolError WriteMode)
    (inner : BridgeInner) : Option (String × String × Bytes) :=
  match mode with
  | .ok mode =>
    match doWriteOp dds sid r mode op inner with
    | .ok (_, inner') => disposedTopic inner' mode
    | _ => none
  | _ => none

/-- The WRITE that the frame is, if it is answered OK. -/
def writeOf (dds : DdsReturns) (sid : UInt64) (data : Bytes) (maxPayloadSize : Nat) (inner : BridgeInner) :
    Option (String × String × Bytes) :=
  match checkFrame maxPayloadSize data with
  | .ok (header, payload) =>
    if header.msgType = .write then
      operated dds sid header.requestId .write (WritePayload.mode <$> parseWrite payload) inner
    else none
  | _ => none

/-- The DISPOSE that the frame is, if it is answered OK. -/
def disposeOf (dds : DdsReturns) (sid : UInt64) (data : Bytes) (maxPayloadSize : Nat) (inner : BridgeInner) :
    Option (String × String × Bytes) :=
  match checkFrame maxPayloadSize data with
  | .ok (header, payload) =>
    if header.msgType = .dispose then
      operated dds sid header.requestId .dispose (DisposePayload.mode <$> parseDispose payload) inner
    else none
  | _ => none

/-- `tick` is what the tick in progress has collected and not sent yet. `told` has the sessions on whose channel there
is, or was, a DATA_DISPOSED for the instance of a WRITE that was answered OK before, and `inverted` those that got the
sample of that WRITE after it. -/
structure OrderState where
  bridge : BridgeInner
  available : UInt64 → List Tagged
  tick : List (Offer × Option Nat)
  writes : List (String × String × Bytes)
  told : Set (UInt64 × Nat)
  inverted : Set (UInt64 × Nat)

inductive OrderAction where
  /-- `matched` are the readers that DDS has matched with the writer, `stamp` is the time of the sample. -/
  | request (dds : DdsReturns) (sid : UInt64) (data : Bytes) (maxPayloadSize : Nat) (matched : UInt64 → Bool)
      (stamp : Int64)
  | other (action : BridgeAction)
  | collect
  | send (p : Offer × Option Nat)
  | dds (available : UInt64 → List Tagged)

/-- A reader that is deleted or new has nothing. -/
def cleared (s t : BridgeInner) (available : UInt64 → List Tagged) (r : UInt64) : List Tagged :=
  if t.readers.readers.lookup r = none ∨
      r = s.readers.nextReaderId ∧ t.readers.nextReaderId ≠ s.readers.nextReaderId then []
  else available r

/-- A sample that is written is there for every matched reader of the topic and type. -/
def afterWrite (matched : UInt64 → Bool) (stamp : Int64) (n : Nat) (write : Option (String × String × Bytes))
    (inner : BridgeInner) (available : UInt64 → List Tagged) (r : UInt64) : List Tagged :=
  match write, inner.readers.readers.lookup r with
  | some (topicName, typeName, data), some reader =>
    if reader.topic.topicName = topicName ∧ reader.topic.typeName = typeName ∧ matched r = true then
      available r ++ [(⟨1, true, stamp, data⟩, some n)]
    else available r
  | _, _ => available r

def afterTick (inner : BridgeInner) (available : UInt64 → List Tagged) (r : UInt64) : List Tagged :=
  if (inner.readers.readers.lookup r).isSome then (available r).drop 256 else available r

section
variable {ι : Type} (instanceOf : String → String → Bytes → ι)

/-- The write is of the instance that is disposed of. -/
def Covered (writes : List (String × String × Bytes)) (dispose : Option (String × String × Bytes)) (n : Nat) : Prop :=
  ∃ topicName typeName key data, dispose = some (topicName, typeName, key) ∧
    writes[n]? = some (topicName, typeName, data) ∧ instanceOf topicName typeName data = instanceOf topicName typeName key

inductive OrderStep : OrderState → OrderAction → OrderState → Prop
  | request {s} (dds : DdsReturns) (sid : UInt64) (data : Bytes) (maxPayloadSize : Nat) (matched : UInt64 → Bool)
      (stamp : Int64) :
      OrderStep s (.request dds sid data maxPayloadSize matched stamp)
        { s with
          bridge := s.bridge.act (.frame dds sid data maxPayloadSize)
          available := afterWrite matched stamp s.writes.length (writeOf dds sid data maxPayloadSize s.bridge)
            (s.bridge.act (.frame dds sid data maxPayloadSize))
            (cleared s.bridge (s.bridge.act (.frame dds sid data maxPayloadSize)) s.available)
          writes := s.writes ++ (writeOf dds sid data maxPayloadSize s.bridge).toList
          told := s.told ∪ {p | (∃ o ∈ requestLog dds sid data maxPayloadSize s.bridge, o.sid = p.1) ∧
            Covered instanceOf s.writes (disposeOf dds sid data maxPayloadSize s.bridge) p.2} }
  | other {s} (action : BridgeAction) (hf : ¬ action.IsFrame) :
      OrderStep s (.other action)
        { s with
          bridge := s.bridge.act action
          available := cleared s.bridge (s.bridge.act action) s.available }
  /-- The part of a tick under the lock. -/
  | collect {s} (ht : s.tick = []) :
      OrderStep s .collect
        { s with
          available := afterTick s.bridge s.available
          tick := taggedOffers s.bridge s.available }
  | send {s rest} (p : Offer × Option Nat) (h : s.tick = p :: rest) :
      OrderStep s (.send p)
        { s with
          bridge := p.1.trySend s.bridge
          tick := rest
          inverted := s.inverted ∪ {q | q ∈ s.told ∧ q.1 = p.1.sid ∧ p.2 = some q.2 ∧
            s.bridge.takes p.1.sender = true} }
  /-- DDS drops samples, gives others, and gives those of the bridge to readers that come late. -/
  | dds {s} (available : UInt64 → List Tagged) (h : ∀ r n, HasSample available r n → n < s.writes.length) :
      OrderStep s (.dds available) { s with available }

/-- No session is told of the dispose of a sample that the tick in progress still has for it or that its reader still
has, or joins a reader that still has it after it was told. DDS does not give it to the reader afterwards. -/
def OrderState.Taken (s : OrderState) : OrderAction → Prop
  | .request dds sid data maxPayloadSize _ _ =>
    (∀ o ∈ requestOffers dds sid data maxPayloadSize s.bridge, ∀ n,
      Covered instanceOf s.writes (disposeOf dds sid data maxPayloadSize s.bridge) n →
      (∀ p ∈ s.tick, p.1.sid = o.sid → p.2 ≠ some n) ∧
        ∀ r, Member s.bridge.readers o.sid r → ¬ HasSample s.available r n) ∧
    ∀ r, ¬ Member s.bridge.readers sid r →
      Member (s.bridge.act (.frame dds sid data maxPayloadSize)).readers sid r →
      ∀ n, (sid, n) ∈ s.told → ¬ HasSample s.available r n
  | .dds available => ∀ b n, (b, n) ∈ s.told → ∀ r, Member s.bridge.readers b r → ¬ HasSample available r n
  | _ => True

def OrderState.start (handle : Int32) (config : BridgeConfig) : OrderState where
  bridge := BridgeInner.create handle config
  available _ := []
  tick := []
  writes := []
  told := ∅
  inverted := ∅

/-! ## Runs -/

/-- What a session has been told of is not on its way to it any more. -/
structure OrderInv (s : OrderState) : Prop where
  taken : ∀ b n, (b, n) ∈ s.told → ∀ r, Member s.bridge.readers b r → ¬ HasSample s.available r n
  sent : ∀ b n, (b, n) ∈ s.told → ∀ p ∈ s.tick, p.1.sid = b → p.2 ≠ some n
  told : ∀ b n, (b, n) ∈ s.told → n < s.writes.length
  inverted : s.inverted = ∅

end

section
variable {inner t : BridgeInner} {available : UInt64 → List Tagged} {r : UInt64} {n : Nat}

theorem hasSample_cleared (h : HasSample (cleared inner t available) r n) : HasSample available r n := by
  obtain ⟨x, hx, htag⟩ := h
  unfold cleared at hx
  split at hx
  · cases hx
  · exact ⟨x, hx, htag⟩

theorem hasSample_afterWrite {matched : UInt64 → Bool} {stamp : Int64} {m : Nat}
    {write : Option (String × String × Bytes)}
    (h : HasSample (afterWrite matched stamp m write inner available) r n) : HasSample available r n ∨ n = m := by
  obtain ⟨x, hx, htag⟩ := h
  unfold afterWrite at hx
  split at hx
  · split at hx
    · rcases List.mem_append.mp hx with hx | hx
      · exact .inl ⟨x, hx, htag⟩
      · rw [List.mem_singleton.mp hx] at htag
        exact .inr (Option.some.inj htag).symm
    · exact .inl ⟨x, hx, htag⟩
  · exact .inl ⟨x, hx, htag⟩

theorem hasSample_afterTick (h : HasSample (afterTick inner available) r n) : HasSample available r n := by
  obtain ⟨x, hx, htag⟩ := h
  unfold afterTick at hx
  split at hx
  · exact ⟨x, List.mem_of_mem_drop hx, htag⟩
  · exact ⟨x, hx, htag⟩

theorem member_frame {dds : DdsReturns} {sid : UInt64} {data : Bytes} {maxPayloadSize : Nat} {b : UInt64} (hb : b ≠ sid)
    (h : Member (inner.act (.frame dds sid data maxPayloadSize)).readers b r) : Member inner.readers b r := by
  rcases (effect_after dds sid data maxPayloadSize inner).readers with hr | ⟨rc, topic, qos, qosSet, hr⟩ | ⟨t, T, hr⟩
  · rwa [hr] at h
  · rw [hr] at h
    simp only [ReaderRegistry.call, Prog.after] at h
    rcases subscribe_cases inner.readers rc topic qos qosSet sid with
      ⟨r', reader, hsh, he⟩ | ⟨-, -, he⟩ | ⟨-, -, reader, -, -, hempty, -, -, he⟩
    · rw [he] at h
      obtain ⟨x, hx, hmem⟩ := h
      rw [join_readers] at hx
      by_cases ha : r = r'
      · rw [if_pos ha] at hx
        cases hx
        rw [ha]
        exact ⟨reader, (shared_eq_some.mp hsh).2, ((AList.mem_insert _).mp hmem).resolve_left hb⟩
      · rw [if_neg ha] at hx
        exact ⟨x, hx, hmem⟩
    · rwa [he] at h
    · rw [he] at h
      obtain ⟨x, hx, hmem⟩ := h
      rw [add_readers] at hx
      by_cases ha : r = reader.readerId
      · rw [if_pos ha] at hx
        cases hx
        have hold := ((AList.mem_insert _).mp hmem).resolve_left hb
        rw [hempty] at hold
        exact absurd hold (AList.notMem_empty b)
      · rw [if_neg ha] at hx
        exact ⟨x, hx, hmem⟩
  · rw [hr] at h
    exact ((unsubscribe_departs t T).member hb r).mp h

end

section
variable {ι : Type} {instanceOf : String → String → Bytes → ι} {s t : OrderState}

theorem lt_of_covered {writes : List (String × String × Bytes)} {dispose : Option (String × String × Bytes)} {n : Nat}
    (h : Covered instanceOf writes dispose n) : n < writes.length := by
  obtain ⟨_, _, _, _, _, hn, _⟩ := h
  exact (List.getElem?_eq_some_iff.mp hn).1

theorem orderInv_start (handle : Int32) (config : BridgeConfig) : OrderInv (.start handle config) :=
  ⟨fun _ _ h => h.elim, fun _ _ h => h.elim, fun _ _ h => h.elim, rfl⟩

theorem OrderInv.request (hi : OrderInv s) {dds : DdsReturns} {sid : UInt64} {data : Bytes} {maxPayloadSize : Nat}
    {matched : UInt64 → Bool} {stamp : Int64}
    (h : OrderStep instanceOf s (.request dds sid data maxPayloadSize matched stamp) t)
    (hok : s.Taken instanceOf (.request dds sid data maxPayloadSize matched stamp)) : OrderInv t := by
  obtain ⟨htold, hjoin⟩ := hok
  cases h
  have hlt : ∀ n, n < s.writes.length →
      n < (s.writes ++ (writeOf dds sid data maxPayloadSize s.bridge).toList).length := by
    intro n hn
    rw [List.length_append]
    omega
  -- whom the request tells is one of those it has an offer for
  have hoffer : ∀ b, (∃ o ∈ requestLog dds sid data maxPayloadSize s.bridge, o.sid = b) →
      ∃ o ∈ requestOffers dds sid data maxPayloadSize s.bridge, o.sid = b := by
    rintro b ⟨o, ho, hsid⟩
    rcases mem_makeAll ho with ho | ho
    · cases ho
    · exact ⟨o, ho, hsid⟩
  refine ⟨fun b n hp r hmem hhas => ?_, fun b n hp p hmem hsid => ?_, fun b n hp => ?_, hi.inverted⟩
  · have hn : n < s.writes.length := by
      rcases hp with hp | ⟨-, hcov⟩
      · exact hi.told b n hp
      · exact lt_of_covered hcov
    -- the sample of the request itself has a later number
    have hsample : HasSample s.available r n := by
      rcases hasSample_afterWrite hhas with hhas | rfl
      · exact hasSample_cleared hhas
      · exact absurd hn (Nat.lt_irrefl _)
    rcases hp with hp | ⟨hlog, hcov⟩
    · by_cases hb : b = sid
      · subst hb
        by_cases hold : Member s.bridge.readers b r
        · exact hi.taken b n hp r hold hsample
        · exact hjoin r hold hmem n hp hsample
      · exact hi.taken b n hp r (member_frame hb hmem) hsample
    · obtain ⟨o, ho, rfl⟩ := hoffer b hlog
      have hne := (mem_requestOffers ho).1
      exact (htold o ho n hcov).2 r (member_frame hne hmem) hsample
  · rcases hp with hp | ⟨hlog, hcov⟩
    · exact hi.sent b n hp p hmem hsid
    · obtain ⟨o, ho, rfl⟩ := hoffer b hlog
      exact (htold o ho n hcov).1 p hmem hsid
  · rcases hp with hp | ⟨-, hcov⟩
    · exact hlt n (hi.told b n hp)
    · exact hlt n (lt_of_covered hcov)

theorem OrderInv.step {action : OrderAction} (hi : OrderInv s) (h : OrderStep instanceOf s action t)
    (hok : s.Taken instanceOf action) : OrderInv t := by
  cases h with
  | request dds sid data maxPayloadSize matched stamp =>
    exact hi.request (.request dds sid data maxPayloadSize matched stamp) hok
  | other action hf =>
    refine ⟨fun b n hp r hmem hhas => ?_, hi.sent, hi.told, hi.inverted⟩
    have hold : Member s.bridge.readers b r := by
      cases action with
      | frame dds sid data maxPayloadSize => exact absurd trivial hf
      | register | channel => exact hmem
      | unregister sid =>
        obtain ⟨x, hx, hb⟩ := hmem
        obtain ⟨reader, hr, rfl | rfl⟩ := removeSession_departs.source r x hx
        · exact ⟨_, hr, hb⟩
        · exact ⟨reader, hr, (mem_leave.mp hb).2⟩
    exact hi.taken b n hp r hold (hasSample_cleared hhas)
  | collect ht =>
    refine ⟨fun b n hp r hmem hhas => ?_, fun b n hp p hmem hsid htag => ?_, hi.told, hi.inverted⟩
    · exact hi.taken b n hp r hmem (hasSample_afterTick hhas)
    · obtain ⟨o, tag⟩ := p
      change tag = some n at htag
      subst htag
      obtain ⟨r, hr, hhas⟩ := hasSample_of_mem_taggedOffers hmem
      exact hi.taken b n hp r (hsid ▸ hr) hhas
  | send p h =>
    refine ⟨hi.taken, fun b n hp q hq => hi.sent b n hp q (h ▸ List.mem_cons_of_mem p hq), hi.told, ?_⟩
    refine Set.eq_empty_of_forall_notMem fun q hq => ?_
    rcases hq with hq | ⟨htold, hsid, htag, -⟩
    · rw [hi.inverted] at hq
      exact hq
    · exact hi.sent q.1 q.2 htold p (h ▸ List.mem_cons_self) hsid.symm htag
  | dds available h => exact ⟨hok, hi.sent, hi.told, hi.inverted⟩

end

/-- **Data and dispose keep their order** in every run in which no session is told of the dispose of a sample that
a reader of the session, or the tick in progress, still has. -/
theorem data_before_dispose {ι : Type} {instanceOf : String → String → Bytes → ι} {handle : Int32} {config : BridgeConfig}
    {tr : List (OrderAction × OrderState)} (hrun : Runs.Run (OrderStep instanceOf) (.start handle config) tr)
    (hok : Runs.EachStep (OrderState.Taken instanceOf) (.start handle config) tr) :
    Runs.Always (fun s => s.inverted = ∅) (.start handle config) tr := by
  have hkeeps : ∀ s action t, OrderInv s → OrderStep instanceOf s action t → s.Taken instanceOf action → OrderInv t :=
    fun _ _ _ hi h hok => hi.step h hok
  exact (Runs.always_of_eachStep hkeeps hrun (orderInv_start handle config) hok).mono fun _ hi => hi.inverted

/-! ### One sample -/

/-- WRITE (3) or DISPOSE (4) of the data `9` on the topic `a` with the type `T`, which has no keys. -/
def chatterFrame (kind : UInt8) : Bytes :=
  [0x44, 0x42, 1, kind, 7, 0, 0, 0, 14, 0, 0, 0, 0, 1, 0, 0, 0, 0x61, 1, 0, 0, 0, 0x54, 0, 0, 9]

/-- Without keys there is one instance. -/
def keyless (_ _ : String) (_ : Bytes) : Unit := ()

/-- Session 1 writes a sample and disposes of it before the next tick: session 2 gets the DATA_DISPOSED and then the
sample. -/
theorem dispose_before_data :
    ¬ ∀ handle config tr, Runs.Run (OrderStep keyless) (.start handle config) tr →
      Runs.Always (fun s => s.inverted = ∅) (.start handle config) tr := by
  intro h
  have hrun : ∃ tr action t, Runs.Run (OrderStep keyless) (.start 1 idleBridge.config) tr ∧ (action, t) ∈ tr ∧
      (2, 0) ∈ t.inverted := by
    refine ⟨_, _, _, .cons (.other (.channel 0 ⟨16, [], true⟩) nofun) <|
      .cons (.other (.register 2 0) nofun) <|
      .cons (.request ddsSucceeds 2 (subscribeFrame 0x61) 1024 (fun _ => true) 0) <|
      .cons (.request ddsSucceeds 1 (chatterFrame 3) 1024 (fun _ => true) 0) <|
      .cons (.request ddsSucceeds 1 (chatterFrame 4) 1024 (fun _ => true) 0) <|
      .cons (.collect rfl) <|
      .cons (.send _ rfl) (.nil _), List.mem_of_getLast? rfl, .inr ⟨.inr ⟨⟨_, .head _, rfl⟩, ?_⟩, rfl, rfl, rfl⟩⟩
    exact ⟨"a", "T", [9], [9], rfl, rfl, rfl⟩
  obtain ⟨tr, action, t, hrun, hmem, hinv⟩ := hrun
  have hnone := (h 1 idleBridge.config tr hrun).2 _ hmem
  rw [show t.inverted = ∅ from hnone] at hinv
  exact hinv

/-- `data_before_dispose` for a whole tick between the two requests. -/
theorem order_kept_by_tick :
    ∃ tr, Runs.Run (OrderStep keyless) (.start 1 idleBridge.config) tr ∧ tr.length = 8 ∧
      Runs.Always (fun s => s.inverted = ∅) (.start 1 idleBridge.config) tr := by
  have hrun : ∃ tr, Runs.Run (OrderStep keyless) (.start 1 idleBridge.config) tr ∧ tr.length = 8 ∧
      Runs.EachStep (OrderState.Taken keyless) (.start 1 idleBridge.config) tr := by
    refine ⟨_, .cons (.other (.channel 0 ⟨16, [], true⟩) nofun) <|
      .cons (.other (.register 2 0) nofun) <|
      .cons (.request ddsSucceeds 2 (subscribeFrame 0x61) 1024 (fun _ => true) 0) <|
      .cons (.request ddsSucceeds 1 (chatterFrame 3) 1024 (fun _ => true) 0) <|
      .cons (.collect rfl) <|
      .cons (.send _ rfl) <|
      .cons (.request ddsSucceeds 1 (chatterFrame 4) 1024 (fun _ => true) 0) <|
      .cons (.collect rfl) (.nil _), rfl, trivial, trivial, ⟨List.forall_mem_nil _, ?_⟩, ⟨List.forall_mem_nil _, ?_⟩,
        trivial, trivial, ⟨?_, ?_⟩, trivial, trivial⟩
    · exact fun r _ _ n h => h.elim
    · rintro r - - n (h | ⟨⟨o, ho, -⟩, -⟩)
      · exact h.elim
      · cases ho
    · refine fun o _ n _ => ⟨List.forall_mem_nil _, ?_⟩
      rintro r ⟨reader, hr, -⟩ ⟨x, hx, -⟩
      cases List.mem_singleton.mp (AList.mem_lookup_iff.mp hr)
      cases hx
    · rintro r - - n ((h | ⟨⟨o, ho, -⟩, -⟩) | ⟨⟨o, ho, -⟩, -⟩)
      · exact h.elim
      · cases ho
      · cases ho
  obtain ⟨tr, hrun, hlen, hok⟩ := hrun
  exact ⟨tr, hrun, hlen, data_before_dispose hrun hok⟩

end DdsBridge
