import DdsBridge.Offers
import DdsBridge.Subscriptions

/-!
# After an unsubscription

A tick of `reader_poll_loop` notes the senders of the subscribers under the lock and uses them after it has
released it. An UNSUBSCRIBE that is answered in between does not reach what the tick has noted.
-/

namespace DdsBridge

open BridgeInner ReaderRegistry

/-! ## The system -/

def Offer.key (o : Offer) : UInt64 × String × String := (o.sid, o.topicName, o.typeName)

/-- The bridge and a tick of the poll loop between its two parts. `off` has the subscriptions that a session has
given up and not taken again, `late` the messages that were queued for it in the meantime. -/
structure PollState where
  bridge : BridgeInner
  tick : List Offer
  off : Set (UInt64 × String × String)
  late : Set Offer

inductive PollAction where
  | request (dds : DdsReturns) (sid : UInt64) (data : Bytes) (maxPayloadSize : Nat)
  | other (action : BridgeAction)
  | collect (available : UInt64 → List TakenSample)
  | send (o : Offer)

section
variable (dds : DdsReturns) (sid : UInt64) (data : Bytes) (maxPayloadSize : Nat)

def offAfter (inner : BridgeInner) (off : Set (UInt64 × String × String)) : Set (UInt64 × String × String) :=
  {k | (∃ t T, k = (sid, t, T) ∧ UnsubscribeOk dds sid data maxPayloadSize t T inner) ∨
    k ∈ off ∧ ¬ ∃ t T, k = (sid, t, T) ∧ SubscribeOk dds sid data maxPayloadSize t T inner}

end

inductive PollStep : PollState → PollAction → PollState → Prop
  | request {s} (dds : DdsReturns) (sid : UInt64) (data : Bytes) (maxPayloadSize : Nat) :
      PollStep s (.request dds sid data maxPayloadSize)
        { s with
          bridge := s.bridge.act (.frame dds sid data maxPayloadSize)
          off := offAfter dds sid data maxPayloadSize s.bridge s.off
          late := s.late ∪ {o | o ∈ requestLog dds sid data maxPayloadSize s.bridge ∧ o.key ∈ s.off} }
  | other {s} (action : BridgeAction) (hf : ¬ action.IsFrame) :
      PollStep s (.other action) { s with bridge := s.bridge.act action }
  | collect {s} (available : UInt64 → List TakenSample) (ht : s.tick = []) :
      PollStep s (.collect available) { s with tick := fanOut (s.bridge.collect available) }
  | send {s rest} (o : Offer) (h : s.tick = o :: rest) :
      PollStep s (.send o)
        { s with
          bridge := o.trySend s.bridge
          tick := rest
          late := s.late ∪ {x | x = o ∧ s.bridge.takes o.sender = true ∧ o.key ∈ s.off} }

/-- Of the readers of the topic and type the session is in the one that it subscribed to last. -/
def OneReader (reg : ReaderRegistry) (sid : UInt64) (topicName typeName : String) : Prop :=
  ∀ r reader, reg.readers.lookup r = some reader → reader.topic.topicName = topicName →
    reader.topic.typeName = typeName → sid ∈ reader.subscribers →
    reg.sessionSubscriptions.lookup (sid, topicName, typeName) = some r

/-- A session that unsubscribes is in no second reader, and the tick in progress has nothing for it. A reader that
is registered has an id of its own. -/
def PollState.Settled (s : PollState) : PollAction → Prop
  | .request dds sid data maxPayloadSize =>
    (∀ topicName typeName, UnsubscribeOk dds sid data maxPayloadSize topicName typeName s.bridge →
      (∀ o ∈ s.tick, o.key ≠ (sid, topicName, typeName)) ∧ OneReader s.bridge.readers sid topicName typeName) ∧
    DrawsFreshReader s.bridge.readers (s.bridge.act (.frame dds sid data maxPayloadSize)).readers
  | _ => True

def PollState.start (handle : Int32) (config : BridgeConfig) : PollState where
  bridge := BridgeInner.create handle config
  tick := []
  off := ∅
  late := ∅

/-! ## Who is in a reader -/

section
variable {sid : UInt64} {reg reg' : ReaderRegistry} {b : UInt64} {topicName typeName : String}

theorem Departs.listed (h : Departs sid reg reg') (hl : Listed reg' b topicName typeName) :
    Listed reg b topicName typeName := by
  obtain ⟨r, x, hx, ht, hT, hb⟩ := hl
  obtain ⟨reader, hr, rfl | rfl⟩ := h.source r x hx
  · exact ⟨r, _, hr, ht, hT, hb⟩
  · exact ⟨r, reader, hr, ht, hT, (mem_leave.mp hb).2⟩

theorem NotJoined.listed (h : NotJoined sid reg reg') (hl : Listed reg' b topicName typeName) :
    Listed reg b topicName typeName := by
  rcases h with rfl | ⟨t, T, rfl⟩
  · exact hl
  · exact (unsubscribe_departs t T).listed hl

theorem listed_subscribe (hinv : SubscriptionsInv reg) {rc : Int32} {topic : Topic} {qos : Option DdsQos}
    {qosSet : QosSet} {id : UInt64} (h : ReaderRegistry.subscribe rc topic qos qosSet sid reg = .ok (id, reg'))
    (hl : Listed reg' b topicName typeName) : Listed reg b topicName typeName ∨
      b = sid ∧ topicName = topic.topicName ∧ typeName = topic.typeName := by
  obtain ⟨a, x, hx, ht, hT, hb⟩ := hl
  rcases subscribe_cases reg rc topic qos qosSet sid with
    ⟨r, reader, hsh, he⟩ | ⟨-, -, he⟩ | ⟨-, -, reader, htopic, -, hempty, -, -, he⟩
  · rw [he] at h
    cases h
    obtain ⟨hkey, hr⟩ := shared_eq_some.mp hsh
    obtain ⟨y, hy, hyk⟩ := (hinv.keys _ id).mp hkey
    rw [hr] at hy
    cases hy
    rw [join_readers] at hx
    by_cases ha : a = id
    · rw [if_pos ha] at hx
      cases hx
      rcases (AList.mem_insert _).mp hb with rfl | hb
      · exact .inr ⟨rfl, ht ▸ congrArg ReaderKey.topicName hyk, hT ▸ congrArg ReaderKey.typeName hyk⟩
      · exact .inl ⟨id, reader, hr, ht, hT, hb⟩
    · rw [if_neg ha] at hx
      exact .inl ⟨a, x, hx, ht, hT, hb⟩
  · rw [he] at h
    cases h
  · rw [he] at h
    cases h
    rw [add_readers] at hx
    by_cases ha : a = reader.readerId
    · rw [if_pos ha] at hx
      cases hx
      rcases (AList.mem_insert _).mp hb with rfl | hb
      · exact .inr ⟨rfl, by rw [← ht, htopic], by rw [← hT, htopic]⟩
      · rw [hempty] at hb
        exact absurd hb (AList.notMem_empty b)
    · rw [if_neg ha] at hx
      exact .inl ⟨a, x, hx, ht, hT, hb⟩

theorem not_listed_unsubscribe (hone : OneReader reg sid topicName typeName)
    (h : reg.unsubscribe topicName typeName sid = (true, reg')) : ¬ Listed reg' sid topicName typeName := by
  rintro ⟨a, x, hx, ht, hT, hb⟩
  cases hentry : reg.sessionSubscriptions.lookup (sid, topicName, typeName) with
  | none =>
    rw [unsubscribe_none hentry] at h
    cases h
  | some r =>
    cases hr : reg.readers.lookup r with
    | none =>
      simp only [unsubscribe, hentry, hr] at h
      cases h
    | some reader =>
      obtain ⟨reg₁, he, -, hreaders, -⟩ := unsubscribe_some hentry hr
      rw [he] at h
      cases h
      rw [hreaders] at hx
      by_cases ha : a = r
      · rw [if_pos ha] at hx
        split at hx
        · cases hx
        · cases hx
          exact (mem_leave.mp hb).1 rfl
      · rw [if_neg ha] at hx
        have hheld := hone a x hx ht hT hb
        rw [hentry] at hheld
        exact ha (Option.some.inj hheld).symm

end

section
variable {dds : DdsReturns} {sid : UInt64} {data : Bytes} {maxPayloadSize : Nat} {inner : BridgeInner}

theorem listed_frame (hinv : SubscriptionsInv inner.readers) (hs : TopicsNamed inner) {b : UInt64}
    {topicName typeName : String}
    (hl : Listed (inner.act (.frame dds sid data maxPayloadSize)).readers b topicName typeName) :
    Listed inner.readers b topicName typeName ∨
      b = sid ∧ SubscribeOk dds sid data maxPayloadSize topicName typeName inner := by
  rcases readers_frame dds sid data maxPayloadSize hs with
    h | ⟨payload, sub, topic, qos, id, hok, hparse, ht, hT, hsub⟩
  · exact .inl (h.listed hl)
  · rcases listed_subscribe hinv hsub hl with hl | ⟨rfl, rfl, rfl⟩
    · exact .inl hl
    · exact .inr ⟨rfl, payload, sub, hok, hparse, ht.symm, hT.symm⟩

end

/-! ## Runs -/

structure PollInv (s : PollState) : Prop where
  subscriptions : SubscriptionsInv s.bridge.readers
  named : TopicsNamed s.bridge
  gone : ∀ b t T, (b, t, T) ∈ s.off → ¬ Listed s.bridge.readers b t T
  tick : ∀ o ∈ s.tick, o.key ∉ s.off
  late : s.late = ∅

theorem pollInv_start (handle : Int32) (config : BridgeConfig) : PollInv (.start handle config) where
  subscriptions := (sessionsInv_create handle config).subscriptions
  named := fun key topic h => by cases h
  gone := fun b t T h => h.elim
  tick := fun o h => by cases h
  late := rfl

section
variable {s t : PollState}

theorem PollInv.request (hi : PollInv s) {dds : DdsReturns} {sid : UInt64} {data : Bytes} {maxPayloadSize : Nat}
    (h : PollStep s (.request dds sid data maxPayloadSize) t)
    (hok : s.Settled (.request dds sid data maxPayloadSize)) : PollInv t := by
  obtain ⟨hunsub, hfresh⟩ := hok
  cases h
  have heffect := effect_after dds sid data maxPayloadSize s.bridge
  refine ⟨heffect.subscriptions hi.subscriptions hfresh, hi.named.files heffect.topics, ?_, ?_, ?_⟩
  · intro b t T hk hl
    rcases hk with ⟨t', T', hkey, hok⟩ | ⟨hoff, hno⟩
    · cases hkey
      exact not_listed_unsubscribe (hunsub _ _ hok).2 (unsubscribe_of_ok dds sid data maxPayloadSize hok) hl
    · rcases listed_frame hi.subscriptions hi.named hl with hl | ⟨rfl, hsub⟩
      · exact hi.gone b t T hoff hl
      · exact hno ⟨t, T, rfl, hsub⟩
  · intro o ho hk
    rcases hk with ⟨t', T', hkey, hok⟩ | ⟨hoff, -⟩
    · exact (hunsub _ _ hok).1 o ho hkey
    · exact hi.tick o ho hoff
  · -- The subscribers that a dispose notifies are in a reader of the topic.
    refine Set.eq_empty_of_forall_notMem fun o ho => ?_
    rcases ho with ho | ⟨hlog, hoff⟩
    · rw [hi.late] at ho
      exact ho
    · rcases mem_makeAll hlog with h | h
      · cases h
      · obtain ⟨-, -, hl, -⟩ := mem_requestOffers h
        exact hi.gone _ _ _ hoff hl

theorem PollInv.step {action : PollAction} (hi : PollInv s) (h : PollStep s action t) (hok : s.Settled action) :
    PollInv t := by
  cases h with
  | request dds sid data maxPayloadSize => exact hi.request (.request dds sid data maxPayloadSize) hok
  | other action hf =>
    cases action with
    | frame dds sid data maxPayloadSize => exact absurd trivial hf
    | register | channel => exact ⟨hi.subscriptions, hi.named, hi.gone, hi.tick, hi.late⟩
    | unregister sid =>
      refine ⟨removeSession_live hi.subscriptions, hi.named, fun b t T hoff hl => ?_, hi.tick, hi.late⟩
      exact hi.gone b t T hoff (removeSession_departs.listed hl)
  | collect available ht =>
    refine ⟨hi.subscriptions, hi.named, hi.gone, fun o ho hoff => ?_, hi.late⟩
    exact hi.gone _ _ _ hoff (listed_of_mem_fanOut ho)
  | send o h =>
    refine ⟨hi.subscriptions, hi.named, hi.gone, fun x hx => ?_, ?_⟩
    · exact hi.tick x (h ▸ List.mem_cons_of_mem o hx)
    · refine Set.eq_empty_of_forall_notMem fun x hx => ?_
      rcases hx with hx | ⟨rfl, -, hoff⟩
      · rw [hi.late] at hx
        exact hx
      · exact hi.tick x (h ▸ List.mem_cons_self) hoff

end

/-- **An unsubscription stops the delivery** in every run in which the tick in progress has nothing for a session
that unsubscribes. -/
theorem unsubscribe_stops_delivery {handle : Int32} {config : BridgeConfig} {tr : List (PollAction × PollState)}
    (hrun : Runs.Run PollStep (.start handle config) tr)
    (hok : Runs.EachStep PollState.Settled (.start handle config) tr) :
    Runs.Always (fun s => s.late = ∅) (.start handle config) tr := by
  have hkeeps : ∀ s action t, PollInv s → PollStep s action t → s.Settled action → PollInv t :=
    fun _ _ _ hi h hok => hi.step h hok
  exact (Runs.always_of_eachStep hkeeps hrun (pollInv_start handle config) hok).mono fun _ hi => hi.late

/-! ### One subscriber -/

def oneSample : UInt64 → List TakenSample := fun _ => [⟨1, true, 0, [1]⟩]

/-- The session unsubscribes between the two parts of a tick, and gets the sample after the OK. -/
theorem sample_after_unsubscribe :
    ¬ ∀ handle config tr, Runs.Run PollStep (.start handle config) tr →
      Runs.Always (fun s => s.late = ∅) (.start handle config) tr := by
  intro h
  have hrun : ∃ tr action t o, Runs.Run PollStep (.start 1 idleBridge.config) tr ∧ (action, t) ∈ tr ∧ o ∈ t.late := by
    refine ⟨_, _, _, _, .cons (.other (.channel 0 ⟨16, [], true⟩) nofun) <|
      .cons (.other (.register 1 0) nofun) <|
      .cons (.request ddsSucceeds 1 (subscribeFrame 0x61) 1024) <|
      .cons (.collect oneSample rfl) <|
      .cons (.request ddsSucceeds 1 (unsubscribeFrame 0x61) 1024) <|
      .cons (.send _ rfl) (.nil _), List.mem_of_getLast? rfl, .inr ⟨rfl, rfl, .inl ⟨"a", "T", rfl, ?_⟩⟩⟩
    exact ⟨_, _, ⟨_, [], [], _, rfl, rfl, rfl⟩, rfl, rfl, rfl⟩
  obtain ⟨tr, action, t, o, hrun, hmem, ho⟩ := hrun
  have hlate := (h 1 idleBridge.config tr hrun).2 _ hmem
  rw [show t.late = ∅ from hlate] at ho
  exact ho

/-- `unsubscribe_stops_delivery` for a session that unsubscribes between two ticks. -/
theorem delivery_stops_between_ticks :
    ∃ tr, Runs.Run PollStep (.start 1 idleBridge.config) tr ∧ tr.length = 7 ∧
      Runs.Always (fun s => s.late = ∅) (.start 1 idleBridge.config) tr := by
  have hrun : ∃ tr, Runs.Run PollStep (.start 1 idleBridge.config) tr ∧ tr.length = 7 ∧
      Runs.EachStep PollState.Settled (.start 1 idleBridge.config) tr := by
    refine ⟨_, .cons (.other (.channel 0 ⟨16, [], true⟩) nofun) <|
      .cons (.other (.register 1 0) nofun) <|
      .cons (.request ddsSucceeds 1 (subscribeFrame 0x61) 1024) <|
      .cons (.collect oneSample rfl) <|
      .cons (.send _ rfl) <|
      .cons (.request ddsSucceeds 1 (unsubscribeFrame 0x61) 1024) <|
      .cons (.collect oneSample rfl) (.nil _), rfl, trivial, trivial, ⟨?_, fun _ => rfl⟩, trivial, trivial,
        ⟨?_, fun _ => rfl⟩, trivial, trivial⟩
    · intro t T _
      exact ⟨List.forall_mem_nil _, fun r reader hr => by cases hr⟩
    · intro t T _
      refine ⟨List.forall_mem_nil _, fun r reader hr ht hT _ => ?_⟩
      have hmem := List.mem_singleton.mp (AList.mem_lookup_iff.mp hr)
      cases hmem
      subst ht hT
      rfl
  obtain ⟨tr, hrun, hlen, hok⟩ := hrun
  exact ⟨tr, hrun, hlen, unsubscribe_stops_delivery hrun hok⟩

end DdsBridge
