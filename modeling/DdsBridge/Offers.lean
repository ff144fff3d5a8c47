import DdsBridge.Notices
import DdsBridge.Poll

/-!
# Notifications offered to channels

`reader_poll_loop` and the notification after a dispose both end in `try_send`s on the channels of the
sessions. An offer that the channel takes is logged; the log of a channel has the order of its queue.
-/

namespace DdsBridge

open BridgeInner

/-- A `try_send`: of what, to whom. -/
structure Offer where
  sid : UInt64
  sender : Nat
  topicName : String
  typeName : String
  msg : Bytes
  deriving DecidableEq, Repr

def BridgeInner.takes (inner : BridgeInner) (sender : Nat) : Bool :=
  match inner.channels.lookup sender with
  | some c => c.isOpen && c.queue.length < c.capacity
  | none => false

def Offer.trySend (o : Offer) (inner : BridgeInner) : BridgeInner :=
  { inner with channels := Table.modify inner.channels o.sender fun c => c.trySend o.msg }

/-- An offer, and the log of the offers that were taken. -/
def Offer.make (o : Offer) (p : BridgeInner × List Offer) : BridgeInner × List Offer :=
  (o.trySend p.1, if p.1.takes o.sender then p.2 ++ [o] else p.2)

def makeAll (offers : List Offer) (p : BridgeInner × List Offer) : BridgeInner × List Offer :=
  offers.foldl (fun p o => o.make p) p

/-- The offers of a notice: to the recipients that have a sender. -/
def Notice.offers (n : Notice) (inner : BridgeInner) : List Offer :=
  n.recipients.filterMap fun sid => (inner.sessionSenders.lookup sid).map fun sender =>
    { sid, sender, topicName := n.topicName, typeName := n.typeName, msg := n.msg }

/-- The session is in a reader of the topic and type. -/
def Listed (reg : ReaderRegistry) (sid : UInt64) (topicName typeName : String) : Prop :=
  ∃ r reader, reg.readers.lookup r = some reader ∧ reader.topic.topicName = topicName ∧
    reader.topic.typeName = typeName ∧ sid ∈ reader.subscribers

/-- What the request has to offer, once it is done with everything else. -/
def requestOffers (dds : DdsReturns) (sid : UInt64) (data : Bytes) (maxPayloadSize : Nat) (inner : BridgeInner) :
    List Offer :=
  match frameNotice dds sid data maxPayloadSize inner with
  | some n => n.offers inner
  | none => []

/-- The bridge after a request that has not made its offers yet. -/
def handled (dds : DdsReturns) (sid : UInt64) (data : Bytes) (maxPayloadSize : Nat) (inner : BridgeInner) : BridgeInner :=
  { (processBinaryFrame dds sid data maxPayloadSize).after inner with channels := inner.channels }

/-- The offers of the request that a channel takes. -/
def requestLog (dds : DdsReturns) (sid : UInt64) (data : Bytes) (maxPayloadSize : Nat) (inner : BridgeInner) :
    List Offer :=
  (makeAll (requestOffers dds sid data maxPayloadSize inner) (handled dds sid data maxPayloadSize inner, [])).2

/-- The fan-out of a tick: each sample to each subscriber. -/
def Taken.offers (t : Taken) : List Offer :=
  t.samples.flatMap fun sample => t.subscribers.map fun (sid, sender) =>
    { sid, sender, topicName := t.topic.topicName, typeName := t.topic.typeName, msg := sampleToMessage sample }

def fanOut (taken : List Taken) : List Offer := taken.flatMap Taken.offers

section
variable {inner : BridgeInner} {log : List Offer}

@[simp] theorem trySend_sessionSenders (o : Offer) (inner : BridgeInner) :
    (o.trySend inner).sessionSenders = inner.sessionSenders := rfl

@[simp] theorem trySend_readers (o : Offer) (inner : BridgeInner) : (o.trySend inner).readers = inner.readers := rfl

theorem makeAll_cons (o : Offer) (offers : List Offer) (inner : BridgeInner) (log : List Offer) :
    makeAll (o :: offers) (inner, log) =
      makeAll offers (o.trySend inner, if inner.takes o.sender then log ++ [o] else log) := rfl

theorem makeAll_eq (offers : List Offer) (inner : BridgeInner) (log : List Offer) :
    (makeAll offers (inner, log)).1 = { inner with channels := (makeAll offers (inner, log)).1.channels } := by
  induction offers generalizing inner log with
  | nil => rfl
  | cons o offers ih =>
    rw [makeAll_cons, ih (o.trySend inner) _]
    rfl

theorem lookup_makeAll {tx : Nat} {offers : List Offer} (h : ∀ o ∈ offers, o.sender ≠ tx) (inner : BridgeInner)
    (log : List Offer) : (makeAll offers (inner, log)).1.channels.lookup tx = inner.channels.lookup tx := by
  induction offers generalizing inner log with
  | nil => rfl
  | cons o offers ih =>
    obtain ⟨ho, hrest⟩ := List.forall_mem_cons.mp h
    rw [makeAll_cons, ih hrest]
    change (Table.modify inner.channels o.sender _).lookup tx = _
    rw [Table.lookup_modify, if_neg (Ne.symm ho)]

theorem mem_makeAll {offers : List Offer} {o : Offer} (h : o ∈ (makeAll offers (inner, log)).2) :
    o ∈ log ∨ o ∈ offers := by
  induction offers generalizing inner log with
  | nil => exact .inl h
  | cons first offers ih =>
    rw [makeAll_cons] at h
    rcases ih h with h | h
    · split at h
      · rcases List.mem_append.mp h with h | h
        · exact .inl h
        · exact .inr (List.mem_cons.mpr (.inl (List.mem_singleton.mp h)))
      · exact .inl h
    · exact .inr (List.mem_cons_of_mem _ h)

theorem Notice.send_eq (n : Notice) (inner : BridgeInner) (log : List Offer) :
    n.send inner = (makeAll (n.offers inner) (inner, log)).1 := by
  unfold Notice.send Notice.offers makeAll
  induction n.recipients generalizing inner log with
  | nil => rfl
  | cons sid sids ih =>
    rw [List.foldl_cons, List.filterMap_cons]
    cases hs : inner.sessionSenders.lookup sid with
    | none =>
      have hsent : sendTo n.msg inner sid = inner := by
        unfold sendTo
        rw [hs]
      rw [hsent]
      exact ih inner log
    | some sender =>
      let o : Offer := ⟨sid, sender, n.topicName, n.typeName, n.msg⟩
      have hsent : sendTo n.msg inner sid = o.trySend inner := by
        unfold sendTo
        rw [hs]
        rfl
      rw [hsent, ih (o.trySend inner) (o.make (inner, log)).2]
      rfl

section
variable (dds : DdsReturns) (sid : UInt64) (data : Bytes) (maxPayloadSize : Nat)

theorem makeAll_requestOffers (inner : BridgeInner) (log : List Offer) :
    (makeAll (requestOffers dds sid data maxPayloadSize inner) (handled dds sid data maxPayloadSize inner, log)).1 =
      (processBinaryFrame dds sid data maxPayloadSize).after inner := by
  have hsame := channels_frame dds sid data maxPayloadSize inner
  have hbefore : SameChannels inner (handled dds sid data maxPayloadSize inner) :=
    ⟨rfl, ((within_processBinaryFrame dds sid data maxPayloadSize).after inner).sessionSenders⟩
  have hsent := (hbefore.notified (frameNotice dds sid data maxPayloadSize inner)).channels
  rw [makeAll_eq]
  have hmade : (makeAll (requestOffers dds sid data maxPayloadSize inner)
      (handled dds sid data maxPayloadSize inner, log)).1 =
      notified (frameNotice dds sid data maxPayloadSize inner) (handled dds sid data maxPayloadSize inner) := by
    unfold requestOffers notified
    cases frameNotice dds sid data maxPayloadSize inner with
    | none => rfl
    | some n =>
      have hoffers : n.offers inner = n.offers (handled dds sid data maxPayloadSize inner) := by
        unfold Notice.offers
        rw [hbefore.sessionSenders]
      simp only [Option.elim_some]
      rw [hoffers, ← n.send_eq]
  rw [hmade, hsent, ← hsame.channels]
  rfl

end

theorem mem_noticeOffers {n : Notice} {o : Offer} (h : o ∈ n.offers inner) :
    o.sid ∈ n.recipients ∧ o.topicName = n.topicName ∧ o.typeName = n.typeName ∧ o.msg = n.msg ∧
      inner.sessionSenders.lookup o.sid = some o.sender := by
  obtain ⟨sid, hsid, ho⟩ := List.mem_filterMap.mp h
  obtain ⟨sender, hs, rfl⟩ := Option.map_eq_some_iff.mp ho
  exact ⟨hsid, rfl, rfl, rfl, hs⟩

theorem listed_of_mem_topicSubscribers {sid : UInt64} {topicName typeName : String}
    (h : sid ∈ topicSubscribers inner topicName typeName) : Listed inner.readers sid topicName typeName := by
  obtain ⟨reader, hreader, hsid⟩ := List.mem_flatMap.mp h
  obtain ⟨hmem, hnames⟩ := List.mem_filter.mp hreader
  obtain ⟨ht, hT⟩ := of_decide_eq_true hnames
  obtain ⟨r, hr⟩ := Table.mem_values.mp hmem
  exact ⟨r, reader, hr, ht, hT, AList.mem_keys.mpr hsid⟩

/-- A request offers a DATA_DISPOSED to other sessions, those in a reader of the topic and type. -/
theorem mem_requestOffers {dds : DdsReturns} {sid : UInt64} {data : Bytes} {maxPayloadSize : Nat} {o : Offer}
    (h : o ∈ requestOffers dds sid data maxPayloadSize inner) :
    o.sid ≠ sid ∧ inner.sessionSenders.lookup o.sid = some o.sender ∧
      Listed inner.readers o.sid o.topicName o.typeName ∧ ∃ payload, o.msg = buildMessage .dataDisposed 0 payload := by
  unfold requestOffers at h
  cases hn : frameNotice dds sid data maxPayloadSize inner with
  | none =>
    rw [hn] at h
    cases h
  | some n =>
    rw [hn] at h
    obtain ⟨hsid, ht, hT, hmsg, hsender⟩ := mem_noticeOffers h
    obtain ⟨inner', mode, hsame, hafter⟩ := frameNotice_eq_some hn
    obtain ⟨p, -, rfl⟩ := Option.map_eq_some_iff.mp hafter
    obtain ⟨hsub, hne⟩ := List.mem_filter.mp hsid
    have hlisted := listed_of_mem_topicSubscribers hsub
    rw [show inner'.readers = inner.readers from hsame] at hlisted
    exact ⟨bne_iff_ne.mp hne, hsender, by rwa [ht, hT], _, hmsg⟩

theorem mem_fanOut {available : UInt64 → List TakenSample} {o : Offer} (h : o ∈ fanOut (inner.collect available)) :
    ∃ readerId reader, inner.readers.readers.lookup readerId = some reader ∧ o.sid ∈ reader.subscribers ∧
      o.topicName = reader.topic.topicName ∧ o.typeName = reader.topic.typeName ∧
      inner.sessionSenders.lookup o.sid = some o.sender ∧
      ∃ taken ∈ available readerId, ∃ sample, reader.receive taken = some sample ∧ o.msg = sampleToMessage sample := by
  obtain ⟨t, ht, ho⟩ := List.mem_flatMap.mp h
  obtain ⟨sample, hsample, ho⟩ := List.mem_flatMap.mp ho
  obtain ⟨p, hp, rfl⟩ := List.mem_map.mp ho
  obtain ⟨readerId, -, hread⟩ := List.mem_filterMap.mp ht
  unfold collectReader at hread
  cases hr : inner.readers.readers.lookup readerId with
  | none =>
    rw [hr] at hread
    cases hread
  | some reader =>
    rw [hr] at hread
    simp only at hread
    split at hread
    · cases hread
    · cases hread
      unfold subscriberSenders ReaderRegistry.getSubscribers at hp
      rw [hr] at hp
      obtain ⟨sid, hsid, hp⟩ := List.mem_filterMap.mp hp
      obtain ⟨sender, hs, rfl⟩ := Option.map_eq_some_iff.mp hp
      obtain ⟨taken, htaken, hrec⟩ := mem_takeSamples 256 _ hsample
      exact ⟨readerId, reader, hr, AList.mem_keys.mpr hsid, rfl, rfl, hs, taken, htaken, sample, hrec, rfl⟩

theorem listed_of_mem_fanOut {available : UInt64 → List TakenSample} {o : Offer}
    (h : o ∈ fanOut (inner.collect available)) : Listed inner.readers o.sid o.topicName o.typeName := by
  obtain ⟨r, reader, hr, hsid, ht, hT, -⟩ := mem_fanOut h
  exact ⟨r, reader, hr, ht.symm, hT.symm, hsid⟩

end

end DdsBridge
