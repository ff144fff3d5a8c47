import DdsBridge.Offers
import DdsBridge.Reports
import DdsBridge.Teardown

/-!
# Slow clients

The bridge channel of a session, between the fan-out of the ticks and the notifications after a dispose on
one side and the writer task on the other. The protocol drops the oldest message of a full buffer and tells
the client; `try_send` drops the new one, and nothing that is sent tells of it.
-/

namespace DdsBridge

open BridgeInner Session

/-! ## The documented buffer -/

/-- The latest messages, and the number of those that were dropped to make room. -/
structure Latest (α : Type) where
  kept : List α
  dropped : Nat
  deriving DecidableEq, Repr

namespace Latest

variable {α : Type}

def empty : Latest α := ⟨[], 0⟩

/-- The last `capacity` of the messages with the new one. -/
def offer (capacity : Nat) (a : α) (b : Latest α) : Latest α where
  kept := (b.kept ++ [a]).drop (b.kept.length + 1 - capacity)
  dropped := b.dropped + (b.kept.length + 1 - capacity)

def recv (b : Latest α) : Latest α := { b with kept := b.kept.tail }

theorem offer_of_room {capacity : Nat} {b : Latest α} (a : α) (h : b.kept.length < capacity) :
    b.offer capacity a = { b with kept := b.kept ++ [a] } := by
  have hroom : b.kept.length + 1 - capacity = 0 := by omega
  unfold offer
  rw [hroom]
  rfl

theorem dropped_of_full {capacity : Nat} {b : Latest α} (a : α) (h : ¬ b.kept.length < capacity) :
    (b.offer capacity a).dropped ≠ 0 := by
  unfold offer
  simp only
  omega

end Latest

/-! ## The system -/

/-- A session, with the offers of the request that holds the lock and those of the tick, which does not. -/
structure Feed where
  session : Session
  locked : List Offer
  tick : List Offer
  policy : Latest Bytes

inductive FeedAction where
  | task (action : TaskAction)
  | disconnect
  | request (dds : DdsReturns) (sessionId : UInt64) (data : Bytes) (maxPayloadSize : Nat)
  | other (action : BridgeAction)
  | collect (available : UInt64 → List TakenSample)
  | offerLocked (o : Offer)
  | offerTick (o : Offer)

/-- What the task does with the bridge or its channels needs the lock. -/
def TaskAction.Locks : TaskAction → Prop
  | .start => True
  | .receive _ _ => True
  | .unregister => True
  | _ => False

namespace Feed

variable (tx : Nat)

/-- The documented buffer after the task's action; `session` is what the action leads to. -/
def afterTask (action : TaskAction) (session : Session) (policy : Latest Bytes) : Latest Bytes :=
  match action with
  | .start => if session.reader = .panicked then policy else .empty
  | .recvBridge => policy.recv
  | _ => policy

/-- The documented buffer after the offer. A channel that is closed has no buffer. -/
def afterOffer (o : Offer) (s : Feed) : Latest Bytes :=
  match s.session.bridge.channels.lookup tx with
  | some c => if o.sender = tx ∧ c.isOpen = true then s.policy.offer c.capacity o.msg else s.policy
  | none => s.policy

def offered (o : Offer) (s : Feed) : Feed :=
  { s with session := { s.session with bridge := o.trySend s.session.bridge }, policy := s.afterOffer tx o }

def clonesOf (offers : List Offer) : Nat := (offers.filter fun o => o.sender = tx).length

end Feed

section
variable (sid : UInt64) (tx : Nat)

inductive FeedStep : Feed → FeedAction → Feed → Prop
  | task {s action session} (h : TaskStep sid tx s.session action session) (hl : action.Locks → s.locked = []) :
      FeedStep s (.task action) { s with session, policy := Feed.afterTask action session s.policy }
  | disconnect {s} (he : s.session.ended = false) :
      FeedStep s .disconnect { s with session := { s.session with ended := true } }
  /-- A request of another session. -/
  | request {s} (dds : DdsReturns) (sessionId : UInt64) (data : Bytes) (maxPayloadSize : Nat) (ho : sessionId ≠ sid)
      (hl : s.locked = []) :
      FeedStep s (.request dds sessionId data maxPayloadSize)
        { s with
          session := { s.session with bridge := handled dds sessionId data maxPayloadSize s.session.bridge }
          locked := requestOffers dds sessionId data maxPayloadSize s.session.bridge }
  | other {s} (action : BridgeAction) (ho : Foreign sid tx action) (hf : ¬ action.IsFrame) (hl : s.locked = []) :
      FeedStep s (.other action) { s with session := { s.session with bridge := s.session.bridge.act action } }
  | collect {s} (available : UInt64 → List TakenSample) (ht : s.tick = []) (hl : s.locked = []) :
      FeedStep s (.collect available)
        { s with
          tick := fanOut (s.session.bridge.collect available)
          session := { s.session with clones := Feed.clonesOf tx (fanOut (s.session.bridge.collect available)) } }
  | offerLocked {s rest} (o : Offer) (h : s.locked = o :: rest) :
      FeedStep s (.offerLocked o) { s.offered tx o with locked := rest }
  | offerTick {s rest} (o : Offer) (h : s.tick = o :: rest) :
      FeedStep s (.offerTick o)
        { s.offered tx o with
          tick := rest
          session := { (s.offered tx o).session with clones := Feed.clonesOf tx rest } }

/-! ## The policy -/

def IsOverflow (msg : Bytes) : Prop := ∃ text, msg = makeErrorResponse 0 .bufferOverflow text

/-- The client has the message, or it is on its way to it. -/
def Session.Outgoing (s : Session) (msg : Bytes) : Prop :=
  msg ∈ s.sink ∨ s.writer = .sending msg ∨ msg ∈ s.bridgeQueue tx ∨ msg ∈ s.resp.queue ∨
    ∃ messages, s.reader = .responding messages ∧ msg ∈ messages

def Feed.Reported (s : Feed) : Prop := ∃ msg, IsOverflow msg ∧ s.session.Outgoing tx msg

/-- The buffer holds what the documented one does, and a client that has lost a message is told. -/
def Feed.FollowsPolicy (s : Feed) : Prop :=
  ∀ c, s.session.bridge.channels.lookup tx = some c → c.isOpen = true →
    c.queue = s.policy.kept ∧ (s.policy.dropped ≠ 0 → s.Reported tx)

def Feed.HasRoom (s : Feed) : FeedAction → Prop
  | .offerLocked o | .offerTick o => o.sender = tx → ∀ c, s.session.bridge.channels.lookup tx = some c →
      c.isOpen = true → c.queue.length < c.capacity
  | _ => True

/-- A session that is about to start. What is offered to others by then are notifications. -/
structure Feed.Connecting (s : Feed) : Prop where
  session : ∃ bridge, s.session = Session.new bridge
  senders : ∀ other, s.session.bridge.sessionSenders.lookup other ≠ some tx
  channel : s.session.bridge.channels.lookup tx = none
  offers : ∀ o ∈ s.locked ++ s.tick, ∃ t payload, t ≠ .error ∧ o.msg = buildMessage t 0 payload

end

/-! ## Nothing tells of a loss -/

theorem not_overflow_of_type {t : MsgType} (h : t ≠ .error) (r : UInt32) (payload : Bytes) :
    ¬ IsOverflow (buildMessage t r payload) := by
  rintro ⟨text, he⟩
  rw [makeErrorResponse] at he
  exact h (msgType_of_buildMessage_eq he)

theorem not_overflow_of_report {r : UInt32} {msg : Bytes} (h : IsReport r msg) : ¬ IsOverflow msg := by
  obtain ⟨code, text, hcode, rfl⟩ := h
  rintro ⟨text', he⟩
  have hp := congrArg (List.drop headerSize) he
  rw [makeErrorResponse, makeErrorResponse, drop_buildMessage, drop_buildMessage] at hp
  have hcodes : u16le code.toU16 = u16le ErrorCode.bufferOverflow.toU16 := (List.append_inj hp (by simp)).1
  revert hcodes hcode
  cases code <;> decide

theorem not_overflow_of_result {msg : Bytes} (h : IsResult msg) : ¬ IsOverflow msg := by
  rcases h with ⟨r, payload, rfl⟩ | ⟨r, rfl⟩ | ⟨p, rfl⟩
  · exact not_overflow_of_type (by decide) _ _
  · exact not_overflow_of_type (by decide) _ _
  · exact not_overflow_of_type (by decide) _ _

theorem not_overflow_of_sample (sample : ReceivedSample) : ¬ IsOverflow (sampleToMessage sample) := by
  unfold sampleToMessage
  split
  · exact not_overflow_of_type (by decide) _ _
  · exact not_overflow_of_type (by decide) _ _
  · exact not_overflow_of_type (by decide) _ _

/-- Only the session's own sender leads to its channel, and no message on its way is a report of a loss. -/
structure FeedInv (sid : UInt64) (tx : Nat) (s : Feed) : Prop where
  senders : ∀ other, s.session.bridge.sessionSenders.lookup other = some tx → other = sid
  offers : ∀ o ∈ s.locked ++ s.tick, ¬ IsOverflow o.msg
  quiet : ∀ msg, s.session.Outgoing tx msg → ¬ IsOverflow msg

section
variable {sid : UInt64} {tx : Nat}

/-- What a session has its own requests do leaves its channel alone. -/
theorem channel_receive {dds : DdsReturns} {data : Bytes} {maxPayloadSize : Nat} {inner inner' : BridgeInner}
    {messages : List Bytes} (hs : ∀ other, inner.sessionSenders.lookup other = some tx → other = sid)
    (h : processBinaryFrame dds sid data maxPayloadSize inner = .ok (messages, inner')) :
    inner'.channels.lookup tx = inner.channels.lookup tx := by
  rw [← Prog.after_of_ok h, ← makeAll_requestOffers dds sid data maxPayloadSize inner []]
  refine lookup_makeAll (fun o ho htx => ?_) _ _
  obtain ⟨hne, hsender, -⟩ := mem_requestOffers ho
  rw [htx] at hsender
  exact hne (hs o.sid hsender)

theorem bridgeQueue_of_lookup {s t : Session} (h : t.bridge.channels.lookup tx = s.bridge.channels.lookup tx) :
    t.bridgeQueue tx = s.bridgeQueue tx := by
  unfold bridgeQueue
  rw [h]

theorem bridgeQueue_modify (s : Session) (f : Channel → Channel) (g : List Bytes → List Bytes)
    (hf : ∀ c, (f c).queue = g c.queue) (hnil : g [] = []) :
    ({ s with bridge := s.bridge.modifyChannel tx f } : Session).bridgeQueue tx = g (s.bridgeQueue tx) := by
  unfold bridgeQueue modifyChannel
  simp only [Table.lookup_modify, if_pos]
  cases s.bridge.channels.lookup tx with
  | none => exact hnil.symm
  | some c => exact hf c

/-- What a task sends it had, or it is in answer to a frame. -/
theorem outgoing_taskStep {s t : Session} {action : TaskAction}
    (hs : ∀ other, s.bridge.sessionSenders.lookup other = some tx → other = sid) (h : TaskStep sid tx s action t)
    {msg : Bytes} (hm : t.Outgoing tx msg) :
    s.Outgoing tx msg ∨ ∃ dds data messages bridge,
      processBinaryFrame dds sid data s.maxPayloadSize s.bridge = .ok (messages, bridge) ∧ msg ∈ messages := by
  have hclose : ∀ s : Session, (s.writerEnds tx).bridgeQueue tx = [] := fun s =>
    bridgeQueue_modify s Channel.close (fun _ => []) (fun _ => rfl) rfl
  unfold Session.Outgoing at hm ⊢
  cases h with
  | @receive messages bridge dds data hr he hp =>
    have hq : ({ s with reader := .responding messages, bridge := bridge } : Session).bridgeQueue tx = s.bridgeQueue tx :=
      bridgeQueue_of_lookup (channel_receive hs hp)
    grind
  | start hr hb =>
    have hq : (s.started sid tx).bridgeQueue tx = [] := by
      unfold bridgeQueue Session.started
      simp [registerSession, Channel.new]
    grind [Session.started, Channel.new]
  | @recvBridge first rest hw hq =>
    let sends : Session := { s with writer := .sending first }
    have htail : ({ sends with bridge := s.bridge.modifyChannel tx Channel.pop } : Session).bridgeQueue tx =
        (s.bridgeQueue tx).tail := bridgeQueue_modify sends Channel.pop List.tail (fun _ => rfl) rfl
    rw [hq] at htail
    grind
  | allClosed | sendFails =>
    have hnone := hclose s
    grind [writerEnds, Channel.close]
  | unregister => grind [bridgeQueue, unregisterSession]
  | _ => grind [bridgeQueue, Channel.trySend, Channel.pop]

theorem senders_taskStep {s t : Session} {action : TaskAction}
    (hs : ∀ other, s.bridge.sessionSenders.lookup other = some tx → other = sid) (h : TaskStep sid tx s action t) :
    ∀ other, t.bridge.sessionSenders.lookup other = some tx → other = sid := by
  intro other ho
  cases h with
  | start hr hb =>
    change (s.bridge.sessionSenders.insert sid tx).lookup other = some tx at ho
    rw [Table.lookup_insert_eq] at ho
    by_cases h : other = sid
    · exact h
    · rw [if_neg h] at ho
      exact hs other ho
  | receive dds data hr he hp =>
    rw [sessionSenders_of_frame hp] at ho
    exact hs other ho
  | unregister hr =>
    change (s.bridge.sessionSenders.erase sid).lookup other = some tx at ho
    rw [Table.lookup_erase_eq] at ho
    by_cases h : other = sid
    · exact h
    · rw [if_neg h] at ho
      exact hs other ho
  | _ => exact hs other ho

/-- What others do to the bridge, their requests apart, is nothing to the channel. -/
theorem channel_other {action : BridgeAction} (ho : Foreign sid tx action) (hf : ¬ action.IsFrame) (inner : BridgeInner) :
    (inner.act action).channels.lookup tx = inner.channels.lookup tx ∧
      ((∀ other, inner.sessionSenders.lookup other = some tx → other = sid) →
        ∀ other, (inner.act action).sessionSenders.lookup other = some tx → other = sid) := by
  cases action with
  | frame dds sessionId data maxPayloadSize => exact absurd trivial hf
  | channel sender channel =>
    refine ⟨?_, id⟩
    change (inner.channels.insert sender channel).lookup tx = _
    rw [Table.lookup_insert_eq, if_neg (Ne.symm ho)]
  | register sessionId sender =>
    refine ⟨rfl, fun hs other h => ?_⟩
    change (inner.sessionSenders.insert sessionId sender).lookup other = some tx at h
    rw [Table.lookup_insert_eq] at h
    by_cases hsame : other = sessionId
    · rw [if_pos hsame] at h
      exact absurd (Option.some.inj h) ho.2
    · rw [if_neg hsame] at h
      exact hs other h
  | unregister sessionId =>
    refine ⟨rfl, fun hs other h => ?_⟩
    change (inner.sessionSenders.erase sessionId).lookup other = some tx at h
    rw [Table.lookup_erase_eq] at h
    by_cases hsame : other = sessionId
    · rw [if_pos hsame] at h
      cases h
    · rw [if_neg hsame] at h
      exact hs other h

theorem Session.Outgoing.of_bridge {s : Session} {bridge : BridgeInner} {msg : Bytes}
    (hq : bridge.channels.lookup tx = s.bridge.channels.lookup tx)
    (h : ({ s with bridge } : Session).Outgoing tx msg) : s.Outgoing tx msg := by
  have hsame : ({ s with bridge } : Session).bridgeQueue tx = s.bridgeQueue tx := bridgeQueue_of_lookup hq
  unfold Session.Outgoing at h ⊢
  rwa [hsame] at h

theorem outgoing_trySend {s : Session} {o : Offer} {msg : Bytes}
    (h : ({ s with bridge := o.trySend s.bridge } : Session).Outgoing tx msg) : s.Outgoing tx msg ∨ msg = o.msg := by
  by_cases htx : o.sender = tx
  · have hq : msg ∈ ({ s with bridge := o.trySend s.bridge } : Session).bridgeQueue tx →
        msg ∈ s.bridgeQueue tx ∨ msg = o.msg := by
      subst htx
      unfold bridgeQueue Offer.trySend
      simp only [Table.lookup_modify, if_pos]
      cases s.bridge.channels.lookup o.sender with
      | none => exact fun h => by cases h
      | some c =>
        simp only [Option.map_some, Option.getD_some, Channel.trySend]
        split
        · exact fun h => (List.mem_append.mp h).imp_right List.mem_singleton.mp
        · exact .inl
    rcases h with h | h | h | h | h
    · exact .inl (.inl h)
    · exact .inl (.inr (.inl h))
    · exact (hq h).imp_left fun h => .inr (.inr (.inl h))
    · exact .inl (.inr (.inr (.inr (.inl h))))
    · exact .inl (.inr (.inr (.inr (.inr h))))
  · refine .inl (h.of_bridge ?_)
    change (Table.modify s.bridge.channels o.sender _).lookup tx = _
    rw [Table.lookup_modify, if_neg (Ne.symm htx)]

theorem FeedInv.offer {s : Feed} {o : Offer} (hi : FeedInv sid tx s) (ho : o ∈ s.locked ++ s.tick) :
    ∀ msg, (s.offered tx o).session.Outgoing tx msg → ¬ IsOverflow msg := by
  intro msg hm
  rcases outgoing_trySend hm with hm | rfl
  · exact hi.quiet msg hm
  · exact hi.offers o ho

theorem FeedInv.step {s t : Feed} {action : FeedAction} (hi : FeedInv sid tx s) (h : FeedStep sid tx s action t) :
    FeedInv sid tx t := by
  cases h with
  | task h hl =>
    refine ⟨senders_taskStep hi.senders h, hi.offers, fun msg hm => ?_⟩
    rcases outgoing_taskStep hi.senders h hm with hm | ⟨dds, data, messages, bridge, hp, hm⟩
    · exact hi.quiet msg hm
    · rcases processBinaryFrame_kinds hp msg hm with hres | ⟨r, hrep⟩
      · exact not_overflow_of_result hres
      · exact not_overflow_of_report hrep
  | disconnect he => exact ⟨hi.senders, hi.offers, hi.quiet⟩
  | request dds sessionId data maxPayloadSize ho hl =>
    have hsenders : (handled dds sessionId data maxPayloadSize s.session.bridge).sessionSenders =
        s.session.bridge.sessionSenders :=
      ((within_processBinaryFrame dds sessionId data maxPayloadSize).after _).sessionSenders
    refine ⟨fun other h => ?_, fun o hmem => ?_, fun msg hm => hi.quiet msg (hm.of_bridge rfl)⟩
    · rw [hsenders] at h
      exact hi.senders other h
    · rcases List.mem_append.mp hmem with hmem | hmem
      · obtain ⟨-, -, -, payload, hmsg⟩ := mem_requestOffers hmem
        rw [hmsg]
        exact not_overflow_of_type (by decide) _ _
      · exact hi.offers o (List.mem_append_right _ hmem)
  | other action ho hf hl =>
    obtain ⟨hq, hs⟩ := channel_other ho hf s.session.bridge
    exact ⟨hs hi.senders, hi.offers, fun msg hm => hi.quiet msg (hm.of_bridge hq)⟩
  | collect available ht hl =>
    refine ⟨hi.senders, fun o hmem => ?_, hi.quiet⟩
    rcases List.mem_append.mp hmem with hmem | hmem
    · exact hi.offers o (List.mem_append_left _ hmem)
    · obtain ⟨-, -, -, -, -, -, -, taken, -, sample, -, hmsg⟩ := mem_fanOut hmem
      rw [hmsg]
      exact not_overflow_of_sample sample
  | @offerLocked rest o h =>
    have hmem : o ∈ s.locked ++ s.tick := by simp [h]
    refine ⟨hi.senders, fun other ho => ?_, hi.offer hmem⟩
    rcases List.mem_append.mp ho with ho | ho
    · exact hi.offers other (List.mem_append_left _ (h ▸ List.mem_cons_of_mem _ ho))
    · exact hi.offers other (List.mem_append_right _ ho)
  | @offerTick rest o h =>
    have hmem : o ∈ s.locked ++ s.tick := by simp [h]
    refine ⟨hi.senders, fun other ho => ?_, hi.offer hmem⟩
    rcases List.mem_append.mp ho with ho | ho
    · exact hi.offers other (List.mem_append_left _ ho)
    · exact hi.offers other (List.mem_append_right _ (h ▸ List.mem_cons_of_mem _ ho))

theorem FeedInv.not_reported {s : Feed} (hi : FeedInv sid tx s) : ¬ s.Reported tx := by
  rintro ⟨msg, hover, hm⟩
  exact hi.quiet msg hm hover

/-! ## As long as there is room -/

def Feed.InStep (tx : Nat) (s : Feed) : Prop :=
  ∀ c, s.session.bridge.channels.lookup tx = some c → c.isOpen = true →
    c.queue = s.policy.kept ∧ s.policy.dropped = 0

theorem Feed.InStep.of_lookup {s t : Feed} (hi : s.InStep tx)
    (hq : t.session.bridge.channels.lookup tx = s.session.bridge.channels.lookup tx) (hp : t.policy = s.policy) :
    t.InStep tx := by
  intro c hc ho
  rw [hq] at hc
  rw [hp]
  exact hi c hc ho

theorem inStep_writerEnds (s : Feed) (policy : Latest Bytes) :
    Feed.InStep tx { s with session := s.session.writerEnds tx, policy } := by
  intro c hc ho
  change (Table.modify s.session.bridge.channels tx Channel.close).lookup tx = some c at hc
  rw [Table.lookup_modify, if_pos rfl] at hc
  obtain ⟨c', -, rfl⟩ := Option.map_eq_some_iff.mp hc
  cases ho

theorem Feed.InStep.task {s : Feed} {action : TaskAction} {session : Session} (hi : s.InStep tx)
    (hs : ∀ other, s.session.bridge.sessionSenders.lookup other = some tx → other = sid)
    (h : TaskStep sid tx s.session action session) :
    Feed.InStep tx { s with session, policy := Feed.afterTask action session s.policy } := by
  cases h with
  | start hr hb =>
    intro c hc ho
    change (s.session.bridge.channels.insert tx _).lookup tx = some c at hc
    rw [Table.lookup_insert_eq, if_pos rfl] at hc
    cases hc
    exact ⟨rfl, rfl⟩
  | receive dds data hr he hp => exact hi.of_lookup (channel_receive hs hp) rfl
  | recvBridge hw hq =>
    intro c hc ho
    change (Table.modify s.session.bridge.channels tx Channel.pop).lookup tx = some c at hc
    rw [Table.lookup_modify, if_pos rfl] at hc
    obtain ⟨c', hc', rfl⟩ := Option.map_eq_some_iff.mp hc
    obtain ⟨hkept, hdropped⟩ := hi c' hc' ho
    exact ⟨congrArg List.tail hkept, hdropped⟩
  | allClosed | sendFails => exact inStep_writerEnds s _
  | _ => exact hi.of_lookup rfl rfl

theorem Feed.InStep.offered {s : Feed} {o : Offer} (hi : s.InStep tx)
    (hroom : o.sender = tx → ∀ c, s.session.bridge.channels.lookup tx = some c → c.isOpen = true →
      c.queue.length < c.capacity) : (s.offered tx o).InStep tx := by
  intro c hc ho
  by_cases htx : o.sender = tx
  · subst htx
    change (Table.modify s.session.bridge.channels o.sender _).lookup o.sender = some c at hc
    rw [Table.lookup_modify, if_pos rfl] at hc
    obtain ⟨c', hc', rfl⟩ := Option.map_eq_some_iff.mp hc
    have hopen : c'.isOpen = true := by
      unfold Channel.trySend at ho
      split at ho
      · exact ho
      · exact ho
    have hlt := hroom rfl c' hc' hopen
    obtain ⟨hkept, hdropped⟩ := hi c' hc' hopen
    have hpolicy : (s.offered o.sender o).policy = { s.policy with kept := s.policy.kept ++ [o.msg] } := by
      unfold Feed.offered Feed.afterOffer
      simp only [hc', hopen, and_self, if_true]
      exact Latest.offer_of_room o.msg (by rwa [← hkept])
    rw [hpolicy, Channel.trySend, if_pos ⟨hopen, hlt⟩]
    exact ⟨congrArg (· ++ [o.msg]) hkept, hdropped⟩
  · have hq : (s.offered tx o).session.bridge.channels.lookup tx = s.session.bridge.channels.lookup tx := by
      change (Table.modify s.session.bridge.channels o.sender _).lookup tx = _
      rw [Table.lookup_modify, if_neg (Ne.symm htx)]
    have hp : (s.offered tx o).policy = s.policy := by
      unfold Feed.offered Feed.afterOffer
      split
      · exact if_neg fun h => htx h.1
      · rfl
    exact hi.of_lookup hq hp c hc ho

/-- An offer to a buffer that is full: the documented buffer drops a message, and the client is not told. -/
theorem Feed.InStep.full {s : Feed} {o : Offer} (hi : s.InStep tx) (htx : o.sender = tx) {c : Channel}
    (hc : s.session.bridge.channels.lookup tx = some c) (hopen : c.isOpen = true)
    (hfull : ¬ c.queue.length < c.capacity) :
    (s.offered tx o).session.bridge.channels.lookup tx = some c ∧ (s.offered tx o).policy.dropped ≠ 0 := by
  subst htx
  refine ⟨?_, ?_⟩
  · change (Table.modify s.session.bridge.channels o.sender _).lookup o.sender = some c
    rw [Table.lookup_modify, if_pos rfl, hc, Option.map_some, Channel.trySend, if_neg fun h => hfull h.2]
  · unfold Feed.offered Feed.afterOffer
    simp only [hc, hopen, and_self, if_true]
    refine Latest.dropped_of_full o.msg ?_
    rwa [← (hi c hc hopen).1]

theorem Feed.InStep.step {s t : Feed} {action : FeedAction} (hi : s.InStep tx) (hinv : FeedInv sid tx s)
    (h : FeedStep sid tx s action t) (hroom : s.HasRoom tx action) : t.InStep tx := by
  cases h with
  | task h hl => exact hi.task hinv.senders h
  | disconnect he => exact hi.of_lookup rfl rfl
  | request dds sessionId data maxPayloadSize ho hl => exact hi.of_lookup rfl rfl
  | other action ho hf hl => exact hi.of_lookup (channel_other ho hf s.session.bridge).1 rfl
  | collect available ht hl => exact hi.of_lookup rfl rfl
  | offerLocked o h => exact (hi.offered hroom).of_lookup rfl rfl
  | offerTick o h => exact (hi.offered hroom).of_lookup rfl rfl

theorem Feed.InStep.not_followsPolicy {s t : Feed} {action : FeedAction} (hi : s.InStep tx) (hinv : FeedInv sid tx s)
    (h : FeedStep sid tx s action t) (hroom : ¬ s.HasRoom tx action) : ¬ t.FollowsPolicy tx := by
  have hquiet := (hinv.step h).not_reported
  have hbreaks : ∀ o, t.session.bridge.channels = (s.offered tx o).session.bridge.channels →
      t.policy = (s.offered tx o).policy → (¬ (o.sender = tx → ∀ c, s.session.bridge.channels.lookup tx = some c →
        c.isOpen = true → c.queue.length < c.capacity)) → ¬ t.FollowsPolicy tx := by
    intro o hchannels hpolicy hno hfollows
    push Not at hno
    obtain ⟨htx, c, hc, hopen, hfull⟩ := hno
    obtain ⟨hlookup, hdropped⟩ := hi.full htx hc hopen (Nat.not_lt.mpr hfull)
    rw [← hchannels] at hlookup
    rw [← hpolicy] at hdropped
    exact hquiet ((hfollows c hlookup hopen).2 hdropped)
  cases h with
  | offerLocked o h => exact hbreaks o rfl rfl hroom
  | offerTick o h => exact hbreaks o rfl rfl hroom
  | _ => exact absurd trivial hroom

theorem Feed.Connecting.inv {s : Feed} (h : s.Connecting tx) : FeedInv sid tx s ∧ s.InStep tx := by
  obtain ⟨⟨bridge, hs⟩, hsenders, hchannel, hoffers⟩ := h
  refine ⟨⟨fun other ho => absurd ho (hsenders other), fun o ho => ?_, fun msg hm => ?_⟩, fun c hc => ?_⟩
  · obtain ⟨t, payload, ht, hmsg⟩ := hoffers o ho
    rw [hmsg]
    exact not_overflow_of_type ht 0 payload
  · have hq : s.session.bridgeQueue tx = [] := by
      unfold bridgeQueue
      rw [hchannel]
      rfl
    unfold Session.Outgoing at hm
    rw [hq, hs] at hm
    simp [Session.new, Channel.new] at hm
  · rw [hchannel] at hc
    cases hc

/-- **The slow-consumer policy.** In a run of a session its buffer follows the documented policy exactly when no
message is offered while the buffer is full. No run reports a loss. -/
theorem slow_consumer_policy_iff {s : Feed} (hnew : s.Connecting tx) {tr : List (FeedAction × Feed)}
    (hrun : Runs.Run (FeedStep sid tx) s tr) :
    (Runs.Always (Feed.FollowsPolicy tx) s tr ↔ Runs.EachStep (Feed.HasRoom tx) s tr) ∧
      Runs.Always (fun s => ¬ s.Reported tx) s tr := by
  obtain ⟨hinv, hstep⟩ : FeedInv sid tx s ∧ s.InStep tx := hnew.inv
  refine ⟨Runs.always_iff_eachStep (I := fun s => FeedInv sid tx s ∧ s.InStep tx) ?_ ?_ ?_ hrun ⟨hinv, hstep⟩, ?_⟩
  · rintro s action t ⟨hinv, hi⟩ h hroom
    exact ⟨hinv.step h, hi.step hinv h hroom⟩
  · rintro s action t ⟨hinv, hi⟩ h hroom
    exact hi.not_followsPolicy hinv h hroom
  · rintro s ⟨hinv, hi⟩ c hc hopen
    obtain ⟨hkept, hdropped⟩ := hi c hc hopen
    exact ⟨hkept, fun h => absurd hdropped h⟩
  · refine hrun.reachable.mono fun t ht => ?_
    exact (ht.invariant hinv fun s action t hi h => hi.step h).not_reported

end

/-! ### A buffer of one message -/

def smallBridge : BridgeInner := BridgeInner.create 1 { sessionBufferSize := 1, maxPayloadSize := 1024 }

/-- SUBSCRIBE to `a` with the type `T`. -/
def subscribeChatter : Bytes :=
  [0x44, 0x42, 1, 1, 7, 0, 0, 0, 13, 0, 0, 0, 1, 0, 0, 0, 0x61, 1, 0, 0, 0, 0x54, 0, 0, 0]

def chatterTaken (data : UInt8) : TakenSample := ⟨1, true, 0, [data]⟩

def chatterSample (data : UInt8) : ReceivedSample := ⟨"a", .alive, 0, [data]⟩

def newFeed : Feed where
  session := Session.new smallBridge
  locked := []
  tick := []
  policy := .empty

theorem connecting_newFeed : newFeed.Connecting 0 where
  session := ⟨smallBridge, rfl⟩
  senders other h := by cases h
  channel := rfl
  offers o h := by cases h

/-- Two samples for a client that has not received the first: the buffer keeps the first one, not the second,
and nothing is reported. -/
theorem newest_sample_dropped :
    newFeed.Connecting 0 ∧ ∃ tr action t, Runs.Run (FeedStep 1 0) newFeed tr ∧ (action, t) ∈ tr ∧
      t.session.bridgeQueue 0 = [sampleToMessage (chatterSample 1)] ∧
      t.policy.kept = [sampleToMessage (chatterSample 2)] ∧ ¬ t.Reported 0 ∧ ¬ t.FollowsPolicy 0 := by
  have hrun : ∃ tr action t, Runs.Run (FeedStep 1 0) newFeed tr ∧ (action, t) ∈ tr ∧
      t.session.bridgeQueue 0 = [sampleToMessage (chatterSample 1)] ∧
      t.policy.kept = [sampleToMessage (chatterSample 2)] ∧
      ∃ c, t.session.bridge.channels.lookup 0 = some c ∧ c.isOpen = true ∧ c.queue ≠ t.policy.kept := by
    refine ⟨_, _, _, .cons (.task (.start rfl (by decide)) fun _ => rfl) <|
      .cons (.task (.receive ddsSucceeds subscribeChatter rfl rfl rfl) fun _ => rfl) <|
      .cons (.collect (fun _ => [chatterTaken 1, chatterTaken 2]) rfl rfl) <|
      .cons (.offerTick _ rfl) <|
      .cons (.offerTick _ rfl) (.nil _), List.mem_of_getLast? rfl, rfl, rfl, _, rfl, rfl, by decide⟩
  obtain ⟨tr, action, t, hrun, hmem, hqueue, hkept, c, hc, hopen, hne⟩ := hrun
  have hinv : FeedInv 1 0 t := (hrun.reachable.2 _ hmem).invariant connecting_newFeed.inv.1 fun _ _ _ hi h => hi.step h
  exact ⟨connecting_newFeed, tr, action, t, hrun, hmem, hqueue, hkept, hinv.not_reported,
    fun hfollows => hne (hfollows c hc hopen).1⟩

/-- `slow_consumer_policy_iff` for a client that receives each sample before the next one is offered. -/
theorem policy_followed_in_time :
    ∃ tr, Runs.Run (FeedStep 1 0) newFeed tr ∧ tr.length = 6 ∧ Runs.Always (Feed.FollowsPolicy 0) newFeed tr := by
  have hrun : ∃ tr, Runs.Run (FeedStep 1 0) newFeed tr ∧ tr.length = 6 ∧
      Runs.EachStep (Feed.HasRoom 0) newFeed tr := by
    refine ⟨_, .cons (.task (.start rfl (by decide)) fun _ => rfl) <|
      .cons (.task (.receive ddsSucceeds subscribeChatter rfl rfl rfl) fun _ => rfl) <|
      .cons (.collect (fun _ => [chatterTaken 1, chatterTaken 2]) rfl rfl) <|
      .cons (.offerTick _ rfl) <|
      .cons (.task (.recvBridge rfl rfl) nofun) <|
      .cons (.offerTick _ rfl) (.nil _), rfl, ?_⟩
    refine ⟨trivial, trivial, trivial, ?_, trivial, ?_, trivial⟩
    · intro _ c hc _
      cases hc
      decide
    · intro _ c hc _
      cases hc
      decide
  obtain ⟨tr, hrun, hlen, hroom⟩ := hrun
  exact ⟨tr, hrun, hlen, (slow_consumer_policy_iff connecting_newFeed hrun).1.mpr hroom⟩

end DdsBridge
