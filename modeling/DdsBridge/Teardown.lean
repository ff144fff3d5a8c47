import DdsBridge.Delivery
import DdsBridge.NoPanic

/-!
# Session teardown

`src/ws/session.rs`: `run_session` is a reader task and a writer task. The reader task awaits the
writer before it unregisters the session, and the writer waits for both of its channels to close, one
of which is held open by the sender that is removed at the unregistration.
-/

namespace DdsBridge

open BridgeInner

/-! ## The two tasks -/

inductive ReaderTask where
  | start
  | reading
  | responding (messages : List Bytes)
  | closing
  | awaiting
  | unregistering
  | done
  | panicked
  deriving DecidableEq, Repr

inductive WriterTask where
  | notStarted
  | selecting
  | sending (msg : Bytes)
  | done
  deriving DecidableEq, Repr

structure Session where
  bridge : BridgeInner
  reader : ReaderTask
  writer : WriterTask
  /-- The channel of `resp_tx`; `respTx` tells whether that is still there. -/
  resp : Channel
  respTx : Bool
  maxPayloadSize : Nat
  /-- The clones of `bridge_tx` that `reader_poll_loop` holds. -/
  clones : Nat
  /-- `ws_stream` gives no further frame: it ended, failed, or its next message is a Close. -/
  ended : Bool
  sink : List Bytes

inductive TaskAction where
  | start
  | receive (dds : DdsReturns) (data : Bytes)
  | otherFrame
  | streamEnds
  | respond
  | dropRespTx
  | join
  | unregister
  | recvBridge
  | recvResp
  | allClosed
  | sent
  | sendFails

inductive SessionAction where
  | task (action : TaskAction)
  | disconnect
  | clone
  | dropClone
  | notify (msg : Bytes)
  | other (action : BridgeAction)

def BridgeInner.modifyChannel (tx : Nat) (f : Channel → Channel) (inner : BridgeInner) : BridgeInner :=
  { inner with channels := Table.modify inner.channels tx f }

/-- The receiver goes, and what is queued with it. -/
def Channel.close (c : Channel) : Channel := { c with queue := [], isOpen := false }

def Channel.pop (c : Channel) : Channel := { c with queue := c.queue.tail }

def Channel.new (capacity : Nat) : Channel where
  capacity
  queue := []
  isOpen := true

namespace Session

variable (sid : UInt64) (tx : Nat)

def new (bridge : BridgeInner) : Session where
  bridge
  reader := .start
  writer := .notStarted
  resp := .new 0
  respTx := false
  maxPayloadSize := 0
  clones := 0
  ended := false
  sink := []

def bridgeQueue (s : Session) : List Bytes := ((s.bridge.channels.lookup tx).map Channel.queue).getD []

def Registered (s : Session) : Prop := s.bridge.sessionSenders.lookup sid = some tx

def Drained (s : Session) : Prop := s.bridgeQueue tx = [] ∧ s.resp.queue = []

def started (s : Session) : Session :=
  let bufferSize := s.bridge.config.sessionBufferSize
  { s with
    bridge := registerSession sid tx
      { s.bridge with channels := s.bridge.channels.insert tx (.new bufferSize) }
    reader := .reading
    writer := .selecting
    resp := .new bufferSize
    respTx := true
    maxPayloadSize := s.bridge.config.maxPayloadSize }

def writerEnds (s : Session) : Session :=
  { s with writer := .done, resp := s.resp.close, bridge := s.bridge.modifyChannel tx Channel.close }

end Session

open Session

section
variable (sid : UInt64) (tx : Nat)

inductive TaskStep : Session → TaskAction → Session → Prop
  | start {s} (hr : s.reader = .start) (hb : s.bridge.config.sessionBufferSize ≠ 0) :
      TaskStep s .start (s.started sid tx)
  /-- `mpsc::channel(0)` panics. -/
  | noBuffer {s} (hr : s.reader = .start) (hb : s.bridge.config.sessionBufferSize = 0) :
      TaskStep s .start { s with reader := .panicked }
  | receive {s messages bridge} (dds : DdsReturns) (data : Bytes) (hr : s.reader = .reading) (he : s.ended = false)
      (h : processBinaryFrame dds sid data s.maxPayloadSize s.bridge = .ok (messages, bridge)) :
      TaskStep s (.receive dds data) { s with reader := .responding messages, bridge }
  /-- The task unwinds: `resp_tx` is dropped, `unregister_session` is not called. -/
  | panic {s} (dds : DdsReturns) (data : Bytes) (hr : s.reader = .reading) (he : s.ended = false)
      (h : processBinaryFrame dds sid data s.maxPayloadSize s.bridge = .panic) :
      TaskStep s (.receive dds data) { s with reader := .panicked, respTx := false }
  | otherFrame {s} (hr : s.reader = .reading) (he : s.ended = false) : TaskStep s .otherFrame s
  | streamEnds {s} (hr : s.reader = .reading) (he : s.ended = true) :
      TaskStep s .streamEnds { s with reader := .closing }
  | respond {s msg rest} (hr : s.reader = .responding (msg :: rest)) (ho : s.resp.isOpen = true)
      (hc : s.resp.queue.length < s.resp.capacity) :
      TaskStep s .respond { s with reader := .responding rest, resp := s.resp.trySend msg }
  /-- The `break` leaves the loop over the messages, not the one over the frames. -/
  | respondFails {s msg rest} (hr : s.reader = .responding (msg :: rest)) (ho : s.resp.isOpen = false) :
      TaskStep s .respond { s with reader := .reading }
  | responded {s} (hr : s.reader = .responding []) : TaskStep s .respond { s with reader := .reading }
  | dropRespTx {s} (hr : s.reader = .closing) :
      TaskStep s .dropRespTx { s with reader := .awaiting, respTx := false }
  | join {s} (hr : s.reader = .awaiting) (hw : s.writer = .done) :
      TaskStep s .join { s with reader := .unregistering }
  | unregister {s} (hr : s.reader = .unregistering) :
      TaskStep s .unregister { s with reader := .done, bridge := unregisterSession sid s.bridge }
  | recvBridge {s msg rest} (hw : s.writer = .selecting) (hq : s.bridgeQueue tx = msg :: rest) :
      TaskStep s .recvBridge { s with writer := .sending msg, bridge := s.bridge.modifyChannel tx Channel.pop }
  | recvResp {s msg rest} (hw : s.writer = .selecting) (hq : s.resp.queue = msg :: rest) :
      TaskStep s .recvResp { s with writer := .sending msg, resp := s.resp.pop }
  /-- `else => break`: no sender is left on either channel. -/
  | allClosed {s} (hw : s.writer = .selecting) (hd : s.Drained tx) (hr : ¬ s.Registered sid tx)
      (hc : s.clones = 0) (ht : s.respTx = false) :
      TaskStep s .allClosed (s.writerEnds tx)
  | sent {s msg} (hw : s.writer = .sending msg) :
      TaskStep s .sent { s with writer := .selecting, sink := s.sink ++ [msg] }
  | sendFails {s msg} (hw : s.writer = .sending msg) : TaskStep s .sendFails (s.writerEnds tx)

/-- An action on behalf of other sessions. Session ids and channels are not used twice. -/
def Foreign : BridgeAction → Prop
  | .register sessionId sender => sessionId ≠ sid ∧ sender ≠ tx
  | .unregister sessionId => sessionId ≠ sid
  | .frame _ sessionId _ _ => sessionId ≠ sid
  | .channel sender _ => sender ≠ tx

inductive SessionStep : Session → SessionAction → Session → Prop
  | task {s action t} (h : TaskStep sid tx s action t) : SessionStep s (.task action) t
  | disconnect {s} (he : s.ended = false) : SessionStep s .disconnect { s with ended := true }
  | clone {s} (hr : s.Registered sid tx) : SessionStep s .clone { s with clones := s.clones + 1 }
  | dropClone {s} (hc : 0 < s.clones) : SessionStep s .dropClone { s with clones := s.clones - 1 }
  | notify {s} (msg : Bytes) (hc : 0 < s.clones) :
      SessionStep s (.notify msg) { s with bridge := s.bridge.modifyChannel tx fun c => c.trySend msg }
  | other {s action} (ho : Foreign sid tx action) :
      SessionStep s (.other action) { s with bridge := s.bridge.act action }

/-- The client is gone and its session registered, nothing is queued, and neither task can move. -/
structure Stuck (s : Session) : Prop where
  ended : s.ended = true
  drained : s.Drained tx
  registered : s.Registered sid tx
  noStep : ∀ action t, ¬ TaskStep sid tx s action t

/-! ## Who is registered -/

/-- The session is registered from the start of its writer task until the reader task has ended. -/
structure TeardownInv (s : Session) : Prop where
  registered : s.Registered sid tx ↔ s.writer ≠ .notStarted ∧ s.reader ≠ .done
  notStarted : s.writer = .notStarted → s.reader = .start ∨ s.reader = .panicked
  start : s.reader = .start → s.writer = .notStarted
  capacity : s.writer ≠ .notStarted → 0 < s.resp.capacity
  ended : s.reader = .closing ∨ s.reader = .awaiting → s.ended = true
  joined : s.reader = .unregistering ∨ s.reader = .done → s.writer = .done

variable {sid tx}

theorem Session.registered_congr {s t : Session} (h : t.bridge.sessionSenders = s.bridge.sessionSenders) :
    t.Registered sid tx ↔ s.Registered sid tx := by
  unfold Session.Registered
  rw [h]

theorem teardownInv_new {bridge : BridgeInner} (h : bridge.sessionSenders.lookup sid = none) :
    TeardownInv sid tx (Session.new bridge) where
  registered := by
    change bridge.sessionSenders.lookup sid = some tx ↔ _
    rw [h]
    exact ⟨fun h => (by cases h), fun h => absurd rfl h.1⟩
  notStarted _ := .inl rfl
  start _ := rfl
  capacity h := absurd rfl h
  ended h := by rcases h with h | h <;> cases h
  joined h := by rcases h with h | h <;> cases h

theorem sessionSenders_of_frame {dds : DdsReturns} {sessionId : UInt64} {data : Bytes} {maxPayloadSize : Nat}
    {inner inner' : BridgeInner} {messages : List Bytes}
    (h : processBinaryFrame dds sessionId data maxPayloadSize inner = .ok (messages, inner')) :
    inner'.sessionSenders = inner.sessionSenders := by
  exact ((within_processBinaryFrame dds sessionId data maxPayloadSize).ok h).sessionSenders

theorem TeardownInv.taskStep {s t : Session} {action : TaskAction} (hi : TeardownInv sid tx s)
    (h : TaskStep sid tx s action t) : TeardownInv sid tx t := by
  obtain ⟨hreg, hns, hst, hcap, hend, hjoin⟩ := hi
  have hcongr := @Session.registered_congr sid tx s
  cases h with
  | start hr hb =>
    have hnew : (s.started sid tx).Registered sid tx := by
      change (s.bridge.sessionSenders.insert sid tx).lookup sid = some tx
      rw [Table.lookup_insert_eq, if_pos rfl]
    refine ⟨iff_of_true hnew ⟨?_, ?_⟩, ?_, ?_, fun _ => Nat.pos_of_ne_zero hb, ?_, ?_⟩ <;> simp [started]
  | unregister hr =>
    let gone : Session := { s with reader := .done, bridge := unregisterSession sid s.bridge }
    have hgone : ¬ gone.Registered sid tx := by
      change (s.bridge.sessionSenders.erase sid).lookup sid ≠ some tx
      rw [Table.lookup_erase_eq, if_pos rfl]
      exact fun h => by cases h
    constructor <;> grind
  | receive dds data hr he hp =>
    have hsenders := sessionSenders_of_frame hp
    constructor <;> grind
  | noBuffer | panic | otherFrame | streamEnds | respondFails | responded | dropRespTx | join | sent =>
    constructor <;> grind
  | respond => constructor <;> grind [Channel.trySend]
  | recvBridge | recvResp => constructor <;> grind [Channel.pop, modifyChannel]
  | allClosed | sendFails => constructor <;> grind [writerEnds, Channel.close, modifyChannel]

/-- Nothing takes the sender away before the writer task has ended: its `else` branch is never reached. -/
theorem TeardownInv.not_allClosed {s t : Session} (hi : TeardownInv sid tx s) : ¬ TaskStep sid tx s .allClosed t := by
  intro h
  cases h with
  | allClosed hw hd hr hc ht =>
    have hlive : s.writer ≠ .notStarted ∧ s.reader ≠ .done := by
      refine ⟨fun h => ?_, fun h => ?_⟩
      · rw [hw] at h
        cases h
      · have hdone := hi.joined (.inr h)
        rw [hw] at hdone
        cases hdone
    exact hr (hi.registered.mpr hlive)

/-! ## Actions of others -/

theorem delivers_modifyChannel (inner : BridgeInner) {f : Channel → Channel}
    (hf : ∀ c, c.queue <+: (f c).queue) : Delivers inner (inner.modifyChannel tx f) := by
  refine ⟨rfl, fun other c hc => ?_⟩
  change ∃ c', (Table.modify inner.channels tx f).lookup other = some c' ∧ _
  rw [Table.lookup_modify]
  by_cases h : other = tx
  · rw [if_pos h, ← h, hc]
    exact ⟨f c, rfl, hf c⟩
  · rw [if_neg h]
    exact ⟨c, hc, List.prefix_refl _⟩

theorem act_foreign {action : BridgeAction} (ho : Foreign sid tx action) (inner : BridgeInner) :
    (inner.act action).sessionSenders.lookup sid = inner.sessionSenders.lookup sid ∧
      ∀ c, inner.channels.lookup tx = some c →
        ∃ c', (inner.act action).channels.lookup tx = some c' ∧ c.queue <+: c'.queue := by
  cases action with
  | register sessionId sender =>
    refine ⟨?_, fun c hc => ⟨c, hc, List.prefix_refl _⟩⟩
    change (inner.sessionSenders.insert sessionId sender).lookup sid = _
    rw [Table.lookup_insert_eq, if_neg ho.1.symm]
  | unregister sessionId =>
    refine ⟨?_, fun c hc => ⟨c, hc, List.prefix_refl _⟩⟩
    change (inner.sessionSenders.erase sessionId).lookup sid = _
    rw [Table.lookup_erase_eq, if_neg (Ne.symm ho)]
  | frame dds sessionId data maxPayloadSize =>
    have hd := (within_processBinaryFrame dds sessionId data maxPayloadSize).after inner
    exact ⟨by rw [BridgeInner.act, hd.sessionSenders], hd.queues tx⟩
  | channel sender channel =>
    refine ⟨rfl, fun c hc => ⟨c, ?_, List.prefix_refl _⟩⟩
    change (inner.channels.insert sender channel).lookup tx = some c
    rw [Table.lookup_insert_eq, if_neg (Ne.symm ho), hc]

theorem TeardownInv.step {s t : Session} {action : SessionAction} (hi : TeardownInv sid tx s)
    (h : SessionStep sid tx s action t) : TeardownInv sid tx t := by
  cases h with
  | task h => exact hi.taskStep h
  | disconnect he => exact ⟨hi.registered, hi.notStarted, hi.start, hi.capacity, fun _ => rfl, hi.joined⟩
  | clone hr => exact ⟨hi.registered, hi.notStarted, hi.start, hi.capacity, hi.ended, hi.joined⟩
  | dropClone hc => exact ⟨hi.registered, hi.notStarted, hi.start, hi.capacity, hi.ended, hi.joined⟩
  | notify msg hc => exact ⟨hi.registered, hi.notStarted, hi.start, hi.capacity, hi.ended, hi.joined⟩
  | other ho =>
    refine ⟨Iff.trans ?_ hi.registered, hi.notStarted, hi.start, hi.capacity, hi.ended, hi.joined⟩
    unfold Session.Registered
    rw [(act_foreign ho s.bridge).1]

/-! ## Deadlocks -/

/-- The reader task awaits the writer task, which is at its `select`; or the reader task has panicked, and
the writer task is there or over. -/
def Session.Waits (s : Session) : Prop :=
  s.reader = .awaiting ∧ s.writer = .selecting ∨
    s.reader = .panicked ∧ (s.writer = .selecting ∨ s.writer = .done)

theorem Session.Waits.live {s : Session} (h : s.Waits) : s.writer ≠ .notStarted ∧ s.reader ≠ .done := by
  unfold Session.Waits at h
  constructor <;> grind

theorem not_taskStep {s : Session} (hi : TeardownInv sid tx s) (hd : s.Drained tx) (hw : s.Waits) (action : TaskAction)
    (t : Session) : ¬ TaskStep sid tx s action t := by
  obtain ⟨hq, hq'⟩ := hd
  unfold Session.Waits at hw
  intro h
  cases h with
  | allClosed hw hd hr hc ht => exact hi.not_allClosed (.allClosed hw hd hr hc ht)
  | _ => grind

theorem stuck_iff {s : Session} (hi : TeardownInv sid tx s) :
    Stuck sid tx s ↔ s.ended = true ∧ s.Drained tx ∧ s.Waits := by
  refine ⟨fun h => ?_, fun h => ?_⟩
  · obtain ⟨hend, hd, hreg, hno⟩ := h
    obtain ⟨hns, hdone⟩ := hi.registered.mp hreg
    refine ⟨hend, hd, ?_⟩
    cases hr : s.reader with
    | start => exact absurd (hi.start hr) hns
    | reading => exact absurd (.streamEnds hr hend) (hno _ _)
    | responding messages =>
      cases messages with
      | nil => exact absurd (.responded hr) (hno _ _)
      | cons msg rest =>
        cases ho : s.resp.isOpen with
        | true =>
          have hroom : s.resp.queue.length < s.resp.capacity := by
            rw [hd.2]
            exact hi.capacity hns
          exact absurd (.respond hr ho hroom) (hno _ _)
        | false => exact absurd (.respondFails hr ho) (hno _ _)
    | closing => exact absurd (.dropRespTx hr) (hno _ _)
    | awaiting =>
      cases hw : s.writer with
      | notStarted => exact absurd hw hns
      | selecting => exact .inl ⟨hr, hw⟩
      | sending msg => exact absurd (.sent hw) (hno _ _)
      | done => exact absurd (.join hr hw) (hno _ _)
    | unregistering => exact absurd (.unregister hr) (hno _ _)
    | done => exact absurd hr hdone
    | panicked =>
      cases hw : s.writer with
      | notStarted => exact absurd hw hns
      | selecting => exact .inr ⟨hr, .inl hw⟩
      | sending msg => exact absurd (.sent hw) (hno _ _)
      | done => exact .inr ⟨hr, .inr hw⟩
  · obtain ⟨hend, hd, hw⟩ := h
    exact ⟨hend, hd, hi.registered.mpr hw.live, not_taskStep hi hd hw⟩

variable (tx) in
/-- The step leaves both tasks waiting for each other, or a session whose reader task is gone with no one
to end it. -/
def Parks (s : Session) : SessionAction → Prop
  | .task .dropRespTx => s.writer = .selecting ∧ s.Drained tx
  | .task .sent => s.ended = true ∧ s.Drained tx ∧ (s.reader = .awaiting ∨ s.reader = .panicked)
  | .task .sendFails => s.ended = true ∧ s.reader = .panicked
  | .disconnect => s.reader = .panicked ∧ (s.writer = .selecting ∨ s.writer = .done) ∧ s.Drained tx
  | _ => False

theorem drained_of_queue {s t : Session} (hresp : t.resp = s.resp)
    (hq : ∀ c, s.bridge.channels.lookup tx = some c →
      ∃ c', t.bridge.channels.lookup tx = some c' ∧ c.queue <+: c'.queue)
    (h : t.Drained tx) : s.Drained tx := by
  obtain ⟨hb, hr⟩ := h
  rw [hresp] at hr
  refine ⟨?_, hr⟩
  unfold bridgeQueue at hb ⊢
  cases hc : s.bridge.channels.lookup tx with
  | none => rfl
  | some c =>
    obtain ⟨c', hc', hp⟩ := hq c hc
    rw [hc'] at hb
    change c'.queue = [] at hb
    rw [hb] at hp
    exact List.prefix_nil.mp hp

theorem drained_writerEnds (s : Session) : (s.writerEnds tx).Drained tx := by
  refine ⟨?_, rfl⟩
  change (((Table.modify s.bridge.channels tx Channel.close).lookup tx).map Channel.queue).getD [] = []
  rw [Table.lookup_modify, if_pos rfl]
  cases s.bridge.channels.lookup tx <;> rfl

/-- **Where a deadlock begins.** -/
theorem stuck_step_iff {s t : Session} {action : SessionAction} (hi : TeardownInv sid tx s)
    (hn : ¬ Stuck sid tx s) (h : SessionStep sid tx s action t) : Stuck sid tx t ↔ Parks tx s action := by
  rw [stuck_iff (hi.step h)]
  rw [stuck_iff hi] at hn
  cases h with
  | task h =>
    cases h with
    | dropRespTx hr =>
      refine ⟨fun h => ?_, fun h => ?_⟩
      · obtain ⟨-, hd, hw⟩ := h
        rcases hw with ⟨-, hw⟩ | ⟨hp, -⟩
        · exact ⟨hw, hd⟩
        · cases hp
      · obtain ⟨hw, hd⟩ := h
        exact ⟨hi.ended (.inl hr), hd, .inl ⟨rfl, hw⟩⟩
    | sent hw =>
      refine ⟨fun h => ?_, fun h => ?_⟩
      · obtain ⟨hend, hd, hwait⟩ := h
        exact ⟨hend, hd, hwait.imp And.left And.left⟩
      · obtain ⟨hend, hd, hr⟩ := h
        exact ⟨hend, hd, hr.imp (fun h => ⟨h, rfl⟩) fun h => ⟨h, .inl rfl⟩⟩
    | sendFails hw =>
      refine ⟨fun h => ?_, fun h => ?_⟩
      · obtain ⟨hend, -, hwait⟩ := h
        rcases hwait with ⟨-, hw⟩ | ⟨hr, -⟩
        · cases hw
        · exact ⟨hend, hr⟩
      · obtain ⟨hend, hr⟩ := h
        exact ⟨hend, drained_writerEnds s, .inr ⟨hr, .inr rfl⟩⟩
    | allClosed hw hd hr hc ht => exact absurd (.allClosed hw hd hr hc ht) hi.not_allClosed
    | otherFrame hr he => exact iff_of_false hn id
    | _ =>
      -- One of the two tasks is at a place where neither waits.
      refine iff_of_false (fun h => ?_) id
      obtain ⟨hend, -, hwait⟩ := h
      have hns := hi.start
      unfold Session.Waits at hwait
      grind [started]
  | disconnect he =>
    refine ⟨fun h => ?_, fun h => ?_⟩
    · obtain ⟨-, hd, hwait⟩ := h
      rcases hwait with ⟨hr, -⟩ | ⟨hr, hw⟩
      · -- The reader task leaves its loop only after the stream has ended.
        have hend := hi.ended (.inr hr)
        rw [he] at hend
        cases hend
      · exact ⟨hr, hw, hd⟩
    · obtain ⟨hr, hw, hd⟩ := h
      exact ⟨rfl, hd, .inr ⟨hr, hw⟩⟩
  | clone hr => exact iff_of_false hn id
  | dropClone hc => exact iff_of_false hn id
  | notify msg hc =>
    refine iff_of_false (fun h => hn ⟨h.1, ?_, h.2.2⟩) id
    have hd : Delivers s.bridge (s.bridge.modifyChannel tx fun c => c.trySend msg) :=
      delivers_modifyChannel s.bridge fun c => c.prefix_trySend msg
    refine drained_of_queue ?_ (hd.queues tx) h.2.1
    rfl
  | other ho =>
    refine iff_of_false (fun h => hn ⟨h.1, ?_, h.2.2⟩) id
    refine drained_of_queue ?_ (act_foreign ho s.bridge).2 h.2.1
    rfl

/-- **When a session deadlocks.** In a run of a session no state is stuck exactly when no step parks: after
the client is gone, the writer task is never back at its `select` with nothing to send. -/
theorem never_stuck_iff {bridge : BridgeInner} (hnew : bridge.sessionSenders.lookup sid = none)
    {tr : List (SessionAction × Session)} (hrun : Runs.Run (SessionStep sid tx) (Session.new bridge) tr) :
    Runs.Always (fun s => ¬ Stuck sid tx s) (Session.new bridge) tr ↔
      Runs.EachStep (fun s action => ¬ Parks tx s action) (Session.new bridge) tr := by
  refine Runs.always_iff_eachStep (I := fun s => TeardownInv sid tx s ∧ ¬ Stuck sid tx s) ?_ ?_ ?_ hrun ?_
  · rintro s action t ⟨hi, hn⟩ h hok
    exact ⟨hi.step h, fun hstuck => hok ((stuck_step_iff hi hn h).mp hstuck)⟩
  · rintro s action t ⟨hi, hn⟩ h hparks
    exact not_not_intro ((stuck_step_iff hi hn h).mpr (Classical.not_not.mp hparks))
  · exact fun s h => h.2
  · refine ⟨teardownInv_new hnew, fun hstuck => ?_⟩
    have hend := hstuck.ended
    cases hend

theorem sendFails_of_step {s t : Session} {action : SessionAction} (hi : TeardownInv sid tx s)
    (hs : s.writer ≠ .done) (h : SessionStep sid tx s action t) (ht : t.writer = .done) :
    action = .task .sendFails := by
  cases h with
  | task h =>
    cases h with
    | sendFails hw => rfl
    | allClosed hw hd hr hc htx => exact absurd (.allClosed hw hd hr hc htx) hi.not_allClosed
    | start | recvBridge | recvResp | sent => cases ht
    | _ => exact absurd ht hs
  | _ => exact absurd ht hs

/-- **What ends a session.** In a run at whose end the writer task is over, a send has failed. -/
theorem sendFails_of_done {s : Session} (hi : TeardownInv sid tx s) (hs : s.writer ≠ .done)
    {tr : List (SessionAction × Session)} (hrun : Runs.Run (SessionStep sid tx) s tr)
    (hdone : ∃ p ∈ tr, p.2.writer = .done) : ∃ t, (.task .sendFails, t) ∈ tr := by
  induction hrun with
  | nil s =>
    obtain ⟨p, hp, -⟩ := hdone
    cases hp
  | @cons s t action tr h _ ih =>
    by_cases ht : t.writer = .done
    · rw [sendFails_of_step hi hs h ht]
      exact ⟨t, List.mem_cons_self⟩
    · obtain ⟨p, hp, hdone⟩ := hdone
      rcases List.mem_cons.mp hp with rfl | hp
      · exact absurd hdone ht
      · obtain ⟨u, hu⟩ := ih (hi.step h) ht ⟨p, hp, hdone⟩
        exact ⟨u, List.mem_cons_of_mem _ hu⟩

/-- A client that connects, sends nothing and disconnects: its reader task awaits a writer task that only
the end of the reader task would stop. -/
theorem idle_client_stuck :
    let s := { (Session.new idleBridge).started 1 0 with reader := .awaiting, respTx := false, ended := true }
    Runs.Reachable (SessionStep 1 0) (Session.new idleBridge) s ∧ Stuck 1 0 s := by
  intro s
  have hstart : SessionStep 1 0 (Session.new idleBridge) (.task .start) ((Session.new idleBridge).started 1 0) :=
    .task (.start rfl (by decide))
  let gone := { (Session.new idleBridge).started 1 0 with ended := true }
  have hgone : SessionStep 1 0 _ .disconnect gone := .disconnect rfl
  have hloop : SessionStep 1 0 gone (.task .streamEnds) { gone with reader := .closing } :=
    .task (.streamEnds rfl rfl)
  have hdrop : SessionStep 1 0 { gone with reader := .closing } (.task .dropRespTx) s := .task (.dropRespTx rfl)
  have hreach : Runs.Reachable (SessionStep 1 0) (Session.new idleBridge) s :=
    .tail (.tail (.tail (.tail .refl ⟨_, hstart⟩) ⟨_, hgone⟩) ⟨_, hloop⟩) ⟨_, hdrop⟩
  have hi : TeardownInv 1 0 s :=
    hreach.invariant (teardownInv_new rfl) fun _ _ _ hi h => hi.step h
  exact ⟨hreach, (stuck_iff hi).mpr ⟨rfl, ⟨rfl, rfl⟩, .inl ⟨rfl, rfl⟩⟩⟩

/-- `never_stuck_iff` for a client that sends a frame that is too short and is gone before the error message
can be sent. -/
theorem gone_client_unregistered :
    ∃ tr, Runs.Run (SessionStep 1 0) (Session.new idleBridge) tr ∧
      (∃ p ∈ tr, p.2.reader = .done) ∧ Runs.Always (fun s => ¬ Stuck 1 0 s) (Session.new idleBridge) tr := by
  have hrun : ∃ tr, Runs.Run (SessionStep 1 0) (Session.new idleBridge) tr ∧ (∃ p ∈ tr, p.2.reader = .done) ∧
      Runs.EachStep (fun s action => ¬ Parks 0 s action) (Session.new idleBridge) tr := by
    refine ⟨_, .cons (.task (.start rfl (by decide))) <|
      .cons (.task (.receive ddsSucceeds [] rfl rfl rfl)) <|
      .cons (.task (.respond rfl rfl (by decide))) <|
      .cons (.task (.recvResp rfl rfl)) <|
      .cons (.disconnect rfl) <|
      .cons (.task (.responded rfl)) <|
      .cons (.task (.streamEnds rfl rfl)) <|
      .cons (.task (.dropRespTx rfl)) <|
      .cons (.task (.sendFails rfl)) <|
      .cons (.task (.join rfl rfl)) <|
      .cons (.task (.unregister rfl)) (.nil _), ?_, ?_⟩
    · exact ⟨_, List.mem_of_getLast? rfl, rfl⟩
    · simp [Runs.EachStep, Parks]
  obtain ⟨tr, hrun, hdone, hok⟩ := hrun
  exact ⟨tr, hrun, hdone, (never_stuck_iff rfl hrun).mpr hok⟩

end

end DdsBridge
