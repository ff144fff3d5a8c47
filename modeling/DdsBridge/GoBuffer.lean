import DdsBridge.GoChannels

/-!
# The buffers of Subscriptions

`ddswsclient/client.go` and `conn.go`: each connection has a `recvLoop` that delivers in its own goroutine, and
`watchLoop` makes a new connection when the last one is lost. A send to a closed channel ends the program, so it
is no step.
-/

namespace DdsBridge.GoBuffer

open GoDelivery (DataMessage channelCap)
open GoChannels (Select)

/-! ## The client -/

/-- A message `deliverData` is done with, and what it took out of the full channel before. -/
structure Delivery where
  msg : DataMessage
  discarded : Option DataMessage
  deriving DecidableEq, Repr

inductive Taker where
  | consumer
  | deliverData
  deriving DecidableEq, Repr

/-- A message that was received from the channel. -/
structure Taken where
  msg : DataMessage
  taker : Taker
  deriving DecidableEq, Repr

/-- The channel of a Subscription; what `deliverData` delivered, what was sent to the channel and what was
received from it, in order. -/
structure Buffer where
  ch : Chan DataMessage channelCap
  delivered : List Delivery
  entered : List DataMessage
  out : List Taken

namespace Buffer

def new : Buffer where
  ch := .empty
  delivered := []
  entered := []
  out := []

/-- `<-sub.ch`, or `default` if there is nothing. -/
def take (taker : Taker) (b : Buffer) : Buffer :=
  { b with ch := b.ch.dropOldest, out := b.out ++ (b.ch.queue.head?.map fun msg => ⟨msg, taker⟩).toList }

/-- `sub.ch <- msg` into `ch`, which ends the delivery. -/
def put (d : Delivery) (ch : Chan DataMessage channelCap) (b : Buffer) : Buffer :=
  { b with ch, delivered := b.delivered ++ [d], entered := b.entered ++ [d.msg] }

def giveUp (d : Delivery) (b : Buffer) : Buffer := { b with delivered := b.delivered ++ [d] }

def taken (taker : Taker) (b : Buffer) : List DataMessage :=
  (b.out.filter fun t => t.taker = taker).map Taken.msg

def received (b : Buffer) : List DataMessage := b.taken .consumer

def discarded (b : Buffer) : List DataMessage := b.taken .deliverData

end Buffer

/-- `closed` is about the channel. -/
structure Subscription where
  topicName : GoCodec.GoString
  unsubscribed : Bool
  closed : Bool

/-- `recvLoop` with `deliverData`; in the last `select`, with what the one before took out. -/
inductive RecvLoop where
  | reading
  | delivering (msg : DataMessage) (targets : List Nat)
  | sending (select : Select) (msg : DataMessage) (sub : Nat) (dropped : Option DataMessage) (targets : List Nat)
  | done

/-- A connection whose `recvLoop` is done may not have been made yet. -/
structure Conn where
  closed : Bool
  recv : RecvLoop

inductive Watch where
  /-- `conn := c.conn` -/
  | loading
  /-- The `select` on `c.closed` and `conn.recvDone`. -/
  | waiting (k : Nat)
  | lost (k : Nat)
  /-- `close` of the lost connection, or of a new one that could not be restored. -/
  | closing (k : Nat)
  | closeWaits (k : Nat)
  /-- `reconnect` without a new connection. -/
  | reconnecting
  | restoring (k : Nat)
  | swapping (k : Nat)
  | done

/-- The one `Close` that gets past the check of `c.closed`. -/
inductive Closing where
  | notCalled
  /-- `<-c.done` -/
  | waiting
  | closing (k : Nat)
  | closeWaits (k : Nat)
  | ended

/-- Connections have numbers below `nextConn`, Subscriptions below `nextSub`. -/
structure Client where
  conns : Nat → Conn
  nextConn : Nat
  conn : Option Nat
  watch : Watch
  closed : Bool
  close : Closing
  subs : List Nat
  sub : Nat → Subscription
  buffer : Nat → Buffer
  nextSub : Nat

namespace Client

def setConn (k : Nat) (conn : Conn) (s : Client) : Client := { s with conns := Function.update s.conns k conn }

def setRecv (k : Nat) (recv : RecvLoop) (s : Client) : Client := s.setConn k { s.conns k with recv }

def setSub (o : Nat) (sub : Subscription) (s : Client) : Client := { s with sub := Function.update s.sub o sub }

def setBuffer (o : Nat) (b : Buffer) (s : Client) : Client := { s with buffer := Function.update s.buffer o b }

/-- `go c.recvLoop()` in `dial`. -/
def dial (s : Client) : Client := { s.setConn s.nextConn ⟨false, .reading⟩ with nextConn := s.nextConn + 1 }

/-- The Subscriptions of `c.subs` with the topic of the message. -/
def targets (s : Client) (msg : DataMessage) : List Nat :=
  s.subs.filter fun o => (s.sub o).topicName = msg.topicName

/-- After `NewClient`. -/
def new : Client where
  conns k := if k = 0 then ⟨false, .reading⟩ else ⟨false, .done⟩
  nextConn := 1
  conn := some 0
  watch := .loading
  closed := false
  close := .notCalled
  subs := []
  sub _ := ⟨[], false, false⟩
  buffer _ := .new
  nextSub := 0

/-- The end of `Subscribe`. -/
def subscribe (topicName : GoCodec.GoString) (s : Client) : Client :=
  { s.setSub s.nextSub ⟨topicName, false, false⟩ with subs := s.subs ++ [s.nextSub], nextSub := s.nextSub + 1 }

end Client

inductive Action where
  | subscribe
  | unsubscribe (sub : Nat)
  | receive (sub : Nat)
  | read (conn : Nat)
  | finish (conn : Nat)
  | next (conn : Nat)
  | select (conn : Nat)
  | recvEnds (conn : Nat)
  | watch
  | dial
  | close

open Client

inductive Step : Client → Action → Client → Prop
  | subscribe {s} (topicName : GoCodec.GoString) : Step s .subscribe (s.subscribe topicName)
  /-- The application reads from `C`. -/
  | receive {s} (o : Nat) (ho : o < s.nextSub) (hq : (s.buffer o).ch.queue ≠ []) :
      Step s (.receive o) (s.setBuffer o ((s.buffer o).take .consumer))
  -- `Unsubscribe`, and the last loop of `Close`
  | storeFlag {s} (o : Nat) : Step s (.unsubscribe o) (s.setSub o { s.sub o with unsubscribed := true })
  | removeSub {s} (o : Nat) (hu : (s.sub o).unsubscribed = true) :
      Step s (.unsubscribe o) { s with subs := s.subs.erase o }
  | closeChannel {s} (o : Nat) (hu : (s.sub o).unsubscribed = true) :
      Step s (.unsubscribe o) (s.setSub o { s.sub o with closed := true })
  -- `recvLoop`
  | read {s} (k : Nat) (msg : DataMessage) (hr : (s.conns k).recv = .reading) :
      Step s (.read k) (s.setRecv k (.delivering msg (s.targets msg)))
  | finish {s k msg} (hr : (s.conns k).recv = .delivering msg []) : Step s (.finish k) (s.setRecv k .reading)
  | skip {s k msg o targets} (hr : (s.conns k).recv = .delivering msg (o :: targets))
      (hu : (s.sub o).unsubscribed = true) : Step s (.next k) (s.setRecv k (.delivering msg targets))
  | next {s k msg o targets} (hr : (s.conns k).recv = .delivering msg (o :: targets))
      (hu : (s.sub o).unsubscribed = false) : Step s (.next k) (s.setRecv k (.sending .send msg o none targets))
  | sent {s k select msg o dropped targets ch} (hr : (s.conns k).recv = .sending select msg o dropped targets)
      (hs : select ≠ .drop) (ho : (s.sub o).closed = false) (hch : (s.buffer o).ch.trySend msg = some ch) :
      Step s (.select k) ((s.setBuffer o ((s.buffer o).put ⟨msg, dropped⟩ ch)).setRecv k (.delivering msg targets))
  | full {s k msg o targets} (hr : (s.conns k).recv = .sending .send msg o none targets)
      (ho : (s.sub o).closed = false) (hch : (s.buffer o).ch.trySend msg = none) :
      Step s (.select k) (s.setRecv k (.sending .drop msg o none targets))
  | drop {s k msg o targets} (hr : (s.conns k).recv = .sending .drop msg o none targets) :
      Step s (.select k) ((s.setBuffer o ((s.buffer o).take .deliverData)).setRecv k
        (.sending .retry msg o (s.buffer o).ch.queue.head? targets))
  | stillFull {s k msg o dropped targets} (hr : (s.conns k).recv = .sending .retry msg o dropped targets)
      (ho : (s.sub o).closed = false) (hch : (s.buffer o).ch.trySend msg = none) :
      Step s (.select k) ((s.setBuffer o ((s.buffer o).giveUp ⟨msg, dropped⟩)).setRecv k (.delivering msg targets))
  /-- `ReadMessage` fails: the connection is lost or was closed. -/
  | recvEnds {s k} (hr : (s.conns k).recv = .reading) : Step s (.recvEnds k) (s.setRecv k .done)
  -- `watchLoop` and `reconnect`
  | load {s k} (hw : s.watch = .loading) (hc : s.conn = some k) : Step s .watch { s with watch := .waiting k }
  | loadNil {s} (hw : s.watch = .loading) (hc : s.conn = none) : Step s .watch { s with watch := .done }
  | stop {s k} (hw : s.watch = .waiting k) (hc : s.closed = true) : Step s .watch { s with watch := .done }
  | lose {s k} (hw : s.watch = .waiting k) (hr : (s.conns k).recv = .done) :
      Step s .watch { s with watch := .lost k }
  | setNil {s k} (hw : s.watch = .lost k) : Step s .watch { s with conn := none, watch := .closing k }
  | closeConn {s k} (hw : s.watch = .closing k) (hc : (s.conns k).closed = false) :
      Step s .watch { s.setConn k { s.conns k with closed := true } with watch := .closeWaits k }
  | closedBefore {s k} (hw : s.watch = .closing k) (hc : (s.conns k).closed = true) :
      Step s .watch { s with watch := .reconnecting }
  | closeDone {s k} (hw : s.watch = .closeWaits k) (hr : (s.conns k).recv = .done) :
      Step s .watch { s with watch := .reconnecting }
  /-- Closed, or no attempts left. -/
  | reconnectEnds {s} (hw : s.watch = .reconnecting) : Step s .watch { s with watch := .done }
  | dial {s} (hw : s.watch = .reconnecting) : Step s .dial { s.dial with watch := .restoring s.nextConn }
  | restoreFails {s k} (hw : s.watch = .restoring k) : Step s .watch { s with watch := .closing k }
  | restored {s k} (hw : s.watch = .restoring k) : Step s .watch { s with watch := .swapping k }
  | swap {s k} (hw : s.watch = .swapping k) : Step s .watch { s with conn := some k, watch := .loading }
  -- `Close`
  | closeCalled {s} (hc : s.close = .notCalled) : Step s .close { s with closed := true, close := .waiting }
  | takeConn {s k} (hc : s.close = .waiting) (hw : s.watch = .done) (hk : s.conn = some k) :
      Step s .close { s with conn := none, close := .closing k }
  | takeNil {s} (hc : s.close = .waiting) (hw : s.watch = .done) (hk : s.conn = none) :
      Step s .close { s with close := .ended }
  | closeCloses {s k} (hc : s.close = .closing k) (ho : (s.conns k).closed = false) :
      Step s .close { s.setConn k { s.conns k with closed := true } with close := .closeWaits k }
  | closedAlready {s k} (hc : s.close = .closing k) (ho : (s.conns k).closed = true) :
      Step s .close { s with close := .ended }
  | closeEnds {s k} (hc : s.close = .closeWaits k) (hr : (s.conns k).recv = .done) :
      Step s .close { s with close := .ended }

/-! ## One connection receives -/

def Client.Running (s : Client) (k : Nat) : Prop := (s.conns k).recv ≠ .done

/-- Which connection may have a running `recvLoop`, from where `watchLoop` is. -/
def Client.MayRun (s : Client) (k : Nat) : Prop :=
  match s.watch with
  | .loading => s.conn = some k
  | .waiting j | .closeWaits j => k = j
  | .closing j | .restoring j | .swapping j => k = j ∧ (s.conns j).closed = false
  | .lost _ | .reconnecting => False
  | .done => True

/-- The connection of a `recvLoop` was made, there is one at most, and `watchLoop` knows it. -/
structure OneInv (s : Client) : Prop where
  made : ∀ k, s.Running k → k < s.nextConn
  one : ∀ j k, s.Running j → s.Running k → j = k
  owner : ∀ k, s.Running k → s.MayRun k
  stopped : ∀ k, s.close = .closing k → s.watch = .done

section
variable {s t : Client} {action : Action}

theorem setConn_conns (k j : Nat) (conn : Conn) : (s.setConn k conn).conns j = if j = k then conn else s.conns j := by
  simp [setConn, Function.update_apply]

/-- The connection is closed, and its `recvLoop` goes on. -/
theorem setConn_recv (k j : Nat) (conn : Conn) (h : conn.recv = (s.conns k).recv) :
    ((s.setConn k conn).conns j).recv = (s.conns j).recv := by
  rw [setConn_conns]
  split
  · next hj => rw [hj, h]
  · rfl

theorem dial_recv (watch : Watch) (k : Nat) :
    ({ s.dial with watch }.conns k).recv = if k = s.nextConn then .reading else (s.conns k).recv := by
  change ((s.setConn s.nextConn ⟨false, .reading⟩).conns k).recv = _
  rw [setConn_conns]
  split
  · rfl
  · rfl

theorem setRecv_recv (k j : Nat) (recv : RecvLoop) :
    ((s.setRecv k recv).conns j).recv = if j = k then recv else (s.conns j).recv := by
  rw [setRecv, setConn_conns]
  split
  · rfl
  · rfl

theorem setRecv_closed (k j : Nat) (recv : RecvLoop) : ((s.setRecv k recv).conns j).closed = (s.conns j).closed := by
  rw [setRecv, setConn_conns]
  split
  · next h => rw [h]
  · rfl

theorem setBuffer_buffer (o o' : Nat) (b : Buffer) :
    (s.setBuffer o b).buffer o' = if o' = o then b else s.buffer o' := by
  simp [setBuffer, Function.update_apply]

theorem running_of {k : Nat} {recv : RecvLoop} (hr : (s.conns k).recv = recv) (h : recv ≠ .done) : s.Running k :=
  fun hdone => h (hr.symm.trans hdone)

theorem running_new {k : Nat} (h : Client.new.Running k) : k = 0 := by
  by_contra hne
  exact h (by simp [Client.new, hne])

theorem oneInv_new : OneInv .new where
  made _ h := running_new h ▸ Nat.one_pos
  one _ _ hj hk := (running_new hj).trans (running_new hk).symm
  owner _ h := running_new h ▸ rfl
  stopped _ h := by cases h

theorem mayRun_congr {k : Nat} (hwatch : t.watch = s.watch) (hconn : t.conn = s.conn)
    (hclosed : ∀ j, (t.conns j).closed = (s.conns j).closed) : t.MayRun k ↔ s.MayRun k := by
  simp only [MayRun, hwatch, hconn, hclosed]

/-- No other `recvLoop` runs than before. -/
theorem OneInv.mono (hi : OneInv s) (hrun : ∀ k, t.Running k → s.Running k) (hnext : t.nextConn = s.nextConn)
    (howner : ∀ k, s.Running k → s.MayRun k → t.MayRun k) (hstopped : ∀ k, t.close = .closing k → t.watch = .done) :
    OneInv t where
  made k h := hnext ▸ hi.made k (hrun k h)
  one j k hj hk := hi.one j k (hrun j hj) (hrun k hk)
  owner k h := howner k (hrun k h) (hi.owner k (hrun k h))
  stopped := hstopped

/-- A `recvLoop` that runs goes on or ends; the Subscriptions may change. -/
theorem OneInv.setRecv (hi : OneInv s) {k : Nat} (recv : RecvLoop) (hr : s.Running k)
    (hconns : t.conns = (s.setRecv k recv).conns) (hnext : t.nextConn = s.nextConn) (hconn : t.conn = s.conn)
    (hwatch : t.watch = s.watch) (hclose : t.close = s.close) : OneInv t := by
  refine hi.mono (fun j hj => ?_) hnext (fun j _ => (mayRun_congr hwatch hconn fun j => ?_).mpr) fun j hj => ?_
  · by_cases h : j = k
    · exact h ▸ hr
    · rw [Running, hconns, setRecv_recv, if_neg h] at hj
      exact hj
  · rw [hconns, setRecv_closed]
  · rw [hwatch]
    exact hi.stopped j (hclose ▸ hj)

/-- `watchLoop` goes on while the connections stay. -/
theorem OneInv.watch (hi : OneInv s) {watch : Watch} (hw : s.watch = watch) (hwatch : watch ≠ .done)
    (hconns : ∀ k, (t.conns k).recv = (s.conns k).recv) (hnext : t.nextConn = s.nextConn) (hclose : t.close = s.close)
    (howner : ∀ k, s.Running k → s.MayRun k → t.MayRun k) : OneInv t :=
  hi.mono (fun k h => by rwa [Running, hconns] at h) hnext howner
    fun k h => absurd (hw.symm.trans (hi.stopped k (hclose ▸ h))) hwatch

/-- No `recvLoop` runs while there is no connection. -/
theorem OneInv.quiet (hi : OneInv s) (hw : s.watch = .reconnecting) (k : Nat) : ¬ s.Running k := by
  intro hk
  have hmay := hi.owner k hk
  rw [MayRun, hw] at hmay
  exact hmay

theorem step_oneInv (hi : OneInv s) (h : Step s action t) : OneInv t := by
  cases h with
  | subscribe => exact hi.mono (fun _ => id) rfl (fun _ _ => id) hi.stopped
  | receive => exact hi.mono (fun _ => id) rfl (fun _ _ => id) hi.stopped
  | storeFlag => exact hi.mono (fun _ => id) rfl (fun _ _ => id) hi.stopped
  | removeSub => exact hi.mono (fun _ => id) rfl (fun _ _ => id) hi.stopped
  | closeChannel => exact hi.mono (fun _ => id) rfl (fun _ _ => id) hi.stopped
  | read k msg hr => exact hi.setRecv _ (running_of hr nofun) rfl rfl rfl rfl rfl
  | finish hr => exact hi.setRecv _ (running_of hr nofun) rfl rfl rfl rfl rfl
  | skip hr => exact hi.setRecv _ (running_of hr nofun) rfl rfl rfl rfl rfl
  | next hr => exact hi.setRecv _ (running_of hr nofun) rfl rfl rfl rfl rfl
  | sent hr => exact hi.setRecv _ (running_of hr nofun) rfl rfl rfl rfl rfl
  | full hr => exact hi.setRecv _ (running_of hr nofun) rfl rfl rfl rfl rfl
  | drop hr => exact hi.setRecv _ (running_of hr nofun) rfl rfl rfl rfl rfl
  | stillFull hr => exact hi.setRecv _ (running_of hr nofun) rfl rfl rfl rfl rfl
  | recvEnds hr => exact hi.setRecv _ (running_of hr nofun) rfl rfl rfl rfl rfl
  | load hw hc =>
    refine hi.watch hw nofun (fun _ => rfl) rfl rfl fun k _ hk => ?_
    rw [MayRun, hw, hc] at hk
    exact (Option.some.inj hk).symm
  | loadNil hw => exact hi.watch hw nofun (fun _ => rfl) rfl rfl fun _ _ _ => trivial
  | stop hw => exact hi.watch hw nofun (fun _ => rfl) rfl rfl fun _ _ _ => trivial
  | lose hw hr =>
    refine hi.watch hw nofun (fun _ => rfl) rfl rfl fun k hrun hk => ?_
    rw [MayRun, hw] at hk
    exact hrun (hk ▸ hr)
  | setNil hw =>
    refine hi.watch hw nofun (fun _ => rfl) rfl rfl fun k _ hk => ?_
    rw [MayRun, hw] at hk
    exact hk.elim
  | @closeConn j hw =>
    refine hi.watch hw nofun (fun k => setConn_recv j k _ rfl) rfl rfl fun k _ hk => ?_
    rw [MayRun, hw] at hk
    exact hk.1
  | closedBefore hw hc =>
    refine hi.watch hw nofun (fun _ => rfl) rfl rfl fun k _ hk => ?_
    rw [MayRun, hw] at hk
    have hopen : (s.conns _).closed = false := hk.2
    rw [hc] at hopen
    cases hopen
  | closeDone hw hr =>
    refine hi.watch hw nofun (fun _ => rfl) rfl rfl fun k hrun hk => ?_
    rw [MayRun, hw] at hk
    exact hrun (hk ▸ hr)
  | reconnectEnds hw => exact hi.watch hw nofun (fun _ => rfl) rfl rfl fun _ _ _ => trivial
  | dial hw =>
    -- nobody runs but the new one
    have hnew : ∀ k, Running { s.dial with watch := .restoring s.nextConn } k → k = s.nextConn := by
      intro k hk
      by_contra hne
      rw [Running, dial_recv, if_neg hne] at hk
      exact hi.quiet hw k hk
    refine ⟨fun k hk => ?_, fun j k hj hk => (hnew j hj).trans (hnew k hk).symm, fun k hk => ⟨hnew k hk, ?_⟩,
      fun k hk => ?_⟩
    · rw [hnew k hk]
      exact Nat.lt_succ_self _
    · change ((s.setConn s.nextConn ⟨false, .reading⟩).conns s.nextConn).closed = false
      rw [setConn_conns, if_pos rfl]
    · have hdone := hi.stopped k hk
      rw [hw] at hdone
      cases hdone
  | restoreFails hw =>
    refine hi.watch hw nofun (fun _ => rfl) rfl rfl fun k _ hk => ?_
    rw [MayRun, hw] at hk
    exact hk
  | restored hw =>
    refine hi.watch hw nofun (fun _ => rfl) rfl rfl fun k _ hk => ?_
    rw [MayRun, hw] at hk
    exact hk
  | swap hw =>
    refine hi.watch hw nofun (fun _ => rfl) rfl rfl fun k _ hk => ?_
    rw [MayRun, hw] at hk
    exact congrArg some hk.1.symm
  | closeCalled => exact hi.mono (fun _ => id) rfl (fun _ _ => id) nofun
  | takeConn _ hw =>
    refine hi.mono (fun _ => id) rfl (fun _ _ _ => ?_) fun _ _ => hw
    simp only [MayRun, hw]
  | takeNil => exact hi.mono (fun _ => id) rfl (fun _ _ => id) nofun
  | @closeCloses j hc =>
    have hdone := hi.stopped j hc
    refine hi.mono (fun k hk => ?_) rfl (fun k _ _ => ?_) nofun
    · have hrecv := setConn_recv (s := s) j k { s.conns j with closed := true } rfl
      exact fun h => hk (hrecv.trans h)
    · simp only [MayRun, Client.setConn, hdone]
  | closedAlready => exact hi.mono (fun _ => id) rfl (fun _ _ => id) nofun
  | closeEnds => exact hi.mono (fun _ => id) rfl (fun _ _ => id) nofun

/-! ## The buffer -/

/-- What a `recvLoop` has taken out of the channel for the delivery at hand. -/
def RecvLoop.dropped (o : Nat) : RecvLoop → List DataMessage
  | .sending _ _ sub dropped _ => if sub = o then dropped.toList else []
  | _ => []

/-- What each delivery took out. -/
def Buffer.drops (b : Buffer) : List DataMessage := b.delivered.filterMap Delivery.discarded

/-- What has been sent to the channel was received from it or is in it, in this order, and each delivery has sent
its message. -/
structure BufferOk (b : Buffer) : Prop where
  fifo : b.entered = b.out.map Taken.msg ++ b.ch.queue
  entered : b.delivered.map Delivery.msg = b.entered

section
variable {b : Buffer}

theorem BufferOk.take (hb : BufferOk b) (taker : Taker) : BufferOk (b.take taker) where
  fifo := by
    have hfifo := hb.fifo
    simp only [Buffer.take, Chan.dropOldest, List.map_append]
    cases hq : b.ch.queue with
    | nil => simpa [hq] using hfifo
    | cons msg queue => simpa [hq] using hfifo
  entered := hb.entered

theorem BufferOk.put (hb : BufferOk b) {d : Delivery} {ch : Chan DataMessage channelCap}
    (h : b.ch.trySend d.msg = some ch) : BufferOk (b.put d ch) where
  fifo := by
    have hfifo := hb.fifo
    simp only [Buffer.put, Chan.queue_of_trySend h, hfifo, List.append_assoc]
  entered := by
    simp only [Buffer.put, List.map_append, hb.entered, List.map_cons, List.map_nil]

theorem taken_take (taker taker' : Taker) :
    (b.take taker).taken taker' = b.taken taker' ++ if taker = taker' then b.ch.queue.head?.toList else [] := by
  unfold Buffer.taken Buffer.take
  rw [List.filter_append, List.map_append]
  congr 1
  cases b.ch.queue.head? with
  | none => simp
  | some msg =>
    by_cases h : taker = taker'
    · simp [h]
    · simp [h]

theorem drops_put (d : Delivery) (ch : Chan DataMessage channelCap) :
    (b.put d ch).drops = b.drops ++ d.discarded.toList := by
  unfold Buffer.drops Buffer.put
  rw [List.filterMap_append]
  cases h : d.discarded with
  | none => simp [h]
  | some msg => simp [h]

end

/-- The last `select` of `deliverData` finds room; what was discarded, the deliveries account for. -/
structure BufferInv (s : Client) : Prop where
  ok : ∀ o, BufferOk (s.buffer o)
  room : ∀ k msg o dropped targets, (s.conns k).recv = .sending .retry msg o dropped targets →
    (s.buffer o).ch.HasRoom
  quiet : (∀ k, ¬ s.Running k) → ∀ o, (s.buffer o).discarded = (s.buffer o).drops
  busy : ∀ k, s.Running k → ∀ o, (s.buffer o).discarded = (s.buffer o).drops ++ (s.conns k).recv.dropped o

theorem BufferInv.ok_setBuffer (hi : BufferInv s) {b : Buffer} (hb : BufferOk b) (o o' : Nat) :
    BufferOk ((s.setBuffer o b).buffer o') := by
  rw [setBuffer_buffer]
  split
  · exact hb
  · exact hi.ok o'

/-- A step of the `recvLoop` of `k`: no other runs, so only what it says of itself matters. -/
theorem BufferInv.setRecv (h1 : OneInv s) {k : Nat} {recv : RecvLoop} (hr : s.Running k)
    (hconns : t.conns = (s.setRecv k recv).conns) (hok : ∀ o, BufferOk (t.buffer o))
    (hroom : ∀ msg o dropped targets, recv = .sending .retry msg o dropped targets → (t.buffer o).ch.HasRoom)
    (hbooks : ∀ o, (t.buffer o).discarded = (t.buffer o).drops ++ recv.dropped o) : BufferInv t := by
  have hself : (t.conns k).recv = recv := by rw [hconns, setRecv_recv, if_pos rfl]
  have hother : ∀ j, t.Running j → j = k := by
    intro j hj
    by_contra hne
    rw [Running, hconns, setRecv_recv, if_neg hne] at hj
    exact hne (h1.one j k hj hr)
  refine ⟨hok, fun j msg o dropped targets hj => ?_, fun hnone o => ?_, fun j hj o => ?_⟩
  · have hjk := hother j (running_of hj nofun)
    rw [hjk, hself] at hj
    exact hroom msg o dropped targets hj
  · have hdone : recv = .done := by
      by_contra hne
      exact hnone k (by rwa [Running, hself])
    rw [hbooks o, hdone]
    exact List.append_nil _
  · rw [hother j hj, hself]
    exact hbooks o

/-- A step between two channel operations. -/
theorem BufferInv.goesOn (hi : BufferInv s) (h1 : OneInv s) {k : Nat} {recv : RecvLoop} (hr : s.Running k)
    (hretry : ∀ msg o dropped targets, recv ≠ .sending .retry msg o dropped targets)
    (hdropped : ∀ o, (s.conns k).recv.dropped o = recv.dropped o) : BufferInv (s.setRecv k recv) := by
  refine .setRecv h1 hr rfl hi.ok (fun _ _ _ _ h => absurd h (hretry _ _ _ _)) fun o => ?_
  rw [← hdropped o]
  exact hi.busy k hr o

/-- Everything that matters is as before. -/
theorem BufferInv.same (hi : BufferInv s) (hconns : ∀ k, (t.conns k).recv = (s.conns k).recv)
    (hbuffer : t.buffer = s.buffer) : BufferInv t where
  ok := hbuffer ▸ hi.ok
  room k msg o dropped targets h := by
    rw [hconns] at h
    rw [hbuffer]
    exact hi.room k msg o dropped targets h
  quiet h := by
    rw [hbuffer]
    refine hi.quiet fun k hk => h k ?_
    rwa [Running, hconns]
  busy k h := by
    rw [Running, hconns] at h
    rw [hbuffer, hconns]
    exact hi.busy k h

theorem bufferInv_new : BufferInv .new where
  ok o := ⟨rfl, rfl⟩
  room k msg o dropped targets h := by
    simp only [Client.new] at h
    split at h
    · cases h
    · cases h
  quiet _ _ := rfl
  busy k h o := by
    rw [running_new h]
    rfl

/-- The application takes a message. -/
theorem BufferInv.receive (hi : BufferInv s) (o : Nat) :
    BufferInv (s.setBuffer o ((s.buffer o).take .consumer)) := by
  have hdiscarded : ((s.buffer o).take .consumer).discarded = (s.buffer o).discarded :=
    (taken_take .consumer .deliverData).trans (List.append_nil _)
  have hbooks : ∀ o', ((s.setBuffer o ((s.buffer o).take .consumer)).buffer o').discarded = (s.buffer o').discarded ∧
      ((s.setBuffer o ((s.buffer o).take .consumer)).buffer o').drops = (s.buffer o').drops := by
    intro o'
    rw [setBuffer_buffer]
    split
    · next h =>
      subst h
      exact ⟨hdiscarded, rfl⟩
    · exact ⟨rfl, rfl⟩
  refine ⟨hi.ok_setBuffer ((hi.ok o).take .consumer) o, fun k msg o' dropped targets hr => ?_, fun hnone o' => ?_,
    fun k hk o' => ?_⟩
  · rw [setBuffer_buffer]
    split
    · exact Chan.hasRoom_dropOldest (by decide) _
    · exact hi.room k msg o' dropped targets hr
  · rw [(hbooks o').1, (hbooks o').2]
    exact hi.quiet hnone o'
  · rw [(hbooks o').1, (hbooks o').2]
    exact hi.busy k hk o'

/-- The message of the delivery is in the channel, and what the delivery took out is in the books. -/
theorem BufferInv.sent (hi : BufferInv s) (h1 : OneInv s) {k o : Nat} {select : Select} {msg : DataMessage}
    {dropped : Option DataMessage} {targets : List Nat} {ch : Chan DataMessage channelCap}
    (hr : (s.conns k).recv = .sending select msg o dropped targets) (hch : (s.buffer o).ch.trySend msg = some ch) :
    BufferInv ((s.setBuffer o ((s.buffer o).put ⟨msg, dropped⟩ ch)).setRecv k (.delivering msg targets)) := by
  have hrun : s.Running k := running_of hr nofun
  refine .setRecv h1 hrun rfl (hi.ok_setBuffer ((hi.ok o).put hch) o) nofun fun o' => ?_
  have hbooks := hi.busy k hrun o'
  rw [hr, RecvLoop.dropped] at hbooks
  refine Eq.trans ?_ (List.append_nil _).symm
  change ((s.setBuffer o _).buffer o').discarded = ((s.setBuffer o _).buffer o').drops
  rw [setBuffer_buffer]
  split
  · next h =>
    subst h
    rw [if_pos rfl] at hbooks
    rw [drops_put]
    exact hbooks
  · next h =>
    rw [if_neg (Ne.symm h), List.append_nil] at hbooks
    exact hbooks

/-- The oldest message is out of the channel, and there is room. -/
theorem BufferInv.drop (hi : BufferInv s) (h1 : OneInv s) {k o : Nat} {msg : DataMessage} {targets : List Nat}
    (hr : (s.conns k).recv = .sending .drop msg o none targets) :
    BufferInv ((s.setBuffer o ((s.buffer o).take .deliverData)).setRecv k
      (.sending .retry msg o (s.buffer o).ch.queue.head? targets)) := by
  have hrun : s.Running k := running_of hr nofun
  refine .setRecv h1 hrun rfl (hi.ok_setBuffer ((hi.ok o).take .deliverData) o)
    (fun msg' o' dropped targets' h => ?_) fun o' => ?_
  · cases h
    change ((s.setBuffer o _).buffer o).ch.HasRoom
    rw [setBuffer_buffer, if_pos rfl]
    exact Chan.hasRoom_dropOldest (by decide) _
  · have hbooks : (s.buffer o').discarded = (s.buffer o').drops := by
      have hbusy := hi.busy k hrun o'
      rw [hr, RecvLoop.dropped] at hbusy
      exact hbusy.trans (by rw [Option.toList_none, ite_self, List.append_nil])
    change ((s.setBuffer o _).buffer o').discarded = ((s.setBuffer o _).buffer o').drops ++ _
    rw [setBuffer_buffer, RecvLoop.dropped]
    split
    · next h =>
      subst h
      rw [if_pos rfl, Buffer.discarded, taken_take, if_pos rfl]
      exact congrArg (· ++ _) hbooks
    · next h =>
      rw [if_neg (Ne.symm h), List.append_nil]
      exact hbooks

theorem step_bufferInv (h1 : OneInv s) (hi : BufferInv s) (h : Step s action t) : BufferInv t := by
  cases h with
  | receive o => exact hi.receive o
  | read k msg hr => exact hi.goesOn h1 (running_of hr nofun) nofun fun o => by rw [hr]; rfl
  | finish hr => exact hi.goesOn h1 (running_of hr nofun) nofun fun o => by rw [hr]; rfl
  | skip hr => exact hi.goesOn h1 (running_of hr nofun) nofun fun o => by rw [hr]; rfl
  | next hr => exact hi.goesOn h1 (running_of hr nofun) nofun fun o => by rw [hr]; exact (ite_self _).symm
  | sent hr _ _ hch => exact hi.sent h1 hr hch
  | full hr => exact hi.goesOn h1 (running_of hr nofun) nofun fun o => by rw [hr]; rfl
  | drop hr => exact hi.drop h1 hr
  | stillFull hr _ hch => exact absurd hch (Chan.trySend_ne_none (hi.room _ _ _ _ _ hr) _)
  | recvEnds hr => exact hi.goesOn h1 (running_of hr nofun) nofun fun o => by rw [hr]; rfl
  | closeConn => exact hi.same (fun k => setConn_recv _ k _ rfl) rfl
  | closeCloses hc => exact hi.same (fun k => setConn_recv _ k _ rfl) rfl
  | dial hw =>
    have hquiet := h1.quiet hw
    refine ⟨hi.ok, fun k msg o dropped targets hr => ?_, fun _ => hi.quiet hquiet, fun k hk o => ?_⟩
    · rw [dial_recv] at hr
      split at hr
      · cases hr
      · exact hi.room k msg o dropped targets hr
    · rw [Running, dial_recv] at hk
      rw [dial_recv]
      split at hk
      · next h =>
        rw [if_pos h]
        exact (hi.quiet hquiet o).trans (List.append_nil _).symm
      · exact absurd hk (hquiet k)
  | _ => exact hi.same (fun _ => rfl) rfl

/-! ## What the application receives -/

/-- What one step does to a buffer. -/
inductive Buffer.Change (b b' : Buffer) : Prop
  | same (h : b' = b)
  /-- The oldest message is gone. -/
  | take (taker : Taker) (h : b' = b.take taker)
  | deliver (d : Delivery) (hd : b'.delivered = b.delivered ++ [d]) (hq : b'.ch.queue = b.ch.queue ++ [d.msg])

theorem change_setBuffer {b : Buffer} {o : Nat} (h : Buffer.Change (s.buffer o) b) (o' : Nat) :
    Buffer.Change (s.buffer o') ((s.setBuffer o b).buffer o') := by
  rw [setBuffer_buffer]
  split
  · next ho => exact ho ▸ h
  · exact .same rfl

theorem step_change (hi : BufferInv s) (h : Step s action t) (o : Nat) : Buffer.Change (s.buffer o) (t.buffer o) := by
  cases h with
  | receive o' => exact change_setBuffer (.take .consumer rfl) o
  | @sent _ _ msg _ dropped _ _ _ _ _ hch =>
    exact change_setBuffer (.deliver ⟨msg, dropped⟩ rfl (Chan.queue_of_trySend hch)) o
  | drop => exact change_setBuffer (.take .deliverData rfl) o
  | stillFull hr _ hch => exact absurd hch (Chan.trySend_ne_none (hi.room _ _ _ _ _ hr) _)
  | _ => exact .same rfl

theorem BufferOk.received {b : Buffer} (hb : BufferOk b) : b.received.Sublist (b.delivered.map Delivery.msg) := by
  rw [hb.entered, hb.fifo]
  refine List.Sublist.trans ?_ (List.sublist_append_left _ _)
  exact List.Sublist.map _ List.filter_sublist

end

theorem reachable_inv {s : Client} (h : Runs.Reachable Step .new s) : OneInv s ∧ BufferInv s := by
  have hstep : ∀ s action t, OneInv s ∧ BufferInv s → Step s action t → OneInv t ∧ BufferInv t :=
    fun _ _ _ hi h => ⟨step_oneInv hi.1 h, step_bufferInv hi.1 hi.2 h⟩
  exact h.invariant ⟨oneInv_new, bufferInv_new⟩ hstep

/-- One `recvLoop` runs at most, and none when a connection is made; every message delivered was sent to the
channel; what was taken out of it was the oldest each time, by a delivery once at most; and what the application
receives was delivered in this order. -/
theorem buffer_keeps_newest (s : Client) (h : Runs.Reachable Step .new s) :
    (∀ j k, s.Running j → s.Running k → j = k) ∧
      (∀ t, Step s .dial t → ∀ k, ¬ s.Running k) ∧
      (∀ action t, Step s action t → ∀ o, Buffer.Change (s.buffer o) (t.buffer o)) ∧
      ∀ o, (s.buffer o).delivered.map Delivery.msg = (s.buffer o).entered ∧
        (s.buffer o).entered = (s.buffer o).out.map Taken.msg ++ (s.buffer o).ch.queue ∧
        ((∀ k, ¬ s.Running k) → (s.buffer o).discarded = (s.buffer o).drops) ∧
        (∀ k, s.Running k → (s.buffer o).discarded = (s.buffer o).drops ++ (s.conns k).recv.dropped o) ∧
        (s.buffer o).received.Sublist ((s.buffer o).delivered.map Delivery.msg) := by
  obtain ⟨h1, hi⟩ := reachable_inv h
  refine ⟨h1.one, fun t hd => ?_, fun action t hstep => step_change hi hstep, fun o => ?_⟩
  · cases hd with
    | dial hw => exact h1.quiet hw
  · exact ⟨(hi.ok o).entered, (hi.ok o).fifo, fun hnone => hi.quiet hnone o, fun k hk => hi.busy k hk o,
      (hi.ok o).received⟩

/-- A message on a second connection. -/
theorem buffer_keeps_newest_reconnect :
    ∃ s, Runs.Reachable Step .new s ∧ (s.buffer 0).received = [GoChannels.chatterMessage] ∧ s.nextConn = 2 ∧
      (∀ j k, s.Running j → s.Running k → j = k) ∧
      (s.buffer 0).received.Sublist ((s.buffer 0).delivered.map Delivery.msg) := by
  have hrun : ∃ tr p, Runs.Run Step .new tr ∧ tr.getLast? = some p ∧
      (p.2.buffer 0).received = [GoChannels.chatterMessage] ∧ p.2.nextConn = 2 := by
    refine ⟨_, _, .cons (.subscribe [0x61]) <|
      .cons (.recvEnds (k := 0) rfl) <|
      .cons (.load rfl rfl) <|
      .cons (.lose rfl rfl) <|
      .cons (.setNil rfl) <|
      .cons (.closeConn rfl rfl) <|
      .cons (.closeDone rfl rfl) <|
      .cons (.dial rfl) <|
      .cons (.read 1 GoChannels.chatterMessage rfl) <|
      .cons (.next (k := 1) rfl rfl) <|
      .cons (.sent (k := 1) rfl nofun rfl rfl) <|
      .cons (.receive 0 (by decide) nofun) (.nil _), rfl, rfl, rfl⟩
  obtain ⟨tr, ⟨_, s⟩, hrun, hlast, hreceived, hconns⟩ := hrun
  have h := hrun.reachable.2 _ (List.mem_of_getLast? hlast)
  obtain ⟨hone, -, -, hbuffer⟩ := buffer_keeps_newest s h
  obtain ⟨-, -, -, -, hsublist⟩ := hbuffer 0
  exact ⟨s, h, hreceived, hconns, hone, hsublist⟩

end DdsBridge.GoBuffer
