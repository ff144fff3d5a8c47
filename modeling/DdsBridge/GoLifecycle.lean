import DdsBridge.Lib.Runs
import Mathlib.Logic.Function.Basic

/-!
# From `NewClient` to `Close`

`ddswsclient/client.go`: `NewClient` with `connectWithRetry`, `watchLoop` with `reconnect`, and `Close`. Whichever of
two channels a `select` can receive from, it may take; a dial and `restoreState` end, well or not, by their timeouts.
-/

namespace DdsBridge.GoLifecycle

/-! ## The client -/

/-- `clientConfig`; a negative number of reconnects is no limit. -/
structure Config where
  maxReconnects : Int
  connectRetry : Bool

structure Conn where
  closed : Bool
  recvDone : Bool
  deriving DecidableEq, Repr

/-- Where `NewClient` is, and then the goroutine of `watchLoop`. -/
inductive Loop where
  | dialing
  | retrying (attempts : Int)
  | redialing (attempts : Int)
  | failed
  | reading
  | watching (conn : Nat)
  /-- In `onDisconnect`. -/
  | disconnected (conn : Nat)
  | clearing (conn : Nat)
  | closing (conn : Nat)
  /-- In `conn.close()`, at `<-c.recvDone`. -/
  | closed (conn : Nat)
  | checking (attempts : Int)
  | waiting (attempts : Int)
  | dialingAgain (attempts : Int)
  | restoring (attempts : Int) (conn : Nat)
  | discarding (attempts : Int) (conn : Nat)
  | discarded (attempts : Int) (conn : Nat)
  | swapping (conn : Nat)
  /-- In `onConnect`. -/
  | connected
  | ended
  deriving DecidableEq, Repr

/-- Where the `Close` is that has closed `c.closed`. -/
inductive Closing where
  | uncalled
  /-- At `<-c.done`. -/
  | waiting
  | closing (conn : Option Nat)
  | closed (conn : Nat)
  | unsubscribing
  | returned
  deriving DecidableEq, Repr

inductive Event where
  | disconnect
  | connect
  deriving DecidableEq, Repr

/-- For the proofs: the connections that `watchLoop` has lost and made, the handlers it has called, how often it has
dialed since the last loss, or `NewClient` since its start, and how often since `c.closed` was closed. -/
structure Client where
  conn : Option Nat
  conns : Nat → Conn
  nextConn : Nat
  /-- Whether there is a handler. -/
  onConnect : Bool
  onDisconnect : Bool
  loop : Loop
  close : Closing
  /-- A handler has called the `Close`, and waits for it. -/
  inHandler : Bool
  events : List Event
  calls : List Event
  dials : Nat
  lateDials : Nat

def Client.new : Client where
  conn := none
  conns _ := ⟨true, true⟩
  nextConn := 0
  onConnect := false
  onDisconnect := false
  loop := .dialing
  close := .uncalled
  inHandler := false
  events := []
  calls := []
  dials := 1
  lateDials := 0

namespace Client

/-- `<-c.closed` -/
def Closed (s : Client) : Prop := s.close ≠ .uncalled

instance (s : Client) : Decidable s.Closed := inferInstanceAs (Decidable (_ ≠ _))

/-- The handler that `watchLoop` is in has returned, if it did not call `Close`, or that `Close` has. -/
def HandlerDone (s : Client) : Prop := s.inHandler = true → s.close = .returned

def attempt (s : Client) : Client :=
  { s with dials := s.dials + 1, lateDials := s.lateDials + if s.Closed then 1 else 0 }

def dialed (s : Client) : Client :=
  { s with conns := Function.update s.conns s.nextConn ⟨false, false⟩, nextConn := s.nextConn + 1 }

def lost (s : Client) : Client := { s with events := s.events ++ [.disconnect], dials := 0 }

def swapped (k : Nat) (s : Client) : Client := { s with conn := some k, events := s.events ++ [.connect] }

/-- `c.closed.Swap(true)` and `c.ws.Close()` in `conn.close()`. -/
def closeConn (k : Nat) (s : Client) : Client :=
  { s with conns := Function.update s.conns k { s.conns k with closed := true } }

def recvEnded (k : Nat) (s : Client) : Client :=
  { s with conns := Function.update s.conns k { s.conns k with recvDone := true } }

end Client

/-- `c.cfg.maxReconnects >= 0 && attempts > c.cfg.maxReconnects` after `attempts++`. -/
def Config.RetriesOver (cfg : Config) (attempts : Int) : Prop :=
  0 ≤ cfg.maxReconnects ∧ cfg.maxReconnects < attempts + 1

/-- `c.cfg.maxReconnects >= 0 && attempts >= c.cfg.maxReconnects` -/
def Config.ReconnectsOver (cfg : Config) (attempts : Int) : Prop :=
  0 ≤ cfg.maxReconnects ∧ cfg.maxReconnects ≤ attempts

inductive Action where
  /-- `NewClient` or `watchLoop` goes on. -/
  | loop
  /-- `Close` is called; the second time it returns at once. -/
  | close
  /-- The `Close` that has closed `c.closed` goes on. -/
  | closing
  /-- `recvLoop` ends, its connection being lost or closed. -/
  | recvEnds (conn : Nat)
  /-- `OnConnect` and `OnDisconnect`, with a handler or with `nil`. -/
  | onConnect (set : Bool)
  | onDisconnect (set : Bool)
  deriving DecidableEq, Repr

inductive Step (cfg : Config) : Client → Action → Client → Prop
  -- `NewClient` and `connectWithRetry`
  | dial {s} (hl : s.loop = .dialing) :
      Step cfg s .loop { s.dialed with conn := some s.nextConn, loop := .reading }
  | dialFails {s} (hl : s.loop = .dialing) :
      Step cfg s .loop { s with loop := if cfg.connectRetry then .retrying 0 else .failed }
  | ctxDone {s a} (hl : s.loop = .retrying a) : Step cfg s .loop { s with loop := .failed }
  | retriesOver {s a} (hl : s.loop = .retrying a) (ho : cfg.RetriesOver a) :
      Step cfg s .loop { s with loop := .failed }
  | retry {s a} (hl : s.loop = .retrying a) (ho : ¬ cfg.RetriesOver a) :
      Step cfg s .loop { s.attempt with loop := .redialing (a + 1) }
  | redial {s a} (hl : s.loop = .redialing a) :
      Step cfg s .loop { s.dialed with conn := some s.nextConn, loop := .reading }
  | redialFails {s a} (hl : s.loop = .redialing a) : Step cfg s .loop { s with loop := .retrying a }
  -- `watchLoop`
  | readConn {s k} (hl : s.loop = .reading) (hc : s.conn = some k) : Step cfg s .loop { s with loop := .watching k }
  | readNil {s} (hl : s.loop = .reading) (hc : s.conn = none) : Step cfg s .loop { s with loop := .ended }
  | seeClosed {s k} (hl : s.loop = .watching k) (hc : s.Closed) : Step cfg s .loop { s with loop := .ended }
  | seeLost {s k} (hl : s.loop = .watching k) (hd : (s.conns k).recvDone = true) (hs : s.onDisconnect = true) :
      Step cfg s .loop { s.lost with loop := .disconnected k, calls := s.calls ++ [.disconnect] }
  | seeLostNil {s k} (hl : s.loop = .watching k) (hd : (s.conns k).recvDone = true) (hs : s.onDisconnect = false) :
      Step cfg s .loop { s.lost with loop := .clearing k }
  | onDisconnectReturns {s k} (hl : s.loop = .disconnected k) (hh : s.HandlerDone) :
      Step cfg s .loop { s with loop := .clearing k }
  | setNil {s k} (hl : s.loop = .clearing k) : Step cfg s .loop { s with conn := none, loop := .closing k }
  | closeConn {s k} (hl : s.loop = .closing k) :
      Step cfg s .loop
        { s.closeConn k with loop := if (s.conns k).closed = true then .checking 0 else .closed k }
  | connClosed {s k} (hl : s.loop = .closed k) (hd : (s.conns k).recvDone = true) :
      Step cfg s .loop { s with loop := .checking 0 }
  -- `reconnect`
  | checkClosed {s a} (hl : s.loop = .checking a) (hc : s.Closed) : Step cfg s .loop { s with loop := .ended }
  | reconnectsOver {s a} (hl : s.loop = .checking a) (hc : ¬ s.Closed) (ho : cfg.ReconnectsOver a) :
      Step cfg s .loop { s with loop := .ended }
  | check {s a} (hl : s.loop = .checking a) (hc : ¬ s.Closed) (ho : ¬ cfg.ReconnectsOver a) :
      Step cfg s .loop { s with loop := .waiting a }
  | waitClosed {s a} (hl : s.loop = .waiting a) (hc : s.Closed) : Step cfg s .loop { s with loop := .ended }
  | reconnect {s a} (hl : s.loop = .waiting a) : Step cfg s .loop { s.attempt with loop := .dialingAgain (a + 1) }
  | dialAgain {s a} (hl : s.loop = .dialingAgain a) :
      Step cfg s .loop { s.dialed with loop := .restoring a s.nextConn }
  | dialAgainFails {s a} (hl : s.loop = .dialingAgain a) : Step cfg s .loop { s with loop := .checking a }
  | restored {s a k} (hl : s.loop = .restoring a k) : Step cfg s .loop { s with loop := .swapping k }
  | restoreFails {s a k} (hl : s.loop = .restoring a k) : Step cfg s .loop { s with loop := .discarding a k }
  | discard {s a k} (hl : s.loop = .discarding a k) :
      Step cfg s .loop
        { s.closeConn k with loop := if (s.conns k).closed = true then .checking a else .discarded a k }
  | discarded {s a k} (hl : s.loop = .discarded a k) (hd : (s.conns k).recvDone = true) :
      Step cfg s .loop { s with loop := .checking a }
  | swap {s k} (hl : s.loop = .swapping k) (hs : s.onConnect = true) :
      Step cfg s .loop { s.swapped k with loop := .connected, calls := s.calls ++ [.connect] }
  | swapNil {s k} (hl : s.loop = .swapping k) (hs : s.onConnect = false) :
      Step cfg s .loop { s.swapped k with loop := .reading }
  | onConnectReturns {s} (hl : s.loop = .connected) (hh : s.HandlerDone) :
      Step cfg s .loop { s with loop := .reading }
  -- `Close`, in another goroutine or in a handler
  | close {s} (hn : s.nextConn ≠ 0) (hc : ¬ s.Closed) : Step cfg s .close { s with close := .waiting }
  | closeInHandler {s} (hl : s.loop = .connected ∨ ∃ k, s.loop = .disconnected k) (hc : ¬ s.Closed) :
      Step cfg s .close { s with close := .waiting, inHandler := true }
  | closeAgain {s} (hc : s.Closed) : Step cfg s .close s
  | takeConn {s} (hc : s.close = .waiting) (hl : s.loop = .ended) :
      Step cfg s .closing { s with conn := none, close := .closing s.conn }
  | closeTaken {s k} (hc : s.close = .closing (some k)) :
      Step cfg s .closing
        { s.closeConn k with close := if (s.conns k).closed = true then .unsubscribing else .closed k }
  | noConn {s} (hc : s.close = .closing none) : Step cfg s .closing { s with close := .unsubscribing }
  | takenClosed {s k} (hc : s.close = .closed k) (hd : (s.conns k).recvDone = true) :
      Step cfg s .closing { s with close := .unsubscribing }
  | closeSubs {s} (hc : s.close = .unsubscribing) : Step cfg s .closing { s with close := .returned }
  -- `recvLoop`
  | recvEnds {s} (k : Nat) (hk : k < s.nextConn) (hd : (s.conns k).recvDone = false) :
      Step cfg s (.recvEnds k) (s.recvEnded k)
  -- The handlers, at any time after `NewClient` has returned
  | setOnConnect {s} (hn : s.nextConn ≠ 0) (set : Bool) : Step cfg s (.onConnect set) { s with onConnect := set }
  | setOnDisconnect {s} (hn : s.nextConn ≠ 0) (set : Bool) :
      Step cfg s (.onDisconnect set) { s with onDisconnect := set }

/-! ## Who has a connection -/

/-- A connection that nobody else has. -/
def Loop.own : Loop → Option Nat
  | .closing k => some k
  | .restoring _ k => some k
  | .discarding _ k => some k
  | .swapping k => some k
  | _ => none

def Closing.own : Closing → Option Nat
  | .closing c => c
  | _ => none

/-- In `conn.close()`, until `recvLoop` has ended. -/
def Loop.awaits : Loop → Option Nat
  | .closed k => some k
  | .discarded _ k => some k
  | _ => none

def Closing.awaits : Closing → Option Nat
  | .closed k => some k
  | _ => none

namespace Client

def Open (s : Client) (k : Nat) : Prop := k < s.nextConn ∧ (s.conns k).closed = false

/-- The calls of the client use it through `c.conn`, `watchLoop` or `Close` has it for itself. -/
def Has (s : Client) (k : Nat) : Prop := s.conn = some k ∨ s.loop.own = some k ∨ s.close.own = some k

def Awaits (s : Client) (k : Nat) : Prop := s.loop.awaits = some k ∨ s.close.awaits = some k

end Client

/-- What `c.conn` is where `watchLoop` is. -/
def LoopInv (s : Client) : Prop :=
  match s.loop with
  | .dialing | .retrying _ | .redialing _ | .failed => s.nextConn = 0 ∧ s.conn = none ∧ s.close = .uncalled
  | .watching k | .disconnected k | .clearing k => s.conn = some k
  | .closing k | .restoring _ k | .discarding _ k | .swapping k => s.conn = none ∧ k < s.nextConn
  | .closed k | .discarded _ k => s.conn = none ∧ k < s.nextConn ∧ (s.conns k).closed = true
  | .checking _ | .waiting _ | .dialingAgain _ => s.conn = none
  | .reading | .connected => s.conn ≠ none
  | .ended => True

/-- `Close` does nothing before `watchLoop` has ended. -/
def CloseInv (s : Client) : Prop :=
  match s.close with
  | .uncalled | .waiting => True
  | .closing c => s.loop = .ended ∧ s.conn = none ∧ ∀ k ∈ c, k < s.nextConn
  | .closed k => s.loop = .ended ∧ s.conn = none ∧ k < s.nextConn ∧ (s.conns k).closed = true
  | .unsubscribing | .returned => s.loop = .ended ∧ s.conn = none

structure ConnInv (s : Client) : Prop where
  loop : LoopInv s
  close : CloseInv s
  conn : ∀ k, s.conn = some k → k < s.nextConn
  has : ∀ k, s.Open k → s.Has k
  done : ∀ k < s.nextConn, (s.conns k).closed = true → (s.conns k).recvDone = true ∨ s.Awaits k

theorem connInv_new : ConnInv Client.new where
  loop := ⟨rfl, rfl, rfl⟩
  close := trivial
  conn k h := by cases h
  has k h := by cases h.1
  done k h := by cases h

section
variable {cfg : Config} {s t : Client} {a : Action}

@[simp] theorem attempt_close (s : Client) : s.attempt.close = s.close := rfl

@[simp] theorem lost_close (s : Client) : s.lost.close = s.close := rfl

@[simp] theorem swapped_close (s : Client) (k : Nat) : (s.swapped k).close = s.close := rfl

@[simp] theorem recvEnded_close (s : Client) (k : Nat) : (s.recvEnded k).close = s.close := rfl

theorem conns_dialed (s : Client) {k : Nat} (hk : k < s.nextConn) : s.dialed.conns k = s.conns k :=
  Function.update_of_ne (Nat.ne_of_lt hk) _ _

theorem conns_dialed_new (s : Client) : s.dialed.conns s.nextConn = ⟨false, false⟩ := Function.update_self _ _ _

theorem conns_closeConn (s : Client) (k : Nat) : (s.closeConn k).conns k = { s.conns k with closed := true } :=
  Function.update_self _ _ _

theorem conns_closeConn_ne (s : Client) {k j : Nat} (hj : j ≠ k) : (s.closeConn k).conns j = s.conns j :=
  Function.update_of_ne hj _ _

theorem open_dialed {j : Nat} (h : s.dialed.Open j) : j = s.nextConn ∨ s.Open j := by
  by_cases hj : j = s.nextConn
  · exact .inl hj
  · have hlt : j < s.nextConn := Nat.lt_of_le_of_ne (Nat.le_of_lt_succ h.1) hj
    exact .inr ⟨hlt, by rw [← conns_dialed s hlt]; exact h.2⟩

theorem open_closeConn {k j : Nat} : (s.closeConn k).Open j ↔ j ≠ k ∧ s.Open j := by
  unfold Client.Open
  by_cases hj : j = k
  · simp [hj, conns_closeConn]
  · rw [conns_closeConn_ne s hj]
    simp [hj, Client.closeConn]

/-- A connection that has been dialed is not closed. -/
theorem closed_dialed {j : Nat} (hj : j < s.nextConn + 1) (hclosed : (s.dialed.conns j).closed = true) :
    j < s.nextConn ∧ s.dialed.conns j = s.conns j := by
  by_cases heq : j = s.nextConn
  · rw [heq, conns_dialed_new] at hclosed
    cases hclosed
  · have hlt : j < s.nextConn := by omega
    exact ⟨hlt, conns_dialed s hlt⟩

theorem conns_recvEnded (s : Client) (k : Nat) : (s.recvEnded k).conns k = { s.conns k with recvDone := true } :=
  Function.update_self _ _ _

theorem conns_recvEnded_ne (s : Client) {k j : Nat} (hj : j ≠ k) : (s.recvEnded k).conns j = s.conns j :=
  Function.update_of_ne hj _ _

/-- `recvLoop` closes nothing. -/
theorem closed_recvEnded (s : Client) (k j : Nat) : ((s.recvEnded k).conns j).closed = (s.conns j).closed := by
  by_cases hj : j = k
  · rw [hj, conns_recvEnded]
  · rw [conns_recvEnded_ne s hj]

/-- `Close` goes on only when `watchLoop` has ended. -/
theorem ConnInv.ended (hi : ConnInv s) (hc : s.close ≠ .uncalled) (hw : s.close ≠ .waiting) :
    s.loop = .ended ∧ s.conn = none := by
  have hclose := hi.close
  unfold CloseInv at hclose
  cases hs : s.close with
  | uncalled => exact absurd hs hc
  | waiting => exact absurd hs hw
  | closing c | closed k =>
    rw [hs] at hclose
    exact ⟨hclose.1, hclose.2.1⟩
  | unsubscribing | returned =>
    rw [hs] at hclose
    exact hclose

theorem ConnInv.close_of_loop (hi : ConnInv s) (h : s.loop ≠ .ended) : s.close = .uncalled ∨ s.close = .waiting := by
  by_contra hn
  rw [not_or] at hn
  exact h (hi.ended hn.1 hn.2).1

theorem closeInv_of_open {s : Client} (h : s.close = .uncalled ∨ s.close = .waiting) : CloseInv s := by
  unfold CloseInv
  rcases h with h | h
  · rw [h]
    trivial
  · rw [h]
    trivial

/-- What does not touch the connections that `watchLoop` relies on; `Close` is called after `NewClient` only. -/
theorem LoopInv.frame (h : LoopInv s) (hl : t.loop = s.loop) (hc : t.conn = s.conn) (hn : t.nextConn = s.nextConn)
    (hconns : ∀ k, (t.conns k).closed = (s.conns k).closed) (hclose : t.close = s.close ∨ s.nextConn ≠ 0) :
    LoopInv t := by
  have hnew : s.nextConn = 0 → s.close = .uncalled → t.close = .uncalled := fun h₀ hu =>
    hclose.elim (·.trans hu) fun hne => absurd h₀ hne
  unfold LoopInv at h ⊢
  rw [hl, hc, hn]
  cases hloop : s.loop with
  | dialing | retrying b | redialing b | failed =>
    rw [hloop] at h
    exact ⟨h.1, h.2.1, hnew h.1 h.2.2⟩
  | closed k | discarded b k =>
    rw [hloop] at h
    exact ⟨h.1, h.2.1, (hconns k).trans h.2.2⟩
  | _ =>
    rw [hloop] at h
    exact h

theorem loopInv_ended (h : s.loop = .ended) : LoopInv s := by
  unfold LoopInv
  rw [h]
  trivial

/-- There is a client by the time a handler runs. -/
theorem ConnInv.dialed_of_handler (hi : ConnInv s) (hl : s.loop = .connected ∨ ∃ k, s.loop = .disconnected k) :
    s.nextConn ≠ 0 := by
  have hloop := hi.loop
  unfold LoopInv at hloop
  rcases hl with hl | ⟨k, hl⟩
  · rw [hl] at hloop
    obtain ⟨k, hk⟩ := Option.ne_none_iff_exists'.mp hloop
    exact Nat.ne_zero_of_lt (hi.conn k hk)
  · rw [hl] at hloop
    exact Nat.ne_zero_of_lt (hi.conn k hloop)

theorem ConnInv.step_loop (hi : ConnInv s) (h : Step cfg s a t) : LoopInv t := by
  have hloop := hi.loop
  unfold LoopInv at hloop
  cases h with
  | dialFails hl =>
    rw [hl] at hloop
    cases hretry : cfg.connectRetry <;> exact hloop
  | readConn hl hc => exact hc
  | setNil hl =>
    rw [hl] at hloop
    exact ⟨rfl, hi.conn _ hloop⟩
  | @closeConn k hl | @discard b k hl =>
    rw [hl] at hloop
    by_cases hc : (s.conns k).closed = true
    · simp [LoopInv, hc, Client.closeConn, hloop.1]
    · simp [LoopInv, hc, Client.closeConn, hloop]
  | dialAgain hl =>
    rw [hl] at hloop
    exact ⟨hloop, Nat.lt_succ_self _⟩
  | close hn hc => exact hi.loop.frame rfl rfl rfl (fun _ => rfl) (.inr hn)
  | closeInHandler hl hc => exact hi.loop.frame rfl rfl rfl (fun _ => rfl) (.inr (hi.dialed_of_handler hl))
  | closeAgain hc => exact hi.loop
  | recvEnds k hk hd => exact hi.loop.frame rfl rfl rfl (closed_recvEnded s k) (.inl rfl)
  | setOnConnect hn set | setOnDisconnect hn set => exact hi.loop.frame rfl rfl rfl (fun _ => rfl) (.inl rfl)
  | closeTaken hc | noConn hc | takenClosed hc hd | closeSubs hc =>
    exact loopInv_ended (hi.ended (by simp [hc]) (by simp [hc])).1
  | _ => simp_all [LoopInv, Client.attempt, Client.lost, Client.swapped]

theorem ConnInv.step_close (hi : ConnInv s) (h : Step cfg s a t) : CloseInv t := by
  have hclose := hi.close
  unfold CloseInv at hclose
  cases h with
  | close hn hc => trivial
  | closeInHandler hl hc => trivial
  | closeAgain hc => exact hi.close
  | takeConn hc hl => exact ⟨hl, rfl, fun k hk => hi.conn k hk⟩
  | @closeTaken k hc =>
    rw [hc] at hclose
    have hlt : k < s.nextConn := hclose.2.2 k rfl
    by_cases hclosed : (s.conns k).closed = true
    · simp [CloseInv, hclosed, Client.closeConn, hclose.1, hclose.2.1]
    · simp [CloseInv, hclosed, Client.closeConn, hclose.1, hclose.2.1, hlt]
  | noConn hc | takenClosed hc hd =>
    rw [hc] at hclose
    exact ⟨hclose.1, hclose.2.1⟩
  | closeSubs hc =>
    rw [hc] at hclose
    exact hclose
  | recvEnds k hk hd =>
    unfold CloseInv
    rw [recvEnded_close]
    cases hs : s.close with
    | closed j =>
      rw [hs] at hclose
      exact ⟨hclose.1, hclose.2.1, hclose.2.2.1, (closed_recvEnded s k j).trans hclose.2.2.2⟩
    | _ =>
      rw [hs] at hclose
      exact hclose
  | setOnConnect hn set => exact hi.close
  | setOnDisconnect hn set => exact hi.close
  | _ => exact closeInv_of_open (hi.close_of_loop (by simp_all))

theorem ConnInv.step_conn (hi : ConnInv s) (h : Step cfg s a t) : ∀ k, t.conn = some k → k < t.nextConn := by
  have hloop := hi.loop
  unfold LoopInv at hloop
  intro k hk
  cases h with
  | dial hl | redial hl =>
    cases hk
    exact Nat.lt_succ_self _
  | setNil hl | takeConn hc hl => cases hk
  | dialAgain hl => exact Nat.lt_succ_of_lt (hi.conn k hk)
  | swap hl hs | swapNil hl hs =>
    rw [hl] at hloop
    cases hk
    exact hloop.2
  | _ => exact hi.conn k hk

theorem Client.Has.frame {k : Nat} (h : s.Has k) (hc : t.conn = s.conn) (hl : t.loop.own = s.loop.own)
    (hs : t.close.own = s.close.own) : t.Has k := by
  unfold Client.Has at h ⊢
  rw [hc, hl, hs]
  exact h

theorem uncalled_of_not_closed (hc : ¬ s.Closed) : s.close = .uncalled := Classical.not_not.mp hc

theorem ConnInv.step_has (hi : ConnInv s) (h : Step cfg s a t) : ∀ k, t.Open k → t.Has k := by
  have hloop := hi.loop
  have hclose := hi.close
  unfold LoopInv at hloop
  unfold CloseInv at hclose
  intro j hj
  cases h with
  | dial hl | redial hl =>
    rw [hl] at hloop
    have hlt : j < s.nextConn + 1 := hj.1
    exact .inl (congrArg some (by omega))
  | dialFails hl =>
    have hown : Loop.own (if cfg.connectRetry then .retrying 0 else .failed) = s.loop.own := by
      rw [hl]
      split <;> rfl
    exact (hi.has j hj).frame rfl hown rfl
  | setNil hl =>
    rw [hl] at hloop
    rcases hi.has j hj with hc | hown | hown
    · exact .inr (.inl (hloop.symm.trans hc))
    · rw [hl] at hown
      cases hown
    · exact .inr (.inr hown)
  | closeConn hl | discard hl =>
    rw [hl] at hloop
    obtain ⟨hne, hopen⟩ := (open_closeConn (s := s)).mp hj
    rcases hi.has j hopen with hc | hown | hown
    · rw [hloop.1] at hc
      cases hc
    · rw [hl] at hown
      exact absurd (Option.some.inj hown).symm hne
    · exact .inr (.inr hown)
  | dialAgain hl =>
    rcases open_dialed hj with rfl | hopen
    · exact .inr (.inl rfl)
    · rcases hi.has j hopen with hc | hown | hown
      · exact .inl hc
      · rw [hl] at hown
        cases hown
      · exact .inr (.inr hown)
  | swap hl hs | swapNil hl hs =>
    rw [hl] at hloop
    rcases hi.has j hj with hc | hown | hown
    · rw [hloop.1] at hc
      cases hc
    · rw [hl] at hown
      exact .inl hown
    · exact .inr (.inr hown)
  | close hn hc | closeInHandler hl hc =>
    exact (hi.has j hj).frame rfl rfl (by simp [uncalled_of_not_closed hc, Closing.own])
  | takeConn hc hl =>
    rcases hi.has j hj with hconn | hown | hown
    · exact .inr (.inr hconn)
    · rw [hl] at hown
      cases hown
    · rw [hc] at hown
      cases hown
  | closeTaken hc =>
    rw [hc] at hclose
    obtain ⟨hne, hopen⟩ := (open_closeConn (s := s)).mp hj
    rcases hi.has j hopen with hconn | hown | hown
    · rw [hclose.2.1] at hconn
      cases hconn
    · rw [hclose.1] at hown
      cases hown
    · rw [hc] at hown
      exact absurd (Option.some.inj hown).symm hne
  | recvEnds k hk hd => exact (hi.has j ⟨hj.1, (closed_recvEnded s k j).symm.trans hj.2⟩).frame rfl rfl rfl
  | _ => exact (hi.has j hj).frame rfl (by simp [*, Loop.own]) (by simp [*, Closing.own])

theorem Client.Awaits.frame {k : Nat} (h : s.Awaits k) (hl : t.loop.awaits = s.loop.awaits)
    (hs : t.close.awaits = s.close.awaits) : t.Awaits k := by
  unfold Client.Awaits at h ⊢
  rw [hl, hs]
  exact h

/-- Whoever closes `k` awaits it, unless it has been closed before. -/
theorem ConnInv.done_closeConn (hi : ConnInv s) {k j : Nat} (hj : j < s.nextConn)
    (hclosed : ((s.closeConn k).conns j).closed = true) :
    j = k ∧ ¬ (s.conns k).closed = true ∨ ((s.closeConn k).conns j).recvDone = true ∨ s.Awaits j := by
  by_cases heq : j = k
  · rw [heq] at hj ⊢
    rw [conns_closeConn]
    by_cases hc : (s.conns k).closed = true
    · exact .inr (hi.done k hj hc)
    · exact .inl ⟨rfl, hc⟩
  · rw [conns_closeConn_ne s heq] at hclosed ⊢
    exact .inr (hi.done j hj hclosed)

theorem ConnInv.step_done (hi : ConnInv s) (h : Step cfg s a t) :
    ∀ k < t.nextConn, (t.conns k).closed = true → (t.conns k).recvDone = true ∨ t.Awaits k := by
  intro j hj hclosed
  cases h with
  | dial hl | redial hl | dialAgain hl =>
    obtain ⟨hlt, hsame⟩ := closed_dialed (s := s) hj hclosed
    have hdone := hi.done j hlt (by rw [← hsame]; exact hclosed)
    rw [← hsame] at hdone
    exact hdone.imp id fun h => h.frame (by simp [hl, Loop.awaits]) rfl
  | dialFails hl =>
    have hawaits : Loop.awaits (if cfg.connectRetry then .retrying 0 else .failed) = s.loop.awaits := by
      rw [hl]
      split <;> rfl
    exact (hi.done j hj hclosed).imp id fun h => h.frame hawaits rfl
  | closeConn hl | discard hl =>
    rcases hi.done_closeConn hj hclosed with ⟨rfl, hopen⟩ | hdone | hawaits | hawaits
    · exact .inr (.inl (by rw [if_neg hopen]; rfl))
    · exact .inl hdone
    · rw [hl] at hawaits
      cases hawaits
    · exact .inr (.inr hawaits)
  | connClosed hl hd | discarded hl hd =>
    rcases hi.done j hj hclosed with hdone | hawaits | hawaits
    · exact .inl hdone
    · rw [hl] at hawaits
      cases hawaits
      exact .inl hd
    · exact .inr (.inr hawaits)
  | closeTaken hc =>
    rcases hi.done_closeConn hj hclosed with ⟨rfl, hopen⟩ | hdone | hawaits | hawaits
    · exact .inr (.inr (by rw [if_neg hopen]; rfl))
    · exact .inl hdone
    · exact .inr (.inl hawaits)
    · rw [hc] at hawaits
      cases hawaits
  | takenClosed hc hd =>
    rcases hi.done j hj hclosed with hdone | hawaits | hawaits
    · exact .inl hdone
    · exact .inr (.inl hawaits)
    · rw [hc] at hawaits
      cases hawaits
      exact .inl hd
  | close hn hc | closeInHandler hl hc =>
    exact (hi.done j hj hclosed).imp id fun h => h.frame rfl (by simp [uncalled_of_not_closed hc, Closing.awaits])
  | recvEnds k hk hd =>
    by_cases heq : j = k
    · exact .inl (by rw [heq, conns_recvEnded])
    · rw [conns_recvEnded_ne s heq] at hclosed ⊢
      exact (hi.done j hj hclosed).imp id fun h => h.frame rfl rfl
  | _ => exact (hi.done j hj hclosed).imp id fun h => h.frame (by simp [*, Loop.awaits]) (by simp [*, Closing.awaits])

theorem ConnInv.step (hi : ConnInv s) (h : Step cfg s a t) : ConnInv t where
  loop := hi.step_loop h
  close := hi.step_close h
  conn := hi.step_conn h
  has := hi.step_has h
  done := hi.step_done h

theorem connInv_of_reachable (h : Runs.Reachable (Step cfg) Client.new s) : ConnInv s :=
  h.invariant connInv_new fun _ _ _ hi hstep => hi.step hstep

/-- `watchLoop` has ended and `Close` has returned, or there was nothing for it to close. -/
def Client.Over (s : Client) : Prop :=
  s.loop = .failed ∨ s.loop = .ended ∧ (s.close = .returned ∨ s.conn = none ∧ s.close = .uncalled)

theorem ConnInv.one_open (hi : ConnInv s) {k k' : Nat} (hk : s.Open k) (hk' : s.Open k') : k = k' := by
  have hhas := hi.has k hk
  have hhas' := hi.has k' hk'
  have hloop := hi.loop
  have hclose := hi.close
  unfold LoopInv at hloop
  unfold CloseInv at hclose
  unfold Client.Has at hhas hhas'
  -- each of the three has it only while the other two have none
  cases hl : s.loop <;> cases hc : s.close <;> simp_all [Loop.own, Closing.own]

theorem ConnInv.all_closed (hi : ConnInv s) (h : s.Over) {k : Nat} (hk : k < s.nextConn) :
    (s.conns k).closed = true ∧ (s.conns k).recvDone = true := by
  have hloop := hi.loop
  have hclose := hi.close
  unfold LoopInv at hloop
  unfold CloseInv at hclose
  have hclosed : (s.conns k).closed = true := by
    by_contra hopen
    have hhas := hi.has k ⟨hk, by simpa using hopen⟩
    unfold Client.Has at hhas
    rcases h with h | ⟨h, hr | ⟨hn, hu⟩⟩
    · simp_all [Loop.own, Closing.own]
    · simp_all [Loop.own, Closing.own]
    · simp_all [Loop.own, Closing.own]
  refine ⟨hclosed, (hi.done k hk hclosed).resolve_right fun hawaits => ?_⟩
  unfold Client.Awaits at hawaits
  rcases h with h | ⟨h, hr | ⟨hn, hu⟩⟩
  · simp_all [Loop.awaits, Closing.awaits]
  · simp_all [Loop.awaits, Closing.awaits]
  · simp_all [Loop.awaits, Closing.awaits]

/-- **No connection is left behind.** At any time at most one connection is open, and somebody has it; when the client is
through, every connection that was dialed is closed and its `recvLoop` has ended. -/
theorem connections_accounted {tr : List (Action × Client)} (hrun : Runs.Run (Step cfg) Client.new tr) :
    Runs.Always (fun s => (∀ k, s.Open k → s.Has k ∧ ∀ k', s.Open k' → k' = k) ∧
      (s.Over → ∀ k < s.nextConn, (s.conns k).closed = true ∧ (s.conns k).recvDone = true)) Client.new tr :=
  hrun.reachable.mono fun _ hreach =>
    have hi := connInv_of_reachable hreach
    ⟨fun k hk => ⟨hi.has k hk, fun _ hk' => hi.one_open hk' hk⟩, fun h _ hk => hi.all_closed h hk⟩

/-- The first connection is lost, the next one is open until `Close`; then there are two, and both are closed. -/
theorem connections_accounted_closed :
    let s₁ : Client := Client.recvEnded 0 { Client.new.dialed with conn := some 0, loop := .watching 0 }
    let s₂ : Client := Client.closeConn 0 { s₁.lost with conn := none, loop := .closed 0 }
    let s₃ : Client := { { s₂ with loop := .waiting 0 }.attempt with loop := .dialingAgain 1 }
    let s₄ : Client := Client.swapped 1 { s₃.dialed with loop := .reading }
    let s₅ : Client := Client.closeConn 1 { s₄ with conn := none, loop := .ended, close := .closed 1 }
    let t : Client := { s₅.recvEnded 1 with close := .returned }
    (s₄.Open 1 ∧ ∀ k, s₄.Open k → k = 1) ∧
      t.Over ∧ t.nextConn = 2 ∧ ∀ k < 2, (t.conns k).closed = true ∧ (t.conns k).recvDone = true := by
  intro s₁ s₂ s₃ s₄ s₅ t
  have hmore : ¬ Config.ReconnectsOver ⟨-1, false⟩ 0 := by simp [Config.ReconnectsOver]
  let tr : List (Action × Client) :=
    [(.loop, { Client.new.dialed with conn := some 0, loop := .reading }),
      (.loop, { Client.new.dialed with conn := some 0, loop := .watching 0 }), (.recvEnds 0, s₁),
      (.loop, { s₁.lost with loop := .clearing 0 }), (.loop, { s₁.lost with conn := none, loop := .closing 0 }),
      (.loop, s₂), (.loop, { s₂ with loop := .checking 0 }), (.loop, { s₂ with loop := .waiting 0 }), (.loop, s₃),
      (.loop, { s₃.dialed with loop := .restoring 1 1 }), (.loop, { s₃.dialed with loop := .swapping 1 }), (.loop, s₄),
      (.close, { s₄ with close := .waiting }), (.loop, { s₄ with loop := .watching 1, close := .waiting }),
      (.loop, { s₄ with loop := .ended, close := .waiting }),
      (.closing, { s₄ with conn := none, loop := .ended, close := .closing (some 1) }), (.closing, s₅),
      (.recvEnds 1, s₅.recvEnded 1), (.closing, { s₅.recvEnded 1 with close := .unsubscribing }), (.closing, t)]
  have hrun : Runs.Run (Step ⟨-1, false⟩) Client.new tr :=
    .cons (.dial rfl) <| .cons (.readConn rfl rfl) <| .cons (.recvEnds 0 Nat.zero_lt_one rfl) <|
      .cons (.seeLostNil rfl rfl rfl) <| .cons (.setNil rfl) <| .cons (.closeConn rfl) <|
      .cons (.connClosed rfl rfl) <| .cons (.check rfl (fun hc => hc rfl) hmore) <| .cons (.reconnect (a := 0) rfl) <|
      .cons (.dialAgain rfl) <| .cons (.restored rfl) <| .cons (.swapNil rfl rfl) <|
      .cons (.close (by decide) fun hc => hc rfl) <| .cons (.readConn rfl rfl) <|
      .cons (.seeClosed rfl nofun) <| .cons (.takeConn rfl rfl) <| .cons (.closeTaken rfl) <|
      .cons (.recvEnds 1 (by decide) rfl) <| .cons (.takenClosed rfl rfl) <| .cons (.closeSubs rfl) <| .nil _
  have hall := (connections_accounted hrun).2
  have hopen : s₄.Open 1 := ⟨by decide, rfl⟩
  have hover : t.Over := .inr ⟨rfl, .inl rfl⟩
  have hone := ((hall (.loop, s₄) (by simp [tr])).1 1 hopen).2
  exact ⟨⟨hopen, hone⟩, hover, rfl, (hall (.closing, t) (by simp [tr])).2 hover⟩

/-! ## Dials and handlers -/

/-- A loss first, then by turns. -/
def eventAt (i : Nat) : Event := if i % 2 = 0 then .disconnect else .connect

def Alternate (events : List Event) : Prop := events = (List.range events.length).map eventAt

/-- From a loss to the new connection. -/
def Loop.lost : Loop → Bool
  | .disconnected _ => true
  | .clearing _ => true
  | .closing _ => true
  | .closed _ => true
  | .checking _ => true
  | .waiting _ => true
  | .dialingAgain _ => true
  | .restoring _ _ => true
  | .discarding _ _ => true
  | .discarded _ _ => true
  | .swapping _ => true
  | _ => false

structure EventInv (s : Client) : Prop where
  alternate : Alternate s.events
  turn : s.loop ≠ .ended → (s.events.length % 2 = 1 ↔ s.loop.lost = true)

theorem eventInv_new : EventInv Client.new where
  alternate := rfl
  turn _ := by simp [Client.new, Loop.lost]

theorem Alternate.append {events : List Event} {e : Event} (h : Alternate events) (he : e = eventAt events.length) :
    Alternate (events ++ [e]) := by
  unfold Alternate at h ⊢
  rw [List.length_append, List.length_singleton, List.range_succ, List.map_append, ← h, he]
  rfl

theorem EventInv.step (hi : EventInv s) (h : Step cfg s a t) : EventInv t := by
  obtain ⟨halt, hturn⟩ := hi
  cases h with
  | seeLost hl hd hs | seeLostNil hl hd hs =>
    have heven : s.events.length % 2 = 0 := by simpa [hl, Loop.lost] using hturn
    exact ⟨halt.append (by simp [eventAt, heven]), fun _ => by simp [Client.lost, Loop.lost]; omega⟩
  | swap hl hs | swapNil hl hs =>
    have hodd : s.events.length % 2 = 1 := by simpa [hl, Loop.lost] using hturn
    exact ⟨halt.append (by simp [eventAt, hodd]), fun _ => by simp [Client.swapped, Loop.lost]; omega⟩
  | recvEnds k hk hd => exact ⟨halt, hturn⟩
  | setOnConnect hn set => exact ⟨halt, hturn⟩
  | setOnDisconnect hn set => exact ⟨halt, hturn⟩
  | _ =>
    refine ⟨halt, ?_⟩
    simp_all [Loop.lost, Client.dialed, Client.attempt, Client.closeConn] <;> grind [Loop.lost]

/-- How often `NewClient` or `watchLoop` has dialed, where the loop counts it. -/
def Client.Attempts (s : Client) (cfg : Config) : Prop :=
  match s.loop with
  | .dialing => s.dials = 1 ∧ s.events = []
  | .retrying a => s.dials = a + 1 ∧ s.events = [] ∧ cfg.connectRetry = true
  | .redialing a => s.dials = a + 1 ∧ s.events = [] ∧ cfg.connectRetry = true
  | .disconnected _ | .clearing _ | .closing _ | .closed _ => s.dials = 0
  | .checking a => s.dials = a
  | .waiting a => s.dials = a ∧ ¬ cfg.ReconnectsOver a
  | .dialingAgain a => s.dials = a
  | .restoring a _ => s.dials = a
  | .discarding a _ => s.dials = a
  | .discarded a _ => s.dials = a
  | _ => True

/-- `maxReconnects` dials after each loss, and one more in `NewClient`. -/
def Client.WithinLimit (s : Client) (cfg : Config) : Prop :=
  (0 ≤ cfg.maxReconnects → s.dials ≤ cfg.maxReconnects + if s.events = [] then 1 else 0) ∧
    (cfg.connectRetry = false → s.events = [] → s.dials = 1)

structure DialInv (cfg : Config) (s : Client) : Prop where
  attempts : s.Attempts cfg
  limit : s.WithinLimit cfg
  heard : s.loop.lost = true → s.events ≠ []
  early : ¬ s.Closed → s.lateDials = 0
  waiting : (∃ a, s.loop = .waiting a) → s.lateDials = 0
  once : s.lateDials ≤ 1

theorem dialInv_new (cfg : Config) : DialInv cfg Client.new where
  attempts := ⟨rfl, rfl⟩
  limit := ⟨fun h => by simp [Client.new]; omega, fun _ _ => rfl⟩
  heard h := by cases h
  early _ := rfl
  waiting _ := rfl
  once := Nat.zero_le 1

theorem DialInv.step_attempts (hi : DialInv cfg s) (h : Step cfg s a t) : t.Attempts cfg := by
  have hattempts := hi.attempts
  unfold Client.Attempts at hattempts ⊢
  cases h with
  | dialFails hl =>
    rw [hl] at hattempts
    cases hretry : cfg.connectRetry with
    | false => trivial
    | true => exact ⟨by simp [hattempts.1], hattempts.2, rfl⟩
  | @closeConn k hl =>
    rw [hl] at hattempts
    by_cases hc : (s.conns k).closed = true
    · simpa [hc, Client.closeConn] using hattempts
    · simpa [hc, Client.closeConn] using hattempts
  | @discard a k hl =>
    rw [hl] at hattempts
    by_cases hc : (s.conns k).closed = true
    · simpa [hc, Client.closeConn] using hattempts
    · simpa [hc, Client.closeConn] using hattempts
  | recvEnds k hk hd => exact hattempts
  | setOnConnect hn set => exact hattempts
  | setOnDisconnect hn set => exact hattempts
  | closeTaken hc => exact hattempts
  | _ => simp_all [Client.dialed, Client.attempt, Client.lost]

theorem DialInv.step_limit (hi : DialInv cfg s) (h : Step cfg s a t) : t.WithinLimit cfg := by
  have hattempts := hi.attempts
  obtain ⟨hlimit, hsingle⟩ := hi.limit
  have hheard := hi.heard
  unfold Client.Attempts at hattempts
  cases h with
  | retry hl ho =>
    rw [hl] at hattempts
    obtain ⟨hdials, hevents, hretry⟩ := hattempts
    unfold Config.RetriesOver at ho
    refine ⟨fun hmax => ?_, fun hno => by simp [hretry] at hno⟩
    simp [Client.attempt, hevents]
    omega
  | reconnect hl =>
    rw [hl] at hattempts
    obtain ⟨hdials, hover⟩ := hattempts
    unfold Config.ReconnectsOver at hover
    have hevents : s.events ≠ [] := hheard (by rw [hl]; rfl)
    refine ⟨fun hmax => ?_, fun _ hno => absurd hno hevents⟩
    simp [Client.attempt, hevents]
    omega
  | seeLost hl hd hs | seeLostNil hl hd hs =>
    exact ⟨fun hmax => by simp [Client.lost]; omega, fun _ h => by simp [Client.lost] at h⟩
  | swap hl hs | swapNil hl hs =>
    have hevents : s.events ≠ [] := hheard (by rw [hl]; rfl)
    exact ⟨fun hmax => by simpa [Client.swapped, hevents] using hlimit hmax, fun _ h => by simp [Client.swapped] at h⟩
  | _ => exact ⟨hlimit, hsingle⟩

theorem DialInv.step_heard (hi : DialInv cfg s) (h : Step cfg s a t) : t.loop.lost = true → t.events ≠ [] := by
  have hheard := hi.heard
  cases h with
  | dialFails hl => cases hretry : cfg.connectRetry <;> simp [Loop.lost]
  | seeLost hl hd hs | seeLostNil hl hd hs => exact fun _ => by simp [Client.lost]
  | recvEnds k hk hd => exact hheard
  | _ => simp_all [Loop.lost, Client.dialed, Client.attempt, Client.closeConn]

/-- A dial of `reconnect` comes after a wait, and no wait begins once `c.closed` is closed. -/
theorem closed_step (hc : s.Closed) (h : Step cfg s a t) : t.Closed := by
  cases h with
  | close hn hc' | closeInHandler hl hc' => exact nofun
  | closeTaken hk =>
    unfold Client.Closed
    dsimp only
    split <;> exact nofun
  | takeConn hw hl | noConn hk | takenClosed hk hd | closeSubs hk => exact nofun
  | _ => exact hc

theorem Client.attempt_lateDials (s : Client) (h : s.lateDials = 0) :
    (¬ s.Closed → s.attempt.lateDials = 0) ∧ s.attempt.lateDials ≤ 1 := by
  unfold Client.attempt
  by_cases hc : s.Closed
  · simp [h, hc]
  · simp [h, hc]

theorem DialInv.step_late (hi : DialInv cfg s) (hconn : ConnInv s) (h : Step cfg s a t) :
    (¬ t.Closed → t.lateDials = 0) ∧ ((∃ a, t.loop = .waiting a) → t.lateDials = 0) ∧ t.lateDials ≤ 1 := by
  have hloop := hconn.loop
  have hclosed : s.Closed → t.Closed := fun hc => closed_step hc h
  unfold LoopInv at hloop
  cases h with
  | retry hl ho =>
    rw [hl] at hloop
    have hlate := s.attempt_lateDials (hi.early fun hc => hc hloop.2.2)
    exact ⟨hlate.1, by simp, hlate.2⟩
  | check hl hc ho => exact ⟨hi.early, fun _ => hi.early hc, hi.once⟩
  | reconnect hl =>
    have hlate := s.attempt_lateDials (hi.waiting ⟨_, hl⟩)
    exact ⟨hlate.1, by simp, hlate.2⟩
  | close hn hc | closeInHandler hl hc =>
    exact ⟨fun hn => absurd (by simp [Client.Closed]) hn, hi.waiting, hi.once⟩
  | closeAgain hc | recvEnds k hk hd | setOnConnect hn set | setOnDisconnect hn set =>
    exact ⟨hi.early, hi.waiting, hi.once⟩
  | takeConn hc hl | closeTaken hc | noConn hc | takenClosed hc hd | closeSubs hc =>
    exact ⟨fun hn => absurd (hclosed (by simp [Client.Closed, hc])) hn, hi.waiting, hi.once⟩
  | dialFails hl | closeConn hl | discard hl =>
    refine ⟨hi.early, fun ⟨b, hb⟩ => ?_, hi.once⟩
    dsimp only at hb
    split at hb <;> cases hb
  | _ => exact ⟨hi.early, by simp, hi.once⟩

theorem DialInv.step (hi : DialInv cfg s) (hconn : ConnInv s) (h : Step cfg s a t) : DialInv cfg t :=
  have hlate := hi.step_late hconn h
  { attempts := hi.step_attempts h
    limit := hi.step_limit h
    heard := hi.step_heard h
    early := hlate.1
    waiting := hlate.2.1
    once := hlate.2.2 }

/-- Both handlers are registered. -/
def Client.Handled (s : Client) : Prop := s.onConnect = true ∧ s.onDisconnect = true

theorem calls_sublist_step (hi : s.calls.Sublist s.events) (h : Step cfg s a t) : t.calls.Sublist t.events := by
  cases h with
  | seeLost hl hd hs | swap hl hs => exact hi.append (.refl _)
  | seeLostNil hl hd hs | swapNil hl hs => exact hi.trans (List.sublist_append_left _ _)
  | _ => exact hi

theorem calls_step (hi : s.calls = s.events) (h : Step cfg s a t) (hset : t.events ≠ [] → t.Handled) :
    t.calls = t.events := by
  cases h with
  | seeLost hl hd hs | swap hl hs => exact congrArg (· ++ _) hi
  | seeLostNil hl hd hs =>
    have hon := (hset (by simp [Client.lost])).2
    exact absurd (hs.symm.trans hon) nofun
  | swapNil hl hs =>
    have hon := (hset (by simp [Client.swapped])).1
    exact absurd (hs.symm.trans hon) nofun
  | _ => exact hi

/-- **Dials are bounded.** `NewClient` dials once, or if it may retry at most `maxReconnects` times more; `watchLoop` dials
at most `maxReconnects` times after each loss; and at most one dial comes after `Close` is called. Losses and new
connections come by turns, with at most a call each; and with both handlers from the first loss on, a call for each. -/
theorem dials_bounded {tr : List (Action × Client)} (hrun : Runs.Run (Step cfg) Client.new tr) :
    Runs.Always (fun s => s.WithinLimit cfg ∧ s.lateDials ≤ 1 ∧ Alternate s.events ∧ s.calls.Sublist s.events)
        Client.new tr ∧
      (Runs.Always (fun s => s.events ≠ [] → s.Handled) Client.new tr →
        Runs.Always (fun s => s.calls = s.events ∧ Alternate s.calls) Client.new tr) := by
  have hinv : Runs.Always (fun s => s.WithinLimit cfg ∧ s.lateDials ≤ 1 ∧ Alternate s.events ∧
      s.calls.Sublist s.events) Client.new tr := by
    refine hrun.reachable.mono fun s hreach => ?_
    obtain ⟨-, hdial, hevent, hcalls⟩ := hreach.invariant
      (I := fun s => ConnInv s ∧ DialInv cfg s ∧ EventInv s ∧ s.calls.Sublist s.events)
      ⟨connInv_new, dialInv_new cfg, eventInv_new, .refl _⟩ fun _ _ _ hi hstep =>
        ⟨hi.1.step hstep, hi.2.1.step hi.1 hstep, hi.2.2.1.step hstep, calls_sublist_step hi.2.2.2 hstep⟩
    exact ⟨hdial.limit, hdial.once, hevent.alternate, hcalls⟩
  refine ⟨hinv, fun hset => ?_⟩
  have hcalls := hrun.always_of_always (I := fun s => s.calls = s.events) rfl hset
    fun _ _ _ hi hstep => calls_step hi hstep
  exact (hcalls.and hinv).mono fun s h => ⟨h.1, h.1 ▸ h.2.2.2.1⟩

/-- `NewClient` may retry once and does; both handlers are set, and the connection is lost. -/
theorem dials_bounded_retry :
    let s₁ : Client := { { Client.new with loop := .retrying 0 }.attempt with loop := .redialing 1 }
    let s₂ : Client := { s₁.dialed with conn := some 0, loop := .watching 0, onConnect := true, onDisconnect := true }
    let t : Client := { (s₂.recvEnded 0).lost with loop := .disconnected 0, calls := [.disconnect] }
    s₁.dials = 2 ∧ s₁.WithinLimit ⟨1, true⟩ ∧ t.WithinLimit ⟨1, true⟩ ∧ Alternate t.calls := by
  intro s₁ s₂ t
  have hmore : ¬ Config.RetriesOver ⟨1, true⟩ 0 := by simp [Config.RetriesOver]
  let tr : List (Action × Client) :=
    [(.loop, { Client.new with loop := .retrying 0 }), (.loop, s₁),
      (.loop, { s₁.dialed with conn := some 0, loop := .reading }),
      (.onConnect true, { s₁.dialed with conn := some 0, loop := .reading, onConnect := true }),
      (.onDisconnect true, { s₂ with loop := .reading }), (.loop, s₂), (.recvEnds 0, s₂.recvEnded 0), (.loop, t)]
  have hrun : Runs.Run (Step ⟨1, true⟩) Client.new tr :=
    .cons (.dialFails rfl) <| .cons (.retry rfl hmore) <| .cons (.redial rfl) <|
      .cons (.setOnConnect Nat.one_ne_zero true) <| .cons (.setOnDisconnect Nat.one_ne_zero true) <|
      .cons (.readConn rfl rfl) <| .cons (.recvEnds 0 Nat.zero_lt_one rfl) <| .cons (.seeLost rfl rfl rfl) <| .nil _
  obtain ⟨hlimit, hcalls⟩ := dials_bounded hrun
  have hset : Runs.Always (fun s => s.events ≠ [] → s.Handled) Client.new tr := by
    simp [Runs.Always, tr, Client.Handled, t, s₁, s₂, Client.new, Client.lost, Client.attempt, Client.dialed,
      Client.recvEnded]
  have ht : (Action.loop, t) ∈ tr := by simp [tr]
  exact ⟨rfl, (hlimit.2 (.loop, s₁) (by simp [tr])).1, (hlimit.2 _ ht).1, ((hcalls hset).2 _ ht).2⟩

/-! ## The end of `Close` -/

/-- A step of `watchLoop` or of `Close`. -/
def Action.own : Action → Bool
  | .loop => true
  | .closing => true
  | _ => false

/-- What comes about by itself: a goroutine goes on, and `recvLoop` ends when its connection is closed. -/
def Client.Due (s : Client) : Action → Prop
  | .loop => True
  | .closing => True
  | .recvEnds k => (s.conns k).closed = true
  | .close | .onConnect _ | .onDisconnect _ => False

/-- The `Close` of a handler waits for `watchLoop`, which waits for the handler. -/
structure StuckInHandler (s : Client) : Prop where
  close : s.close = .waiting
  loop : s.loop = .connected ∨ ∃ k, s.loop = .disconnected k

def HandlerInv (s : Client) : Prop := s.inHandler = true → StuckInHandler s

theorem HandlerInv.step (hi : HandlerInv s) (h : Step cfg s a t) : HandlerInv t := by
  intro hin
  cases h with
  | closeInHandler hl hc => exact ⟨rfl, hl⟩
  | closeAgain hc => exact hi hin
  | recvEnds k hk hd | setOnConnect hn set | setOnDisconnect hn set => exact ⟨(hi hin).close, (hi hin).loop⟩
  | close hn hc => exact absurd (hi hin).close fun hw => hc (by simp [Client.Closed, hw])
  | onDisconnectReturns hl hh => exact absurd ((hi hin).close.symm.trans (hh hin)) (by decide)
  | onConnectReturns hl hh => exact absurd ((hi hin).close.symm.trans (hh hin)) (by decide)
  | _ =>
    obtain ⟨hw, hplace⟩ := hi hin
    simp_all

end

end DdsBridge.GoLifecycle
