import DdsBridge.Wire
import DdsBridge.Lib.Runs
import Mathlib.Data.List.Nodup
import Mathlib.Logic.Function.Basic

/-!
# The accept loop

`src/ws/server.rs`: `start` with the tasks it spawns, and the peers. What happens between two awaits, or between
two operations on `active_connections`, is one step: the limit is checked as soon as `accept` is back, but the
counter is raised only after the `peek`.
-/

namespace DdsBridge.AcceptLoop

/-! ## The server and its peers -/

/-- What the peer has sent and nobody has read, and whether a read comes back without more (end of stream or an
error). -/
structure Peer where
  unread : Bytes
  ended : Bool

/-- `read` or `peek` would wait. -/
def Peer.Silent (p : Peer) : Prop := p.unread = [] ∧ p.ended = false

/-- `buf[..11] == b"GET /health"` for the bytes peeked. -/
def Peer.IsHealth (p : Peer) : Prop := p.unread.take 11 = utf8 "GET /health"

inductive Loop where
  | selecting
  | peeking (c : Nat)
  /-- `stream.read(&mut discard)` -/
  | draining (c : Nat)
  /-- `stream.write_all(HEALTH_RESPONSE)` -/
  | responding (c : Nat)
  | spawning (c : Nat)
  | done
  deriving DecidableEq, Repr

inductive Task where
  /-- `accept_async(stream)` -/
  | handshaking (c : Nat)
  /-- `session::run_session` -/
  | session (c : Nat)
  deriving DecidableEq, Repr

/-- Connections have numbers below `nextConn`; `pending` are those that `accept` has not returned. -/
structure Server where
  activeConnections : UInt64
  loop : Loop
  tasks : List Task
  pending : List Nat
  peers : Nat → Peer
  nextConn : Nat
  shutdown : Bool

namespace Server

def start : Server where
  activeConnections := 0
  loop := .selecting
  tasks := []
  pending := []
  peers _ := ⟨[], false⟩
  nextConn := 0
  shutdown := false

def setPeer (c : Nat) (p : Peer) (s : Server) : Server := { s with peers := Function.update s.peers c p }

/-- `conns.fetch_sub(1)`, the last thing a task does. -/
def endTask (task : Task) (s : Server) : Server :=
  { s with activeConnections := s.activeConnections - 1, tasks := s.tasks.erase task }

end Server

inductive Action where
  | connect
  | send (c : Nat) (bytes : Bytes)
  | close (c : Nat)
  | reset (c : Nat)
  | signal
  | acceptFailed
  | reject (c : Nat)
  | accept (c : Nat)
  | shutDown
  | peek (c : Nat)
  | drain (c : Nat)
  | respond (c : Nat)
  | spawn (c : Nat)
  | handshakeOk (c : Nat)
  | handshakeFailed (c : Nat)
  | sessionEnds (c : Nat)

open Server

inductive Step (maxConnections : UInt64) : Server → Action → Server → Prop
  -- the peers, and whoever asks for the shutdown
  | connect {s} :
      Step maxConnections s .connect { s with pending := s.pending ++ [s.nextConn], nextConn := s.nextConn + 1 }
  | send {s} (c : Nat) (bytes : Bytes) (ho : (s.peers c).ended = false) :
      Step maxConnections s (.send c bytes) (s.setPeer c ⟨(s.peers c).unread ++ bytes, false⟩)
  | close {s} (c : Nat) : Step maxConnections s (.close c) (s.setPeer c ⟨(s.peers c).unread, true⟩)
  | reset {s} (c : Nat) : Step maxConnections s (.reset c) (s.setPeer c ⟨[], true⟩)
  | signal {s} : Step maxConnections s .signal { s with shutdown := true }
  -- the arms of `select!`
  | acceptFailed {s} (hl : s.loop = .selecting) : Step maxConnections s .acceptFailed s
  | reject {s c pending} (hl : s.loop = .selecting) (hp : s.pending = c :: pending)
      (hc : s.activeConnections ≥ maxConnections) :
      Step maxConnections s (.reject c) { s with pending }
  | accept {s c pending} (hl : s.loop = .selecting) (hp : s.pending = c :: pending)
      (hc : s.activeConnections < maxConnections) :
      Step maxConnections s (.accept c) { s with pending, loop := .peeking c }
  | shutDown {s} (hl : s.loop = .selecting) (hs : s.shutdown = true) :
      Step maxConnections s .shutDown { s with loop := .done }
  -- the rest of the accept arm
  | peekHealth {s c} (hl : s.loop = .peeking c) (hp : ¬ (s.peers c).Silent) (hh : (s.peers c).IsHealth) :
      Step maxConnections s (.peek c) { s with loop := .draining c }
  | peekOther {s c} (hl : s.loop = .peeking c) (hp : ¬ (s.peers c).Silent) (hh : ¬ (s.peers c).IsHealth) :
      Step maxConnections s (.peek c) { s with loop := .spawning c }
  | drain {s c} (hl : s.loop = .draining c) (hp : ¬ (s.peers c).Silent) :
      Step maxConnections s (.drain c)
        { s.setPeer c ⟨(s.peers c).unread.drop 512, (s.peers c).ended⟩ with loop := .responding c }
  /-- The response fits the empty send buffer of the socket. -/
  | respond {s c} (hl : s.loop = .responding c) : Step maxConnections s (.respond c) { s with loop := .selecting }
  | spawn {s c} (hl : s.loop = .spawning c) :
      Step maxConnections s (.spawn c) { s with
        activeConnections := s.activeConnections + 1
        tasks := .handshaking c :: s.tasks
        loop := .selecting }
  -- the tasks
  | handshakeOk {s} (c : Nat) (ht : .handshaking c ∈ s.tasks) :
      Step maxConnections s (.handshakeOk c) { s with tasks := .session c :: s.tasks.erase (.handshaking c) }
  | handshakeFailed {s} (c : Nat) (ht : .handshaking c ∈ s.tasks) :
      Step maxConnections s (.handshakeFailed c) (s.endTask (.handshaking c))
  | sessionEnds {s} (c : Nat) (ht : .session c ∈ s.tasks) :
      Step maxConnections s (.sessionEnds c) (s.endTask (.session c))

/-! ## The counter -/

/-- The loop is past the check of the limit and has not spawned yet. -/
def Loop.admitting : Loop → Bool
  | .peeking _ | .draining _ | .responding _ | .spawning _ => true
  | _ => false

/-- While one connection is admitted there is room for its task: other tasks only end. -/
structure CounterInv (maxConnections : UInt64) (s : Server) : Prop where
  exact : s.activeConnections.toNat = s.tasks.length
  bounded : s.tasks.length ≤ maxConnections.toNat
  room : s.loop.admitting = true → s.tasks.length < maxConnections.toNat

section
variable {maxConnections : UInt64} {s t : Server} {action : Action}

theorem counterInv_start : CounterInv maxConnections .start where
  exact := rfl
  bounded := Nat.zero_le _
  room h := by cases h

theorem CounterInv.sameTasks (hi : CounterInv maxConnections s) (hcount : t.activeConnections = s.activeConnections)
    (htasks : t.tasks.length = s.tasks.length) (hloop : t.loop.admitting = true → s.loop.admitting = true) :
    CounterInv maxConnections t where
  exact := by rw [hcount, htasks, hi.exact]
  bounded := htasks ▸ hi.bounded
  room h := htasks ▸ hi.room (hloop h)

theorem CounterInv.spawn_count (hi : CounterInv maxConnections s) (h : s.loop.admitting = true) :
    (s.activeConnections + 1).toNat = s.activeConnections.toNat + 1 := by
  have hroom := hi.room h
  have hmax := maxConnections.toNat_lt
  rw [UInt64.toNat_add, hi.exact]
  exact Nat.mod_eq_of_lt (Nat.lt_of_le_of_lt hroom hmax)

/-- `fetch_sub` does not go below zero: the task that calls it was counted. -/
theorem CounterInv.end_count (hi : CounterInv maxConnections s) {task : Task} (h : task ∈ s.tasks) :
    (s.activeConnections - 1).toNat + 1 = s.activeConnections.toNat := by
  have hpos := List.length_pos_of_mem h
  have hle : (1 : UInt64) ≤ s.activeConnections := by
    rw [UInt64.le_iff_toNat_le, hi.exact]
    exact hpos
  rw [UInt64.toNat_sub_of_le _ _ hle, hi.exact]
  exact Nat.sub_add_cancel hpos

theorem CounterInv.endTask (hi : CounterInv maxConnections s) {task : Task} (h : task ∈ s.tasks) :
    CounterInv maxConnections (s.endTask task) := by
  have hlen : (s.tasks.erase task).length + 1 = s.tasks.length := List.length_erase_add_one h
  have hcount := hi.end_count h
  have hexact := hi.exact
  have hbounded := hi.bounded
  refine ⟨?_, ?_, fun hl => ?_⟩
  · change (s.activeConnections - 1).toNat = (s.tasks.erase task).length
    omega
  · change (s.tasks.erase task).length ≤ maxConnections.toNat
    omega
  · have hroom := hi.room hl
    change (s.tasks.erase task).length < maxConnections.toNat
    omega

theorem step_counterInv (hi : CounterInv maxConnections s) (h : Step maxConnections s action t) :
    CounterInv maxConnections t := by
  cases h with
  | connect => exact hi.sameTasks rfl rfl id
  | send => exact hi.sameTasks rfl rfl id
  | close => exact hi.sameTasks rfl rfl id
  | reset => exact hi.sameTasks rfl rfl id
  | signal => exact hi.sameTasks rfl rfl id
  | acceptFailed => exact hi
  | reject => exact hi.sameTasks rfl rfl id
  | accept hl hp hc =>
    refine ⟨hi.exact, hi.bounded, fun _ => ?_⟩
    rw [UInt64.lt_iff_toNat_lt, hi.exact] at hc
    exact hc
  | shutDown => exact hi.sameTasks rfl rfl nofun
  | peekHealth hl => exact hi.sameTasks rfl rfl fun _ => by rw [hl]; rfl
  | peekOther hl => exact hi.sameTasks rfl rfl fun _ => by rw [hl]; rfl
  | drain hl => exact hi.sameTasks rfl rfl fun _ => by rw [hl]; rfl
  | respond => exact hi.sameTasks rfl rfl nofun
  | spawn hl =>
    have hadmitting : s.loop.admitting = true := by rw [hl]; rfl
    have hroom := hi.room hadmitting
    refine ⟨?_, hroom, nofun⟩
    change (s.activeConnections + 1).toNat = s.tasks.length + 1
    rw [hi.spawn_count hadmitting, hi.exact]
  | handshakeOk c ht =>
    have hlen : (s.tasks.erase (.handshaking c)).length + 1 = s.tasks.length := List.length_erase_add_one ht
    exact hi.sameTasks rfl hlen id
  | handshakeFailed c ht => exact hi.endTask ht
  | sessionEnds c ht => exact hi.endTask ht

theorem reachable_counterInv (h : Runs.Reachable (Step maxConnections) .start s) : CounterInv maxConnections s :=
  h.invariant counterInv_start fun _ _ _ => step_counterInv

/-! ## Who is rejected -/

structure PendingInv (s : Server) : Prop where
  nodup : s.pending.Nodup
  made : ∀ c ∈ s.pending, c < s.nextConn

theorem pendingInv_start : PendingInv .start where
  nodup := List.nodup_nil
  made c h := by cases h

theorem PendingInv.tail (hi : PendingInv s) {c : Nat} (h : s.pending = c :: t.pending)
    (hnext : t.nextConn = s.nextConn) : PendingInv t where
  nodup := (List.nodup_cons.mp (h ▸ hi.nodup)).2
  made c' hc' := hnext ▸ hi.made c' (h ▸ List.mem_cons_of_mem _ hc')

/-- A step leaves the queue of pending connections, appends a new one, or takes the first. -/
theorem step_pending (h : Step maxConnections s action t) :
    (t.pending = s.pending ∧ t.nextConn = s.nextConn) ∨
      (t.pending = s.pending ++ [s.nextConn] ∧ t.nextConn = s.nextConn + 1) ∨
      ∃ c, (action = .reject c ∨ action = .accept c) ∧ s.pending = c :: t.pending ∧ t.nextConn = s.nextConn := by
  cases h with
  | connect => exact .inr (.inl ⟨rfl, rfl⟩)
  | reject _ hp => exact .inr (.inr ⟨_, .inl rfl, hp, rfl⟩)
  | accept _ hp => exact .inr (.inr ⟨_, .inr rfl, hp, rfl⟩)
  | _ => exact .inl ⟨rfl, rfl⟩

theorem step_pendingInv (hi : PendingInv s) (h : Step maxConnections s action t) : PendingInv t := by
  obtain ⟨hp, hn⟩ | ⟨hp, hn⟩ | ⟨c, -, hp, hn⟩ := step_pending h
  · exact ⟨hp ▸ hi.nodup, fun c hc => hn ▸ hi.made c (hp ▸ hc)⟩
  · refine ⟨?_, fun c hc => ?_⟩
    · rw [hp, List.nodup_append_comm]
      exact List.nodup_cons.mpr ⟨fun hm => Nat.lt_irrefl _ (hi.made _ hm), hi.nodup⟩
    · rw [hp, List.mem_append, List.mem_singleton] at hc
      rw [hn]
      obtain hc | rfl := hc
      · exact Nat.lt_succ_of_lt (hi.made c hc)
      · exact Nat.lt_succ_self _
  · exact hi.tail hp hn

def Loop.idle : Loop → Bool
  | .selecting | .done => true
  | _ => false

/-- `c` is next and there is room for it, or it has been accepted. -/
structure Welcome (maxConnections : UInt64) (c : Nat) (s : Server) : Prop where
  made : c < s.nextConn
  next : c ∈ s.pending → s.pending.head? = some c ∧ s.loop.idle = true ∧ s.tasks.length < maxConnections.toNat

section
variable {c : Nat} (hw : Welcome maxConnections c s)
include hw

theorem Welcome.sameQueue (hpending : t.pending = s.pending) (hnext : t.nextConn = s.nextConn)
    (hloop : s.loop.idle = true → t.loop.idle = true) (htasks : t.tasks.length ≤ s.tasks.length) :
    Welcome maxConnections c t where
  made := hnext ▸ hw.made
  next h := by
    rw [hpending] at h ⊢
    obtain ⟨hhead, hidle, hroom⟩ := hw.next h
    exact ⟨hhead, hloop hidle, Nat.lt_of_le_of_lt htasks hroom⟩

theorem Welcome.busy (hpending : t.pending = s.pending) (hnext : t.nextConn = s.nextConn)
    (hloop : s.loop.idle = false) : Welcome maxConnections c t where
  made := hnext ▸ hw.made
  next h := by
    have hidle := (hw.next (hpending ▸ h)).2.1
    rw [hloop] at hidle
    cases hidle

/-- Whoever is taken from the queue, it is not there any more. -/
theorem Welcome.taken (hp : PendingInv s) {c' : Nat} (hpending : s.pending = c' :: t.pending)
    (hnext : t.nextConn = s.nextConn) : Welcome maxConnections c t where
  made := hnext ▸ hw.made
  next h := by
    have hhead := (hw.next (hpending ▸ List.mem_cons_of_mem _ h)).1
    rw [hpending, List.head?_cons, Option.some_inj] at hhead
    have hnodup := hp.nodup
    rw [hpending, hhead] at hnodup
    exact absurd h (List.nodup_cons.mp hnodup).1

theorem step_welcome (hp : PendingInv s) (h : Step maxConnections s action t) : Welcome maxConnections c t := by
  cases h with
  | connect =>
    refine ⟨Nat.lt_succ_of_lt hw.made, fun hm => ?_⟩
    obtain hm | hm := List.mem_append.mp hm
    · obtain ⟨hhead, hrest⟩ := hw.next hm
      refine ⟨?_, hrest⟩
      change (s.pending ++ [s.nextConn]).head? = some c
      rw [List.head?_append, hhead, Option.some_or]
    · exact absurd (List.mem_singleton.mp hm) (Nat.ne_of_lt hw.made)
  | send => exact hw.sameQueue rfl rfl id (Nat.le_refl _)
  | close => exact hw.sameQueue rfl rfl id (Nat.le_refl _)
  | reset => exact hw.sameQueue rfl rfl id (Nat.le_refl _)
  | signal => exact hw.sameQueue rfl rfl id (Nat.le_refl _)
  | acceptFailed => exact hw
  | reject _ hpending => exact hw.taken hp hpending rfl
  | accept _ hpending => exact hw.taken hp hpending rfl
  | shutDown => exact hw.sameQueue rfl rfl (fun _ => rfl) (Nat.le_refl _)
  | peekHealth hl => exact hw.busy rfl rfl (by rw [hl]; rfl)
  | peekOther hl => exact hw.busy rfl rfl (by rw [hl]; rfl)
  | drain hl => exact hw.busy rfl rfl (by rw [hl]; rfl)
  | respond hl => exact hw.busy rfl rfl (by rw [hl]; rfl)
  | spawn hl => exact hw.busy rfl rfl (by rw [hl]; rfl)
  | handshakeOk c' ht =>
    have hlen : (s.tasks.erase (.handshaking c')).length + 1 = s.tasks.length := List.length_erase_add_one ht
    exact hw.sameQueue rfl rfl id (Nat.le_of_eq hlen)
  | handshakeFailed => exact hw.sameQueue rfl rfl id (List.length_erase_le)
  | sessionEnds => exact hw.sameQueue rfl rfl id (List.length_erase_le)

theorem Welcome.not_rejected (hi : CounterInv maxConnections s) : ¬ Step maxConnections s (.reject c) t := by
  intro h
  cases h with
  | reject _ hpending hc =>
    have hroom := (hw.next (hpending ▸ List.mem_cons_self)).2.2
    rw [ge_iff_le, UInt64.le_iff_toNat_le, hi.exact] at hc
    omega

end

theorem run_welcome {c : Nat} {tr : List (Action × Server)} (hr : Runs.Run (Step maxConnections) s tr)
    (hi : CounterInv maxConnections s) (hp : PendingInv s) (hw : Welcome maxConnections c s) :
    ∀ p ∈ tr, p.1 ≠ .reject c := by
  induction hr with
  | nil => exact nofun
  | cons h _ ih =>
    refine List.forall_mem_cons.mpr ⟨?_, ih (step_counterInv hi h) (step_pendingInv hp h) (step_welcome hw hp h)⟩
    rintro rfl
    exact hw.not_rejected hi h

end

/-- The steps in which the counter moves. -/
def Action.delta : Action → Int
  | .spawn _ => 1
  | .handshakeFailed _ | .sessionEnds _ => -1
  | _ => 0

theorem step_tasks {maxConnections : UInt64} {s t : Server} {action : Action}
    (h : Step maxConnections s action t) : (t.tasks.length : Int) = s.tasks.length + action.delta := by
  cases h with
  | spawn =>
    change ((s.tasks.length + 1 : Nat) : Int) = s.tasks.length + 1
    omega
  | handshakeOk c ht =>
    have hlen : (s.tasks.erase (.handshaking c)).length + 1 = s.tasks.length := List.length_erase_add_one ht
    change (((s.tasks.erase (.handshaking c)).length + 1 : Nat) : Int) = s.tasks.length + 0
    omega
  | handshakeFailed c ht =>
    have hlen : (s.tasks.erase (.handshaking c)).length + 1 = s.tasks.length := List.length_erase_add_one ht
    change ((s.tasks.erase (.handshaking c)).length : Int) = s.tasks.length + -1
    omega
  | sessionEnds c ht =>
    have hlen : (s.tasks.erase (.session c)).length + 1 = s.tasks.length := List.length_erase_add_one ht
    change ((s.tasks.erase (.session c)).length : Int) = s.tasks.length + -1
    omega
  | _ => exact (Int.add_zero _).symm

/-- The counter is the number of tasks, at most the limit; it moves by one for a task that is spawned or ends and
with nothing else; and whoever is next to be accepted while there is room is not rejected. -/
theorem active_connections_exact (maxConnections : UInt64) (s : Server)
    (h : Runs.Reachable (Step maxConnections) .start s) :
    s.activeConnections.toNat = s.tasks.length ∧ s.activeConnections ≤ maxConnections ∧
      (∀ action t, Step maxConnections s action t →
        (t.activeConnections.toNat : Int) = s.activeConnections.toNat + action.delta ∧
          (t.tasks.length : Int) = s.tasks.length + action.delta) ∧
      ∀ c, s.loop = .selecting → s.pending.head? = some c → s.tasks.length < maxConnections.toNat →
        ∀ tr, Runs.Run (Step maxConnections) s tr → ∀ p ∈ tr, p.1 ≠ .reject c := by
  have hi := reachable_counterInv h
  have hp : PendingInv s := h.invariant pendingInv_start fun _ _ _ => step_pendingInv
  have hbounded := hi.bounded
  refine ⟨hi.exact, ?_, fun action t hstep => ?_, fun c hloop hhead hroom tr hr => ?_⟩
  · rw [UInt64.le_iff_toNat_le, hi.exact]
    exact hbounded
  · have htasks := step_tasks hstep
    rw [(step_counterInv hi hstep).exact, hi.exact]
    exact ⟨htasks, htasks⟩
  · obtain ⟨rest, hpending⟩ : ∃ rest, s.pending = c :: rest := List.head?_eq_some_iff.mp hhead
    have hw : Welcome maxConnections c s :=
      ⟨hp.made c (hpending ▸ List.mem_cons_self), fun _ => ⟨hhead, by rw [hloop]; rfl, hroom⟩⟩
    exact run_welcome hr hi hp hw

/-- One connection is a task, and there is room for the one that waits. -/
theorem active_connections_two :
    let s : Server := {
      activeConnections := 1, loop := .selecting, tasks := [.handshaking 0], pending := [1]
      peers := Function.update (fun _ => ⟨[], false⟩) 0 ⟨[71], false⟩, nextConn := 2, shutdown := false }
    s.activeConnections.toNat = s.tasks.length ∧ s.activeConnections ≤ 2 ∧
      (∀ action t, Step 2 s action t →
        (t.activeConnections.toNat : Int) = s.activeConnections.toNat + action.delta ∧
          (t.tasks.length : Int) = s.tasks.length + action.delta) ∧
      ∀ c, s.loop = .selecting → s.pending.head? = some c → s.tasks.length < 2 →
        ∀ tr, Runs.Run (Step 2) s tr → ∀ p ∈ tr, p.1 ≠ .reject c := by
  intro s
  have hsilent : ¬ Peer.Silent ⟨[71], false⟩ := fun h => nomatch h.1
  have hhealth : ¬ Peer.IsHealth ⟨[71], false⟩ := by
    unfold Peer.IsHealth
    decide
  refine active_connections_exact 2 s ?_
  refine .tail (.tail (.tail (.tail (.tail (.tail .refl ⟨.connect, .connect⟩) ⟨.connect, .connect⟩)
    ⟨.send 0 [71], .send 0 [71] rfl⟩) ⟨.accept 0, .accept rfl rfl (by decide)⟩)
    ⟨.peek 0, .peekOther rfl hsilent hhealth⟩) ⟨.spawn 0, .spawn rfl⟩

/-- A connection that arrives during the `peek` at another one waits for `accept` until that one has its task, and is
rejected then. -/
theorem arrival_rejected :
    ¬ ∀ (maxConnections : UInt64) (s t : Server), Runs.Reachable (Step maxConnections) .start s →
      s.tasks.length < maxConnections.toNat → Step maxConnections s .connect t →
        ∀ tr, Runs.Run (Step maxConnections) t tr → ∀ p ∈ tr, p.1 ≠ .reject s.nextConn := by
  intro h
  have hsilent : ¬ Peer.Silent ⟨[71], false⟩ := fun h => nomatch h.1
  have hhealth : ¬ Peer.IsHealth ⟨[71], false⟩ := by
    unfold Peer.IsHealth
    decide
  have hreach : Runs.Reachable (Step 1) .start _ :=
    .tail (.tail (.tail .refl ⟨.connect, .connect⟩) ⟨.send 0 [71], .send 0 [71] rfl⟩)
      ⟨.accept 0, .accept rfl rfl (by decide)⟩
  exact h 1 _ _ hreach (by decide) .connect _
    (.cons (.peekOther rfl hsilent hhealth) <| .cons (.spawn rfl) <|
      .cons (.reject rfl rfl (by decide)) (.nil _)) _ (List.mem_of_getLast? rfl) rfl

end DdsBridge.AcceptLoop
