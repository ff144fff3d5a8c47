import DdsBridge.AcceptLoop
import DdsBridge.Teardown

/-!
# The server and its sessions

What `main` puts together: the accept loop of `start`, the sessions that its tasks run, and the bridge that these
share. Seen from one session, the others do what its own model calls `other`.
-/

namespace DdsBridge.Host

open AcceptLoop (Server Task Loop)

/-! ## Connections without a session -/

def loopConn : Loop → List Nat
  | .peeking c | .draining c | .responding c | .spawning c => [c]
  | .selecting | .done => []

def handshakeOf : Task → Option Nat
  | .handshaking c => some c
  | .session _ => none

/-- The connections that may still get a session. -/
def waiting (s : Server) : List Nat := s.pending ++ (loopConn s.loop ++ s.tasks.filterMap handshakeOf)

section
variable {maxConnections : UInt64} {s t : Server} {action : AcceptLoop.Action}

theorem handshakes_erase {tasks : List Task} {task : Task} (h : task ∈ tasks) :
    ((tasks.erase task).filterMap handshakeOf ++ (handshakeOf task).toList).Perm
      (tasks.filterMap handshakeOf) := by
  refine List.Perm.trans ?_ ((List.perm_cons_erase h).filterMap handshakeOf).symm
  cases task with
  | handshaking c => exact List.perm_append_singleton c _
  | session c =>
    rw [List.filterMap_cons_none rfl, handshakeOf, Option.toList_none, List.append_nil]

/-- A step takes connections from among those that wait, or adds a new one. -/
theorem waiting_step (h : AcceptLoop.Step maxConnections s action t) :
    (∃ gone, (waiting t ++ gone).Perm (waiting s) ∧ t.nextConn = s.nextConn ∧ ∀ c, action = .handshakeOk c → c ∈ gone) ∨
      (waiting t).Perm (s.nextConn :: waiting s) ∧ t.nextConn = s.nextConn + 1 := by
  have hsame : ∀ t : Server, waiting t = waiting s → (waiting t ++ []).Perm (waiting s) := fun t h => by simp [h]
  cases h with
  | connect =>
    refine .inr ⟨?_, rfl⟩
    simp [waiting, List.perm_middle]
  | @reject c pending hl hp hc =>
    refine .inl ⟨[c], ?_, rfl, by simp⟩
    simp only [waiting, hp]
    exact List.perm_append_singleton _ _
  | accept hl hp hc =>
    refine .inl ⟨[], ?_, rfl, by simp⟩
    simp [waiting, hp, hl, loopConn, List.perm_middle]
  | @respond c hl =>
    refine .inl ⟨[c], ?_, rfl, by simp⟩
    simp only [waiting, hl, loopConn, List.nil_append, List.append_assoc]
    exact (List.perm_append_singleton _ _).append_left _
  | spawn hl =>
    refine .inl ⟨[], hsame _ ?_, rfl, by simp⟩
    simp [waiting, hl, loopConn, handshakeOf]
  | handshakeOk c ht =>
    refine .inl ⟨[c], ?_, rfl, fun c' h => ?_⟩
    · have hperm := handshakes_erase ht
      simp only [waiting, handshakeOf, List.filterMap_cons, List.append_assoc] at hperm ⊢
      exact (hperm.append_left _).append_left _
    · cases h
      exact List.mem_singleton_self c
  | handshakeFailed c ht =>
    refine .inl ⟨[c], ?_, rfl, by simp⟩
    have hperm := handshakes_erase ht
    simp only [waiting, Server.endTask, handshakeOf, List.append_assoc] at hperm ⊢
    exact (hperm.append_left _).append_left _
  | sessionEnds c ht =>
    refine .inl ⟨[], ?_, rfl, by simp⟩
    have hperm := handshakes_erase ht
    simp only [waiting, Server.endTask, handshakeOf, Option.toList_none, List.append_assoc] at hperm ⊢
    exact (hperm.append_left _).append_left _
  | shutDown hl | peekHealth hl | peekOther hl | drain hl =>
    refine .inl ⟨[], hsame _ ?_, rfl, by simp⟩
    simp [waiting, hl, loopConn, Server.setPeer]
  | send | close | reset | signal | acceptFailed => exact .inl ⟨[], hsame _ rfl, rfl, by simp⟩

/-- Tasks that run a session begin with a handshake, and end when the session does. -/
theorem session_task_step (h : AcceptLoop.Step maxConnections s action t) {c : Nat} (hc : .session c ∈ s.tasks)
    (ha : action ≠ .sessionEnds c) : .session c ∈ t.tasks := by
  cases h with
  | spawn => exact List.mem_cons_of_mem _ hc
  | handshakeOk c' ht => exact List.mem_cons_of_mem _ ((List.mem_erase_of_ne (by simp)).mpr hc)
  | handshakeFailed c' ht => exact (List.mem_erase_of_ne (by simp)).mpr hc
  | sessionEnds c' ht =>
    refine (List.mem_erase_of_ne fun h => ha ?_).mpr hc
    cases h
    rfl
  | _ => exact hc

end

/-! ## The parts together -/

/-- The session id that the `n`-th session is given, counted from 0. -/
def nextSessionId (n : Nat) : UInt64 := UInt64.ofNat (n + 1)

/-- `run_session` of a connection; its bridge channel has the number of the connection. -/
structure Running where
  sessionId : UInt64
  session : Session

/-- What the session sees if `bridge` is the bridge. -/
def Running.on (r : Running) (bridge : BridgeInner) : Session := { r.session with bridge }

/-- `sessions` keeps what has ended; `started` of them were started. -/
structure Process where
  server : Server
  started : Nat
  sessions : Nat → Option Running
  bridge : BridgeInner

def Process.start (handle : Int32) (config : BridgeConfig) : Process where
  server := .start
  started := 0
  sessions _ := none
  bridge := .create handle config

def Process.setSession (c : Nat) (r : Running) (s : Process) : Process :=
  { s with sessions := Function.update s.sessions c (some r) }

inductive Action where
  | server (action : AcceptLoop.Action)
  | session (c : Nat) (action : SessionAction)

inductive Step (maxConnections : UInt64) : Process → Action → Process → Prop
  | server {s server action} (h : AcceptLoop.Step maxConnections s.server action server)
      (ha : ∀ c, action ≠ .handshakeOk c ∧ action ≠ .sessionEnds c) :
      Step maxConnections s (.server action) { s with server }
  /-- `next_session_id` comes right after the handshake. -/
  | handshakeOk {s server} (c : Nat) (h : AcceptLoop.Step maxConnections s.server (.handshakeOk c) server) :
      Step maxConnections s (.server (.handshakeOk c))
        { s.setSession c ⟨nextSessionId s.started, .new s.bridge⟩ with server, started := s.started + 1 }
  | sessionEnds {s server r} (c : Nat) (hs : s.sessions c = some r) (hd : r.session.reader = .done)
      (h : AcceptLoop.Step maxConnections s.server (.sessionEnds c) server) :
      Step maxConnections s (.server (.sessionEnds c)) { s with server }
  | session {s r action t} (c : Nat) (hs : s.sessions c = some r)
      (h : SessionStep r.sessionId c (r.on s.bridge) action t) (ha : ∀ a, action ≠ .other a) :
      Step maxConnections s (.session c action) { s.setSession c { r with session := t } with bridge := t.bridge }

/-! ## What others do -/

/-- An action on behalf of the session. -/
def Own (sid : UInt64) (tx : Nat) : BridgeAction → Prop
  | .register sessionId sender => sessionId = sid ∧ sender = tx
  | .unregister sessionId => sessionId = sid
  | .frame _ sessionId _ _ => sessionId = sid
  | .channel sender _ => sender = tx

section
variable {sid sid' : UInt64} {tx tx' : Nat}

theorem Own.foreign {action : BridgeAction} (h : Own sid tx action) (hsid : sid ≠ sid') (htx : tx ≠ tx') :
    Foreign sid' tx' action := by
  cases action with
  | register => exact ⟨h.1 ▸ hsid, h.2 ▸ htx⟩
  | unregister => exact h ▸ hsid
  | frame => exact h ▸ hsid
  | channel => exact h ▸ htx

/-- The bridge after the actions of a session. -/
inductive Acts (sid : UInt64) (tx : Nat) : BridgeInner → BridgeInner → Prop
  | nil (inner : BridgeInner) : Acts sid tx inner inner
  | cons {inner inner' : BridgeInner} (action : BridgeAction) (h : Own sid tx action)
      (hr : Acts sid tx (inner.act action) inner') : Acts sid tx inner inner'

theorem Acts.one {inner : BridgeInner} (action : BridgeAction) (h : Own sid tx action) :
    Acts sid tx inner (inner.act action) := .cons action h (.nil _)

theorem acts_modifyChannel (inner : BridgeInner) (f : Channel → Channel) :
    Acts sid tx inner (inner.modifyChannel tx f) := by
  unfold BridgeInner.modifyChannel Table.modify
  cases hc : inner.channels.lookup tx with
  | none => exact .nil inner
  | some c => exact Acts.one (.channel tx (f c)) rfl

theorem acts_step {s t : Session} {action : SessionAction} (h : SessionStep sid tx s action t)
    (ha : ∀ a, action ≠ .other a) : Acts sid tx s.bridge t.bridge := by
  cases h with
  | other => exact absurd rfl (ha _)
  | notify => exact acts_modifyChannel s.bridge _
  | task h =>
    cases h with
    | start =>
      exact .cons (.channel tx (.new s.bridge.config.sessionBufferSize)) rfl
        (Acts.one (.register sid tx) ⟨rfl, rfl⟩)
    | receive dds data hr he hp =>
      rw [← Prog.after_of_ok hp]
      exact Acts.one (.frame dds sid data s.maxPayloadSize) rfl
    | unregister => exact Acts.one (.unregister sid) rfl
    | recvBridge => exact acts_modifyChannel s.bridge _
    | allClosed | sendFails => exact acts_modifyChannel s.bridge _
    | _ => exact .nil _
  | _ => exact .nil _

/-- Another session goes on as in its own model. -/
theorem Acts.reachable {inner inner' : BridgeInner} (h : Acts sid tx inner inner') (hsid : sid ≠ sid') (htx : tx ≠ tx')
    {s₀ : Session} (r : Running) (hr : Runs.Reachable (SessionStep sid' tx') s₀ (r.on inner)) :
    Runs.Reachable (SessionStep sid' tx') s₀ (r.on inner') := by
  induction h with
  | nil => exact hr
  | @cons inner inner' action hown hrest ih => exact ih (hr.tail ⟨.other action, .other (hown.foreign hsid htx)⟩)

theorem Acts.bridgeReachable {inner inner' : BridgeInner} (h : Acts sid tx inner inner') (hr : BridgeReachable inner) :
    BridgeReachable inner' := by
  induction h with
  | nil => exact hr
  | @cons inner inner' action hown hrest ih =>
    obtain ⟨handle, config, hr⟩ := hr
    exact ih ⟨handle, config, hr.tail ⟨action, rfl⟩⟩

/-- A session registers nothing but itself. -/
theorem Acts.senders {inner inner' : BridgeInner} (h : Acts sid tx inner inner') {id : UInt64} {sender : Nat}
    (hs : inner'.sessionSenders.lookup id = some sender) :
    inner.sessionSenders.lookup id = some sender ∨ id = sid ∧ sender = tx := by
  induction h with
  | nil => exact .inl hs
  | @cons inner inner' action hown hrest ih =>
    rcases ih hs with hs | hs
    · cases action with
      | channel => exact .inl hs
      | frame dds sessionId data maxPayloadSize =>
        have hd := (within_processBinaryFrame dds sessionId data maxPayloadSize).after inner
        rw [BridgeInner.act, hd.sessionSenders] at hs
        exact .inl hs
      | unregister sessionId =>
        change (inner.sessionSenders.erase sessionId).lookup id = _ at hs
        rw [Table.lookup_erase_eq] at hs
        split at hs
        · cases hs
        · exact .inl hs
      | register sessionId sender' =>
        change (inner.sessionSenders.insert sessionId sender').lookup id = _ at hs
        rw [Table.lookup_insert_eq] at hs
        split at hs
        · next hid =>
          cases hs
          exact .inr ⟨hid.trans hown.1, hown.2⟩
        · exact .inl hs
    · exact .inr hs

end

/-! ## Connections and tasks -/

/-- No connection is given two sessions, and a session that has not ended has its task. -/
structure ConnInv (maxConnections : UInt64) (s : Process) : Prop where
  counter : AcceptLoop.CounterInv maxConnections s.server
  nodup : (waiting s.server).Nodup
  waits : ∀ c ∈ waiting s.server, c < s.server.nextConn ∧ s.sessions c = none
  made : ∀ c r, s.sessions c = some r → c < s.server.nextConn
  task : ∀ c r, s.sessions c = some r → r.session.reader ≠ .done → .session c ∈ s.server.tasks

section
variable {maxConnections : UInt64} {s t : Process} {action : Action}

theorem setSession_eq (c c' : Nat) (r : Running) :
    (s.setSession c r).sessions c' = if c' = c then some r else s.sessions c' := by
  simp [Process.setSession, Function.update_apply]

theorem setSession_some {c c' : Nat} {r r' : Running} (h : (s.setSession c r).sessions c' = some r') :
    c' = c ∧ r' = r ∨ c' ≠ c ∧ s.sessions c' = some r' := by
  rw [setSession_eq] at h
  by_cases hc : c' = c
  · rw [if_pos hc, Option.some_inj] at h
    exact .inl ⟨hc, h.symm⟩
  · rw [if_neg hc] at h
    exact .inr ⟨hc, h⟩

theorem connInv_start (handle : Int32) (config : BridgeConfig) : ConnInv maxConnections (.start handle config) where
  counter := AcceptLoop.counterInv_start
  nodup := List.nodup_nil
  waits c h := by cases h
  made c r h := by cases h
  task c r h := by cases h

/-- A task that has ended or unwound does not come back. -/
theorem reader_over {sid : UInt64} {tx : Nat} {s t : Session} {action : SessionAction} {last : ReaderTask}
    (hl : last = .done ∨ last = .panicked) (h : SessionStep sid tx s action t) (hs : s.reader = last) :
    t.reader = last := by
  cases h with
  | task h => cases h <;> rcases hl with rfl | rfl <;> simp_all [Session.writerEnds]
  | _ => exact hs

/-- The server moves on and no session starts. -/
theorem ConnInv.server (hi : ConnInv maxConnections s) {server : Server} {action : AcceptLoop.Action}
    (h : AcceptLoop.Step maxConnections s.server action server)
    (htask : ∀ c r, s.sessions c = some r → r.session.reader ≠ .done → action ≠ .sessionEnds c) :
    ConnInv maxConnections { s with server } := by
  have hkept : ∀ c r, s.sessions c = some r → r.session.reader ≠ .done → .session c ∈ server.tasks := fun c r hc hr =>
    session_task_step h (hi.task c r hc hr) (htask c r hc hr)
  rcases waiting_step h with ⟨gone, hperm, hnext, -⟩ | ⟨hperm, hnext⟩
  · have hnodup := hperm.nodup_iff.mpr hi.nodup
    refine ⟨AcceptLoop.step_counterInv hi.counter h, hnodup.of_append_left, fun c hc => ?_, fun c r hc => ?_, hkept⟩
    · rw [hnext]
      exact hi.waits c (hperm.subset (List.mem_append_left _ hc))
    · rw [hnext]
      exact hi.made c r hc
  · have hnew : s.server.nextConn ∉ waiting s.server := fun h => Nat.lt_irrefl _ (hi.waits _ h).1
    refine ⟨AcceptLoop.step_counterInv hi.counter h, hperm.nodup_iff.mpr (List.nodup_cons.mpr ⟨hnew, hi.nodup⟩),
      fun c hc => ?_, fun c r hc => ?_, hkept⟩
    · rw [hnext]
      rcases List.mem_cons.mp (hperm.subset hc) with rfl | hc
      · refine ⟨Nat.lt_succ_self _, Option.eq_none_iff_forall_ne_some.mpr fun r hr => ?_⟩
        exact Nat.lt_irrefl _ (hi.made _ r hr)
      · exact ⟨Nat.lt_succ_of_lt (hi.waits c hc).1, (hi.waits c hc).2⟩
    · rw [hnext]
      exact Nat.lt_succ_of_lt (hi.made c r hc)

/-- The connection whose handshake is done had no session. -/
theorem ConnInv.unserved (hi : ConnInv maxConnections s) {server : Server} {c : Nat}
    (h : AcceptLoop.Step maxConnections s.server (.handshakeOk c) server) :
    c < server.nextConn ∧ s.sessions c = none ∧ c ∉ waiting server := by
  rcases waiting_step h with ⟨gone, hperm, hnext, hgone⟩ | ⟨-, hnext⟩
  · have hc := hgone c rfl
    obtain ⟨hlt, hnone⟩ := hi.waits c (hperm.subset (List.mem_append_right _ hc))
    refine ⟨hnext ▸ hlt, hnone, fun hmem => ?_⟩
    exact (List.nodup_append.mp (hperm.nodup_iff.mpr hi.nodup)).2.2 c hmem c hc rfl
  · cases h
    exact absurd hnext (Nat.ne_of_lt (Nat.lt_succ_self _))

theorem step_connInv (hi : ConnInv maxConnections s) (h : Step maxConnections s action t) : ConnInv maxConnections t := by
  cases h with
  | server h ha => exact hi.server h fun c r _ _ => (ha c).2
  | sessionEnds c hs hd h =>
    refine hi.server h fun c' r' hs' hr' heq => hr' ?_
    cases heq
    cases hs.symm.trans hs'
    exact hd
  | handshakeOk c h =>
    obtain ⟨hlt, hnone, hgone⟩ := hi.unserved h
    have hserver := hi.server h (by simp)
    refine ⟨hserver.counter, hserver.nodup, fun c' hc' => ?_, fun c' r hc' => ?_, fun c' r hc' hr => ?_⟩
    · obtain ⟨hlt', hnone'⟩ := hserver.waits c' hc'
      refine ⟨hlt', Option.eq_none_iff_forall_ne_some.mpr fun r hr => ?_⟩
      rcases setSession_some hr with ⟨rfl, -⟩ | ⟨-, hr⟩
      · exact hgone hc'
      · exact Option.eq_none_iff_forall_ne_some.mp hnone' r hr
    · rcases setSession_some hc' with ⟨rfl, -⟩ | ⟨-, hc'⟩
      · exact hlt
      · exact hserver.made c' r hc'
    · rcases setSession_some hc' with ⟨rfl, -⟩ | ⟨-, hc'⟩
      · cases h
        exact List.mem_cons_self
      · exact hserver.task c' r hc' hr
  | session c hs h ha =>
    refine ⟨hi.counter, hi.nodup, fun c' hc' => ?_, fun c' r hc' => ?_, fun c' r hc' hr => ?_⟩
    · obtain ⟨hlt, hnone⟩ := hi.waits c' hc'
      refine ⟨hlt, Option.eq_none_iff_forall_ne_some.mpr fun r hr => ?_⟩
      have hother := Option.eq_none_iff_forall_ne_some.mp hnone
      rcases setSession_some hr with ⟨rfl, -⟩ | ⟨-, hr⟩
      · exact hother _ hs
      · exact hother r hr
    · rcases setSession_some hc' with ⟨rfl, -⟩ | ⟨-, hc'⟩
      · exact hi.made _ _ hs
      · exact hi.made c' r hc'
    · rcases setSession_some hc' with ⟨rfl, rfl⟩ | ⟨-, hc'⟩
      · exact hi.task _ _ hs fun hdone => hr (reader_over (.inl rfl) h hdone)
      · exact hi.task c' r hc' hr

end

/-! ## Sessions and the bridge -/

/-- A session has an id of its own, registers itself, and runs as its own model says. -/
structure SessionsInv (s : Process) : Prop where
  ids : ∀ c r, s.sessions c = some r → ∃ n < s.started, r.sessionId = nextSessionId n
  distinct : ∀ c c' r r', s.sessions c = some r → s.sessions c' = some r' → r.sessionId = r'.sessionId → c = c'
  senders : ∀ id sender, s.bridge.sessionSenders.lookup id = some sender →
    ∃ r, s.sessions sender = some r ∧ r.sessionId = id
  bridge : BridgeReachable s.bridge
  runs : ∀ c r, s.sessions c = some r → ∃ bridge, bridge.sessionSenders.lookup r.sessionId = none ∧
    Runs.Reachable (SessionStep r.sessionId c) (.new bridge) (r.on s.bridge)

section
variable {maxConnections : UInt64} {s t : Process} {action : Action}

theorem nextSessionId_inj {m n : Nat} (hm : m + 1 < 2 ^ 64) (hn : n + 1 < 2 ^ 64)
    (h : nextSessionId m = nextSessionId n) : m = n := by
  have hnat := congrArg UInt64.toNat h
  simp only [nextSessionId, UInt64.toNat_ofNat', Nat.mod_eq_of_lt hm, Nat.mod_eq_of_lt hn] at hnat
  omega

theorem SessionsInv.teardown (hi : SessionsInv s) {c : Nat} {r : Running} (hs : s.sessions c = some r) :
    TeardownInv r.sessionId c (r.on s.bridge) := by
  obtain ⟨bridge, hnew, hr⟩ := hi.runs c r hs
  exact hr.invariant (teardownInv_new hnew) fun _ _ _ hi h => hi.step h

theorem sessionsInv_start (handle : Int32) (config : BridgeConfig) : SessionsInv (.start handle config) where
  ids c r h := by cases h
  distinct c c' r r' h := by cases h
  senders id sender h := by cases h
  bridge := ⟨handle, config, .refl⟩
  runs c r h := by cases h

/-- The id after the handshake is a new one. -/
theorem SessionsInv.handshakeOk (hi : SessionsInv s) (hids : s.started + 1 < 2 ^ 64) {c : Nat}
    (hnone : s.sessions c = none) (server : Server) :
    SessionsInv { s.setSession c ⟨nextSessionId s.started, .new s.bridge⟩ with server, started := s.started + 1 } := by
  have hnew : ∀ c' r, s.sessions c' = some r → r.sessionId ≠ nextSessionId s.started := by
    intro c' r hs heq
    obtain ⟨n, hn, hid⟩ := hi.ids c' r hs
    have hsame := nextSessionId_inj (by omega) hids (hid.symm.trans heq)
    omega
  refine ⟨fun c' r hs => ?_, fun c' c'' r r' hs hs' hid => ?_, fun id sender h => ?_, hi.bridge, fun c' r hs => ?_⟩
  · rcases setSession_some hs with ⟨-, rfl⟩ | ⟨-, hs⟩
    · exact ⟨s.started, Nat.lt_succ_self _, rfl⟩
    · obtain ⟨n, hn, hid⟩ := hi.ids c' r hs
      exact ⟨n, Nat.lt_succ_of_lt hn, hid⟩
  · rcases setSession_some hs with ⟨rfl, rfl⟩ | ⟨-, hold⟩
    · rcases setSession_some hs' with ⟨rfl, -⟩ | ⟨-, hold'⟩
      · rfl
      · exact absurd hid.symm (hnew _ _ hold')
    · rcases setSession_some hs' with ⟨rfl, rfl⟩ | ⟨-, hold'⟩
      · exact absurd hid (hnew _ _ hold)
      · exact hi.distinct c' c'' r r' hold hold' hid
  · obtain ⟨r, hs, hid⟩ := hi.senders id sender h
    have hne : sender ≠ c := by
      rintro rfl
      simp [hnone] at hs
    refine ⟨r, ?_, hid⟩
    rw [← hs]
    exact (setSession_eq c sender _).trans (if_neg hne)
  · rcases setSession_some hs with ⟨rfl, rfl⟩ | ⟨-, hs⟩
    · refine ⟨s.bridge, Option.eq_none_iff_forall_ne_some.mpr fun sender h => ?_, .refl⟩
      obtain ⟨r, hs, hid⟩ := hi.senders _ _ h
      exact hnew _ _ hs hid
    · exact hi.runs c' r hs

/-- A step of one session is a step of the others' surroundings. -/
theorem SessionsInv.session (hi : SessionsInv s) {c : Nat} {r : Running} {t : Session} {action : SessionAction}
    (hs : s.sessions c = some r) (h : SessionStep r.sessionId c (r.on s.bridge) action t) (ha : ∀ a, action ≠ .other a) :
    SessionsInv { s.setSession c { r with session := t } with bridge := t.bridge } := by
  have hacts : Acts r.sessionId c s.bridge t.bridge := acts_step h ha
  refine ⟨fun c' r' hs' => ?_, fun c' c'' r' r'' hs' hs'' hid => ?_, fun id sender hsender => ?_,
    hacts.bridgeReachable hi.bridge, fun c' r' hs' => ?_⟩
  · rcases setSession_some hs' with ⟨-, rfl⟩ | ⟨-, hs'⟩
    · exact hi.ids c r hs
    · exact hi.ids c' r' hs'
  · rcases setSession_some hs' with ⟨rfl, rfl⟩ | ⟨-, hold'⟩
    · rcases setSession_some hs'' with ⟨rfl, -⟩ | ⟨-, hold''⟩
      · rfl
      · exact hi.distinct _ _ _ _ hs hold'' hid
    · rcases setSession_some hs'' with ⟨rfl, rfl⟩ | ⟨-, hold''⟩
      · exact hi.distinct _ _ _ _ hold' hs hid
      · exact hi.distinct c' c'' r' r'' hold' hold'' hid
  · have hown : (s.setSession c { r with session := t }).sessions c = some { r with session := t } := by
      rw [setSession_eq, if_pos rfl]
    rcases hacts.senders hsender with hsender | ⟨rfl, rfl⟩
    · obtain ⟨r', hs', hid⟩ := hi.senders id sender hsender
      by_cases hc : sender = c
      · subst hc
        cases hs.symm.trans hs'
        exact ⟨_, hown, hid⟩
      · exact ⟨r', ((setSession_eq c sender _).trans (if_neg hc)).trans hs', hid⟩
    · exact ⟨_, hown, rfl⟩
  · rcases setSession_some hs' with ⟨rfl, rfl⟩ | ⟨hne, hs'⟩
    · obtain ⟨bridge, hnew, hr⟩ := hi.runs _ r hs
      exact ⟨bridge, hnew, hr.tail ⟨action, h⟩⟩
    · obtain ⟨bridge, hnew, hr⟩ := hi.runs c' r' hs'
      have hid : r.sessionId ≠ r'.sessionId := fun hid => hne (hi.distinct _ _ _ _ hs hs' hid).symm
      exact ⟨bridge, hnew, hacts.reachable hid (Ne.symm hne) r' hr⟩

theorem step_sessionsInv (hc : ConnInv maxConnections s) (hi : SessionsInv s) (h : Step maxConnections s action t)
    (hids : t.started < 2 ^ 64) : SessionsInv t := by
  cases h with
  | server => exact ⟨hi.ids, hi.distinct, hi.senders, hi.bridge, hi.runs⟩
  | sessionEnds => exact ⟨hi.ids, hi.distinct, hi.senders, hi.bridge, hi.runs⟩
  | handshakeOk c h => exact hi.handshakeOk hids (hc.unserved h).2.1 _
  | session c hs h ha => exact hi.session hs h ha

theorem started_le (h : Step maxConnections s action t) : s.started ≤ t.started := by
  cases h with
  | handshakeOk => exact Nat.le_succ _
  | _ => exact Nat.le_refl _

/-- Until the counter of ids comes back to where it began. -/
def ProcessInv (maxConnections : UInt64) (s : Process) : Prop :=
  ConnInv maxConnections s ∧ (s.started < 2 ^ 64 → SessionsInv s)

theorem step_processInv (hi : ProcessInv maxConnections s) (h : Step maxConnections s action t) :
    ProcessInv maxConnections t :=
  ⟨step_connInv hi.1 h, fun hids => step_sessionsInv hi.1 (hi.2 (Nat.lt_of_le_of_lt (started_le h) hids)) h hids⟩

theorem reachable_processInv {handle : Int32} {config : BridgeConfig}
    (h : Runs.Reachable (Step maxConnections) (.start handle config) s) : ProcessInv maxConnections s :=
  h.invariant (I := ProcessInv maxConnections) ⟨connInv_start handle config, fun _ => sessionsInv_start handle config⟩
    fun _ _ _ hi h => step_processInv hi h

theorem tasks_of_sessions (hi : ConnInv maxConnections s) {cs : List Nat} (hcs : cs.Nodup)
    (hlive : ∀ c ∈ cs, ∃ r, s.sessions c = some r ∧ r.session.reader ≠ .done) :
    (∀ c ∈ cs, .session c ∈ s.server.tasks) ∧ cs.length ≤ s.server.activeConnections.toNat := by
  have htask : ∀ c ∈ cs, .session c ∈ s.server.tasks := by
    intro c hc
    obtain ⟨r, hs, hr⟩ := hlive c hc
    exact hi.task c r hs hr
  refine ⟨htask, ?_⟩
  have hsub : cs.map Task.session ⊆ s.server.tasks := by
    intro task h
    obtain ⟨c, hc, rfl⟩ := List.mem_map.mp h
    exact htask c hc
  have hnodup : (cs.map Task.session).Nodup := hcs.map fun c c' h => Task.session.inj h
  rw [hi.counter.exact, ← List.length_map (f := Task.session)]
  exact (List.subperm_of_subset hnodup hsub).length_le

theorem SessionsInv.live_of_sender (hi : SessionsInv s) {id : UInt64} {sender : Nat}
    (h : s.bridge.sessionSenders.lookup id = some sender) :
    ∃ r, s.sessions sender = some r ∧ r.sessionId = id ∧ r.session.reader ≠ .done := by
  obtain ⟨r, hs, rfl⟩ := hi.senders id sender h
  have hreg : Session.Registered r.sessionId sender (r.on s.bridge) := h
  exact ⟨r, hs, rfl, ((hi.teardown hs).registered.mp hreg).2⟩

/-- The senders in `session_senders`, each of one session. -/
def registered (inner : BridgeInner) : List Nat := Table.values inner.sessionSenders

theorem SessionsInv.nodup_registered (hi : SessionsInv s) : (registered s.bridge).Nodup := by
  have hkeys : (s.bridge.sessionSenders.entries.map Sigma.fst).Nodup := s.bridge.sessionSenders.nodupKeys
  unfold registered Table.values
  refine List.Nodup.map_on (fun e he e' he' h => ?_) (List.Nodup.of_map _ hkeys)
  have hid : ∀ e ∈ s.bridge.sessionSenders.entries, s.bridge.sessionSenders.lookup e.1 = some e.2 := fun e he =>
    AList.mem_lookup_iff.mpr he
  obtain ⟨r, hs, hr⟩ := hi.senders _ _ (hid e he)
  obtain ⟨r', hs', hr'⟩ := hi.senders _ _ (hid e' he')
  rw [h, hs'] at hs
  cases hs
  exact Sigma.ext (hr.symm.trans hr') (heq_of_eq h)

/-- **The sessions of the server.** Until ids repeat: the bridge has registered sessions of connections whose task has
not returned (after a panic it stays registered and counted), so no more than `active_connections` and these no more
than the limit; no two connections have the same id; a frame comes from a session that is registered; and each session
is, with what it sees of the bridge, a run of the model of one session, and the bridge a run of the model of the
bridge. -/
theorem sessions_of_connections {handle : Int32} {config : BridgeConfig}
    (h : Runs.Reachable (Step maxConnections) (.start handle config) s) (hids : s.started < 2 ^ 64) :
    (∀ sender ∈ registered s.bridge, .session sender ∈ s.server.tasks) ∧
      (registered s.bridge).length ≤ s.server.activeConnections.toNat ∧ s.server.activeConnections ≤ maxConnections ∧
      (∀ c c' r r', s.sessions c = some r → s.sessions c' = some r' → r.sessionId = r'.sessionId → c = c') ∧
      (∀ c r dds data t, s.sessions c = some r → Step maxConnections s (.session c (.task (.receive dds data))) t →
        s.bridge.sessionSenders.lookup r.sessionId = some c) ∧
      (∀ c r, s.sessions c = some r → ∃ bridge, bridge.sessionSenders.lookup r.sessionId = none ∧
        Runs.Reachable (SessionStep r.sessionId c) (.new bridge) (r.on s.bridge)) ∧
      BridgeReachable s.bridge := by
  obtain ⟨hc, hi⟩ := reachable_processInv h
  have hi := hi hids
  have hlive : ∀ sender ∈ registered s.bridge, ∃ r, s.sessions sender = some r ∧ r.session.reader ≠ .done := by
    intro sender hsender
    obtain ⟨id, hid⟩ := Table.mem_values.mp hsender
    obtain ⟨r, hs, -, hr⟩ := hi.live_of_sender hid
    exact ⟨r, hs, hr⟩
  obtain ⟨htasks, hlength⟩ := tasks_of_sessions hc hi.nodup_registered hlive
  refine ⟨htasks, hlength, ?_, hi.distinct, fun c r dds data t hs hstep => ?_, hi.runs, hi.bridge⟩
  · rw [UInt64.le_iff_toNat_le, hc.counter.exact]
    exact hc.counter.bounded
  · have hreading : (r.on s.bridge).reader = .reading := by
      cases hstep with
      | session c hs' h ha =>
        cases hs.symm.trans hs'
        cases h with
        | task h => cases h <;> assumption
    have hinv := hi.teardown hs
    refine hinv.registered.mpr ⟨fun hw => ?_, by simp [hreading]⟩
    rcases hinv.notStarted hw with h | h <;> simp [h] at hreading

/-! ## Slots that are not given back -/

/-- The session has panicked, or is stuck because its client went away. -/
def Held (c : Nat) (s : Process) : Prop :=
  ∃ r, s.sessions c = some r ∧ (r.session.reader = .panicked ∨ Stuck r.sessionId c (r.on s.bridge))

/-- Nothing is put on the bridge channel of a session that is stuck. -/
def Quiet (c : Nat) (s : Process) : Prop :=
  ∀ r, s.sessions c = some r → r.session.reader ≠ .panicked → (r.on s.bridge).bridgeQueue c = []

theorem stuck_of_same {sid : UInt64} {tx : Nat} {s t : Session} (hs : TeardownInv sid tx s) (ht : TeardownInv sid tx t)
    (hstuck : Stuck sid tx s) (hended : t.ended = s.ended) (hresp : t.resp = s.resp) (hreader : t.reader = s.reader)
    (hwriter : t.writer = s.writer) (hq : t.bridgeQueue tx = []) : Stuck sid tx t := by
  obtain ⟨hend, ⟨-, hrest⟩, hwaits⟩ := (stuck_iff hs).mp hstuck
  refine (stuck_iff ht).mpr ⟨hended.trans hend, ⟨hq, by rw [hresp, hrest]⟩, ?_⟩
  rwa [Session.Waits, hreader, hwriter]

/-- A stuck session moves only when it is given a message. -/
theorem stuck_step {sid : UInt64} {tx : Nat} {s t : Session} {action : SessionAction} (hs : TeardownInv sid tx s)
    (hstuck : Stuck sid tx s) (h : SessionStep sid tx s action t) (hq : t.bridgeQueue tx = []) : Stuck sid tx t := by
  have ht := hs.step h
  cases h with
  | task h => exact absurd h (hstuck.noStep _ _)
  | disconnect he => exact absurd hstuck.ended (by simp [he])
  | _ => exact stuck_of_same hs ht hstuck rfl rfl rfl rfl hq

theorem held_step (hc : ConnInv maxConnections s) (hi : SessionsInv s) (ht : SessionsInv t)
    (h : Step maxConnections s action t) {c : Nat} (hheld : Held c s) (hq : Quiet c t) : Held c t := by
  obtain ⟨r, hs, hheld⟩ := hheld
  cases h with
  | server => exact ⟨r, hs, hheld⟩
  | sessionEnds => exact ⟨r, hs, hheld⟩
  | handshakeOk c' h =>
    have hne : c ≠ c' := by
      rintro rfl
      simp [(hc.unserved h).2.1] at hs
    exact ⟨r, ((setSession_eq c' c _).trans (if_neg hne)).trans hs, hheld⟩
  | @session r' action t' c' hs' hstep ha =>
    by_cases hne : c = c'
    · subst hne
      cases hs.symm.trans hs'
      have hteardown := hi.teardown hs
      have hown := (setSession_eq (s := s) c c { r with session := t' }).trans (if_pos rfl)
      refine ⟨_, hown, ?_⟩
      rcases hheld with hp | hstuck
      · exact .inl (reader_over (.inr rfl) hstep hp)
      · by_cases hp : t'.reader = .panicked
        · exact .inl hp
        · exact .inr (stuck_step hteardown hstuck hstep (hq _ hown hp))
    · have hother := ((setSession_eq c' c { r' with session := t' }).trans (if_neg hne)).trans hs
      refine ⟨r, hother, ?_⟩
      rcases hheld with hp | hstuck
      · exact .inl hp
      · by_cases hp : r.session.reader = .panicked
        · exact .inl hp
        · exact .inr (stuck_of_same (hi.teardown hs) (ht.teardown hother) hstuck rfl rfl rfl rfl (hq r hother hp))

theorem tasks_of_held (hc : ConnInv maxConnections s) (hi : SessionsInv s) {cs : List Nat} (hcs : cs.Nodup)
    (hheld : ∀ c ∈ cs, Held c s) :
    (∀ c ∈ cs, .session c ∈ s.server.tasks) ∧ cs.length ≤ s.server.activeConnections.toNat := by
  refine tasks_of_sessions hc hcs fun c hc => ?_
  obtain ⟨r, hs, hp | hstuck⟩ := hheld c hc
  · exact ⟨r, hs, by simp [hp]⟩
  · exact ⟨r, hs, ((stuck_iff (hi.teardown hs)).mp hstuck).2.2.live.2⟩

theorem not_accepted (hfull : maxConnections.toNat ≤ s.server.activeConnections.toNat)
    (c : Nat) : ¬ Step maxConnections s (.server (.accept c)) t := by
  intro h
  cases h with
  | server h =>
    cases h with
    | accept hl hp hroom => exact absurd (UInt64.lt_iff_toNat_lt.mp hroom) (Nat.not_lt.mpr hfull)

/-- **Slots that are not given back.** The slot of a client that went away while its session had nothing to send is
kept until a message for the client comes, and that of a client whose frame made its session panic for good. With as
many of them as the limit allows connections, the server accepts no connection until such a message comes. -/
theorem slots_held {handle : Int32} {config : BridgeConfig}
    (h : Runs.Reachable (Step maxConnections) (.start handle config) s) {cs : List Nat} (hcs : cs.Nodup)
    (hheld : ∀ c ∈ cs, Held c s) {tr : List (Action × Process)} (hrun : Runs.Run (Step maxConnections) s tr)
    (hquiet : ∀ p ∈ tr, p.2.started < 2 ^ 64 ∧ ∀ c ∈ cs, Quiet c p.2) :
    ∀ p ∈ tr, (∀ c ∈ cs, Held c p.2 ∧ .session c ∈ p.2.server.tasks) ∧
      cs.length ≤ p.2.server.activeConnections.toNat ∧
      (cs.length = maxConnections.toNat → ∀ c, p.1 ≠ .server (.accept c)) := by
  induction hrun with
  | nil s => simp
  | @cons s t action tr hstep _ ih =>
    have hi := reachable_processInv h
    have hreach := h.tail ⟨action, hstep⟩
    have hit := reachable_processInv hreach
    obtain ⟨⟨hids, hq⟩, hrest⟩ := List.forall_mem_cons.mp hquiet
    have hsessions := hi.2 (Nat.lt_of_le_of_lt (started_le hstep) hids)
    have hheldt : ∀ c ∈ cs, Held c t := fun c hc =>
      held_step hi.1 hsessions (hit.2 hids) hstep (hheld c hc) (hq c hc)
    obtain ⟨htasks, hlength⟩ := tasks_of_held hit.1 (hit.2 hids) hcs hheldt
    refine List.forall_mem_cons.mpr ⟨⟨fun c hc => ⟨hheldt c hc, htasks c hc⟩, hlength, fun hmax c heq => ?_⟩,
      ih hreach hheldt hrest⟩
    have hfull := (tasks_of_held hi.1 hsessions hcs hheld).2
    rw [hmax] at hfull
    rw [show action = _ from heq] at hstep
    exact not_accepted hfull c hstep

end

/-! ### A client that leaves -/

structure IdleClientGone (s : Process) (r : Running) : Prop where
  reachable : Runs.Reachable (Step 1) (.start 1 idleBridge.config) s
  started : s.started = 1
  session : s.sessions 0 = some r
  ended : r.session.ended = true
  drained : (r.on s.bridge).Drained 0
  reader : r.session.reader = .awaiting
  writer : r.session.writer = .selecting
  loop : s.server.loop = .selecting
  pending : s.server.pending = []
  full : s.server.activeConnections = 1
  registered : registered s.bridge = [0]

theorem idle_client_gone : ∃ s r, IdleClientGone s r := by
  have hsilent : ¬ AcceptLoop.Peer.Silent ⟨[71], false⟩ := fun h => nomatch h.1
  have hhealth : ¬ AcceptLoop.Peer.IsHealth ⟨[71], false⟩ := by
    unfold AcceptLoop.Peer.IsHealth
    decide
  have hrun : ∃ tr p r, Runs.Run (Step 1) (.start 1 idleBridge.config) tr ∧ tr.getLast? = some p ∧ p.2.started = 1 ∧
      p.2.sessions 0 = some r ∧ r.session.ended = true ∧ (r.on p.2.bridge).Drained 0 ∧ r.session.reader = .awaiting ∧
      r.session.writer = .selecting ∧ p.2.server.loop = .selecting ∧ p.2.server.pending = [] ∧
      p.2.server.activeConnections = 1 ∧ registered p.2.bridge = [0] := by
    refine ⟨_, _, _, .cons (.server .connect (by simp)) <|
      .cons (.server (.send 0 [71] rfl) (by simp)) <|
      .cons (.server (.accept rfl rfl (by decide)) (by simp)) <|
      .cons (.server (.peekOther rfl hsilent hhealth) (by simp)) <|
      .cons (.server (.spawn rfl) (by simp)) <|
      .cons (.handshakeOk 0 (.handshakeOk 0 List.mem_cons_self)) <|
      .cons (.session 0 rfl (.task (.start rfl (by decide))) nofun) <|
      .cons (.session 0 rfl (.disconnect rfl) nofun) <|
      .cons (.session 0 rfl (.task (.streamEnds rfl rfl)) nofun) <|
      .cons (.session 0 rfl (.task (.dropRespTx rfl)) nofun) (.nil _),
      rfl, rfl, rfl, rfl, ⟨rfl, rfl⟩, rfl, rfl, rfl, rfl, rfl, rfl⟩
  obtain ⟨tr, ⟨_, s⟩, r, hrun, hlast, hstarted, hs, hend, hd, hr, hw, hloop, hpending, hfull, hreg⟩ := hrun
  exact ⟨s, r, hrun.reachable.2 _ (List.mem_of_getLast? hlast), hstarted, hs, hend, hd, hr, hw, hloop, hpending,
    hfull, hreg⟩

/-- `sessions_of_connections` for a client that is gone: its session is still registered. -/
theorem sessions_of_connections_idle :
    ∃ s : Process, registered s.bridge = [0] ∧ .session 0 ∈ s.server.tasks ∧
      (registered s.bridge).length ≤ s.server.activeConnections.toNat := by
  obtain ⟨s, r, hgone⟩ := idle_client_gone
  have hids : s.started < 2 ^ 64 := by
    rw [hgone.started]
    decide
  obtain ⟨htasks, hlength, -⟩ := sessions_of_connections hgone.reachable hids
  exact ⟨s, hgone.registered, htasks 0 (by simp [hgone.registered]), hlength⟩

/-- With a limit of 1 the client that comes next is rejected. -/
theorem slots_held_idle :
    ∃ s tr, Runs.Reachable (Step 1) (.start 1 idleBridge.config) s ∧ Runs.Run (Step 1) s tr ∧
      tr.map Prod.fst = [.server .connect, .server (.reject s.server.nextConn)] ∧
      ∀ p ∈ tr, Held 0 p.2 ∧ ∀ c, p.1 ≠ .server (.accept c) := by
  obtain ⟨s, r, hgone⟩ := idle_client_gone
  have hids : s.started < 2 ^ 64 := by
    rw [hgone.started]
    decide
  have hteardown := ((reachable_processInv hgone.reachable).2 hids).teardown hgone.session
  have hstuck : Stuck r.sessionId 0 (r.on s.bridge) :=
    (stuck_iff hteardown).mpr ⟨hgone.ended, hgone.drained, .inl ⟨hgone.reader, hgone.writer⟩⟩
  have hheld : Held 0 s := ⟨r, hgone.session, .inr hstuck⟩
  have hpending : s.server.pending ++ [s.server.nextConn] = s.server.nextConn :: [] := by rw [hgone.pending]; rfl
  have hfull : s.server.activeConnections ≥ 1 := by simp [hgone.full]
  have hquiet : Quiet 0 s := by
    intro r' hs' _
    cases hgone.session.symm.trans hs'
    exact hgone.drained.1
  have hrun : Runs.Run (Step 1) s _ := .cons (.server .connect (by simp)) <|
    .cons (.server (.reject hgone.loop hpending hfull) (by simp)) (.nil _)
  have hquiets : ∀ c ∈ [0], Quiet c s := List.forall_mem_singleton.mpr hquiet
  have hall := slots_held hgone.reachable (List.nodup_singleton 0) (List.forall_mem_singleton.mpr hheld) hrun
    (List.forall_mem_cons.mpr ⟨⟨hids, hquiets⟩, List.forall_mem_singleton.mpr ⟨hids, hquiets⟩⟩)
  refine ⟨s, _, hgone.reachable, hrun, rfl, fun p hp => ?_⟩
  obtain ⟨hheld, -, hnone⟩ := hall p hp
  exact ⟨(hheld 0 (List.mem_singleton_self 0)).1, hnone rfl⟩

end DdsBridge.Host
