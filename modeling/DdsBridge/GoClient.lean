import DdsBridge.Lib.Runs
import DdsBridge.Lib.Table
import DdsBridge.Frame

/-!
# Writers of the Go client

`ddswsclient/client.go`: a `Writer` is used through an id that the bridge gave it on one connection, and
a call reads the id and the connection in two critical sections. `watchLoop` replaces both, in two others.
-/

namespace DdsBridge.GoClient

inductive WriterCall where
  | publish
  | publishDispose
  | publishWriteDispose
  | close
  deriving DecidableEq, Repr

def WriterCall.msgType : WriterCall → MsgType
  | .publish => .write
  | .publishDispose => .dispose
  | .publishWriteDispose => .writeDispose
  | .close => .deleteWriter

structure Writer where
  writerID : UInt32
  closed : Bool
  deriving DecidableEq, Repr

/-- A frame in writer-id mode, with the connection it goes out on and the `Writer` it is sent for. -/
structure Frame where
  conn : Nat
  msgType : MsgType
  writer : Nat
  id : UInt32
  deriving DecidableEq, Repr

/-- A call that is under way, by what it has read. -/
inductive Call where
  | creating (conn : Nat)
  /-- `CreateWriter`: the `Writer` is not in `c.writers` yet. -/
  | created (writer : Nat)
  | removing (writer : Nat) (id : UInt32)
  /-- The id is read, `c.conn` is not. -/
  | holding (call : WriterCall) (writer : Nat) (id : UInt32)
  | sending (call : WriterCall) (writer : Nat) (id : UInt32) (conn : Nat)
  deriving DecidableEq, Repr

inductive WatchLoop where
  | watching (conn : Nat)
  | closing (conn : Nat)
  | reconnecting
  | dialed (conn : Nat)
  /-- `restoreState`, with the writers that are still to do and those that have a new id. -/
  | restoring (conn : Nat) (todo restored : List Nat)
  | stopped
  deriving DecidableEq, Repr

/-- `Writer` objects, connections and calls are known by numbers. -/
structure Client where
  conn : Option Nat
  writers : List Nat
  writer : Table Nat Writer
  calls : Table Nat Call
  watch : WatchLoop
  /-- The connections whose `recvLoop` runs. -/
  live : List Nat
  closed : List Nat
  nextConn : Nat
  /-- `NEXT_WRITER_ID` of the bridge. -/
  nextWriterId : UInt32
  /-- The ids that the bridge gave: on which connection, and to which `Writer`. -/
  assigned : List (Nat × Nat × UInt32)
  frames : List Frame

def Client.new (nextWriterId : UInt32) : Client where
  conn := some 0
  writers := []
  writer := ∅
  calls := ∅
  watch := .watching 0
  live := [0]
  closed := []
  nextConn := 1
  nextWriterId
  assigned := []
  frames := []

namespace Client

def setCall (c : Nat) (call : Call) (s : Client) : Client := { s with calls := s.calls.insert c call }

def endCall (c : Nat) (s : Client) : Client := { s with calls := s.calls.erase c }

/-- The bridge creates a writer on connection `k`, and the client stores its id in `w`. -/
def assign (k w : Nat) (s : Client) : Client :=
  { s with
    writer := s.writer.insert w { writerID := s.nextWriterId, closed := false }
    assigned := (k, w, s.nextWriterId) :: s.assigned
    nextWriterId := s.nextWriterId + 1 }

def closeWriter (w : Nat) (writer : Writer) (s : Client) : Client :=
  { s with writer := s.writer.insert w { writer with closed := true } }

def closeConn (k : Nat) (s : Client) : Client :=
  { s with live := s.live.filter (· ≠ k), closed := k :: s.closed }

end Client

open Client

inductive Action where
  | createWriter (call : Nat)
  | reply (call writer : Nat)
  | append (call : Nat)
  | createFails (call : Nat)
  | readId (call : Nat) (kind : WriterCall) (writer : Nat)
  | removeWriter (call : Nat)
  | readConn (call : Nat)
  | send (call : Nat)
  | sendFails (call : Nat)
  | setNil
  | closeOld
  | dial
  | copyWriters
  | skip
  | recreate
  | restoreFails
  | swap
  | stop
  | closeClient
  | lose (conn : Nat)
  | restart
  | otherWriter

/-- The user has got the `Writer` from `CreateWriter`. -/
def Returned (s : Client) (w : Nat) : Prop := ∀ c, s.calls.lookup c ≠ some (.created w)

inductive Step : Client → Action → Client → Prop
  -- `CreateWriter`
  | createWriter {s k} (c : Nat) (hc : s.calls.lookup c = none) (hk : s.conn = some k) :
      Step s (.createWriter c) (setCall c (.creating k) s)
  | reply {s k} (c w : Nat) (hc : s.calls.lookup c = some (.creating k)) (hk : k ∈ s.live)
      (hw : s.writer.lookup w = none) :
      Step s (.reply c w) (setCall c (.created w) (s.assign k w))
  | append {s w} (c : Nat) (hc : s.calls.lookup c = some (.created w)) :
      Step s (.append c) (endCall c { s with writers := s.writers ++ [w] })
  | createFails {s k} (c : Nat) (hc : s.calls.lookup c = some (.creating k)) : Step s (.createFails c) (endCall c s)
  -- `Publish`, `PublishDispose`, `PublishWriteDispose` and `Close`
  | readId {s writer} (c : Nat) (kind : WriterCall) (w : Nat) (hk : kind ≠ .close)
      (hc : s.calls.lookup c = none) (hw : s.writer.lookup w = some writer) (hr : Returned s w)
      (ho : writer.closed = false) :
      Step s (.readId c kind w) (setCall c (.holding kind w writer.writerID) s)
  | close {s writer} (c w : Nat)
      (hc : s.calls.lookup c = none) (hw : s.writer.lookup w = some writer) (hr : Returned s w)
      (ho : writer.closed = false) :
      Step s (.readId c .close w)
        (setCall c (.removing w writer.writerID) (s.closeWriter w writer))
  | removeWriter {s w id} (c : Nat) (hc : s.calls.lookup c = some (.removing w id)) :
      Step s (.removeWriter c) (setCall c (.holding .close w id) { s with writers := s.writers.erase w })
  | readConn {s kind w id k} (c : Nat) (hc : s.calls.lookup c = some (.holding kind w id)) (hk : s.conn = some k) :
      Step s (.readConn c) (setCall c (.sending kind w id k) s)
  /-- `ErrNotConnected`; a `Close` is done. -/
  | notConnected {s kind w id} (c : Nat) (hc : s.calls.lookup c = some (.holding kind w id)) (hk : s.conn = none) :
      Step s (.readConn c) (endCall c s)
  | send {s kind w id k} (c : Nat) (hc : s.calls.lookup c = some (.sending kind w id k)) (hk : k ∉ s.closed) :
      Step s (.send c)
        (endCall c { s with
          frames := s.frames ++ [{ conn := k, msgType := kind.msgType, writer := w, id }] })
  | sendFails {s kind w id k} (c : Nat) (hc : s.calls.lookup c = some (.sending kind w id k)) :
      Step s (.sendFails c) (endCall c s)
  -- `watchLoop`, with `reconnect` and `restoreState`
  | setNil {s k} (hw : s.watch = .watching k) (hk : k ∉ s.live) :
      Step s .setNil { s with conn := none, watch := .closing k }
  | closeOld {s k} (hw : s.watch = .closing k) : Step s .closeOld { s.closeConn k with watch := .reconnecting }
  | dial {s} (hw : s.watch = .reconnecting) :
      Step s .dial { s with
        watch := .dialed s.nextConn, live := s.nextConn :: s.live, nextConn := s.nextConn + 1 }
  | copyWriters {s k} (hw : s.watch = .dialed k) : Step s .copyWriters { s with watch := .restoring k s.writers [] }
  | skip {s k w todo restored writer} (hw : s.watch = .restoring k (w :: todo) restored)
      (hl : s.writer.lookup w = some writer) (hc : writer.closed = true) :
      Step s .skip { s with watch := .restoring k todo restored }
  /-- Under `w.mu`, which no call can take before the new id is stored. -/
  | recreate {s k w todo restored writer} (hw : s.watch = .restoring k (w :: todo) restored)
      (hl : s.writer.lookup w = some writer) (hc : writer.closed = false) (hk : k ∈ s.live) :
      Step s .recreate { s.assign k w with watch := .restoring k todo (w :: restored) }
  | restoreFails {s k todo restored} (hw : s.watch = .restoring k todo restored) :
      Step s .restoreFails { s.closeConn k with watch := .reconnecting }
  | swap {s k restored} (hw : s.watch = .restoring k [] restored) :
      Step s .swap { s with conn := some k, watch := .watching k }
  | stop {s} (hw : s.watch = .reconnecting ∨ ∃ k, s.watch = .watching k) : Step s .stop { s with watch := .stopped }
  | closeClient {s k} (hw : s.watch = .stopped) (hk : s.conn = some k) :
      Step s .closeClient { s.closeConn k with conn := none, writers := [] }
  | closeNil {s} (hw : s.watch = .stopped) (hk : s.conn = none) :
      Step s .closeClient { s with writers := [] }
  -- The network and the bridge
  | lose {s} (k : Nat) : Step s (.lose k) { s with live := s.live.filter (· ≠ k) }
  | restart {s} : Step s .restart { s with live := [], nextWriterId := 1 }
  | otherWriter {s} : Step s .otherWriter { s with nextWriterId := s.nextWriterId + 1 }

/-- Every frame carries an id that its `Writer` was given on its connection. -/
def IdsIssued (s : Client) : Prop := ∀ f ∈ s.frames, (f.conn, f.writer, f.id) ∈ s.assigned

/-- The `Writer` and the id of a call that has not read `c.conn` yet. -/
def Call.held : Call → Option (Nat × UInt32)
  | .removing w id => some (w, id)
  | .holding _ w id => some (w, id)
  | _ => none

/-- No reconnect is behind anyone's back: each `Writer` that is not closed is among `restored`, and a call
that holds an id holds the new id of a restored `Writer`. -/
structure Settled (s : Client) (restored : List Nat) : Prop where
  writers : ∀ w writer, s.writer.lookup w = some writer → writer.closed = false → w ∈ restored
  calls : ∀ c call w id, s.calls.lookup c = some call → call.held = some (w, id) →
    w ∈ restored ∧ ∃ writer, s.writer.lookup w = some writer ∧ writer.writerID = id

def SwapsSettled (s : Client) (action : Action) : Prop :=
  action = .swap → ∀ k restored, s.watch = .restoring k [] restored → Settled s restored

/-! ## Ids and the connection in use -/

def CallInv (s : Client) : Call → Prop
  | .creating k => k < s.nextConn ∧ (k ∈ s.live → s.conn = some k)
  | .created _ => True
  | .removing w id => ∀ k, s.conn = some k → (k, w, id) ∈ s.assigned
  | .holding _ w id => ∀ k, s.conn = some k → (k, w, id) ∈ s.assigned
  | .sending _ w id k => (k, w, id) ∈ s.assigned

def WatchInv (s : Client) : WatchLoop → Prop
  | .watching k => s.conn = some k
  | .closing _ => s.conn = none
  | .reconnecting => s.conn = none
  | .dialed k => s.conn = none ∧ k < s.nextConn
  | .restoring k _ restored => s.conn = none ∧ k < s.nextConn ∧ ∀ w ∈ restored,
      ∃ writer, s.writer.lookup w = some writer ∧ (k, w, writer.writerID) ∈ s.assigned
  | .stopped => True

/-- While a connection is in use, every id that can be sent on it was given on it. -/
structure ClientInv (s : Client) : Prop where
  calls : ∀ c call, s.calls.lookup c = some call → CallInv s call
  watch : WatchInv s s.watch
  conn : ∀ k, s.conn = some k → k < s.nextConn
  writers : ∀ k, s.conn = some k → ∀ w writer, s.writer.lookup w = some writer → writer.closed = false →
    (k, w, writer.writerID) ∈ s.assigned
  frames : IdsIssued s

theorem clientInv_new (nextWriterId : UInt32) : ClientInv (Client.new nextWriterId) where
  calls c call h := by cases h
  watch := rfl
  conn k h := by
    cases h
    exact Nat.one_pos
  writers k _ w writer h := by cases h
  frames f h := by cases h

section
variable {s t : Client}

theorem CallInv.mono (hn : s.nextConn ≤ t.nextConn) (ha : s.assigned ⊆ t.assigned)
    (hl : ∀ k ∈ t.live, k < s.nextConn → k ∈ s.live) (hup : ∀ k ∈ t.live, s.conn = some k → t.conn = some k)
    (hdown : ∀ k, t.conn = some k → s.conn = some k) {call : Call} (h : CallInv s call) : CallInv t call := by
  cases call with
  | creating k =>
    obtain ⟨hk, hlive⟩ := h
    refine ⟨Nat.lt_of_lt_of_le hk hn, fun hk' => hup k hk' (hlive (hl k hk' hk))⟩
  | created w => trivial
  | removing w id => exact fun k hk => ha (h k (hdown k hk))
  | holding kind w id => exact fun k hk => ha (h k (hdown k hk))
  | sending kind w id k => exact ha h

theorem WatchInv.mono (hconn : t.conn = s.conn) (hn : t.nextConn = s.nextConn) {watch : WatchLoop}
    (hid : ∀ k todo restored, watch = .restoring k todo restored → ∀ w ∈ restored,
      (∃ writer, s.writer.lookup w = some writer ∧ (k, w, writer.writerID) ∈ s.assigned) →
        ∃ writer, t.writer.lookup w = some writer ∧ (k, w, writer.writerID) ∈ t.assigned)
    (h : WatchInv s watch) : WatchInv t watch := by
  cases watch with
  | restoring k todo restored =>
    obtain ⟨hnone, hlt, hres⟩ := h
    exact ⟨hconn.trans hnone, by rw [hn]; exact hlt, fun w hw => hid k todo restored rfl w hw (hres w hw)⟩
  | dialed k => exact ⟨hconn.trans h.1, by rw [hn]; exact h.2⟩
  | watching k => exact hconn.trans h
  | closing k => exact hconn.trans h
  | reconnecting => exact hconn.trans h
  | stopped => trivial

theorem ClientInv.setCall (hi : ClientInv s) (c : Nat) {call : Call} (h : CallInv s call) :
    ClientInv (setCall c call s) :=
  ⟨Table.forall_insert hi.calls c h, hi.watch, hi.conn, hi.writers, hi.frames⟩

theorem ClientInv.endCall (hi : ClientInv s) (c : Nat) : ClientInv (endCall c s) :=
  ⟨Table.forall_erase hi.calls c, hi.watch, hi.conn, hi.writers, hi.frames⟩

/-- The same calls on the same or no connection, with a step of `watchLoop` that the invariant allows. -/
theorem ClientInv.watchStep (hi : ClientInv s) (hcalls : t.calls = s.calls) (hwriter : t.writer = s.writer)
    (hassigned : t.assigned = s.assigned) (hframes : t.frames = s.frames) (hn : s.nextConn ≤ t.nextConn)
    (hl : ∀ k ∈ t.live, k < s.nextConn → k ∈ s.live) (hup : ∀ k ∈ t.live, s.conn = some k → t.conn = some k)
    (hdown : ∀ k, t.conn = some k → s.conn = some k) (hw : WatchInv t t.watch) : ClientInv t where
  calls := by
    intro c call h
    rw [hcalls] at h
    exact (hi.calls c call h).mono hn (by rw [hassigned]; exact fun _ h => h) hl hup hdown
  watch := hw
  conn k hk := Nat.lt_of_lt_of_le (hi.conn k (hdown k hk)) hn
  writers k hk w writer h hc := by
    rw [hwriter] at h
    rw [hassigned]
    exact hi.writers k (hdown k hk) w writer h hc
  frames := by
    unfold IdsIssued
    rw [hframes, hassigned]
    exact hi.frames

theorem ClientInv.sameConn (hi : ClientInv s) (hcalls : t.calls = s.calls) (hwriter : t.writer = s.writer)
    (hassigned : t.assigned = s.assigned) (hframes : t.frames = s.frames) (hn : t.nextConn = s.nextConn)
    (hconn : t.conn = s.conn) (hl : ∀ k ∈ t.live, k ∈ s.live) (hw : WatchInv t t.watch) : ClientInv t := by
  refine hi.watchStep hcalls hwriter hassigned hframes (Nat.le_of_eq hn.symm) (fun k h _ => hl k h) ?_ ?_ hw
  · rw [hconn]
    exact fun _ _ h => h
  · rw [hconn]
    exact fun _ h => h

theorem ClientInv.closeWriter (hi : ClientInv s) {w : Nat} {writer : Writer} (hlook : s.writer.lookup w = some writer) :
    ClientInv (Client.closeWriter w writer s) := by
  refine ⟨hi.calls, ?_, hi.conn, fun k hk w' writer' hlook' hopen => ?_, hi.frames⟩
  · refine WatchInv.mono (s := s) (t := Client.closeWriter w writer s) rfl rfl (fun k _ _ _ w' _ hid => ?_) hi.watch
    change ∃ writer', (s.writer.insert w _).lookup w' = some writer' ∧ (k, w', writer'.writerID) ∈ s.assigned
    rw [Table.lookup_insert_eq]
    by_cases h : w' = w
    · subst h
      obtain ⟨writer', hlook', hmem⟩ := hid
      rw [hlook] at hlook'
      cases hlook'
      rw [if_pos rfl]
      exact ⟨_, rfl, hmem⟩
    · rw [if_neg h]
      exact hid
  · change (s.writer.insert w _).lookup w' = some writer' at hlook'
    rw [Table.lookup_insert_eq] at hlook'
    by_cases h : w' = w
    · rw [if_pos h] at hlook'
      cases hlook'
      cases hopen
    · rw [if_neg h] at hlook'
      exact hi.writers k hk w' writer' hlook' hopen

theorem ClientInv.assign (hi : ClientInv s) {k w : Nat} (hk : ∀ k', s.conn = some k' → k' = k)
    (hw : ∀ k' todo restored, s.watch = .restoring k' todo restored → w ∈ restored → k' = k) :
    ClientInv (assign k w s) where
  calls c call h := by
    refine CallInv.mono (s := s) (t := Client.assign k w s) (Nat.le_refl _) ?_ (fun _ h _ => h) (fun _ _ h => h)
      (fun _ h => h) (hi.calls c call h)
    exact List.subset_cons_self _ _
  watch := by
    refine WatchInv.mono (s := s) (t := Client.assign k w s) rfl rfl (fun k' todo restored hs w' hw' hid => ?_) hi.watch
    change ∃ writer, (s.writer.insert w _).lookup w' = some writer ∧ (k', w', writer.writerID) ∈ _ :: s.assigned
    rw [Table.lookup_insert_eq]
    by_cases h : w' = w
    · subst h
      rw [if_pos rfl, hw k' todo restored hs hw']
      exact ⟨_, rfl, List.mem_cons_self⟩
    · rw [if_neg h]
      obtain ⟨writer, hlook, hmem⟩ := hid
      exact ⟨writer, hlook, List.mem_cons_of_mem _ hmem⟩
  conn := hi.conn
  writers := by
    intro k' hk' w' writer hlook hopen
    change (s.writer.insert w _).lookup w' = some writer at hlook
    rw [Table.lookup_insert_eq] at hlook
    by_cases h : w' = w
    · rw [if_pos h] at hlook
      cases hlook
      rw [h, hk k' hk']
      exact List.mem_cons_self
    · rw [if_neg h] at hlook
      exact List.mem_cons_of_mem _ (hi.writers k' hk' w' writer hlook hopen)
  frames f hf := List.mem_cons_of_mem _ (hi.frames f hf)

/-- What a swap needs: the connection that comes in is the one the ids of `restored` were given on. -/
theorem ClientInv.swap (hi : ClientInv s) {k : Nat} {restored : List Nat}
    (hw : s.watch = .restoring k [] restored) (hsettled : Settled s restored) :
    ClientInv { s with conn := some k, watch := .watching k } := by
  have hwatch := hi.watch
  rw [hw] at hwatch
  obtain ⟨hnone, hlt, hres⟩ := hwatch
  have hid : ∀ w ∈ restored, ∀ writer, s.writer.lookup w = some writer → (k, w, writer.writerID) ∈ s.assigned := by
    intro w hmem writer hlook
    obtain ⟨writer', hlook', hassigned⟩ := hres w hmem
    rw [hlook] at hlook'
    cases hlook'
    exact hassigned
  have hheld : ∀ c call w id, s.calls.lookup c = some call → call.held = some (w, id) → (k, w, id) ∈ s.assigned := by
    intro c call w id hc hh
    obtain ⟨hmem, writer, hlook, rfl⟩ := hsettled.calls c call w id hc hh
    exact hid w hmem writer hlook
  refine ⟨fun c call hc => ?_, rfl, fun k' hk' => ?_, fun k' hk' w writer hlook hopen => ?_, hi.frames⟩
  · have hcall := hi.calls c call hc
    cases call with
    | creating k' =>
      -- The request was sent on a connection that is gone.
      refine ⟨hcall.1, fun hlive => ?_⟩
      have hconn := hcall.2 hlive
      rw [hnone] at hconn
      cases hconn
    | created w => trivial
    | removing w id =>
      intro k' hk'
      cases hk'
      exact hheld c _ w id hc rfl
    | holding kind w id =>
      intro k' hk'
      cases hk'
      exact hheld c _ w id hc rfl
    | sending kind w id k' => exact hcall
  · cases hk'
    exact hlt
  · cases hk'
    exact hid w (hsettled.writers w writer hlook hopen) writer hlook

theorem mem_of_filter {k k' : Nat} {live : List Nat} (h : k' ∈ live.filter (· ≠ k)) : k' ∈ live ∧ k' ≠ k := by
  simpa using h

theorem ClientInv.step (hi : ClientInv s) {action : Action} (h : Step s action t) (hok : SwapsSettled s action) :
    ClientInv t := by
  have hwatch := hi.watch
  cases h with
  | createWriter c hc hk => exact hi.setCall c ⟨hi.conn _ hk, fun _ => hk⟩
  | @reply k c w hc hlive hw =>
    have hconn := (hi.calls c _ hc).2 hlive
    refine ClientInv.setCall (hi.assign (fun k' hk' => ?_) fun k' todo restored hr hmem => ?_) c trivial
    · rw [hconn] at hk'
      cases hk'
      rfl
    · rw [hr] at hwatch
      rw [hwatch.1] at hconn
      cases hconn
  | @append w c hc =>
    have hi' : ClientInv { s with writers := s.writers ++ [w] } :=
      hi.sameConn rfl rfl rfl rfl rfl rfl (fun _ h => h) hwatch
    exact hi'.endCall c
  | createFails c hc => exact hi.endCall c
  | readId c kind w hk hc hw hr ho => exact hi.setCall c fun k hk => hi.writers k hk w _ hw ho
  | close c w hc hw hr ho => exact (hi.closeWriter hw).setCall c fun k hk => hi.writers k hk w _ hw ho
  | @removeWriter w id c hc =>
    have hi' : ClientInv { s with writers := s.writers.erase w } :=
      hi.sameConn rfl rfl rfl rfl rfl rfl (fun _ h => h) hwatch
    exact hi'.setCall c (hi.calls c _ hc)
  | readConn c hc hk => exact hi.setCall c (hi.calls c _ hc _ hk)
  | notConnected c hc hk => exact hi.endCall c
  | @send kind w id k c hc hk =>
    have hi' : ClientInv { s with frames := s.frames ++ [⟨k, kind.msgType, w, id⟩] } := by
      refine ⟨hi.calls, hi.watch, hi.conn, hi.writers, fun f hf => ?_⟩
      rcases List.mem_append.mp hf with hf | hf
      · exact hi.frames f hf
      · rw [List.mem_singleton] at hf
        subst hf
        exact hi.calls c _ hc
    exact hi'.endCall c
  | sendFails c hc => exact hi.endCall c
  | setNil hw hk =>
    rw [hw] at hwatch
    refine hi.watchStep rfl rfl rfl rfl (Nat.le_refl _) (fun _ h _ => h) (fun k' hlive hk' => ?_) (fun k h => ?_) rfl
    · -- The connection in use has lost its `recvLoop`.
      rw [hwatch] at hk'
      cases hk'
      exact absurd hlive hk
    · cases h
  | closeOld hw =>
    rw [hw] at hwatch
    exact hi.sameConn rfl rfl rfl rfl rfl rfl (fun _ h => (mem_of_filter h).1) hwatch
  | dial hw =>
    rw [hw] at hwatch
    refine hi.watchStep rfl rfl rfl rfl (Nat.le_succ _) (fun k hlive hlt => ?_) (fun _ _ h => h) (fun _ h => h)
      ⟨hwatch, Nat.lt_succ_self _⟩
    rcases List.mem_cons.mp hlive with rfl | h
    · exact absurd hlt (Nat.lt_irrefl _)
    · exact h
  | copyWriters hw =>
    rw [hw] at hwatch
    exact hi.sameConn rfl rfl rfl rfl rfl rfl (fun _ h => h) ⟨hwatch.1, hwatch.2, fun w h => by cases h⟩
  | skip hw hl hc =>
    rw [hw] at hwatch
    exact hi.sameConn rfl rfl rfl rfl rfl rfl (fun _ h => h) hwatch
  | @recreate k w todo restored writer hw hl hc hk =>
    rw [hw] at hwatch
    obtain ⟨hnone, hlt, hres⟩ := hwatch
    have hi' : ClientInv (Client.assign k w s) := by
      refine hi.assign (fun k' hk' => ?_) fun k' todo' restored' hr _ => ?_
      · rw [hnone] at hk'
        cases hk'
      · rw [hw] at hr
        cases hr
        rfl
    refine hi'.sameConn rfl rfl rfl rfl rfl rfl (fun _ h => h) ⟨hnone, hlt, fun w' hw' => ?_⟩
    have hwatch' := hi'.watch
    change WatchInv (Client.assign k w s) s.watch at hwatch'
    rw [hw] at hwatch'
    rcases List.mem_cons.mp hw' with rfl | hmem
    · refine ⟨⟨s.nextWriterId, false⟩, ?_, List.mem_cons_self⟩
      change (s.writer.insert w' _).lookup w' = _
      rw [Table.lookup_insert_eq, if_pos rfl]
    · exact hwatch'.2.2 w' hmem
  | restoreFails hw =>
    rw [hw] at hwatch
    exact hi.sameConn rfl rfl rfl rfl rfl rfl (fun _ h => (mem_of_filter h).1) hwatch.1
  | swap hw => exact hi.swap hw (hok rfl _ _ hw)
  | stop hw => exact hi.sameConn rfl rfl rfl rfl rfl rfl (fun _ h => h) trivial
  | @closeClient k hw hk =>
    refine hi.watchStep rfl rfl rfl rfl (Nat.le_refl _) (fun _ h _ => (mem_of_filter h).1) (fun k' hlive hk' => ?_)
      (fun k h => ?_) ?_
    · rw [hk] at hk'
      cases hk'
      exact absurd rfl (mem_of_filter hlive).2
    · cases h
    · change WatchInv _ s.watch
      rw [hw]
      trivial
  | closeNil hw hk => exact hi.sameConn rfl rfl rfl rfl rfl rfl (fun _ h => h) hwatch
  | lose k => exact hi.sameConn rfl rfl rfl rfl rfl rfl (fun _ h => (mem_of_filter h).1) hwatch
  | restart => exact hi.sameConn rfl rfl rfl rfl rfl rfl (fun _ h => by cases h) hwatch
  | otherWriter => exact hi.sameConn rfl rfl rfl rfl rfl rfl (fun _ h => h) hwatch

/-- **Ids are used where they were issued**, in a run whose reconnects are settled. -/
theorem always_idsIssued {nextWriterId : UInt32} {tr : List (Action × Client)}
    (hrun : Runs.Run Step (Client.new nextWriterId) tr)
    (hok : Runs.EachStep SwapsSettled (Client.new nextWriterId) tr) :
    Runs.Always IdsIssued (Client.new nextWriterId) tr := by
  have hstep : ∀ s action t, ClientInv s → Step s action t → SwapsSettled s action → ClientInv t :=
    fun _ _ _ hi h hok => hi.step h hok
  exact (Runs.always_of_eachStep hstep hrun (clientInv_new nextWriterId) hok).mono fun _ hi => hi.frames

theorem returned_of_nil {s : Client} {w : Nat} (h : s.calls.entries = []) : Returned s w := by
  intro c hc
  unfold AList.lookup at hc
  rw [h] at hc
  cases hc

/-- `always_idsIssued` for a `Writer` that publishes after a reconnect, with no call under way at the swap. -/
theorem publish_after_reconnect :
    ∃ tr, Runs.Run Step (Client.new 2) tr ∧
      (∃ p ∈ tr, p.2.frames = [{ conn := 1, msgType := .write, writer := 0, id := 1 }]) ∧
      Runs.Always IdsIssued (Client.new 2) tr := by
  have hrun : ∃ tr, Runs.Run Step (Client.new 2) tr ∧
      (∃ p ∈ tr, p.2.frames = [{ conn := 1, msgType := .write, writer := 0, id := 1 }]) ∧
      Runs.EachStep SwapsSettled (Client.new 2) tr := by
    refine ⟨_, .cons (.createWriter 10 rfl rfl) <|
      .cons (.reply 10 0 rfl (by decide) rfl) <|
      .cons (.append 10 rfl) <|
      .cons .restart <|
      .cons (.setNil rfl (by decide)) <|
      .cons (.closeOld rfl) <|
      .cons (.dial rfl) <|
      .cons (.copyWriters rfl) <|
      .cons (.recreate rfl rfl rfl (by decide)) <|
      .cons (.swap rfl) <|
      .cons (.readId 11 .publish 0 (by decide) rfl rfl (returned_of_nil rfl) rfl) <|
      .cons (.readConn 11 rfl rfl) <|
      .cons (.send 11 rfl (by decide)) (.nil _), ⟨_, List.mem_of_getLast? rfl, rfl⟩,
      nofun, nofun, nofun, nofun, nofun, nofun, nofun, nofun, nofun, ?_, nofun, nofun, nofun, trivial⟩
    intro _ k restored hw
    have hr : WatchLoop.restoring 1 [] [0] = .restoring k [] restored := hw
    cases hr
    refine ⟨fun w writer hlook _ => ?_, fun c call w id hlook _ => nomatch (hlook : none = some _)⟩
    by_cases h : w = 0
    · rw [h]
      exact List.mem_singleton_self 0
    · have hlook' : (((∅ : Table Nat Writer).insert 0 ⟨2, false⟩).insert 0 ⟨1, false⟩).lookup w = some writer :=
        hlook
      rw [Table.lookup_insert_eq, if_neg h, Table.lookup_insert_eq, if_neg h] at hlook'
      cases hlook'
  obtain ⟨tr, hrun, hframe, hok⟩ := hrun
  exact ⟨tr, hrun, hframe, always_idsIssued hrun hok⟩

/-- A `Publish` for `Writer` 0 reads the id 2; the bridge restarts and the client reconnects, where `Writer` 0
gets the id 1 and a new `Writer` 1 gets the id 2; then the call goes on, on the new connection. -/
theorem publish_across_reconnect :
    ∃ s, Runs.Reachable Step (Client.new 2) s ∧
      { conn := 1, msgType := .write, writer := 0, id := 2 } ∈ s.frames ∧ (1, 1, 2) ∈ s.assigned ∧ ¬ IdsIssued s := by
  have hrun : ∃ tr, Runs.Run Step (Client.new 2) tr ∧ ∃ p ∈ tr,
      p.2.frames = [{ conn := 1, msgType := .write, writer := 0, id := 2 }] ∧
        p.2.assigned = [(1, 1, 2), (1, 0, 1), (0, 0, 2)] := by
    refine ⟨_, .cons (.createWriter 10 rfl rfl) <|
      .cons (.reply 10 0 rfl (by decide) rfl) <|
      .cons (.append 10 rfl) <|
      .cons (.readId 11 .publish 0 (by decide) rfl rfl (returned_of_nil rfl) rfl) <|
      .cons .restart <|
      .cons (.setNil rfl (by decide)) <|
      .cons (.closeOld rfl) <|
      .cons (.dial rfl) <|
      .cons (.copyWriters rfl) <|
      .cons (.recreate rfl rfl rfl (by decide)) <|
      .cons (.swap rfl) <|
      .cons (.createWriter 12 rfl rfl) <|
      .cons (.reply 12 1 rfl (by decide) rfl) <|
      .cons (.append 12 rfl) <|
      .cons (.readConn 11 rfl rfl) <|
      .cons (.send 11 rfl (by decide)) (.nil _), _, List.mem_of_getLast? rfl, rfl, rfl⟩
  obtain ⟨tr, hrun, p, hp, hframes, hassigned⟩ := hrun
  refine ⟨p.2, hrun.reachable.2 p hp, ?_, ?_, fun h => ?_⟩
  · rw [hframes]
    exact List.mem_singleton_self _
  · rw [hassigned]
    exact List.mem_cons_self
  · have hissued := h _ (by rw [hframes]; exact List.mem_singleton_self _)
    rw [hassigned] at hissued
    exact absurd hissued (by decide)

end

end DdsBridge.GoClient
