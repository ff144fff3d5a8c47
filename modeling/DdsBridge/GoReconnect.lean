import DdsBridge.Lib.Runs
import DdsBridge.Lib.Table

/-!
# Reconnects of the Go client

`ddswsclient/client.go`: `Subscribe`, `Unsubscribe`, `CreateWriter` and `Close` use the connection that they have
read, `restoreState` works from a copy of `c.subs` and `c.writers` for a connection that no call has yet.
-/

namespace DdsBridge.GoReconnect

/-! ## The client and the sessions of the bridge -/

structure Subscription where
  topicName : String
  typeName : String
  unsubscribed : Bool
  deriving DecidableEq, Repr

structure Writer where
  writerID : UInt32
  closed : Bool
  deriving DecidableEq, Repr

/-- A `Subscribe` or an `Unsubscribe` that is under way. -/
inductive SubCall where
  | subscribing (conn : Nat) (topicName typeName : String)
  /-- The bridge has answered, the `Subscription` is not in `c.subs` yet. -/
  | subscribed (conn : Nat) (topicName typeName : String)
  | unsubscribing (sub : Nat)
  /-- `removeSub` is done, `c.conn` is not read. -/
  | removed (sub : Nat)
  | sending (sub conn : Nat)
  deriving DecidableEq, Repr

/-- A `CreateWriter`, or the `Close` of a `Writer`. -/
inductive WriterCall where
  | creating (conn : Nat)
  | created (conn : Nat) (id : UInt32)
  | closing (writer : Nat) (id : UInt32)
  | removed (writer : Nat) (id : UInt32)
  | sending (writer : Nat) (id : UInt32) (conn : Nat)
  deriving DecidableEq, Repr

inductive WatchLoop where
  | watching (conn : Nat)
  | closing (conn : Nat)
  | reconnecting
  | dialed (conn : Nat)
  /-- `restoreState`: the writers that are still to do, the copy of `c.subs` and what is to do of it. -/
  | restoring (conn : Nat) (writers copied subs : List Nat)
  deriving DecidableEq, Repr

/-- The `Subscription` or `Writer` that a call makes has the number of the call. -/
structure Client where
  conn : Option Nat
  subs : List Nat
  writers : List Nat
  subscription : Table Nat Subscription
  writer : Table Nat Writer
  subCalls : Table Nat SubCall
  writerCalls : Table Nat WriterCall
  watch : WatchLoop
  /-- The connections whose `recvLoop` runs. -/
  live : List Nat
  nextConn : Nat
  /-- What the sessions of the bridge have; each connection is a session. -/
  subscribed : List (Nat × String × String)
  created : List (Nat × UInt32 × Nat)

def Client.new : Client where
  conn := some 0
  subs := []
  writers := []
  subscription := ∅
  writer := ∅
  subCalls := ∅
  writerCalls := ∅
  watch := .watching 0
  live := [0]
  nextConn := 1
  subscribed := []
  created := []

namespace Client

def setSub (c : Nat) (call : SubCall) (s : Client) : Client := { s with subCalls := s.subCalls.insert c call }

def endSub (c : Nat) (s : Client) : Client := { s with subCalls := s.subCalls.erase c }

def setWriter (c : Nat) (call : WriterCall) (s : Client) : Client :=
  { s with writerCalls := s.writerCalls.insert c call }

def endWriter (c : Nat) (s : Client) : Client := { s with writerCalls := s.writerCalls.erase c }

/-- SUBSCRIBE on connection `k`. -/
def subscribe (k : Nat) (topicName typeName : String) (s : Client) : Client :=
  { s with subscribed := (k, topicName, typeName) :: s.subscribed }

def unsubscribe (k : Nat) (topicName typeName : String) (s : Client) : Client :=
  { s with subscribed := s.subscribed.filter (· ≠ (k, topicName, typeName)) }

/-- DELETE_WRITER on connection `k`; an id that the session does not have is an error. -/
def deleteWriter (k : Nat) (id : UInt32) (s : Client) : Client :=
  { s with created := s.created.filter fun e => ¬ (e.1 = k ∧ e.2.1 = id) }

/-- CREATE_WRITER on connection `k` for the `Writer` `w`: a writer that had the id is replaced. -/
def createWriter (k : Nat) (id : UInt32) (w : Nat) (s : Client) : Client :=
  { s with created := (k, id, w) :: (s.deleteWriter k id).created }

end Client

open Client

inductive Action where
  | subscribe (call : Nat) (topicName typeName : String)
  | answerSubscribe (call : Nat)
  | appendSub (call : Nat)
  | subscribeFails (call : Nat)
  | unsubscribe (call sub : Nat)
  | removeSub (call : Nat)
  | readConnSub (call : Nat)
  | answerUnsubscribe (call : Nat)
  | unsubscribeFails (call : Nat)
  | createWriter (call : Nat)
  | answerCreate (call : Nat) (id : UInt32)
  | appendWriter (call : Nat)
  | createFails (call : Nat)
  | close (call writer : Nat)
  | removeWriter (call : Nat)
  | readConnWriter (call : Nat)
  | answerDelete (call : Nat)
  | deleteFails (call : Nat)
  | setNil
  | closeOld
  | dial
  | copy
  | skip
  | recreate (id : UInt32)
  | resubscribe
  | restoreFails
  | swap
  | lose (conn : Nat)

/-- A request is answered while its connection is up, and fails only when it is not. After `Close` of the client
there is no connection any more; it is not among the actions. -/
inductive Step : Client → Action → Client → Prop
  -- `Subscribe`
  | subscribe {s k} (c : Nat) (topicName typeName : String) (hc : s.subCalls.lookup c = none)
      (hnew : s.subscription.lookup c = none) (hk : s.conn = some k) :
      Step s (.subscribe c topicName typeName) (setSub c (.subscribing k topicName typeName) s)
  | answerSubscribe {s k topicName typeName} (c : Nat)
      (hc : s.subCalls.lookup c = some (.subscribing k topicName typeName)) (hk : k ∈ s.live) :
      Step s (.answerSubscribe c)
        (setSub c (.subscribed k topicName typeName) (s.subscribe k topicName typeName))
  | appendSub {s k topicName typeName} (c : Nat)
      (hc : s.subCalls.lookup c = some (.subscribed k topicName typeName)) :
      Step s (.appendSub c)
        (endSub c { s with
          subs := s.subs ++ [c]
          subscription := s.subscription.insert c { topicName, typeName, unsubscribed := false } })
  | subscribeFails {s k topicName typeName} (c : Nat)
      (hc : s.subCalls.lookup c = some (.subscribing k topicName typeName) ∨
        s.subCalls.lookup c = some (.subscribed k topicName typeName)) (hk : k ∉ s.live) :
      Step s (.subscribeFails c) (endSub c s)
  -- `Unsubscribe`
  | unsubscribe {s sub} (c i : Nat) (hc : s.subCalls.lookup c = none) (hi : s.subscription.lookup i = some sub) :
      Step s (.unsubscribe c i)
        (setSub c (.unsubscribing i) { s with
          subscription := s.subscription.insert i { sub with unsubscribed := true } })
  | removeSub {s i} (c : Nat) (hc : s.subCalls.lookup c = some (.unsubscribing i)) :
      Step s (.removeSub c) (setSub c (.removed i) { s with subs := s.subs.erase i })
  | readConnSub {s i k} (c : Nat) (hc : s.subCalls.lookup c = some (.removed i)) (hk : s.conn = some k) :
      Step s (.readConnSub c) (setSub c (.sending i k) s)
  | notConnectedSub {s i} (c : Nat) (hc : s.subCalls.lookup c = some (.removed i)) (hk : s.conn = none) :
      Step s (.readConnSub c) (endSub c s)
  | answerUnsubscribe {s i k sub} (c : Nat) (hc : s.subCalls.lookup c = some (.sending i k)) (hk : k ∈ s.live)
      (hi : s.subscription.lookup i = some sub) :
      Step s (.answerUnsubscribe c) (endSub c (s.unsubscribe k sub.topicName sub.typeName))
  | unsubscribeFails {s i k} (c : Nat) (hc : s.subCalls.lookup c = some (.sending i k)) (hk : k ∉ s.live) :
      Step s (.unsubscribeFails c) (endSub c s)
  -- `CreateWriter`
  | createWriter {s k} (c : Nat) (hc : s.writerCalls.lookup c = none) (hnew : s.writer.lookup c = none)
      (hk : s.conn = some k) : Step s (.createWriter c) (setWriter c (.creating k) s)
  | answerCreate {s k} (c : Nat) (id : UInt32) (hc : s.writerCalls.lookup c = some (.creating k)) (hk : k ∈ s.live) :
      Step s (.answerCreate c id) (setWriter c (.created k id) (s.createWriter k id c))
  | appendWriter {s k id} (c : Nat) (hc : s.writerCalls.lookup c = some (.created k id)) :
      Step s (.appendWriter c)
        (endWriter c { s with
          writers := s.writers ++ [c]
          writer := s.writer.insert c { writerID := id, closed := false } })
  | createFails {s k} (c : Nat)
      (hc : s.writerCalls.lookup c = some (.creating k) ∨ ∃ id, s.writerCalls.lookup c = some (.created k id))
      (hk : k ∉ s.live) : Step s (.createFails c) (endWriter c s)
  -- `Close` of a `Writer`; the second one finds it closed and returns
  | close {s writer} (c w : Nat) (hc : s.writerCalls.lookup c = none) (hw : s.writer.lookup w = some writer)
      (ho : writer.closed = false) :
      Step s (.close c w)
        (setWriter c (.closing w writer.writerID) { s with
          writer := s.writer.insert w { writer with closed := true } })
  | removeWriter {s w id} (c : Nat) (hc : s.writerCalls.lookup c = some (.closing w id)) :
      Step s (.removeWriter c) (setWriter c (.removed w id) { s with writers := s.writers.erase w })
  | readConnWriter {s w id k} (c : Nat) (hc : s.writerCalls.lookup c = some (.removed w id)) (hk : s.conn = some k) :
      Step s (.readConnWriter c) (setWriter c (.sending w id k) s)
  | notConnectedWriter {s w id} (c : Nat) (hc : s.writerCalls.lookup c = some (.removed w id)) (hk : s.conn = none) :
      Step s (.readConnWriter c) (endWriter c s)
  | answerDelete {s w id k} (c : Nat) (hc : s.writerCalls.lookup c = some (.sending w id k)) (hk : k ∈ s.live) :
      Step s (.answerDelete c) (endWriter c (s.deleteWriter k id))
  | deleteFails {s w id k} (c : Nat) (hc : s.writerCalls.lookup c = some (.sending w id k)) (hk : k ∉ s.live) :
      Step s (.deleteFails c) (endWriter c s)
  -- `watchLoop`, with `reconnect` and `restoreState`
  | setNil {s k} (hw : s.watch = .watching k) (hk : k ∉ s.live) :
      Step s .setNil { s with conn := none, watch := .closing k }
  | closeOld {s k} (hw : s.watch = .closing k) : Step s .closeOld { s with watch := .reconnecting }
  | dial {s} (hw : s.watch = .reconnecting) :
      Step s .dial { s with
        watch := .dialed s.nextConn, live := s.nextConn :: s.live, nextConn := s.nextConn + 1 }
  | copy {s k} (hw : s.watch = .dialed k) :
      Step s .copy { s with watch := .restoring k s.writers s.subs s.subs }
  | skip {s k w writers copied subs writer} (hw : s.watch = .restoring k (w :: writers) copied subs)
      (hl : s.writer.lookup w = some writer) (hc : writer.closed = true) :
      Step s .skip { s with watch := .restoring k writers copied subs }
  /-- Under `w.mu`, which `Close` cannot take before the new id is stored. -/
  | recreate {s k w writers copied subs writer} (id : UInt32) (hw : s.watch = .restoring k (w :: writers) copied subs)
      (hl : s.writer.lookup w = some writer) (hc : writer.closed = false) (hk : k ∈ s.live) :
      Step s (.recreate id) { s.createWriter k id w with
        writer := s.writer.insert w { writer with writerID := id }
        watch := .restoring k writers copied subs }
  | resubscribe {s k i copied subs sub} (hw : s.watch = .restoring k [] copied (i :: subs))
      (hl : s.subscription.lookup i = some sub) (hk : k ∈ s.live) :
      Step s .resubscribe { s.subscribe k sub.topicName sub.typeName with watch := .restoring k [] copied subs }
  | restoreFails {s k writers copied subs} (hw : s.watch = .restoring k writers copied subs) (hk : k ∉ s.live) :
      Step s .restoreFails { s with watch := .reconnecting }
  | swap {s k copied} (hw : s.watch = .restoring k [] copied []) :
      Step s .swap { s with conn := some k, watch := .watching k }
  -- The network and the bridge
  | lose {s} (k : Nat) : Step s (.lose k) { s with live := s.live.filter (· ≠ k) }

/-! ## What a reconnect is to restore -/

def Client.Idle (s : Client) : Prop := (∀ c, s.subCalls.lookup c = none) ∧ ∀ c, s.writerCalls.lookup c = none

/-- The session of connection `k` has what the client has. -/
structure Client.Agrees (s : Client) (k : Nat) : Prop where
  subs : ∀ topicName typeName, (k, topicName, typeName) ∈ s.subscribed ↔
    ∃ i, s.subscription.lookup i = some { topicName, typeName, unsubscribed := false }
  writers : ∀ id w, (k, id, w) ∈ s.created ↔ s.writer.lookup w = some { writerID := id, closed := false }

/-- In a state where the client is connected and no call is under way. -/
def Client.Restored (s : Client) : Prop := s.Idle → ∀ k, s.conn = some k → k ∈ s.live → s.Agrees k

/-- The `Subscription`, or the `Subscribe` that makes it, is for the topic and type. -/
def Client.HasKey (s : Client) (i : Nat) (topicName typeName : String) : Prop :=
  (∃ unsubscribed, s.subscription.lookup i = some { topicName, typeName, unsubscribed }) ∨
    ∃ k, s.subCalls.lookup i = some (.subscribing k topicName typeName) ∨
      s.subCalls.lookup i = some (.subscribed k topicName typeName)

/-- No two `Subscription`s share a topic and type. -/
def Client.KeysDistinct (s : Client) : Prop :=
  ∀ i j topicName typeName, s.HasKey i topicName typeName → s.HasKey j topicName typeName → i = j

/-- `c.conn` is nil and `restoreState` has not made its copies yet. -/
def WatchLoop.BeforeCopy : WatchLoop → Prop
  | .closing _ => True
  | .reconnecting => True
  | .dialed _ => True
  | _ => False

/-- The calls that a reconnect does not overtake. -/
def Client.InTime (s : Client) : Action → Prop
  -- What was answered on a connection is appended before `restoreState` makes its copies for the next one.
  | .appendSub c => ∀ k topicName typeName, s.subCalls.lookup c = some (.subscribed k topicName typeName) →
      s.conn = some k ∨ s.watch.BeforeCopy
  | .appendWriter c => ∀ k id, s.writerCalls.lookup c = some (.created k id) → s.conn = some k ∨ s.watch.BeforeCopy
  -- A call that finds no connection has ended nothing that is on the next one.
  | .readConnSub c => ∀ i, s.subCalls.lookup c = some (.removed i) →
      ∀ k writers copied subs, s.watch = .restoring k writers copied subs → i ∉ copied
  | .readConnWriter c => ∀ w id, s.writerCalls.lookup c = some (.removed w id) →
      ∀ k writers copied subs, s.watch = .restoring k writers copied subs → ∀ id', (k, id', w) ∉ s.created
  -- An id is not that of another `Writer` on the connection.
  | .answerDelete c => ∀ w id k, s.writerCalls.lookup c = some (.sending w id k) →
      ∀ w', (k, id, w') ∈ s.created → w' = w
  | .answerCreate c id => ∀ k, s.writerCalls.lookup c = some (.creating k) → ∀ w, (k, id, w) ∉ s.created
  | .recreate id => ∀ k writers copied subs, s.watch = .restoring k writers copied subs → ∀ w, (k, id, w) ∉ s.created
  | _ => True

/-! ## The connections -/

/-- The connection of a request that is not answered or not used yet. -/
def SubCall.conn : SubCall → Option Nat
  | .subscribing k _ _ => some k
  | .subscribed k _ _ => some k
  | .sending _ k => some k
  | _ => none

def WriterCall.conn : WriterCall → Option Nat
  | .creating k => some k
  | .created k _ => some k
  | .sending _ _ k => some k
  | _ => none

def WatchLoop.conn : WatchLoop → Option Nat
  | .dialed k => some k
  | .restoring k _ _ _ => some k
  | _ => none

/-- A call that uses a connection whose `recvLoop` runs uses `c.conn`; the one that `watchLoop` has is newer. -/
structure ConnInv (s : Client) : Prop where
  conn : ∀ k, s.conn = some k → s.watch = .watching k ∧ k < s.nextConn
  watch : ∀ k, s.watch.conn = some k → k < s.nextConn
  subCalls : ∀ c call, s.subCalls.lookup c = some call → ∀ k, call.conn = some k →
    k < s.nextConn ∧ (k ∈ s.live → s.conn = some k)
  writerCalls : ∀ c call, s.writerCalls.lookup c = some call → ∀ k, call.conn = some k →
    k < s.nextConn ∧ (k ∈ s.live → s.conn = some k)
  subscribed : ∀ k topicName typeName, (k, topicName, typeName) ∈ s.subscribed → k < s.nextConn
  created : ∀ k id w, (k, id, w) ∈ s.created → k < s.nextConn
  dialed : ∀ k, s.watch = .dialed k →
    (∀ topicName typeName, (k, topicName, typeName) ∉ s.subscribed) ∧ ∀ id w, (k, id, w) ∉ s.created

theorem connInv_new : ConnInv .new where
  conn k h := by
    cases h
    exact ⟨rfl, Nat.one_pos⟩
  watch k h := by cases h
  subCalls c call h := by cases h
  writerCalls c call h := by cases h
  subscribed k t T h := by cases h
  created k id w h := by cases h
  dialed k h := by cases h

section
variable {s t : Client}

theorem mem_deleteWriter {k k' : Nat} {id id' : UInt32} {w : Nat} :
    (k', id', w) ∈ (s.deleteWriter k id).created ↔ (k', id', w) ∈ s.created ∧ ¬ (k' = k ∧ id' = id) := by
  unfold Client.deleteWriter
  rw [List.mem_filter, decide_eq_true_eq]

theorem mem_createWriter {k k' : Nat} {id id' : UInt32} {w w' : Nat} :
    (k', id', w') ∈ (s.createWriter k id w).created ↔
      k' = k ∧ id' = id ∧ w' = w ∨ (k', id', w') ∈ s.created ∧ ¬ (k' = k ∧ id' = id) := by
  unfold Client.createWriter
  rw [List.mem_cons, mem_deleteWriter]
  simp only [Prod.mk.injEq]

theorem mem_subscribe {k k' : Nat} {topicName typeName t T : String} :
    (k', t, T) ∈ (s.subscribe k topicName typeName).subscribed ↔
      k' = k ∧ t = topicName ∧ T = typeName ∨ (k', t, T) ∈ s.subscribed := by
  unfold Client.subscribe
  rw [List.mem_cons, Prod.mk.injEq, Prod.mk.injEq]

theorem mem_unsubscribe {k k' : Nat} {topicName typeName t T : String} :
    (k', t, T) ∈ (s.unsubscribe k topicName typeName).subscribed ↔
      (k', t, T) ∈ s.subscribed ∧ ¬ (k' = k ∧ t = topicName ∧ T = typeName) := by
  unfold Client.unsubscribe
  rw [List.mem_filter, decide_eq_true_eq, ne_eq, Prod.mk.injEq, Prod.mk.injEq]

theorem ConnInv.setSub (hi : ConnInv s) (c : Nat) {call : SubCall}
    (h : ∀ k, call.conn = some k → k < s.nextConn ∧ (k ∈ s.live → s.conn = some k)) : ConnInv (setSub c call s) :=
  ⟨hi.conn, hi.watch, Table.forall_insert hi.subCalls c h, hi.writerCalls, hi.subscribed, hi.created, hi.dialed⟩

theorem ConnInv.endSub (hi : ConnInv s) (c : Nat) : ConnInv (endSub c s) :=
  ⟨hi.conn, hi.watch, Table.forall_erase hi.subCalls c, hi.writerCalls, hi.subscribed, hi.created, hi.dialed⟩

theorem ConnInv.setWriter (hi : ConnInv s) (c : Nat) {call : WriterCall}
    (h : ∀ k, call.conn = some k → k < s.nextConn ∧ (k ∈ s.live → s.conn = some k)) :
    ConnInv (setWriter c call s) :=
  ⟨hi.conn, hi.watch, hi.subCalls, Table.forall_insert hi.writerCalls c h, hi.subscribed, hi.created, hi.dialed⟩

theorem ConnInv.endWriter (hi : ConnInv s) (c : Nat) : ConnInv (endWriter c s) :=
  ⟨hi.conn, hi.watch, hi.subCalls, Table.forall_erase hi.writerCalls c, hi.subscribed, hi.created, hi.dialed⟩

theorem ConnInv.lists (hi : ConnInv s) {subs writers : List Nat} {subscription : Table Nat Subscription}
    {writer : Table Nat Writer} : ConnInv { s with subs, writers, subscription, writer } :=
  ⟨hi.conn, hi.watch, hi.subCalls, hi.writerCalls, hi.subscribed, hi.created, hi.dialed⟩

/-- A request on the connection in use, or on the new one while it is restored. -/
theorem ConnInv.sessions (hi : ConnInv s) {watch : WatchLoop} {subscribed : List (Nat × String × String)}
    {created : List (Nat × UInt32 × Nat)} (hw : s.watch = watch) (hn : ∀ k, watch ≠ .dialed k)
    (hs : ∀ k t T, (k, t, T) ∈ subscribed → k < s.nextConn) (hc : ∀ k id w, (k, id, w) ∈ created → k < s.nextConn) :
    ConnInv { s with subscribed, created } :=
  ⟨hi.conn, hi.watch, hi.subCalls, hi.writerCalls, hs, hc, fun k h => absurd (hw.symm.trans h) (hn k)⟩

/-- The live connection of a call is the one that `watchLoop` watches. -/
theorem ConnInv.watching (hi : ConnInv s) {k : Nat} (hk : k ∈ s.live → s.conn = some k) (hlive : k ∈ s.live) :
    s.watch = .watching k := (hi.conn k (hk hlive)).1

/-- `watchLoop` goes on without a connection in use. -/
theorem ConnInv.next (hi : ConnInv s) {watch : WatchLoop} (hnone : s.conn = none)
    (hw : ∀ k, watch.conn = some k → k < s.nextConn) (hd : ∀ k, watch ≠ .dialed k) : ConnInv { s with watch } := by
  refine ⟨fun k h => ?_, hw, hi.subCalls, hi.writerCalls, hi.subscribed, hi.created, fun k h => absurd h (hd k)⟩
  rw [show s.conn = some k from h] at hnone
  cases hnone

theorem ConnInv.conn_eq_none (hi : ConnInv s) {watch : WatchLoop} (hw : s.watch = watch) (h : ∀ k, watch ≠ .watching k) :
    s.conn = none :=
  Option.eq_none_iff_forall_ne_some.mpr fun k hk => h k (hw.symm.trans (hi.conn k hk).1)

theorem ConnInv.step {action : Action} (hi : ConnInv s) (h : Step s action t) : ConnInv t := by
  cases h with
  | subscribe c topicName typeName hc hnew hk =>
    refine hi.setSub c fun k' h => ?_
    cases h
    exact ⟨(hi.conn _ hk).2, fun _ => hk⟩
  | answerSubscribe c hc hlive =>
    have hcall := hi.subCalls c _ hc _ rfl
    have hw := hi.watching hcall.2 hlive
    refine ConnInv.setSub (s := Client.subscribe _ _ _ s) ?_ c fun k' h => by
      cases h
      exact hcall
    refine hi.sessions hw nofun (fun k' t T h => ?_) hi.created
    rcases mem_subscribe.mp h with ⟨rfl, -, -⟩ | h
    · exact hcall.1
    · exact hi.subscribed k' t T h
  | appendSub c hc => exact ConnInv.endSub hi.lists c
  | subscribeFails c hc hk => exact hi.endSub c
  | unsubscribe c i hc hlook => exact ConnInv.setSub hi.lists c fun _ h => nomatch h
  | removeSub c hc => exact ConnInv.setSub hi.lists c fun _ h => nomatch h
  | readConnSub c hc hk =>
    refine hi.setSub c fun k' h => ?_
    cases h
    exact ⟨(hi.conn _ hk).2, fun _ => hk⟩
  | notConnectedSub c hc hk => exact hi.endSub c
  | answerUnsubscribe c hc hlive hlook =>
    have hw := hi.watching (hi.subCalls c _ hc _ rfl).2 hlive
    refine ConnInv.endSub (s := Client.unsubscribe _ _ _ s) ?_ c
    refine hi.sessions hw nofun (fun k' t T h => ?_) hi.created
    exact hi.subscribed k' t T (mem_unsubscribe.mp h).1
  | unsubscribeFails c hc hk => exact hi.endSub c
  | createWriter c hc hnew hk =>
    refine hi.setWriter c fun k' h => ?_
    cases h
    exact ⟨(hi.conn _ hk).2, fun _ => hk⟩
  | answerCreate c id hc hlive =>
    have hcall := hi.writerCalls c _ hc _ rfl
    have hw := hi.watching hcall.2 hlive
    refine ConnInv.setWriter (s := Client.createWriter _ id c s) ?_ c fun k' h => by
      cases h
      exact hcall
    refine hi.sessions hw nofun hi.subscribed fun k' id' w h => ?_
    rcases mem_createWriter.mp h with ⟨rfl, -, -⟩ | ⟨h, -⟩
    · exact hcall.1
    · exact hi.created k' id' w h
  | appendWriter c hc => exact ConnInv.endWriter hi.lists c
  | createFails c hc hk => exact hi.endWriter c
  | close c w hc hlook ho => exact ConnInv.setWriter hi.lists c fun _ h => nomatch h
  | removeWriter c hc => exact ConnInv.setWriter hi.lists c fun _ h => nomatch h
  | readConnWriter c hc hk =>
    refine hi.setWriter c fun k' h => ?_
    cases h
    exact ⟨(hi.conn _ hk).2, fun _ => hk⟩
  | notConnectedWriter c hc hk => exact hi.endWriter c
  | answerDelete c hc hlive =>
    have hw := hi.watching (hi.writerCalls c _ hc _ rfl).2 hlive
    refine ConnInv.endWriter (s := Client.deleteWriter _ _ s) ?_ c
    refine hi.sessions hw nofun hi.subscribed fun k' id' w h => ?_
    exact hi.created k' id' w (mem_deleteWriter.mp h).1
  | deleteFails c hc hk => exact hi.endWriter c
  | setNil hw hk =>
    -- The connection in use has lost its `recvLoop`, so no call has one that runs.
    have hdead : ∀ k', (k' ∈ s.live → s.conn = some k') → k' ∉ s.live := fun k' h hlive => by
      have heq := hi.watching h hlive
      rw [hw] at heq
      cases heq
      exact hk hlive
    refine ⟨nofun, nofun, fun c call hc k' h => ?_, fun c call hc k' h => ?_, hi.subscribed, hi.created, nofun⟩
    · obtain ⟨hlt, hlive⟩ := hi.subCalls c call hc k' h
      exact ⟨hlt, fun h => absurd h (hdead k' hlive)⟩
    · obtain ⟨hlt, hlive⟩ := hi.writerCalls c call hc k' h
      exact ⟨hlt, fun h => absurd h (hdead k' hlive)⟩
  | closeOld hw => exact hi.next (hi.conn_eq_none hw nofun) nofun nofun
  | dial hw =>
    have hnone := hi.conn_eq_none hw nofun
    have hlive : ∀ k', k' < s.nextConn → (k' ∈ s.live → s.conn = some k') → k' ∈ s.nextConn :: s.live →
        s.conn = some k' := by
      intro k' hlt h hmem
      exact h ((List.mem_cons.mp hmem).resolve_left (Nat.ne_of_lt hlt))
    refine ⟨fun k h => ?_, fun k h => ?_, fun c call hc k' h => ?_, fun c call hc k' h => ?_, fun k t T h => ?_,
      fun k id w h => ?_, fun k h => ?_⟩
    · rw [show s.conn = some k from h] at hnone
      cases hnone
    · cases h
      exact Nat.lt_succ_self _
    · obtain ⟨hlt, hk⟩ := hi.subCalls c call hc k' h
      exact ⟨Nat.lt_succ_of_lt hlt, hlive k' hlt hk⟩
    · obtain ⟨hlt, hk⟩ := hi.writerCalls c call hc k' h
      exact ⟨Nat.lt_succ_of_lt hlt, hlive k' hlt hk⟩
    · exact Nat.lt_succ_of_lt (hi.subscribed k t T h)
    · exact Nat.lt_succ_of_lt (hi.created k id w h)
    · cases h
      exact ⟨fun t T h => absurd (hi.subscribed _ t T h) (Nat.lt_irrefl _),
        fun id w h => absurd (hi.created _ id w h) (Nat.lt_irrefl _)⟩
  | copy hw =>
    refine hi.next (hi.conn_eq_none hw nofun) (fun k h => ?_) nofun
    exact hi.watch k (by rw [hw]; exact h)
  | skip hw hl hc =>
    refine hi.next (hi.conn_eq_none hw nofun) (fun k h => ?_) nofun
    exact hi.watch k (by rw [hw]; exact h)
  | @recreate k w writers copied subs writer id hw hl hc hk =>
    have hlt := hi.watch k (by rw [hw]; rfl)
    have hi' : ConnInv (Client.createWriter k id w s) := by
      refine hi.sessions hw nofun hi.subscribed fun k' id' w' h => ?_
      rcases mem_createWriter.mp h with ⟨rfl, -, -⟩ | ⟨h, -⟩
      · exact hlt
      · exact hi.created k' id' w' h
    have hnone : s.conn = none := hi.conn_eq_none hw nofun
    have hnext : ConnInv { s.createWriter k id w with watch := .restoring k writers copied subs } := by
      refine hi'.next hnone (fun k' h => ?_) nofun
      cases h
      exact hlt
    exact ⟨hnext.conn, hnext.watch, hnext.subCalls, hnext.writerCalls, hnext.subscribed, hnext.created, hnext.dialed⟩
  | @resubscribe k i copied subs sub hw hl hk =>
    have hlt := hi.watch k (by rw [hw]; rfl)
    have hi' : ConnInv (Client.subscribe k sub.topicName sub.typeName s) := by
      refine hi.sessions hw nofun (fun k' t T h => ?_) hi.created
      rcases mem_subscribe.mp h with ⟨rfl, -, -⟩ | h
      · exact hlt
      · exact hi.subscribed k' t T h
    refine hi'.next (hi.conn_eq_none hw nofun) (fun k' h => ?_) nofun
    cases h
    exact hlt
  | restoreFails hw hk => exact hi.next (hi.conn_eq_none hw nofun) nofun nofun
  | @swap k copied hw =>
    have hnone := hi.conn_eq_none hw nofun
    have hdead : ∀ k' k, (k' ∈ s.live → s.conn = some k') → k' ∈ s.live → some k = some k' := by
      intro k' k h hlive
      rw [hnone] at h
      cases h hlive
    refine ⟨fun k' h => ?_, nofun, fun c call hc k' h => ?_, fun c call hc k' h => ?_, hi.subscribed, hi.created, nofun⟩
    · cases h
      exact ⟨rfl, hi.watch _ (by rw [hw]; rfl)⟩
    · obtain ⟨hlt, hk⟩ := hi.subCalls c call hc k' h
      exact ⟨hlt, hdead k' k hk⟩
    · obtain ⟨hlt, hk⟩ := hi.writerCalls c call hc k' h
      exact ⟨hlt, hdead k' k hk⟩
  | lose k =>
    have hmem : ∀ k', k' ∈ s.live.filter (· ≠ k) → k' ∈ s.live := fun k' h => (List.mem_filter.mp h).1
    refine ⟨hi.conn, hi.watch, fun c call hc k' h => ?_, fun c call hc k' h => ?_, hi.subscribed, hi.created, hi.dialed⟩
    · obtain ⟨hlt, hk⟩ := hi.subCalls c call hc k' h
      exact ⟨hlt, fun h => hk (hmem k' h)⟩
    · obtain ⟨hlt, hk⟩ := hi.writerCalls c call hc k' h
      exact ⟨hlt, fun h => hk (hmem k' h)⟩

end

/-! ## Subscriptions -/

/-- The `Unsubscribe` of `i` is not done with the session of connection `k`. -/
def SubCall.Ends (i k : Nat) : SubCall → Prop
  | .unsubscribing j => j = i
  | .removed j => j = i
  | .sending j k' => j = i ∧ k' = k
  | _ => False

def SubCall.Makes (topicName typeName : String) : SubCall → Prop
  | .subscribing _ t T => t = topicName ∧ T = typeName
  | .subscribed _ t T => t = topicName ∧ T = typeName
  | _ => False

/-- The session of the connection in use has the live `Subscription`s, and those of calls that are under way. -/
structure SessionSubs (s : Client) (k : Nat) : Prop where
  only : ∀ t T, (k, t, T) ∈ s.subscribed → (∃ c, s.subCalls.lookup c = some (.subscribed k t T)) ∨
    ∃ i u, s.subscription.lookup i = some ⟨t, T, u⟩ ∧
      (u = true → ∃ c call, s.subCalls.lookup c = some call ∧ call.Ends i k)
  all : ∀ i t T, s.subscription.lookup i = some ⟨t, T, false⟩ → (k, t, T) ∈ s.subscribed
  answered : ∀ c t T, s.subCalls.lookup c = some (.subscribed k t T) → (k, t, T) ∈ s.subscribed

/-- The session of the new connection gets what was copied; whoever unsubscribes from that will find the new
connection. -/
structure RestoringSubs (s : Client) (k : Nat) (copied todo : List Nat) : Prop where
  only : ∀ t T, (k, t, T) ∈ s.subscribed → ∃ i ∈ copied, ∃ u, s.subscription.lookup i = some ⟨t, T, u⟩
  entry : ∀ i ∈ copied, ∃ t T u, s.subscription.lookup i = some ⟨t, T, u⟩ ∧ (i ∉ todo → (k, t, T) ∈ s.subscribed) ∧
    (u = true → ∃ c, s.subCalls.lookup c = some (.unsubscribing i) ∨ s.subCalls.lookup c = some (.removed i))
  all : ∀ i t T, s.subscription.lookup i = some ⟨t, T, false⟩ → i ∈ copied
  todo : ∀ i ∈ todo, i ∈ copied

structure SubsInv (s : Client) : Prop where
  nodup : s.subs.Nodup
  known : ∀ i ∈ s.subs, ∃ t T u, s.subscription.lookup i = some ⟨t, T, u⟩ ∧
    (u = true → ∃ c, s.subCalls.lookup c = some (.unsubscribing i))
  listed : ∀ i t T, s.subscription.lookup i = some ⟨t, T, false⟩ → i ∈ s.subs
  fresh : ∀ c call t T, s.subCalls.lookup c = some call → call.Makes t T → s.subscription.lookup c = none
  ended : ∀ c call i k, s.subCalls.lookup c = some call → call.Ends i k →
    ∃ t T, s.subscription.lookup i = some ⟨t, T, true⟩
  session : ∀ k, s.conn = some k → k ∈ s.live → SessionSubs s k
  restoring : ∀ k writers copied todo, s.watch = .restoring k writers copied todo → RestoringSubs s k copied todo

theorem subsInv_new : SubsInv .new where
  nodup := List.nodup_nil
  known i h := by cases h
  listed i t T h := by cases h
  fresh c call t T h := by cases h
  ended c call i k h := by cases h
  session k _ _ := by
    refine ⟨fun t T h => ?_, fun i t T h => ?_, fun c t T h => ?_⟩
    · cases h
    · cases h
    · cases h
  restoring k writers copied todo h := by cases h

section
variable {s t : Client}

theorem SubsInv.subscribe (hi : SubsInv s) {c k : Nat} {topicName typeName : String}
    (hc : s.subCalls.lookup c = none) (hnew : s.subscription.lookup c = none) :
    SubsInv (setSub c (.subscribing k topicName typeName) s) := by
  have hknown := hi.known
  have hfresh := hi.fresh
  have hended := hi.ended
  refine ⟨hi.nodup, ?_, hi.listed, ?_, ?_, fun k' hk' hlive => ?_, fun k' writers copied todo hw => ?_⟩
  · simp only [setSub, Table.lookup_insert_eq]
    grind
  · simp only [setSub, Table.lookup_insert_eq]
    grind
  · simp only [setSub, Table.lookup_insert_eq]
    grind [SubCall.Ends]
  · obtain ⟨honly, hall, hanswered⟩ := hi.session k' hk' hlive
    refine ⟨?_, hall, ?_⟩
    all_goals
      simp only [setSub, Table.lookup_insert_eq]
      grind
  · obtain ⟨honly, hentry, hall, htodo⟩ := hi.restoring k' writers copied todo hw
    refine ⟨honly, ?_, hall, htodo⟩
    simp only [setSub, Table.lookup_insert_eq]
    grind

theorem SubsInv.answerSubscribe (hi : SubsInv s) {c k : Nat} {topicName typeName : String}
    (hc : s.subCalls.lookup c = some (.subscribing k topicName typeName)) (hw : s.watch = .watching k) :
    SubsInv (setSub c (.subscribed k topicName typeName) (s.subscribe k topicName typeName)) := by
  have hknown := hi.known
  have hfresh := hi.fresh
  have hended := hi.ended
  have hnone : s.subscription.lookup c = none := hi.fresh c _ topicName typeName hc ⟨rfl, rfl⟩
  refine ⟨hi.nodup, ?_, hi.listed, ?_, ?_, fun k' hk' hlive => ?_, fun k' writers copied todo hr => ?_⟩
  · simp only [setSub, Client.subscribe, Table.lookup_insert_eq]
    grind
  · simp only [setSub, Client.subscribe, Table.lookup_insert_eq]
    grind [SubCall.Makes]
  · simp only [setSub, Client.subscribe, Table.lookup_insert_eq]
    grind [SubCall.Ends]
  · obtain ⟨honly, hall, hanswered⟩ := hi.session k' hk' hlive
    refine ⟨?_, ?_, ?_⟩
    all_goals
      simp only [setSub, Client.subscribe, Table.lookup_insert_eq, List.mem_cons, Prod.mk.injEq]
      grind [SubCall.Ends]
  · rw [show s.watch = _ from hr] at hw
    cases hw

theorem SubsInv.appendSub (hi : SubsInv s) {c k : Nat} {topicName typeName : String}
    (hc : s.subCalls.lookup c = some (.subscribed k topicName typeName))
    (hconn : ∀ k', s.conn = some k' → k' = k) (hr : ∀ k writers copied todo, s.watch ≠ .restoring k writers copied todo) :
    SubsInv (endSub c { s with
      subs := s.subs ++ [c]
      subscription := s.subscription.insert c { topicName, typeName, unsubscribed := false } }) := by
  have hnodup := hi.nodup
  have hknown := hi.known
  have hlisted := hi.listed
  have hfresh := hi.fresh
  have hended := hi.ended
  have hnone : s.subscription.lookup c = none := hi.fresh c _ topicName typeName hc ⟨rfl, rfl⟩
  refine ⟨?_, ?_, ?_, ?_, ?_, fun k' hk' hlive => ?_, fun k' writers copied todo hw => absurd hw (hr _ _ _ _)⟩
  · have hnot : c ∉ s.subs := fun h => by
      obtain ⟨t, T, u, h, -⟩ := hi.known c h
      rw [hnone] at h
      cases h
    exact hnodup.append (List.nodup_singleton c) (List.disjoint_singleton.mpr hnot)
  · intro i hi'
    simp only [endSub, Table.lookup_insert_eq, Table.lookup_erase_eq]
    rcases List.mem_append.mp hi' with h | h
    · obtain ⟨t, T, u, hlook, hcall⟩ := hknown i h
      have hne : i ≠ c := fun h => by
        rw [h, hnone] at hlook
        cases hlook
      exact ⟨t, T, u, by rw [if_neg hne]; exact hlook, by grind⟩
    · exact ⟨topicName, typeName, false, if_pos (List.mem_singleton.mp h), nofun⟩
  · simp only [endSub, Table.lookup_insert_eq, List.mem_append, List.mem_singleton]
    grind
  · simp only [endSub, Table.lookup_insert_eq, Table.lookup_erase_eq]
    grind
  · simp only [endSub, Table.lookup_insert_eq, Table.lookup_erase_eq]
    grind
  · obtain ⟨honly, hall, hanswered⟩ := hi.session k' hk' hlive
    have hkk := hconn k' hk'
    refine ⟨?_, ?_, ?_⟩
    all_goals
      simp only [endSub, Table.lookup_insert_eq, Table.lookup_erase_eq]
      grind [SubCall.Ends]

theorem SubCall.Ends.conn {i k k' : Nat} {call : SubCall} (h : call.Ends i k) (hk : call.conn = some k') : k' = k := by
  cases call with
  | sending j k'' =>
    cases hk
    exact h.2
  | unsubscribing | removed => cases hk
  | _ => exact h.elim

theorem SubsInv.dropSub (hi : SubsInv s) {c k : Nat} {call : SubCall} (hc : s.subCalls.lookup c = some call)
    (hcall : call.conn = some k) (hk : k ∉ s.live) : SubsInv (endSub c s) := by
  have hknown := hi.known
  have hfresh := hi.fresh
  have hended := hi.ended
  refine ⟨hi.nodup, ?_, hi.listed, ?_, ?_, fun k' hk' hlive => ?_, fun k' writers copied todo hw => ?_⟩
  · simp only [endSub, Table.lookup_erase_eq]
    grind [SubCall.conn]
  · simp only [endSub, Table.lookup_erase_eq]
    grind
  · simp only [endSub, Table.lookup_erase_eq]
    grind
  · obtain ⟨honly, hall, hanswered⟩ := hi.session k' hk' hlive
    have hne : k' ≠ k := fun h => hk (h ▸ hlive)
    refine ⟨?_, hall, ?_⟩
    all_goals
      simp only [endSub, Table.lookup_erase_eq]
      grind [SubCall.conn, SubCall.Ends.conn]
  · obtain ⟨honly, hentry, hall, htodo⟩ := hi.restoring k' writers copied todo hw
    refine ⟨honly, ?_, hall, htodo⟩
    simp only [endSub, Table.lookup_erase_eq]
    grind [SubCall.conn]

theorem SubsInv.unsubscribe (hi : SubsInv s) {c i : Nat} {sub : Subscription}
    (hc : s.subCalls.lookup c = none) (hlook : s.subscription.lookup i = some sub) :
    SubsInv (setSub c (.unsubscribing i) { s with
      subscription := s.subscription.insert i { sub with unsubscribed := true } }) := by
  obtain ⟨topicName, typeName, u⟩ := sub
  have hknown := hi.known
  have hlisted := hi.listed
  have hfresh := hi.fresh
  have hended := hi.ended
  refine ⟨hi.nodup, ?_, ?_, ?_, ?_, fun k' hk' hlive => ?_, fun k' writers copied todo hw => ?_⟩
  · simp only [setSub, Table.lookup_insert_eq]
    grind
  · simp only [setSub, Table.lookup_insert_eq]
    grind
  · simp only [setSub, Table.lookup_insert_eq]
    grind [SubCall.Makes]
  · intro c' call j k hlook' hends
    simp only [setSub, Table.lookup_insert_eq] at hlook' ⊢
    by_cases hji : j = i
    · exact ⟨topicName, typeName, if_pos hji⟩
    · rw [if_neg hji]
      grind [SubCall.Ends]
  · obtain ⟨honly, hall, hanswered⟩ := hi.session k' hk' hlive
    refine ⟨?_, ?_, ?_⟩
    all_goals
      simp only [setSub, Table.lookup_insert_eq]
      grind [SubCall.Ends]
  · obtain ⟨honly, hentry, hall, htodo⟩ := hi.restoring k' writers copied todo hw
    refine ⟨?_, ?_, ?_, htodo⟩
    all_goals
      simp only [setSub, Table.lookup_insert_eq]
      grind

theorem SubsInv.removeSub (hi : SubsInv s) {c i : Nat} (hc : s.subCalls.lookup c = some (.unsubscribing i)) :
    SubsInv (setSub c (.removed i) { s with subs := s.subs.erase i }) := by
  have hknown := hi.known
  have hlisted := hi.listed
  have hfresh := hi.fresh
  have hended := hi.ended
  have hgone := hi.ended c _ i 0 hc rfl
  have hmem : ∀ j, j ∈ s.subs.erase i ↔ j ≠ i ∧ j ∈ s.subs := fun j => hi.nodup.mem_erase_iff
  refine ⟨hi.nodup.erase i, ?_, ?_, ?_, ?_, fun k' hk' hlive => ?_, fun k' writers copied todo hw => ?_⟩
  · simp only [setSub, Table.lookup_insert_eq, hmem]
    grind
  · simp only [setSub, hmem]
    grind [SubCall.Ends]
  · simp only [setSub, Table.lookup_insert_eq]
    grind [SubCall.Makes]
  · simp only [setSub, Table.lookup_insert_eq]
    grind [SubCall.Ends]
  · obtain ⟨honly, hall, hanswered⟩ := hi.session k' hk' hlive
    refine ⟨?_, hall, ?_⟩
    all_goals
      simp only [setSub, Table.lookup_insert_eq]
      grind [SubCall.Ends]
  · obtain ⟨honly, hentry, hall, htodo⟩ := hi.restoring k' writers copied todo hw
    refine ⟨honly, ?_, hall, htodo⟩
    simp only [setSub, Table.lookup_insert_eq]
    grind

theorem SubsInv.readConnSub (hi : SubsInv s) {c i k : Nat} (hc : s.subCalls.lookup c = some (.removed i))
    (hk : s.conn = some k) (hw : s.watch = .watching k) : SubsInv (setSub c (.sending i k) s) := by
  have hknown := hi.known
  have hfresh := hi.fresh
  have hended := hi.ended
  have hgone := hi.ended c _ i k hc rfl
  refine ⟨hi.nodup, ?_, hi.listed, ?_, ?_, fun k' hk' hlive => ?_, fun k' writers copied todo hr => ?_⟩
  · simp only [setSub, Table.lookup_insert_eq]
    grind
  · simp only [setSub, Table.lookup_insert_eq]
    grind [SubCall.Makes]
  · simp only [setSub, Table.lookup_insert_eq]
    grind [SubCall.Ends]
  · obtain ⟨honly, hall, hanswered⟩ := hi.session k' hk' hlive
    rw [show s.conn = some k' from hk'] at hk
    cases hk
    refine ⟨?_, hall, ?_⟩
    all_goals
      simp only [setSub, Table.lookup_insert_eq]
      grind [SubCall.Ends]
  · rw [show s.watch = _ from hr] at hw
    cases hw

theorem SubsInv.notConnectedSub (hi : SubsInv s) {c i : Nat} (hc : s.subCalls.lookup c = some (.removed i))
    (hk : s.conn = none)
    (hok : ∀ k writers copied todo, s.watch = .restoring k writers copied todo → i ∉ copied) :
    SubsInv (endSub c s) := by
  have hknown := hi.known
  have hfresh := hi.fresh
  have hended := hi.ended
  refine ⟨hi.nodup, ?_, hi.listed, ?_, ?_, fun k' hk' _ => ?_, fun k' writers copied todo hw => ?_⟩
  · simp only [endSub, Table.lookup_erase_eq]
    grind
  · simp only [endSub, Table.lookup_erase_eq]
    grind
  · simp only [endSub, Table.lookup_erase_eq]
    grind
  · rw [show s.conn = some k' from hk'] at hk
    cases hk
  · obtain ⟨honly, hentry, hall, htodo⟩ := hi.restoring k' writers copied todo hw
    have hnot := hok k' writers copied todo hw
    refine ⟨honly, ?_, hall, htodo⟩
    simp only [endSub, Table.lookup_erase_eq]
    grind

theorem SubsInv.answerUnsubscribe (hi : SubsInv s) (hd : s.KeysDistinct) {c i k : Nat} {sub : Subscription}
    (hc : s.subCalls.lookup c = some (.sending i k)) (hlook : s.subscription.lookup i = some sub)
    (hw : s.watch = .watching k) : SubsInv (endSub c (s.unsubscribe k sub.topicName sub.typeName)) := by
  obtain ⟨topicName, typeName, u⟩ := sub
  have hknown := hi.known
  have hfresh := hi.fresh
  have hended := hi.ended
  refine ⟨hi.nodup, ?_, hi.listed, ?_, ?_, fun k' hk' hlive => ?_, fun k' writers copied todo hr => ?_⟩
  · simp only [endSub, Client.unsubscribe, Table.lookup_erase_eq]
    grind
  · simp only [endSub, Client.unsubscribe, Table.lookup_erase_eq]
    grind
  · simp only [endSub, Client.unsubscribe, Table.lookup_erase_eq]
    grind
  · obtain ⟨honly, hall, hanswered⟩ := hi.session k' hk' hlive
    -- Whatever else has the topic and type is this `Subscription`, which is not live.
    have hkey : ∀ j, s.HasKey j topicName typeName → j = i := fun j h => hd j i _ _ h (.inl ⟨u, hlook⟩)
    have hsame : ∀ j u', s.subscription.lookup j = some ⟨topicName, typeName, u'⟩ → j = i :=
      fun j u' h => hkey j (.inl ⟨u', h⟩)
    have hmade : ∀ c' k, s.subCalls.lookup c' ≠ some (.subscribed k topicName typeName) := fun c' k h => by
      have hci := hkey c' (.inr ⟨k, .inr h⟩)
      rw [hci] at h
      have hnone := hi.fresh i _ _ _ h ⟨rfl, rfl⟩
      rw [hlook] at hnone
      cases hnone
    refine ⟨?_, ?_, ?_⟩
    · intro t T h
      obtain ⟨hmem, hne⟩ := mem_unsubscribe.mp h
      simp only [endSub, Client.unsubscribe, Table.lookup_erase_eq]
      grind [SubCall.Ends]
    · intro j t T h
      refine mem_unsubscribe.mpr ⟨hall j t T h, ?_⟩
      rintro ⟨-, rfl, rfl⟩
      have hlive : s.subscription.lookup j = some ⟨t, T, false⟩ := h
      obtain ⟨_, _, hgone⟩ := hi.ended c _ i k hc ⟨rfl, rfl⟩
      rw [hsame j _ hlive, hgone] at hlive
      cases hlive
    · simp only [endSub, Client.unsubscribe, Table.lookup_erase_eq]
      intro c' t T h
      refine mem_unsubscribe.mpr ⟨?_, ?_⟩
      · grind
      · grind
  · rw [show s.watch = _ from hr] at hw
    cases hw

/-- A step that leaves the subscriptions alone and brings no connection into use. -/
theorem SubsInv.keep (hi : SubsInv s) (hsubs : t.subs = s.subs) (hsubscription : t.subscription = s.subscription)
    (hcalls : t.subCalls = s.subCalls) (hsubscribed : t.subscribed = s.subscribed)
    (hconn : ∀ k, t.conn = some k → k ∈ t.live → s.conn = some k ∧ k ∈ s.live)
    (hw : ∀ k writers copied todo, t.watch = .restoring k writers copied todo →
      ∃ writers', s.watch = .restoring k writers' copied todo) : SubsInv t := by
  obtain ⟨hnodup, hknown, hlisted, hfresh, hended, hsession, hrestoring⟩ := hi
  rw [← hsubs] at hnodup
  refine ⟨hnodup, ?_, ?_, ?_, ?_, fun k hk hlive => ?_, fun k writers copied todo hr => ?_⟩
  · rw [hsubs, hsubscription, hcalls]
    exact hknown
  · rw [hsubs, hsubscription]
    exact hlisted
  · rw [hsubscription, hcalls]
    exact hfresh
  · rw [hsubscription, hcalls]
    exact hended
  · obtain ⟨hk', hlive'⟩ := hconn k hk hlive
    obtain ⟨honly, hall, hanswered⟩ := hsession k hk' hlive'
    refine ⟨?_, ?_, ?_⟩
    · rw [hsubscription, hcalls, hsubscribed]
      exact honly
    · rw [hsubscription, hsubscribed]
      exact hall
    · rw [hcalls, hsubscribed]
      exact hanswered
  · obtain ⟨writers', hr'⟩ := hw k writers copied todo hr
    obtain ⟨honly, hentry, hall, htodo⟩ := hrestoring k writers' copied todo hr'
    refine ⟨?_, ?_, ?_, htodo⟩
    · rw [hsubscription, hsubscribed]
      exact honly
    · rw [hsubscription, hcalls, hsubscribed]
      exact hentry
    · rw [hsubscription]
      exact hall

theorem SubsInv.writerCall (hi : SubsInv s) {writerCalls : Table Nat WriterCall} {writers : List Nat}
    {writer : Table Nat Writer} {created : List (Nat × UInt32 × Nat)} :
    SubsInv { s with writerCalls, writers, writer, created } :=
  hi.keep rfl rfl rfl rfl (fun _ h h' => ⟨h, h'⟩) fun _ _ _ _ h => ⟨_, h⟩

theorem SubsInv.next (hi : SubsInv s) {watch : WatchLoop} {subscribed : List (Nat × String × String)}
    (hnone : s.conn = none) (hr : ∀ k writers copied todo, watch = .restoring k writers copied todo →
      RestoringSubs { s with subscribed } k copied todo) :
    SubsInv { s with watch, subscribed } := by
  refine ⟨hi.nodup, hi.known, hi.listed, hi.fresh, hi.ended, fun k hk _ => ?_, fun k writers copied todo hw => ?_⟩
  · rw [show s.conn = some k from hk] at hnone
    cases hnone
  · obtain ⟨honly, hentry, hall, htodo⟩ := hr k writers copied todo hw
    exact ⟨honly, hentry, hall, htodo⟩

theorem SubsInv.copy (hi : SubsInv s) {k : Nat} (hnone : ∀ t T, (k, t, T) ∉ s.subscribed) :
    RestoringSubs s k s.subs s.subs := by
  refine ⟨fun t T h => absurd h (hnone t T), fun i h => ?_, hi.listed, fun i h => h⟩
  obtain ⟨t, T, u, hlook, hcall⟩ := hi.known i h
  refine ⟨t, T, u, hlook, fun hn => absurd h hn, fun hu => ?_⟩
  obtain ⟨c, hc⟩ := hcall hu
  exact ⟨c, .inl hc⟩

theorem RestoringSubs.resubscribe {k i : Nat} {copied todo : List Nat} {sub : Subscription}
    (hr : RestoringSubs s k copied (i :: todo)) (hlook : s.subscription.lookup i = some sub) :
    RestoringSubs (s.subscribe k sub.topicName sub.typeName) k copied todo := by
  obtain ⟨topicName, typeName, u⟩ := sub
  obtain ⟨honly, hentry, hall, htodo⟩ := hr
  refine ⟨fun t T h => ?_, fun j hj => ?_, hall, fun j h => htodo j (List.mem_cons_of_mem _ h)⟩
  · rcases mem_subscribe.mp h with ⟨-, rfl, rfl⟩ | h
    · exact ⟨i, htodo i List.mem_cons_self, u, hlook⟩
    · exact honly t T h
  · obtain ⟨t, T, u', hlook', hdone, hcall⟩ := hentry j hj
    refine ⟨t, T, u', hlook', fun hn => mem_subscribe.mpr ?_, hcall⟩
    by_cases hji : j = i
    · subst hji
      rw [hlook] at hlook'
      cases hlook'
      exact .inl ⟨rfl, rfl, rfl⟩
    · exact .inr (hdone fun h => (List.mem_cons.mp h).elim hji hn)

/-- When all is restored the new connection is as good as the old one. -/
theorem RestoringSubs.session {k : Nat} {copied : List Nat} (hr : RestoringSubs s k copied [])
    (hnone : ∀ c t T, s.subCalls.lookup c ≠ some (.subscribed k t T)) : SessionSubs s k := by
  obtain ⟨honly, hentry, hall, -⟩ := hr
  refine ⟨fun t T h => ?_, fun i t T h => ?_, fun c t T h => absurd h (hnone c t T)⟩
  · obtain ⟨i, hi, u, hlook⟩ := honly t T h
    obtain ⟨t', T', u', hlook', -, hcall⟩ := hentry i hi
    rw [hlook] at hlook'
    cases hlook'
    refine .inr ⟨i, u, hlook, fun hu => ?_⟩
    obtain ⟨c, hc | hc⟩ := hcall hu
    · exact ⟨c, _, hc, rfl⟩
    · exact ⟨c, _, hc, rfl⟩
  · obtain ⟨t', T', u', hlook', hdone, -⟩ := hentry i (hall i t T h)
    rw [h] at hlook'
    cases hlook'
    exact hdone List.not_mem_nil

theorem SubsInv.swap (hi : SubsInv s) (hc : ConnInv s) {k : Nat} {copied : List Nat}
    (hw : s.watch = .restoring k [] copied []) : SubsInv { s with conn := some k, watch := .watching k } := by
  have hnone : s.conn = none := hc.conn_eq_none hw nofun
  have hsession := hi.restoring k [] copied [] hw
  refine ⟨hi.nodup, hi.known, hi.listed, hi.fresh, hi.ended, fun k' hk' hlive => ?_, nofun⟩
  cases hk'
  have hcalls : ∀ c t T, s.subCalls.lookup c ≠ some (.subscribed k t T) := fun c t T h => by
    have hconn := (hc.subCalls c _ h k rfl).2 hlive
    rw [hnone] at hconn
    cases hconn
  obtain ⟨honly, hall, hanswered⟩ := hsession.session hcalls
  exact ⟨honly, hall, hanswered⟩

theorem SubsInv.step {action : Action} (hi : SubsInv s) (hc : ConnInv s) (hd : s.KeysDistinct) (h : Step s action t)
    (hok : s.InTime action) : SubsInv t := by
  have hup : ∀ k, s.conn = some k → s.watch = .watching k := fun k hk => (hc.conn k hk).1
  cases h with
  | subscribe c topicName typeName hcall hnew hk => exact hi.subscribe hcall hnew
  | answerSubscribe c hcall hlive => exact hi.answerSubscribe hcall (hc.watching (hc.subCalls c _ hcall _ rfl).2 hlive)
  | @appendSub k topicName typeName c hcall =>
    rcases hok k topicName typeName hcall with hk | hbefore
    · refine hi.appendSub hcall (fun k' hk' => ?_) fun k' _ _ _ hr => ?_
      · rw [hk] at hk'
        cases hk'
        rfl
      · rw [hup k hk] at hr
        cases hr
    · refine hi.appendSub hcall (fun k' hk' => ?_) fun k' _ _ _ hr => ?_
      · rw [hup k' hk'] at hbefore
        exact hbefore.elim
      · rw [hr] at hbefore
        exact hbefore.elim
  | subscribeFails c hcall hk =>
    rcases hcall with hcall | hcall
    · exact hi.dropSub hcall rfl hk
    · exact hi.dropSub hcall rfl hk
  | unsubscribe c i hcall hlook => exact hi.unsubscribe hcall hlook
  | removeSub c hcall => exact hi.removeSub hcall
  | readConnSub c hcall hk => exact hi.readConnSub hcall hk (hup _ hk)
  | notConnectedSub c hcall hk => exact hi.notConnectedSub hcall hk (hok _ hcall)
  | answerUnsubscribe c hcall hlive hlook =>
    exact hi.answerUnsubscribe hd hcall hlook (hc.watching (hc.subCalls c _ hcall _ rfl).2 hlive)
  | unsubscribeFails c hcall hk => exact hi.dropSub hcall rfl hk
  | createWriter c hcall hnew hk => exact hi.writerCall
  | answerCreate c id hcall hk => exact hi.writerCall
  | appendWriter c hcall => exact hi.writerCall
  | createFails c hcall hk => exact hi.writerCall
  | close c w hcall hlook ho => exact hi.writerCall
  | removeWriter c hcall => exact hi.writerCall
  | readConnWriter c hcall hk => exact hi.writerCall
  | notConnectedWriter c hcall hk => exact hi.writerCall
  | answerDelete c hcall hk => exact hi.writerCall
  | deleteFails c hcall hk => exact hi.writerCall
  | setNil hw hk => exact hi.keep rfl rfl rfl rfl nofun nofun
  | closeOld hw => exact hi.keep rfl rfl rfl rfl (fun _ h h' => ⟨h, h'⟩) nofun
  | dial hw =>
    have hnone : s.conn = none := hc.conn_eq_none hw nofun
    refine hi.keep rfl rfl rfl rfl (fun k hk _ => ?_) nofun
    rw [show s.conn = some k from hk] at hnone
    cases hnone
  | copy hw =>
    refine hi.next (hc.conn_eq_none hw nofun) fun k writers copied todo hr => ?_
    cases hr
    exact hi.copy (hc.dialed _ hw).1
  | skip hw hl hcl => exact hi.keep rfl rfl rfl rfl (fun _ h h' => ⟨h, h'⟩) fun _ _ _ _ h => by cases h; exact ⟨_, hw⟩
  | recreate id hw hl hcl hk =>
    exact hi.keep rfl rfl rfl rfl (fun _ h h' => ⟨h, h'⟩) fun _ _ _ _ h => by cases h; exact ⟨_, hw⟩
  | @resubscribe k i copied todo sub hw hl hk =>
    have hnone : s.conn = none := hc.conn_eq_none hw nofun
    refine hi.next hnone fun k' writers copied' todo' hr => ?_
    cases hr
    exact (hi.restoring k [] copied (i :: todo) hw).resubscribe hl
  | restoreFails hw hk => exact hi.keep rfl rfl rfl rfl (fun _ h h' => ⟨h, h'⟩) nofun
  | swap hw => exact hi.swap hc hw
  | lose k =>
    exact hi.keep rfl rfl rfl rfl (fun k' h h' => ⟨h, (List.mem_filter.mp h').1⟩) fun _ _ _ _ h => ⟨_, h⟩

end

/-! ## Writers -/

/-- The `Close` of `w` is not done with the writer `id` on connection `k`. -/
def WriterCall.Ends (w : Nat) (id : UInt32) (k : Nat) : WriterCall → Prop
  | .closing w' id' => w' = w ∧ id' = id
  | .removed w' id' => w' = w ∧ id' = id
  | .sending w' id' k' => w' = w ∧ id' = id ∧ k' = k
  | _ => False

def WriterCall.Makes : WriterCall → Prop
  | .creating _ => True
  | .created _ _ => True
  | _ => False

structure SessionWriters (s : Client) (k : Nat) : Prop where
  only : ∀ id w, (k, id, w) ∈ s.created → s.writerCalls.lookup w = some (.created k id) ∨
    ∃ u, s.writer.lookup w = some ⟨id, u⟩ ∧
      (u = true → ∃ c call, s.writerCalls.lookup c = some call ∧ call.Ends w id k)
  all : ∀ id w, s.writer.lookup w = some ⟨id, false⟩ → (k, id, w) ∈ s.created
  answered : ∀ c id, s.writerCalls.lookup c = some (.created k id) → (k, id, c) ∈ s.created

/-- A `Writer` that is closed after it was re-created was given the new id before. -/
structure RestoringWriters (s : Client) (k : Nat) (todo : List Nat) : Prop where
  only : ∀ id w, (k, id, w) ∈ s.created → ∃ u, s.writer.lookup w = some ⟨id, u⟩ ∧
    (u = true → ∃ c, s.writerCalls.lookup c = some (.closing w id) ∨ s.writerCalls.lookup c = some (.removed w id))
  all : ∀ id w, s.writer.lookup w = some ⟨id, false⟩ → w ∈ todo ∨ (k, id, w) ∈ s.created
  absent : ∀ w ∈ todo, ∀ id, (k, id, w) ∉ s.created
  nodup : todo.Nodup

structure WritersInv (s : Client) : Prop where
  nodup : s.writers.Nodup
  known : ∀ w ∈ s.writers, s.writer.lookup w ≠ none
  listed : ∀ id w, s.writer.lookup w = some ⟨id, false⟩ → w ∈ s.writers
  fresh : ∀ c call, s.writerCalls.lookup c = some call → call.Makes → s.writer.lookup c = none
  ended : ∀ c call w id k, s.writerCalls.lookup c = some call → call.Ends w id k →
    ∃ id', s.writer.lookup w = some ⟨id', true⟩
  session : ∀ k, s.conn = some k → k ∈ s.live → SessionWriters s k
  restoring : ∀ k todo copied subs, s.watch = .restoring k todo copied subs → RestoringWriters s k todo

theorem writersInv_new : WritersInv .new where
  nodup := List.nodup_nil
  known w h := by cases h
  listed id w h := by cases h
  fresh c call h := by cases h
  ended c call w id k h := by cases h
  session k _ _ := by
    refine ⟨fun id w h => ?_, fun id w h => ?_, fun c id h => ?_⟩
    · cases h
    · cases h
    · cases h
  restoring k todo copied subs h := by cases h

section
variable {s t : Client}

theorem WritersInv.createWriter (hi : WritersInv s) {c k : Nat}
    (hc : s.writerCalls.lookup c = none) (hnew : s.writer.lookup c = none) :
    WritersInv (setWriter c (.creating k) s) := by
  have hfresh := hi.fresh
  have hended := hi.ended
  refine ⟨hi.nodup, hi.known, hi.listed, ?_, ?_, fun k' hk' hlive => ?_, fun k' todo copied subs hw => ?_⟩
  · simp only [setWriter, Table.lookup_insert_eq]
    grind
  · simp only [setWriter, Table.lookup_insert_eq]
    grind [WriterCall.Ends]
  · obtain ⟨honly, hall, hanswered⟩ := hi.session k' hk' hlive
    refine ⟨?_, hall, ?_⟩
    all_goals
      simp only [setWriter, Table.lookup_insert_eq]
      grind
  · obtain ⟨honly, hall, htodo, hnodup⟩ := hi.restoring k' todo copied subs hw
    refine ⟨?_, hall, htodo, hnodup⟩
    simp only [setWriter, Table.lookup_insert_eq]
    grind

theorem WritersInv.answerCreate (hi : WritersInv s) {c k : Nat} {id : UInt32}
    (hc : s.writerCalls.lookup c = some (.creating k)) (hw : s.watch = .watching k)
    (hid : ∀ w, (k, id, w) ∉ s.created) : WritersInv (setWriter c (.created k id) (s.createWriter k id c)) := by
  have hfresh := hi.fresh
  have hended := hi.ended
  have hnone : s.writer.lookup c = none := hi.fresh c _ hc trivial
  refine ⟨hi.nodup, hi.known, hi.listed, ?_, ?_, fun k' hk' hlive => ?_, fun k' todo copied subs hr => ?_⟩
  · simp only [setWriter, Client.createWriter, Table.lookup_insert_eq]
    grind
  · simp only [setWriter, Client.createWriter, Table.lookup_insert_eq]
    grind [WriterCall.Ends]
  · obtain ⟨honly, hall, hanswered⟩ := hi.session k' hk' hlive
    have hmem : ∀ id' w, (k', id', w) ∈ (setWriter c (.created k id) (s.createWriter k id c)).created ↔
        k' = k ∧ id' = id ∧ w = c ∨ (k', id', w) ∈ s.created ∧ ¬ (k' = k ∧ id' = id) := fun _ _ => mem_createWriter
    refine ⟨?_, ?_, ?_⟩
    all_goals
      simp only [hmem]
      simp only [setWriter, Client.createWriter, Table.lookup_insert_eq]
      grind [WriterCall.Ends]
  · rw [show s.watch = _ from hr] at hw
    cases hw

theorem WritersInv.appendWriter (hi : WritersInv s) {c k : Nat} {id : UInt32}
    (hc : s.writerCalls.lookup c = some (.created k id))
    (hconn : ∀ k', s.conn = some k' → k' = k) (hr : ∀ k todo copied subs, s.watch ≠ .restoring k todo copied subs) :
    WritersInv (endWriter c { s with
      writers := s.writers ++ [c]
      writer := s.writer.insert c { writerID := id, closed := false } }) := by
  have hknown := hi.known
  have hlisted := hi.listed
  have hfresh := hi.fresh
  have hended := hi.ended
  have hnone : s.writer.lookup c = none := hi.fresh c _ hc trivial
  refine ⟨?_, ?_, ?_, ?_, ?_, fun k' hk' hlive => ?_, fun k' todo copied subs hw => absurd hw (hr _ _ _ _)⟩
  · have hnot : c ∉ s.writers := fun h => hi.known c h hnone
    exact hi.nodup.append (List.nodup_singleton c) (List.disjoint_singleton.mpr hnot)
  · simp only [endWriter, Table.lookup_insert_eq, List.mem_append, List.mem_singleton]
    grind
  · simp only [endWriter, Table.lookup_insert_eq, List.mem_append, List.mem_singleton]
    grind
  · simp only [endWriter, Table.lookup_insert_eq, Table.lookup_erase_eq]
    grind
  · simp only [endWriter, Table.lookup_insert_eq, Table.lookup_erase_eq]
    grind
  · obtain ⟨honly, hall, hanswered⟩ := hi.session k' hk' hlive
    have hkk := hconn k' hk'
    refine ⟨?_, ?_, ?_⟩
    all_goals
      simp only [endWriter, Table.lookup_insert_eq, Table.lookup_erase_eq]
      grind [WriterCall.Ends]

theorem WriterCall.Ends.conn {w k k' : Nat} {id : UInt32} {call : WriterCall} (h : call.Ends w id k)
    (hk : call.conn = some k') : k' = k := by
  cases call with
  | sending w' id' k'' =>
    cases hk
    exact h.2.2
  | closing | removed => cases hk
  | _ => exact h.elim

theorem WritersInv.dropWriter (hi : WritersInv s) {c k : Nat} {call : WriterCall}
    (hc : s.writerCalls.lookup c = some call) (hcall : call.conn = some k) (hk : k ∉ s.live) :
    WritersInv (endWriter c s) := by
  have hfresh := hi.fresh
  have hended := hi.ended
  refine ⟨hi.nodup, hi.known, hi.listed, ?_, ?_, fun k' hk' hlive => ?_, fun k' todo copied subs hw => ?_⟩
  · simp only [endWriter, Table.lookup_erase_eq]
    grind
  · simp only [endWriter, Table.lookup_erase_eq]
    grind
  · obtain ⟨honly, hall, hanswered⟩ := hi.session k' hk' hlive
    have hne : k' ≠ k := fun h => hk (h ▸ hlive)
    refine ⟨?_, hall, ?_⟩
    all_goals
      simp only [endWriter, Table.lookup_erase_eq]
      grind [WriterCall.conn, WriterCall.Ends.conn]
  · obtain ⟨honly, hall, htodo, hnodup⟩ := hi.restoring k' todo copied subs hw
    refine ⟨?_, hall, htodo, hnodup⟩
    simp only [endWriter, Table.lookup_erase_eq]
    grind [WriterCall.conn]

theorem WritersInv.close (hi : WritersInv s) {c w : Nat} {writer : Writer}
    (hc : s.writerCalls.lookup c = none) (hlook : s.writer.lookup w = some writer) :
    WritersInv (setWriter c (.closing w writer.writerID) { s with
      writer := s.writer.insert w { writer with closed := true } }) := by
  obtain ⟨id, u⟩ := writer
  have hknown := hi.known
  have hlisted := hi.listed
  have hfresh := hi.fresh
  have hended := hi.ended
  refine ⟨hi.nodup, ?_, ?_, ?_, ?_, fun k' hk' hlive => ?_, fun k' todo copied subs hr => ?_⟩
  · simp only [setWriter, Table.lookup_insert_eq]
    grind
  · simp only [setWriter, Table.lookup_insert_eq]
    grind
  · simp only [setWriter, Table.lookup_insert_eq]
    grind [WriterCall.Makes]
  · intro c' call w' id' k hlook' hends
    simp only [setWriter, Table.lookup_insert_eq] at hlook' ⊢
    by_cases hw : w' = w
    · exact ⟨id, if_pos hw⟩
    · rw [if_neg hw]
      grind [WriterCall.Ends]
  · obtain ⟨honly, hall, hanswered⟩ := hi.session k' hk' hlive
    refine ⟨?_, ?_, ?_⟩
    all_goals
      simp only [setWriter, Table.lookup_insert_eq]
      grind [WriterCall.Ends]
  · obtain ⟨honly, hall, htodo, hnodup⟩ := hi.restoring k' todo copied subs hr
    refine ⟨?_, ?_, htodo, hnodup⟩
    all_goals
      simp only [setWriter, Table.lookup_insert_eq]
      grind

theorem WritersInv.removeWriter (hi : WritersInv s) {c w : Nat} {id : UInt32}
    (hc : s.writerCalls.lookup c = some (.closing w id)) :
    WritersInv (setWriter c (.removed w id) { s with writers := s.writers.erase w }) := by
  have hknown := hi.known
  have hlisted := hi.listed
  have hfresh := hi.fresh
  have hended := hi.ended
  have hgone := hi.ended c _ w id 0 hc ⟨rfl, rfl⟩
  have hmem : ∀ w', w' ∈ s.writers.erase w ↔ w' ≠ w ∧ w' ∈ s.writers := fun _ => hi.nodup.mem_erase_iff
  refine ⟨hi.nodup.erase w, ?_, ?_, ?_, ?_, fun k' hk' hlive => ?_, fun k' todo copied subs hr => ?_⟩
  · simp only [setWriter, hmem]
    grind
  · simp only [setWriter, hmem]
    grind
  · simp only [setWriter, Table.lookup_insert_eq]
    grind [WriterCall.Makes]
  · simp only [setWriter, Table.lookup_insert_eq]
    grind [WriterCall.Ends]
  · obtain ⟨honly, hall, hanswered⟩ := hi.session k' hk' hlive
    refine ⟨?_, hall, ?_⟩
    all_goals
      simp only [setWriter, Table.lookup_insert_eq]
      grind [WriterCall.Ends]
  · obtain ⟨honly, hall, htodo, hnodup⟩ := hi.restoring k' todo copied subs hr
    refine ⟨?_, hall, htodo, hnodup⟩
    simp only [setWriter, Table.lookup_insert_eq]
    grind

theorem WritersInv.readConnWriter (hi : WritersInv s) {c w k : Nat} {id : UInt32}
    (hc : s.writerCalls.lookup c = some (.removed w id)) (hk : s.conn = some k) (hw : s.watch = .watching k) :
    WritersInv (setWriter c (.sending w id k) s) := by
  have hfresh := hi.fresh
  have hended := hi.ended
  have hgone := hi.ended c _ w id k hc ⟨rfl, rfl⟩
  refine ⟨hi.nodup, hi.known, hi.listed, ?_, ?_, fun k' hk' hlive => ?_, fun k' todo copied subs hr => ?_⟩
  · simp only [setWriter, Table.lookup_insert_eq]
    grind [WriterCall.Makes]
  · simp only [setWriter, Table.lookup_insert_eq]
    grind [WriterCall.Ends]
  · obtain ⟨honly, hall, hanswered⟩ := hi.session k' hk' hlive
    rw [show s.conn = some k' from hk'] at hk
    cases hk
    refine ⟨?_, hall, ?_⟩
    all_goals
      simp only [setWriter, Table.lookup_insert_eq]
      grind [WriterCall.Ends]
  · rw [show s.watch = _ from hr] at hw
    cases hw

theorem WritersInv.notConnectedWriter (hi : WritersInv s) {c w : Nat} {id : UInt32}
    (hc : s.writerCalls.lookup c = some (.removed w id)) (hk : s.conn = none)
    (hok : ∀ k todo copied subs, s.watch = .restoring k todo copied subs → ∀ id', (k, id', w) ∉ s.created) :
    WritersInv (endWriter c s) := by
  have hfresh := hi.fresh
  have hended := hi.ended
  refine ⟨hi.nodup, hi.known, hi.listed, ?_, ?_, fun k' hk' _ => ?_, fun k' todo copied subs hr => ?_⟩
  · simp only [endWriter, Table.lookup_erase_eq]
    grind
  · simp only [endWriter, Table.lookup_erase_eq]
    grind
  · rw [show s.conn = some k' from hk'] at hk
    cases hk
  · obtain ⟨honly, hall, htodo, hnodup⟩ := hi.restoring k' todo copied subs hr
    have hnot := hok k' todo copied subs hr
    refine ⟨?_, hall, htodo, hnodup⟩
    simp only [endWriter, Table.lookup_erase_eq]
    grind

theorem WritersInv.answerDelete (hi : WritersInv s) {c w k : Nat} {id : UInt32}
    (hc : s.writerCalls.lookup c = some (.sending w id k)) (hw : s.watch = .watching k)
    (hid : ∀ w', (k, id, w') ∈ s.created → w' = w) : WritersInv (endWriter c (s.deleteWriter k id)) := by
  have hfresh := hi.fresh
  have hended := hi.ended
  refine ⟨hi.nodup, hi.known, hi.listed, ?_, ?_, fun k' hk' hlive => ?_, fun k' todo copied subs hr => ?_⟩
  · simp only [endWriter, Client.deleteWriter, Table.lookup_erase_eq]
    grind
  · simp only [endWriter, Client.deleteWriter, Table.lookup_erase_eq]
    grind
  · obtain ⟨honly, hall, hanswered⟩ := hi.session k' hk' hlive
    obtain ⟨id', hgone⟩ := hi.ended c _ w id k hc ⟨rfl, rfl, rfl⟩
    have hmem : ∀ id' w', (k', id', w') ∈ (endWriter c (s.deleteWriter k id)).created ↔
        (k', id', w') ∈ s.created ∧ ¬ (k' = k ∧ id' = id) := fun _ _ => mem_deleteWriter
    refine ⟨?_, ?_, ?_⟩
    all_goals
      simp only [hmem]
      simp only [endWriter, Client.deleteWriter, Table.lookup_erase_eq]
    · grind [WriterCall.Ends]
    · -- What goes is of this `Writer`, which is closed.
      grind
    · intro w' id'' h
      have hw' : s.writerCalls.lookup w' = some (.created k' id'') := by grind
      have hnone := hi.fresh w' _ hw' trivial
      grind
  · rw [show s.watch = _ from hr] at hw
    cases hw

theorem WritersInv.keep (hi : WritersInv s) (hwriters : t.writers = s.writers) (hwriter : t.writer = s.writer)
    (hcalls : t.writerCalls = s.writerCalls) (hcreated : t.created = s.created)
    (hconn : ∀ k, t.conn = some k → k ∈ t.live → s.conn = some k ∧ k ∈ s.live)
    (hw : ∀ k todo copied subs, t.watch = .restoring k todo copied subs →
      ∃ subs', s.watch = .restoring k todo copied subs') : WritersInv t := by
  obtain ⟨hnodup, hknown, hlisted, hfresh, hended, hsession, hrestoring⟩ := hi
  rw [← hwriters] at hnodup
  refine ⟨hnodup, ?_, ?_, ?_, ?_, fun k hk hlive => ?_, fun k todo copied subs hr => ?_⟩
  · rw [hwriters, hwriter]
    exact hknown
  · rw [hwriters, hwriter]
    exact hlisted
  · rw [hwriter, hcalls]
    exact hfresh
  · rw [hwriter, hcalls]
    exact hended
  · obtain ⟨hk', hlive'⟩ := hconn k hk hlive
    obtain ⟨honly, hall, hanswered⟩ := hsession k hk' hlive'
    refine ⟨?_, ?_, ?_⟩
    · rw [hwriter, hcalls, hcreated]
      exact honly
    · rw [hwriter, hcreated]
      exact hall
    · rw [hcalls, hcreated]
      exact hanswered
  · obtain ⟨subs', hr'⟩ := hw k todo copied subs hr
    obtain ⟨honly, hall, habsent, htodo⟩ := hrestoring k todo copied subs' hr'
    refine ⟨?_, ?_, ?_, htodo⟩
    · rw [hwriter, hcalls, hcreated]
      exact honly
    · rw [hwriter, hcreated]
      exact hall
    · rw [hcreated]
      exact habsent

theorem WritersInv.subCall (hi : WritersInv s) {subCalls : Table Nat SubCall} {subs : List Nat}
    {subscription : Table Nat Subscription} {subscribed : List (Nat × String × String)} :
    WritersInv { s with subCalls, subs, subscription, subscribed } :=
  hi.keep rfl rfl rfl rfl (fun _ h h' => ⟨h, h'⟩) fun _ _ _ _ h => ⟨_, h⟩

theorem WritersInv.next (hi : WritersInv s) {watch : WatchLoop} (hnone : s.conn = none)
    (hr : ∀ k todo copied subs, watch = .restoring k todo copied subs → RestoringWriters s k todo) :
    WritersInv { s with watch } := by
  refine ⟨hi.nodup, hi.known, hi.listed, hi.fresh, hi.ended, fun k hk _ => ?_, fun k todo copied subs hw => ?_⟩
  · rw [show s.conn = some k from hk] at hnone
    cases hnone
  · obtain ⟨honly, hall, habsent, htodo⟩ := hr k todo copied subs hw
    exact ⟨honly, hall, habsent, htodo⟩

theorem WritersInv.copy (hi : WritersInv s) {k : Nat} (hnone : ∀ id w, (k, id, w) ∉ s.created) :
    RestoringWriters s k s.writers :=
  ⟨fun id w h => absurd h (hnone id w), fun id w h => .inl (hi.listed id w h), fun w _ id => hnone id w, hi.nodup⟩

theorem RestoringWriters.skip {k w : Nat} {todo : List Nat} {writer : Writer} (hr : RestoringWriters s k (w :: todo))
    (hlook : s.writer.lookup w = some writer) (hc : writer.closed = true) : RestoringWriters s k todo := by
  obtain ⟨honly, hall, habsent, hnodup⟩ := hr
  refine ⟨honly, fun id w' h => ?_, fun w' h => habsent w' (List.mem_cons_of_mem _ h), (List.nodup_cons.mp hnodup).2⟩
  rcases hall id w' h with hmem | hmem
  · rcases List.mem_cons.mp hmem with rfl | hmem
    · rw [h] at hlook
      cases hlook
      cases hc
    · exact .inl hmem
  · exact .inr hmem

theorem WritersInv.recreate (hi : WritersInv s) {k w : Nat} {id : UInt32} {todo copied subs : List Nat} {writer : Writer}
    (hnone : s.conn = none) (hw : s.watch = .restoring k (w :: todo) copied subs)
    (hlook : s.writer.lookup w = some writer) (hopen : writer.closed = false) (hid : ∀ w, (k, id, w) ∉ s.created) :
    WritersInv { s.createWriter k id w with
      writer := s.writer.insert w { writer with writerID := id }
      watch := .restoring k todo copied subs } := by
  obtain ⟨id₀, u⟩ := writer
  cases hopen
  obtain ⟨honly, hall, habsent, hnodup⟩ := hi.restoring k (w :: todo) copied subs hw
  obtain ⟨hnot, htodo⟩ := List.nodup_cons.mp hnodup
  have hknown := hi.known
  have hlisted := hi.listed
  have hfresh := hi.fresh
  have hended := hi.ended
  refine ⟨hi.nodup, ?_, ?_, ?_, ?_, fun k' hk' _ => ?_, fun k' todo' copied' subs' hr => ?_⟩
  · simp only [Client.createWriter, Table.lookup_insert_eq]
    grind
  · simp only [Client.createWriter, Table.lookup_insert_eq]
    grind
  · simp only [Client.createWriter, Table.lookup_insert_eq]
    grind
  · simp only [Client.createWriter, Table.lookup_insert_eq]
    grind
  · rw [show s.conn = some k' from hk'] at hnone
    cases hnone
  · cases hr
    refine ⟨?_, ?_, ?_, htodo⟩
    all_goals
      simp only [Client.createWriter, Client.deleteWriter, List.mem_cons, List.mem_filter, Prod.mk.injEq,
        decide_eq_true_eq, Table.lookup_insert_eq]
      grind

theorem WritersInv.swap (hi : WritersInv s) (hc : ConnInv s) {k : Nat} {copied : List Nat}
    (hw : s.watch = .restoring k [] copied []) : WritersInv { s with conn := some k, watch := .watching k } := by
  have hnone : s.conn = none := hc.conn_eq_none hw nofun
  obtain ⟨honly, hall, -, -⟩ := hi.restoring k [] copied [] hw
  refine ⟨hi.nodup, hi.known, hi.listed, hi.fresh, hi.ended, fun k' hk' hlive => ?_, nofun⟩
  cases hk'
  refine ⟨fun id w h => ?_, fun id w h => (hall id w h).resolve_left List.not_mem_nil, fun c id h => ?_⟩
  · obtain ⟨u, hlook, hcall⟩ := honly id w h
    refine .inr ⟨u, hlook, fun hu => ?_⟩
    obtain ⟨c, hc | hc⟩ := hcall hu
    · exact ⟨c, _, hc, rfl, rfl⟩
    · exact ⟨c, _, hc, rfl, rfl⟩
  · have hconn := (hc.writerCalls c _ h k rfl).2 hlive
    rw [hnone] at hconn
    cases hconn

theorem WritersInv.step {action : Action} (hi : WritersInv s) (hc : ConnInv s) (h : Step s action t)
    (hok : s.InTime action) : WritersInv t := by
  have hup : ∀ k, s.conn = some k → s.watch = .watching k := fun k hk => (hc.conn k hk).1
  cases h with
  | subscribe c topicName typeName hcall hnew hk => exact hi.subCall
  | answerSubscribe c hcall hlive => exact hi.subCall
  | appendSub c hcall => exact hi.subCall
  | subscribeFails c hcall hk => exact hi.subCall
  | unsubscribe c i hcall hlook => exact hi.subCall
  | removeSub c hcall => exact hi.subCall
  | readConnSub c hcall hk => exact hi.subCall
  | notConnectedSub c hcall hk => exact hi.subCall
  | answerUnsubscribe c hcall hlive hlook => exact hi.subCall
  | unsubscribeFails c hcall hk => exact hi.subCall
  | createWriter c hcall hnew hk => exact hi.createWriter hcall hnew
  | answerCreate c id hcall hlive =>
    exact hi.answerCreate hcall (hc.watching (hc.writerCalls c _ hcall _ rfl).2 hlive) (hok _ hcall)
  | @appendWriter k id c hcall =>
    rcases hok k id hcall with hk | hbefore
    · refine hi.appendWriter hcall (fun k' hk' => ?_) fun k' _ _ _ hr => ?_
      · rw [hk] at hk'
        cases hk'
        rfl
      · rw [hup k hk] at hr
        cases hr
    · refine hi.appendWriter hcall (fun k' hk' => ?_) fun k' _ _ _ hr => ?_
      · rw [hup k' hk'] at hbefore
        exact hbefore.elim
      · rw [hr] at hbefore
        exact hbefore.elim
  | createFails c hcall hk =>
    rcases hcall with hcall | ⟨id, hcall⟩
    · exact hi.dropWriter hcall rfl hk
    · exact hi.dropWriter hcall rfl hk
  | close c w hcall hlook ho => exact hi.close hcall hlook
  | removeWriter c hcall => exact hi.removeWriter hcall
  | readConnWriter c hcall hk => exact hi.readConnWriter hcall hk (hup _ hk)
  | notConnectedWriter c hcall hk => exact hi.notConnectedWriter hcall hk (hok _ _ hcall)
  | answerDelete c hcall hlive =>
    exact hi.answerDelete hcall (hc.watching (hc.writerCalls c _ hcall _ rfl).2 hlive) (hok _ _ _ hcall)
  | deleteFails c hcall hk => exact hi.dropWriter hcall rfl hk
  | setNil hw hk => exact hi.keep rfl rfl rfl rfl nofun nofun
  | closeOld hw => exact hi.keep rfl rfl rfl rfl (fun _ h h' => ⟨h, h'⟩) nofun
  | dial hw =>
    have hnone : s.conn = none := hc.conn_eq_none hw nofun
    refine hi.keep rfl rfl rfl rfl (fun k hk _ => ?_) nofun
    rw [show s.conn = some k from hk] at hnone
    cases hnone
  | copy hw =>
    refine hi.next (hc.conn_eq_none hw nofun) fun k todo copied subs hr => ?_
    cases hr
    exact hi.copy (hc.dialed _ hw).2
  | @skip k w todo copied subs writer hw hl hcl =>
    refine hi.next (hc.conn_eq_none hw nofun) fun k' todo' copied' subs' hr => ?_
    cases hr
    exact (hi.restoring k (w :: todo) copied subs hw).skip hl hcl
  | recreate id hw hl hcl hk =>
    exact hi.recreate (hc.conn_eq_none hw nofun) hw hl hcl (hok _ _ _ _ hw)
  | resubscribe hw hl hk => exact hi.keep rfl rfl rfl rfl (fun _ h h' => ⟨h, h'⟩) fun _ _ _ _ h => by cases h; exact ⟨_, hw⟩
  | restoreFails hw hk => exact hi.keep rfl rfl rfl rfl (fun _ h h' => ⟨h, h'⟩) nofun
  | swap hw => exact hi.swap hc hw
  | lose k =>
    exact hi.keep rfl rfl rfl rfl (fun k' h h' => ⟨h, (List.mem_filter.mp h').1⟩) fun _ _ _ _ h => ⟨_, h⟩

end

/-! ## Runs -/

theorem SubsInv.agrees {s : Client} (hs : SubsInv s) (hw : WritersInv s) : s.Restored := by
  rintro ⟨hidle, hidle'⟩ k hk hlive
  have hcall : ∀ c call, s.subCalls.lookup c ≠ some call := fun c call h => by
    rw [hidle c] at h
    cases h
  have hcall' : ∀ c call, s.writerCalls.lookup c ≠ some call := fun c call h => by
    rw [hidle' c] at h
    cases h
  obtain ⟨honly, hall, -⟩ := hs.session k hk hlive
  obtain ⟨honly', hall', -⟩ := hw.session k hk hlive
  refine ⟨fun t T => ⟨fun h => ?_, fun h => ?_⟩, fun id w => ⟨fun h => ?_, fun h => hall' id w h⟩⟩
  · rcases honly t T h with ⟨c, hc⟩ | ⟨i, u, hlook, hends⟩
    · exact absurd hc (hcall c _)
    · cases u with
      | false => exact ⟨i, hlook⟩
      | true =>
        obtain ⟨c, call, hc, -⟩ := hends rfl
        exact absurd hc (hcall c call)
  · obtain ⟨i, hlook⟩ := h
    exact hall i t T hlook
  · rcases honly' id w h with hc | ⟨u, hlook, hends⟩
    · exact absurd hc (hcall' w _)
    · cases u with
      | false => exact hlook
      | true =>
        obtain ⟨c, call, hc, -⟩ := hends rfl
        exact absurd hc (hcall' c call)

theorem keysDistinct_of_keys {s : Client} {c : Nat} (h : ∀ i ∈ s.subscription.keys, i = c)
    (h' : ∀ i ∈ s.subCalls.keys, i = c) : s.KeysDistinct := by
  have hkey : ∀ i t T, s.HasKey i t T → i = c := by
    intro i t T hi
    rcases hi with ⟨u, hi⟩ | ⟨k, hi | hi⟩
    · exact h i ((Table.mem_keys_iff _ i).mpr ⟨_, hi⟩)
    · exact h' i ((Table.mem_keys_iff _ i).mpr ⟨_, hi⟩)
    · exact h' i ((Table.mem_keys_iff _ i).mpr ⟨_, hi⟩)
  exact fun i j t T hi hj => (hkey i t T hi).trans (hkey j t T hj).symm

/-- **A reconnect restores what the client has**, in every run in which no call is overtaken by it. -/
theorem reconnect_restores {tr : List (Action × Client)}
    (hrun : Runs.Run (fun s action t => Step s action t ∧ t.KeysDistinct) .new tr)
    (hok : Runs.EachStep Client.InTime .new tr) : Runs.Always Client.Restored .new tr := by
  have hstep : ∀ s action t, (ConnInv s ∧ SubsInv s ∧ WritersInv s ∧ s.KeysDistinct) →
      Step s action t ∧ t.KeysDistinct → s.InTime action → ConnInv t ∧ SubsInv t ∧ WritersInv t ∧ t.KeysDistinct := by
    rintro s action t ⟨hc, hs, hw, hd⟩ ⟨h, hd'⟩ hin
    exact ⟨hc.step h, hs.step hc hd h hin, hw.step hc h hin, hd'⟩
  have hnew : Client.new.KeysDistinct := keysDistinct_of_keys (c := 0) (fun i h => by cases h) (fun i h => by cases h)
  refine (Runs.always_of_eachStep hstep hrun ⟨connInv_new, subsInv_new, writersInv_new, hnew⟩ hok).mono ?_
  rintro s ⟨-, hs, hw, -⟩
  exact hs.agrees hw

/-! ### One reconnect -/

/-- `Subscribe` has its answer when the connection is lost, and appends after the reconnect: the new session does not
have the subscription. -/
theorem subscription_not_restored :
    ¬ ∀ tr, Runs.Run (fun s action t => Step s action t ∧ t.KeysDistinct) .new tr →
      Runs.Always Client.Restored .new tr := by
  intro h
  have hone : ∀ s : Client, (∀ i ∈ s.subscription.keys, i = 10) → (∀ i ∈ s.subCalls.keys, i = 10) → s.KeysDistinct :=
    fun _ h h' => keysDistinct_of_keys h h'
  have hrun : ∃ tr action t, Runs.Run (fun s action t => Step s action t ∧ t.KeysDistinct) .new tr ∧
      (action, t) ∈ tr ∧ t.subCalls.entries = [] ∧ t.writerCalls.entries = [] ∧ t.conn = some 1 ∧ 1 ∈ t.live ∧
      t.subscription.lookup 10 = some ⟨"a", "T", false⟩ ∧ t.subscribed = [(0, "a", "T")] := by
    refine ⟨_, _, _, .cons ⟨.subscribe 10 "a" "T" rfl rfl rfl, hone _ (by decide) (by decide)⟩ <|
      .cons ⟨.answerSubscribe 10 rfl (by decide), hone _ (by decide) (by decide)⟩ <|
      .cons ⟨.lose 0, hone _ (by decide) (by decide)⟩ <|
      .cons ⟨.setNil rfl (by decide), hone _ (by decide) (by decide)⟩ <|
      .cons ⟨.closeOld rfl, hone _ (by decide) (by decide)⟩ <|
      .cons ⟨.dial rfl, hone _ (by decide) (by decide)⟩ <|
      .cons ⟨.copy rfl, hone _ (by decide) (by decide)⟩ <|
      .cons ⟨.swap rfl, hone _ (by decide) (by decide)⟩ <|
      .cons ⟨.appendSub 10 rfl, hone _ (by decide) (by decide)⟩ (.nil _), List.mem_of_getLast? rfl, rfl, rfl, rfl,
      by decide, rfl, rfl⟩
  obtain ⟨tr, action, t, hrun, hmem, hcalls, hcalls', hconn, hlive, hlook, hsubscribed⟩ := hrun
  have hidle : t.Idle := by
    refine ⟨fun c => ?_, fun c => ?_⟩
    · unfold AList.lookup
      rw [hcalls]
      rfl
    · unfold AList.lookup
      rw [hcalls']
      rfl
  have hagrees := (h tr hrun).2 _ hmem hidle 1 hconn hlive
  have hin := (hagrees.subs "a" "T").mpr ⟨10, hlook⟩
  rw [hsubscribed] at hin
  exact absurd hin (by decide)

/-- `reconnect_restores` for a `Subscription` and a `Writer`. -/
theorem both_restored :
    ∃ tr action t, Runs.Run (fun s action t => Step s action t ∧ t.KeysDistinct) .new tr ∧ (action, t) ∈ tr ∧
      t.conn = some 1 ∧ (1, "a", "T") ∈ t.subscribed ∧ (1, 5, 11) ∈ t.created ∧
      Runs.Always Client.Restored .new tr := by
  have hone : ∀ s : Client, (∀ i ∈ s.subscription.keys, i = 10) → (∀ i ∈ s.subCalls.keys, i = 10) → s.KeysDistinct :=
    fun _ h h' => keysDistinct_of_keys h h'
  have hrun : ∃ tr action t, Runs.Run (fun s action t => Step s action t ∧ t.KeysDistinct) .new tr ∧
      (action, t) ∈ tr ∧ t.conn = some 1 ∧ (1, "a", "T") ∈ t.subscribed ∧ (1, 5, 11) ∈ t.created ∧
      Runs.EachStep Client.InTime .new tr := by
    refine ⟨_, _, _, .cons ⟨.subscribe 10 "a" "T" rfl rfl rfl, hone _ (by decide) (by decide)⟩ <|
      .cons ⟨.answerSubscribe 10 rfl (by decide), hone _ (by decide) (by decide)⟩ <|
      .cons ⟨.appendSub 10 rfl, hone _ (by decide) (by decide)⟩ <|
      .cons ⟨.createWriter 11 rfl rfl rfl, hone _ (by decide) (by decide)⟩ <|
      .cons ⟨.answerCreate 11 5 rfl (by decide), hone _ (by decide) (by decide)⟩ <|
      .cons ⟨.appendWriter 11 rfl, hone _ (by decide) (by decide)⟩ <|
      .cons ⟨.lose 0, hone _ (by decide) (by decide)⟩ <|
      .cons ⟨.setNil rfl (by decide), hone _ (by decide) (by decide)⟩ <|
      .cons ⟨.closeOld rfl, hone _ (by decide) (by decide)⟩ <|
      .cons ⟨.dial rfl, hone _ (by decide) (by decide)⟩ <|
      .cons ⟨.copy rfl, hone _ (by decide) (by decide)⟩ <|
      .cons ⟨.recreate 5 rfl rfl rfl (by decide), hone _ (by decide) (by decide)⟩ <|
      .cons ⟨.resubscribe rfl rfl (by decide), hone _ (by decide) (by decide)⟩ <|
      .cons ⟨.swap rfl, hone _ (by decide) (by decide)⟩ (.nil _), List.mem_of_getLast? rfl, rfl, by decide, by decide,
      trivial, trivial, ?_, trivial, ?_, ?_, trivial, trivial, trivial, trivial, trivial, ?_, trivial, trivial, trivial⟩
    · intro k t T h
      cases h
      exact .inl rfl
    · exact fun k _ w h => nomatch h
    · intro k id h
      cases h
      exact .inl rfl
    · intro k todo copied subs h w hmem
      cases h
      obtain ⟨hk, -⟩ := Prod.mk.inj (List.mem_singleton.mp hmem)
      exact absurd hk (by decide)
  obtain ⟨tr, action, t, hrun, hmem, hconn, hsub, hwriter, hok⟩ := hrun
  exact ⟨tr, action, t, hrun, hmem, hconn, hsub, hwriter, reconnect_restores hrun hok⟩

end DdsBridge.GoReconnect
