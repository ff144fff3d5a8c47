import DdsBridge.Frame
import DdsBridge.Lib.Runs
import DdsBridge.Lib.Table

/-!
# Requests of the Go client

`ddswsclient/conn.go`: `sendAndWait` registers a channel under the id of its request, `recvLoop` looks the
channel up by the id of the answer. The id is a counter of 32 bits, which comes round.
-/

namespace DdsBridge.GoConn

/-! ## The connection -/

/-- What `nextID.Add(1)` returns the `n`-th time. -/
def requestID (n : Nat) : UInt32 := UInt32.ofNat n

/-- A message of the bridge, with the request that it answers. -/
structure Answer where
  request : Option Nat
  msgType : MsgType
  payload : Bytes
  deriving DecidableEq, Repr

/-- `hdr.RequestID`: an answer has the id of its request, any other message has 0. -/
def Answer.id (a : Answer) : UInt32 :=
  match a.request with
  | some n => requestID n
  | none => 0

/-- A `sendAndWait`, from its start to its end, or a request that is sent and forgotten. -/
inductive Call where
  | begun
  | drawn (n : Nat)
  | stored (n : Nat)
  | waiting (n : Nat)
  /-- The case of the `select` that was chosen, or the error of `send`: `pending.Delete` is next. -/
  | leaving (n : Nat) (resp : Option Answer)
  | returned (n : Nat) (resp : Option Answer)
  | postBegun
  | posting (n : Nat)
  | posted (n : Nat)
  deriving DecidableEq, Repr

inductive RecvLoop where
  | reading
  /-- `pending.Load` has returned the channel of the call. -/
  | delivering (call : Nat) (answer : Answer)
  | done
  deriving DecidableEq, Repr

/-- Calls are known by numbers, and so is the channel that a call makes. -/
structure Conn where
  /-- How often the counter was increased. -/
  nextID : Nat
  pending : Table UInt32 Nat
  closed : Bool
  closeCh : Bool
  calls : Table Nat Call
  /-- The channels that hold an answer; there is room for one. -/
  channel : Table Nat Answer
  recv : RecvLoop
  /-- The requests that the bridge has got and not answered, and what it has sent. -/
  unanswered : List Nat
  incoming : List Answer

def Conn.new : Conn where
  nextID := 0
  pending := ∅
  closed := false
  closeCh := false
  calls := ∅
  channel := ∅
  recv := .reading
  unanswered := []
  incoming := []

inductive Action where
  | begin (call : Nat)
  | post (call : Nat)
  | skipZero (call : Nat)
  | draw (call : Nat)
  | store (call : Nat)
  | send (call : Nat)
  | sendFails (call : Nat) (reached : Bool)
  | sendPost (call : Nat) (reached : Bool)
  | contextDone (call : Nat)
  | closeSeen (call : Nat)
  | take (call : Nat)
  | delete (call : Nat)
  | answer (n : Nat) (msgType : MsgType) (payload : Bytes)
  | unsolicited (msgType : MsgType) (payload : Bytes)
  | receive
  | deliver
  | recvEnds
  | close
  | closeCh

namespace Conn

def setCall (c : Nat) (call : Call) (s : Conn) : Conn := { s with calls := s.calls.insert c call }

/-- The request is on its way; after an error it may be all the same. -/
def sent (reached : Bool) (n : Nat) (s : Conn) : Conn :=
  { s with unanswered := if reached then n :: s.unanswered else s.unanswered }

end Conn

/-- The response, or nothing for an error of the bridge. -/
def returnedOf : Option Answer → Option Answer
  | some a => if a.msgType = .error then none else some a
  | none => none

open Conn

inductive Step : Conn → Action → Conn → Prop
  -- `sendAndWait`. The check of `c.closed` in `send` may be over when `c.closed` is set.
  | begin {s} (c : Nat) (hc : s.calls.lookup c = none) (ho : s.closed = false) :
      Step s (.begin c) (setCall c .begun s)
  | drawZero {s} (c : Nat) (hc : s.calls.lookup c = some .begun ∨ s.calls.lookup c = some .postBegun)
      (hz : requestID (s.nextID + 1) = 0) :
      Step s (.skipZero c) { s with nextID := s.nextID + 1 }
  | draw {s} (c : Nat) (hc : s.calls.lookup c = some .begun) (hz : requestID (s.nextID + 1) ≠ 0) :
      Step s (.draw c) (setCall c (.drawn (s.nextID + 1)) { s with nextID := s.nextID + 1 })
  | store {s n} (c : Nat) (hc : s.calls.lookup c = some (.drawn n)) :
      Step s (.store c) (setCall c (.stored n) { s with pending := s.pending.insert (requestID n) c })
  | send {s n} (c : Nat) (hc : s.calls.lookup c = some (.stored n)) :
      Step s (.send c) (setCall c (.waiting n) (s.sent true n))
  | sendFails {s n} (c : Nat) (reached : Bool) (hc : s.calls.lookup c = some (.stored n)) :
      Step s (.sendFails c reached) (setCall c (.leaving n none) (s.sent reached n))
  | contextDone {s n} (c : Nat) (hc : s.calls.lookup c = some (.waiting n)) :
      Step s (.contextDone c) (setCall c (.leaving n none) s)
  | closeSeen {s n} (c : Nat) (hc : s.calls.lookup c = some (.waiting n)) (ho : s.closeCh = true) :
      Step s (.closeSeen c) (setCall c (.leaving n none) s)
  | take {s n a} (c : Nat) (hc : s.calls.lookup c = some (.waiting n)) (ha : s.channel.lookup c = some a) :
      Step s (.take c) (setCall c (.leaving n (some a)) { s with channel := s.channel.erase c })
  | delete {s n resp} (c : Nat) (hc : s.calls.lookup c = some (.leaving n resp)) :
      Step s (.delete c)
        (setCall c (.returned n (returnedOf resp)) { s with pending := s.pending.erase (requestID n) })
  -- `publish`, `publishDispose` and `publishWriteDispose`
  | post {s} (c : Nat) (hc : s.calls.lookup c = none) : Step s (.post c) (setCall c .postBegun s)
  | drawPost {s} (c : Nat) (hc : s.calls.lookup c = some .postBegun) (hz : requestID (s.nextID + 1) ≠ 0) :
      Step s (.draw c) (setCall c (.posting (s.nextID + 1)) { s with nextID := s.nextID + 1 })
  | sendPost {s n} (c : Nat) (reached : Bool) (hc : s.calls.lookup c = some (.posting n)) :
      Step s (.sendPost c reached) (setCall c (.posted n) (s.sent reached n))
  -- The bridge
  | answer {s} (n : Nat) (msgType : MsgType) (payload : Bytes) (hn : n ∈ s.unanswered) :
      Step s (.answer n msgType payload)
        { s with unanswered := s.unanswered.erase n, incoming := s.incoming ++ [⟨some n, msgType, payload⟩] }
  | unsolicited {s} (msgType : MsgType) (payload : Bytes) :
      Step s (.unsolicited msgType payload) { s with incoming := s.incoming ++ [⟨none, msgType, payload⟩] }
  -- `recvLoop`
  | receive {s a rest c} (hr : s.recv = .reading) (hi : s.incoming = a :: rest) (hid : a.id ≠ 0)
      (hc : s.pending.lookup a.id = some c) :
      Step s .receive { s with recv := .delivering c a, incoming := rest }
  /-- The message is for the handlers, or for no one. -/
  | handle {s a rest} (hr : s.recv = .reading) (hi : s.incoming = a :: rest)
      (hid : a.id = 0 ∨ s.pending.lookup a.id = none) :
      Step s .receive { s with incoming := rest }
  | deliver {s c a} (hr : s.recv = .delivering c a) (hroom : s.channel.lookup c = none) :
      Step s .deliver { s with recv := .reading, channel := s.channel.insert c a }
  | recvEnds {s} (hr : s.recv = .reading) : Step s .recvEnds { s with recv := .done }
  | close {s} (ho : s.closed = false) : Step s .close { s with closed := true }
  | closeCh {s} (ho : s.closed = true) : Step s .closeCh { s with closeCh := true }

/-! ## Who gets an answer -/

def Call.number : Call → Option Nat
  | .begun => none
  | .drawn n => some n
  | .stored n => some n
  | .waiting n => some n
  | .leaving n _ => some n
  | .returned n _ => some n
  | .postBegun => none
  | .posting n => some n
  | .posted n => some n

def Call.Done : Call → Prop
  | .returned _ _ => True
  | .posted _ => True
  | _ => False

/-- A `sendAndWait` that has drawn its id and not returned. -/
def Call.Pending (n : Nat) : Call → Prop
  | .drawn m => m = n
  | .stored m => m = n
  | .waiting m => m = n
  | .leaving m _ => m = n
  | _ => False

/-- The answer that the call was given, by `recvLoop` or by its own `select`. -/
def Conn.Handed (s : Conn) (c : Nat) (a : Answer) : Prop :=
  s.channel.lookup c = some a ∨ s.recv = .delivering c a ∨
    ∃ n, s.calls.lookup c = some (.leaving n (some a)) ∨ s.calls.lookup c = some (.returned n (some a))

structure Correlated (s : Conn) : Prop where
  own : ∀ c a, s.Handed c a → ∃ call n, s.calls.lookup c = some call ∧ call.number = some n ∧ a.request = some n
  once : ∀ c c' a a', s.Handed c a → s.Handed c' a' → a.request = a'.request → c = c'
  room : ∀ c a, s.recv = .delivering c a → s.channel.lookup c = none
  empty : (∀ c call, s.calls.lookup c = some call → call.Done) → ∀ id, s.pending.lookup id = none

/-- The requests whose answer `recvLoop` may still read. -/
def Conn.outstanding (s : Conn) : List Nat := s.unanswered ++ s.incoming.filterMap Answer.request

/-- The ids that were drawn when the counter was increased `n` times. -/
def idsDrawn (n : Nat) : Nat := n - n / 2 ^ 32

/-- The ids drawn since the request, its own included. -/
def Conn.idsSince (s : Conn) (n : Nat) : Nat := idsDrawn s.nextID - idsDrawn (n - 1)

/-- Fewer than 2^32 ids were drawn while any one call is pending. -/
def Conn.CallsInWindow (s : Conn) : Prop :=
  ∀ c call n, s.calls.lookup c = some call → call.Pending n → s.idsSince n < 2 ^ 32

/-- And while any one answer is. -/
structure Conn.InWindow (s : Conn) : Prop where
  calls : s.CallsInWindow
  answers : ∀ n ∈ s.outstanding, s.idsSince n < 2 ^ 32

/-! ## Ids in the window -/

theorem requestID_eq_iff {n m : Nat} : requestID n = requestID m ↔ n % 2 ^ 32 = m % 2 ^ 32 := by
  unfold requestID
  rw [← UInt32.toNat_inj, UInt32.toNat_ofNat', UInt32.toNat_ofNat']

theorem requestID_eq_zero {n : Nat} : requestID n = 0 ↔ n % 2 ^ 32 = 0 :=
  requestID_eq_iff (m := 0)

theorem requestID_inj {s : Conn} {n m : Nat} (hn : n ≤ s.nextID ∧ requestID n ≠ 0) (hm : m ≤ s.nextID ∧ requestID m ≠ 0)
    (hnw : s.idsSince n < 2 ^ 32) (hmw : s.idsSince m < 2 ^ 32) (h : requestID n = requestID m) : n = m := by
  rw [requestID_eq_iff] at h
  obtain ⟨hn, hn0⟩ := hn
  obtain ⟨hm, hm0⟩ := hm
  rw [ne_eq, requestID_eq_zero] at hn0 hm0
  unfold Conn.idsSince idsDrawn at hnw hmw
  omega

/-! ## The invariant -/

def Call.Registered (n : Nat) : Call → Prop
  | .stored m => m = n
  | .waiting m => m = n
  | .leaving m _ => m = n
  | _ => False

def Call.Sent (n : Nat) : Call → Prop
  | .waiting m => m = n
  | .leaving m _ => m = n
  | .returned m _ => m = n
  | .posted m => m = n
  | _ => False

/-- What the call has taken from its channel. -/
def Call.taken : Call → Option Answer
  | .leaving _ resp => resp
  | .returned _ resp => resp
  | _ => none

structure ConnInv (s : Conn) : Prop where
  numbers : ∀ c call n, s.calls.lookup c = some call → call.number = some n → n ≤ s.nextID ∧ requestID n ≠ 0
  distinct : ∀ c c' call call' n, s.calls.lookup c = some call → s.calls.lookup c' = some call' →
    call.number = some n → call'.number = some n → c = c'
  pending : ∀ id c, s.pending.lookup id = some c ↔
    ∃ call n, s.calls.lookup c = some call ∧ call.Registered n ∧ id = requestID n
  once : s.outstanding.Nodup
  sent : ∀ n ∈ s.outstanding, ∃ c call, s.calls.lookup c = some call ∧ call.Sent n
  handed : ∀ c a, s.channel.lookup c = some a ∨ s.recv = .delivering c a →
    ∃ call n, s.calls.lookup c = some call ∧ call.Sent n ∧ a.request = some n ∧ n ∉ s.outstanding
  room : ∀ c a, s.recv = .delivering c a → s.channel.lookup c = none
  taken : ∀ c call a, s.calls.lookup c = some call → call.taken = some a → a.request = call.number

theorem Call.Registered.number {n : Nat} {call : Call} (h : call.Registered n) : call.number = some n := by
  cases call with
  | stored | waiting | leaving => exact congrArg some h
  | _ => exact h.elim

theorem Call.Registered.pending {n : Nat} {call : Call} (h : call.Registered n) : call.Pending n := by
  cases call with
  | stored | waiting | leaving => exact h
  | _ => exact h.elim

theorem Call.Sent.number {n : Nat} {call : Call} (h : call.Sent n) : call.number = some n := by
  cases call with
  | waiting | leaving | returned | posted => exact congrArg some h
  | _ => exact h.elim

theorem connInv_new : ConnInv .new where
  numbers c call n h := by cases h
  distinct c c' call call' n h := by cases h
  pending id c := iff_of_false (fun h => by cases h) fun h => by
    obtain ⟨_, _, h, -⟩ := h
    cases h
  once := List.nodup_nil
  sent n h := by cases h
  handed c a h := by rcases h with h | h <;> cases h
  room c a h := by cases h
  taken c call a h := by cases h

section
variable {s t : Conn}

/-- A step of the call `c` alone, and what it does to `pending`. -/
theorem ConnInv.updateCall (hi : ConnInv s) {c : Nat} {old call : Call} {pending : Table UInt32 Nat}
    (hc : s.calls.lookup c = some old) (hn : call.number = old.number) (hs : ∀ n, old.Sent n → call.Sent n)
    (ht : ∀ a, call.taken = some a → a.request = call.number)
    (hp : ∀ id c', pending.lookup id = some c' ↔
      ∃ call' n, (s.calls.insert c call).lookup c' = some call' ∧ call'.Registered n ∧ id = requestID n) :
    ConnInv (setCall c call { s with pending }) where
  numbers := by
    have hold := hi.numbers
    simp only [setCall, Table.lookup_insert_eq]
    grind
  distinct := by
    have hold := hi.distinct
    simp only [setCall, Table.lookup_insert_eq]
    grind
  pending := hp
  once := hi.once
  sent := by
    have hold := hi.sent
    simp only [setCall, Table.lookup_insert_eq]
    grind [Conn.outstanding]
  handed := by
    have hold := hi.handed
    simp only [setCall, Table.lookup_insert_eq]
    grind [Conn.outstanding]
  room := hi.room
  taken := by
    have hold := hi.taken
    simp only [setCall, Table.lookup_insert_eq]
    grind

theorem ConnInv.setCall (hi : ConnInv s) {c : Nat} {old call : Call} (hc : s.calls.lookup c = some old)
    (hn : call.number = old.number) (hr : ∀ n, call.Registered n ↔ old.Registered n)
    (hs : ∀ n, old.Sent n → call.Sent n) (ht : ∀ a, call.taken = some a → a.request = call.number) :
    ConnInv (setCall c call s) := by
  refine hi.updateCall hc hn hs ht fun id c' => ?_
  rw [hi.pending, Table.lookup_insert_eq]
  by_cases hcc : c' = c
  · subst hcc
    rw [if_pos rfl, hc]
    simp only [Option.some.injEq, exists_and_left, exists_eq_left', hr]
  · rw [if_neg hcc]

theorem ConnInv.startCall (hi : ConnInv s) {c : Nat} {call : Call} (hc : s.calls.lookup c = none)
    (hcall : call = .begun ∨ call = .postBegun) : ConnInv (Conn.setCall c call s) := by
  have hnumbers := hi.numbers
  have hdistinct := hi.distinct
  have hpending := hi.pending
  have hsent := hi.sent
  have hhanded := hi.handed
  have htaken := hi.taken
  refine ⟨?_, ?_, ?_, hi.once, ?_, ?_, hi.room, ?_⟩
  all_goals
    simp only [Conn.setCall, Table.lookup_insert_eq]
    grind [Conn.outstanding, Call.number, Call.Registered, Call.Sent, Call.taken]

theorem ConnInv.drawCall (hi : ConnInv s) {c : Nat} {old call : Call} (hc : s.calls.lookup c = some old)
    (hold : old = .begun ∨ old = .postBegun) (hcall : call = .drawn (s.nextID + 1) ∨ call = .posting (s.nextID + 1))
    (hz : requestID (s.nextID + 1) ≠ 0) :
    ConnInv (Conn.setCall c call { s with nextID := s.nextID + 1 }) := by
  have hnumbers := hi.numbers
  have hdistinct := hi.distinct
  have hpending := hi.pending
  have hsent := hi.sent
  have hhanded := hi.handed
  have htaken := hi.taken
  refine ⟨?_, ?_, ?_, hi.once, ?_, ?_, hi.room, ?_⟩
  all_goals
    simp only [Conn.setCall, Table.lookup_insert_eq]
    grind [Conn.outstanding, Call.number, Call.Registered, Call.Sent, Call.taken]

/-- In the window the id of a pending call is its own. -/
theorem ConnInv.unique (hi : ConnInv s) (hw : s.CallsInWindow) {c c' : Nat} {call call' : Call} {n n' : Nat}
    (hc : s.calls.lookup c = some call) (hc' : s.calls.lookup c' = some call') (hp : call.Pending n)
    (hp' : call'.Pending n') (hn : call.number = some n) (hn' : call'.number = some n')
    (h : requestID n = requestID n') : c = c' := by
  have heq := requestID_inj (hi.numbers c call n hc hn) (hi.numbers c' call' n' hc' hn') (hw c call n hc hp)
    (hw c' call' n' hc' hp') h
  subst heq
  exact hi.distinct c c' call call' n hc hc' hn hn'

theorem ConnInv.store (hi : ConnInv s) (hw : s.CallsInWindow) {c n : Nat} (hc : s.calls.lookup c = some (.drawn n)) :
    ConnInv (Conn.setCall c (.stored n) { s with pending := s.pending.insert (requestID n) c }) := by
  refine hi.updateCall hc rfl (fun _ h => h.elim) nofun fun id c' => ?_
  rw [Table.lookup_insert_eq, Table.lookup_insert_eq]
  by_cases hcc : c' = c
  · subst hcc
    rw [if_pos rfl]
    refine ⟨fun h => ⟨_, n, rfl, rfl, ?_⟩, fun h => ?_⟩
    · by_cases hid : id = requestID n
      · exact hid
      · -- The call has not been in `pending` before.
        rw [if_neg hid] at h
        obtain ⟨call, m, hcall, hr, -⟩ := (hi.pending id c').mp h
        rw [hc] at hcall
        cases hcall
        exact hr.elim
    · obtain ⟨call, m, hcall, hr, rfl⟩ := h
      cases hcall
      change n = m at hr
      rw [hr, if_pos rfl]
  · rw [if_neg hcc]
    by_cases hid : id = requestID n
    · rw [if_pos hid]
      refine iff_of_false (fun h => hcc (Option.some.inj h).symm) fun h => ?_
      obtain ⟨call, m, hcall, hr, rfl⟩ := h
      exact hcc (hi.unique hw hcall hc hr.pending rfl hr.number rfl hid)
    · rw [if_neg hid]
      exact hi.pending id c'

theorem ConnInv.sendRequest (hi : ConnInv s) (c : Nat) {n : Nat} {call : Call} (hc : s.calls.lookup c = some call)
    (hs : call.Sent n) (hnew : n ∉ s.outstanding)
    (hno : ∀ c' a, s.channel.lookup c' = some a ∨ s.recv = .delivering c' a → a.request ≠ some n) (reached : Bool) :
    ConnInv (s.sent reached n) := by
  cases reached with
  | false => exact hi
  | true =>
    have hout : (s.sent true n).outstanding = n :: s.outstanding := rfl
    refine ⟨hi.numbers, hi.distinct, hi.pending, ?_, ?_, ?_, hi.room, hi.taken⟩
    · rw [hout]
      exact List.nodup_cons.mpr ⟨hnew, hi.once⟩
    · rw [hout]
      exact List.forall_mem_cons.mpr ⟨⟨c, call, hc, hs⟩, hi.sent⟩
    · intro c' a ha
      obtain ⟨call', m, hc', hs', hm, hout'⟩ := hi.handed c' a ha
      refine ⟨call', m, hc', hs', hm, ?_⟩
      rw [hout, List.mem_cons, not_or]
      exact ⟨fun h => hno c' a ha (by rw [hm, h]), hout'⟩

theorem ConnInv.sendCall (hi : ConnInv s) {c n : Nat} {old call : Call} (hc : s.calls.lookup c = some old)
    (hcall : old = .stored n ∧ (call = .waiting n ∨ call = .leaving n none) ∨ old = .posting n ∧ call = .posted n)
    (reached : Bool) : ConnInv (Conn.setCall c call (s.sent reached n)) := by
  have hnumber : old.number = some n ∧ call.number = some n ∧ call.Sent n ∧ ∀ m, ¬ old.Sent m := by
    rcases hcall with ⟨rfl, rfl | rfl⟩ | ⟨rfl, rfl⟩ <;> exact ⟨rfl, rfl, rfl, fun _ h => h⟩
  obtain ⟨hn, hn', hs, hnot⟩ := hnumber
  -- Only the call itself could have sent the request.
  have honly : ∀ c' call', s.calls.lookup c' = some call' → ¬ call'.Sent n := by
    intro c' call' hc' hs'
    have hsame := hi.distinct c c' old call' n hc hc' hn hs'.number
    subst hsame
    rw [hc] at hc'
    cases hc'
    exact hnot n hs'
  have hset : ConnInv (Conn.setCall c call s) := by
    refine hi.setCall hc (hn'.trans hn.symm) ?_ (fun m h => absurd h (hnot m)) ?_
    · rcases hcall with ⟨rfl, rfl | rfl⟩ | ⟨rfl, rfl⟩ <;> exact fun _ => Iff.rfl
    · rcases hcall with ⟨rfl, rfl | rfl⟩ | ⟨rfl, rfl⟩ <;> exact nofun
  have hc' : (Conn.setCall c call s).calls.lookup c = some call := by
    change (s.calls.insert c call).lookup c = some call
    rw [Table.lookup_insert_eq, if_pos rfl]
  refine hset.sendRequest c hc' hs (fun h => ?_) (fun c' a ha hreq => ?_) reached
  · obtain ⟨c', call', hc', hs'⟩ := hi.sent n h
    exact honly c' call' hc' hs'
  · obtain ⟨call', m, hc', hs', hm, -⟩ := hi.handed c' a ha
    rw [hreq] at hm
    cases hm
    exact honly c' call' hc' hs'

theorem ConnInv.take (hi : ConnInv s) {c n : Nat} {a : Answer} (hc : s.calls.lookup c = some (.waiting n))
    (ha : s.channel.lookup c = some a) :
    ConnInv (Conn.setCall c (.leaving n (some a)) { s with channel := s.channel.erase c }) := by
  have herase : ConnInv { s with channel := s.channel.erase c } := by
    refine ⟨hi.numbers, hi.distinct, hi.pending, hi.once, hi.sent, fun c' a' h => hi.handed c' a' ?_, fun c' a' h => ?_,
      hi.taken⟩
    · rw [Table.lookup_erase_eq] at h
      by_cases hcc : c' = c
      · rw [if_pos hcc] at h
        exact .inr (h.resolve_left nofun)
      · rw [if_neg hcc] at h
        exact h
    · change (s.channel.erase c).lookup c' = none
      rw [Table.lookup_erase_eq, hi.room c' a' h, ite_self]
  refine herase.setCall hc rfl (fun _ => Iff.rfl) (fun _ h => h) fun a' h => ?_
  cases h
  -- What was in the channel answers the request of the call.
  obtain ⟨call, m, hcall, hs, hm, -⟩ := hi.handed c a (.inl ha)
  rw [hc] at hcall
  cases hcall
  rw [hm, ← hs.number]
  rfl

theorem ConnInv.delete (hi : ConnInv s) (hw : s.CallsInWindow) {c n : Nat} {resp : Option Answer}
    (hc : s.calls.lookup c = some (.leaving n resp)) :
    ConnInv (Conn.setCall c (.returned n (returnedOf resp)) { s with pending := s.pending.erase (requestID n) }) := by
  refine hi.updateCall hc rfl (fun _ h => h) (fun a ha => ?_) fun id c' => ?_
  · cases resp with
    | none => cases ha
    | some a' =>
      have hreq := hi.taken c _ a' hc rfl
      change (if a'.msgType = .error then none else some a') = some a at ha
      split at ha
      · cases ha
      · cases ha
        exact hreq
  rw [Table.lookup_insert_eq, Table.lookup_erase_eq]
  by_cases hcc : c' = c
  · subst hcc
    rw [if_pos rfl]
    refine iff_of_false (fun h => ?_) fun h => ?_
    · by_cases hid : id = requestID n
      · rw [if_pos hid] at h
        cases h
      · rw [if_neg hid] at h
        obtain ⟨call, m, hcall, hr, rfl⟩ := (hi.pending id c').mp h
        rw [hc] at hcall
        cases hcall
        exact hid (congrArg requestID hr).symm
    · obtain ⟨call, m, hcall, hr, -⟩ := h
      cases hcall
      exact hr
  · rw [if_neg hcc]
    by_cases hid : id = requestID n
    · rw [if_pos hid]
      refine iff_of_false nofun fun h => ?_
      obtain ⟨call, m, hcall, hr, rfl⟩ := h
      exact hcc (hi.unique hw hcall hc hr.pending rfl hr.number rfl hid)
    · rw [if_neg hid]
      exact hi.pending id c'

theorem Answer.id_eq_zero {a : Answer} (h : a.request = none) : a.id = 0 := by
  unfold Answer.id
  rw [h]

theorem ConnInv.answer (hi : ConnInv s) {n : Nat} {msgType : MsgType} {payload : Bytes} (hn : n ∈ s.unanswered) :
    ConnInv { s with unanswered := s.unanswered.erase n, incoming := s.incoming ++ [⟨some n, msgType, payload⟩] } := by
  let a : Answer := ⟨some n, msgType, payload⟩
  have hperm : (s.unanswered.erase n ++ (s.incoming ++ [a]).filterMap Answer.request).Perm s.outstanding := by
    rw [List.filterMap_append, ← List.append_assoc]
    refine (List.perm_append_comm).trans ?_
    change (n :: (s.unanswered.erase n ++ s.incoming.filterMap Answer.request)).Perm _
    exact (List.perm_cons_erase hn).symm.append_right (s.incoming.filterMap Answer.request)
  refine ⟨hi.numbers, hi.distinct, hi.pending, hperm.nodup_iff.mpr hi.once, ?_, ?_, hi.room, hi.taken⟩
  · exact fun m hm => hi.sent m (hperm.mem_iff.mp hm)
  · intro c a ha
    obtain ⟨call, m, hc, hs, hm, hout⟩ := hi.handed c a ha
    exact ⟨call, m, hc, hs, hm, fun h => hout (hperm.mem_iff.mp h)⟩

theorem ConnInv.unsolicited (hi : ConnInv s) (msgType : MsgType) (payload : Bytes) :
    ConnInv { s with incoming := s.incoming ++ [⟨none, msgType, payload⟩] } := by
  have hout : ({ s with incoming := s.incoming ++ [⟨none, msgType, payload⟩] } : Conn).outstanding = s.outstanding := by
    unfold Conn.outstanding
    rw [List.filterMap_append]
    exact congrArg (s.unanswered ++ ·) (List.append_nil _)
  refine ⟨hi.numbers, hi.distinct, hi.pending, ?_, ?_, ?_, hi.room, hi.taken⟩
  · rw [hout]
    exact hi.once
  · rw [hout]
    exact hi.sent
  · rw [hout]
    exact hi.handed

theorem ConnInv.readMessage (hi : ConnInv s) {a : Answer} {rest : List Answer} (hin : s.incoming = a :: rest) :
    ConnInv { s with incoming := rest } ∧ ∀ n, a.request = some n → n ∈ s.outstanding ∧
      n ∉ ({ s with incoming := rest } : Conn).outstanding := by
  have hout : s.outstanding = s.unanswered ++ (a.request.toList ++ rest.filterMap Answer.request) := by
    unfold Conn.outstanding
    rw [hin, List.filterMap_cons]
    cases a.request <;> rfl
  have hsub : (({ s with incoming := rest } : Conn).outstanding).Sublist s.outstanding := by
    rw [hout]
    exact (List.Sublist.refl _).append (List.sublist_append_right _ _)
  refine ⟨⟨hi.numbers, hi.distinct, hi.pending, hi.once.sublist hsub, ?_, ?_, hi.room, hi.taken⟩, fun n hn => ?_⟩
  · exact fun m hm => hi.sent m (hsub.subset hm)
  · intro c a' ha
    obtain ⟨call, m, hc, hs, hm, hno⟩ := hi.handed c a' ha
    exact ⟨call, m, hc, hs, hm, fun h => hno (hsub.subset h)⟩
  · have honce := hi.once
    rw [hout, hn] at honce ⊢
    refine ⟨by simp, fun h => ?_⟩
    have hperm : (s.unanswered ++ ((some n).toList ++ rest.filterMap Answer.request)).Perm
        (n :: (s.unanswered ++ rest.filterMap Answer.request)) := List.perm_middle
    exact (List.nodup_cons.mp (hperm.nodup_iff.mp honce)).1 h

theorem ConnInv.receive (hi : ConnInv s) (hw : s.InWindow) {a : Answer} {rest : List Answer} {c : Nat}
    (hin : s.incoming = a :: rest) (hid : a.id ≠ 0) (hc : s.pending.lookup a.id = some c) :
    ConnInv { s with recv := .delivering c a, incoming := rest } := by
  obtain ⟨hrest, hone⟩ := hi.readMessage hin
  obtain ⟨m, hm⟩ := Option.ne_none_iff_exists'.mp fun h => hid (Answer.id_eq_zero h)
  obtain ⟨hout, hgone⟩ := hone m hm
  obtain ⟨call, n, hcall, hreg, heq⟩ := (hi.pending _ c).mp hc
  -- The request was sent by some call, and its id is that of the call in `pending`.
  obtain ⟨c', call', hcall', hsent⟩ := hi.sent m hout
  have hsame : m = n := by
    have hidm : a.id = requestID m := by
      unfold Answer.id
      rw [hm]
    refine requestID_inj (hi.numbers c' call' m hcall' hsent.number) (hi.numbers c call n hcall hreg.number)
      (hw.answers m hout) (hw.calls c call n hcall hreg.pending) ?_
    rw [← hidm, heq]
  subst hsame
  have hcc := hi.distinct c c' call call' m hcall hcall' hreg.number hsent.number
  subst hcc
  have hnone : s.channel.lookup c = none := by
    refine Option.eq_none_iff_forall_ne_some.mpr fun a' ha' => ?_
    obtain ⟨call'', m', hcall'', hsent', -, hno⟩ := hi.handed c a' (.inl ha')
    rw [hcall'] at hcall''
    cases hcall''
    have hnum := hsent'.number
    rw [hsent.number] at hnum
    cases hnum
    exact hno hout
  refine ⟨hrest.numbers, hrest.distinct, hrest.pending, hrest.once, hrest.sent, fun c' a' h => ?_, fun c' a' h => ?_,
    hrest.taken⟩
  · rcases h with h | h
    · exact hrest.handed c' a' (.inl h)
    · cases h
      exact ⟨call', m, hcall', hsent, hm, hgone⟩
  · cases h
    exact hnone

theorem ConnInv.deliver (hi : ConnInv s) {c : Nat} {a : Answer} (hr : s.recv = .delivering c a) :
    ConnInv { s with recv := .reading, channel := s.channel.insert c a } := by
  refine ⟨hi.numbers, hi.distinct, hi.pending, hi.once, hi.sent, fun c' a' h => ?_, nofun, hi.taken⟩
  refine hi.handed c' a' ?_
  rcases h with h | h
  · rw [Table.lookup_insert_eq] at h
    by_cases hcc : c' = c
    · rw [if_pos hcc] at h
      cases h
      exact .inr (hcc ▸ hr)
    · rw [if_neg hcc] at h
      exact .inl h
  · cases h

theorem ConnInv.idle (hi : ConnInv s) {recv : RecvLoop} (h : ∀ c a, recv ≠ .delivering c a) : ConnInv { s with recv } := by
  refine ⟨hi.numbers, hi.distinct, hi.pending, hi.once, hi.sent, fun c a ha => ?_, fun c a ha => absurd ha (h c a), hi.taken⟩
  exact hi.handed c a (.inl (ha.resolve_right (h c a)))

theorem ConnInv.step {action : Action} (hi : ConnInv s) (hw : s.InWindow) (h : Step s action t) : ConnInv t := by
  cases h with
  | begin c hc ho => exact hi.startCall hc (.inl rfl)
  | post c hc => exact hi.startCall hc (.inr rfl)
  | drawZero c hc hz =>
    refine ⟨fun c call n hc hn => ?_, hi.distinct, hi.pending, hi.once, hi.sent, hi.handed, hi.room, hi.taken⟩
    obtain ⟨hle, hne⟩ := hi.numbers c call n hc hn
    exact ⟨Nat.le_succ_of_le hle, hne⟩
  | draw c hc hz => exact hi.drawCall hc (.inl rfl) (.inl rfl) hz
  | drawPost c hc hz => exact hi.drawCall hc (.inr rfl) (.inr rfl) hz
  | store c hc => exact hi.store hw.calls hc
  | send c hc => exact hi.sendCall hc (.inl ⟨rfl, .inl rfl⟩) true
  | sendFails c reached hc => exact hi.sendCall hc (.inl ⟨rfl, .inr rfl⟩) reached
  | sendPost c reached hc => exact hi.sendCall hc (.inr ⟨rfl, rfl⟩) reached
  | contextDone c hc => exact hi.setCall hc rfl (fun _ => Iff.rfl) (fun _ h => h) nofun
  | closeSeen c hc ho => exact hi.setCall hc rfl (fun _ => Iff.rfl) (fun _ h => h) nofun
  | take c hc ha => exact hi.take hc ha
  | delete c hc => exact hi.delete hw.calls hc
  | answer n msgType payload hn => exact hi.answer hn
  | unsolicited msgType payload => exact hi.unsolicited msgType payload
  | receive hr hin hid hc => exact hi.receive hw hin hid hc
  | handle hr hin hid => exact (hi.readMessage hin).1
  | deliver hr hroom => exact hi.deliver hr
  | recvEnds hr => exact hi.idle nofun
  | close ho => exact ⟨hi.numbers, hi.distinct, hi.pending, hi.once, hi.sent, hi.handed, hi.room, hi.taken⟩
  | closeCh ho => exact ⟨hi.numbers, hi.distinct, hi.pending, hi.once, hi.sent, hi.handed, hi.room, hi.taken⟩

theorem ConnInv.own (hi : ConnInv s) {c : Nat} {a : Answer} (h : s.Handed c a) :
    ∃ call n, s.calls.lookup c = some call ∧ call.number = some n ∧ a.request = some n := by
  have hgiven : s.channel.lookup c = some a ∨ s.recv = .delivering c a → _ := fun h => hi.handed c a h
  rcases h with h | h | ⟨n, h | h⟩
  · obtain ⟨call, n, hc, hs, hn, -⟩ := hgiven (.inl h)
    exact ⟨call, n, hc, hs.number, hn⟩
  · obtain ⟨call, n, hc, hs, hn, -⟩ := hgiven (.inr h)
    exact ⟨call, n, hc, hs.number, hn⟩
  · exact ⟨_, n, h, rfl, hi.taken c _ a h rfl⟩
  · exact ⟨_, n, h, rfl, hi.taken c _ a h rfl⟩

theorem ConnInv.correlated (hi : ConnInv s) : Correlated s where
  own c a h := hi.own h
  once c c' a a' h h' hreq := by
    obtain ⟨call, n, hc, hn, ha⟩ := hi.own h
    obtain ⟨call', n', hc', hn', ha'⟩ := hi.own h'
    rw [ha, ha', Option.some.injEq] at hreq
    exact hi.distinct c c' call call' n hc hc' hn (hreq ▸ hn')
  room := hi.room
  empty hdone id := by
    refine Option.eq_none_iff_forall_ne_some.mpr fun c h => ?_
    obtain ⟨call, n, hc, hreg, -⟩ := (hi.pending id c).mp h
    have hd := hdone c call hc
    cases call with
    | stored | waiting | leaving => exact hd
    | _ => exact hreg

end

theorem inWindow_new : Conn.new.InWindow where
  calls c call n h := by cases h
  answers n h := by cases h

/-- **Answers find their calls.** In every interleaving in which fewer than 2^32 ids are drawn while a call is
pending, and from a request to the receipt of its answer. -/
theorem answers_correlated {s : Conn}
    (hr : Runs.Reachable (fun s action t => Step s action t ∧ Conn.InWindow t) Conn.new s) : Correlated s := by
  have hinv : ConnInv s ∧ s.InWindow := by
    refine hr.invariant (I := fun s => ConnInv s ∧ s.InWindow) ⟨connInv_new, inWindow_new⟩ fun s action t hi h => ?_
    exact ⟨hi.1.step hi.2 h.1, h.2⟩
  exact hinv.1.correlated

/-! ### The counter comes round -/

theorem inWindow_of_lt {s : Conn} (h : s.nextID < 2 ^ 32) : s.InWindow := by
  have hlt : ∀ n, s.idsSince n < 2 ^ 32 := by
    intro n
    unfold Conn.idsSince idsDrawn
    omega
  exact ⟨fun _ _ n _ _ => hlt n, fun n _ => hlt n⟩

/-- `answers_correlated` for one call. -/
theorem one_call_correlated : ∃ s, Correlated s ∧ s.calls.lookup 0 = some (.returned 1 (some ⟨some 1, .ok, []⟩)) := by
  have hrun : ∃ s, Runs.Reachable (fun s action t => Step s action t ∧ Conn.InWindow t) Conn.new s ∧
      s.calls.lookup 0 = some (.returned 1 (some ⟨some 1, .ok, []⟩)) := by
    refine ⟨_, .tail (.tail (.tail (.tail (.tail (.tail (.tail (.tail (.tail .refl
      ⟨_, .begin 0 rfl rfl, inWindow_of_lt (by decide)⟩)
      ⟨_, .draw 0 rfl (by decide), inWindow_of_lt (by decide)⟩)
      ⟨_, .store 0 rfl, inWindow_of_lt (by decide)⟩)
      ⟨_, .send 0 rfl, inWindow_of_lt (by decide)⟩)
      ⟨_, .answer 1 .ok [] (by decide), inWindow_of_lt (by decide)⟩)
      ⟨_, .receive rfl rfl (by decide) rfl, inWindow_of_lt (by decide)⟩)
      ⟨_, .deliver rfl rfl, inWindow_of_lt (by decide)⟩)
      ⟨_, .take 0 rfl rfl, inWindow_of_lt (by decide)⟩)
      ⟨_, .delete 0 rfl, inWindow_of_lt (by decide)⟩, rfl⟩
  obtain ⟨s, hr, hret⟩ := hrun
  exact ⟨s, answers_correlated hr, hret⟩

/-- Reached while fewer than 2^32 ids are drawn during each call. -/
def ReachedInTime (s : Conn) : Prop :=
  Runs.Reachable (fun s action t => Step s action t ∧ Conn.CallsInWindow t) Conn.new s

theorem ReachedInTime.next {s t : Conn} {action : Action} (hr : ReachedInTime s) (h : Step s action t)
    (hw : t.CallsInWindow) : ReachedInTime t := .tail hr ⟨action, h, hw⟩

/-- Request 1 has been abandoned and not been answered; the counter has got to `k` since. -/
structure Abandoned (k : Nat) (s : Conn) : Prop where
  reached : ReachedInTime s
  nextID : s.nextID = k
  closed : s.closed = false
  done : ∀ c call, s.calls.lookup c = some call → call.Done
  fresh : ∀ c, k ≤ c → s.calls.lookup c = none
  channel : ∀ c, s.channel.lookup c = none
  recv : s.recv = .reading
  unanswered : 1 ∈ s.unanswered
  incoming : s.incoming = []

theorem abandoned_one : ∃ s, Abandoned 1 s := by
  have hrun : ∃ s, ReachedInTime s ∧ s = { Conn.new with
      nextID := 1, unanswered := [1], calls := (((((((∅ : Table Nat Call).insert 0 .begun).insert 0 (.drawn 1)).insert 0
        (.stored 1)).insert 0 (.waiting 1)).insert 0 (.leaving 1 none)).insert 0 (.returned 1 none)),
      pending := ((∅ : Table UInt32 Nat).insert 1 0).erase 1 } := by
    refine ⟨_, .tail (.tail (.tail (.tail (.tail (.tail .refl
      ⟨_, .begin 0 rfl rfl, (inWindow_of_lt (by decide)).calls⟩)
      ⟨_, .draw 0 rfl (by decide), (inWindow_of_lt (by decide)).calls⟩)
      ⟨_, .store 0 rfl, (inWindow_of_lt (by decide)).calls⟩)
      ⟨_, .send 0 rfl, (inWindow_of_lt (by decide)).calls⟩)
      ⟨_, .contextDone 0 rfl, (inWindow_of_lt (by decide)).calls⟩)
      ⟨_, .delete 0 rfl, (inWindow_of_lt (by decide)).calls⟩, rfl⟩
  obtain ⟨s, hr, rfl⟩ := hrun
  refine ⟨_, hr, rfl, rfl, fun c call h => ?_, fun c hc => ?_, fun c => rfl, rfl, by decide, rfl⟩
  · have hmem := List.mem_singleton.mp (AList.mem_lookup_iff.mp h)
    cases hmem
    trivial
  · refine Option.eq_none_iff_forall_ne_some.mpr fun call h => ?_
    have hmem := List.mem_singleton.mp (AList.mem_lookup_iff.mp h)
    cases hmem
    exact absurd hc (by decide)

theorem Abandoned.post {k : Nat} {s : Conn} (h : Abandoned k s) (hk : k + 1 < 2 ^ 32) : ∃ t, Abandoned (k + 1) t := by
  let begun := setCall k .postBegun s
  let posting := setCall k (.posting (k + 1)) { begun with nextID := k + 1 }
  let posted := setCall k (.posted (k + 1)) posting
  have hlook : ∀ (s : Conn) (call : Call), (setCall k call s).calls.lookup k = some call := fun s call => by
    change (s.calls.insert k call).lookup k = _
    rw [Table.lookup_insert_eq, if_pos rfl]
  have hz : requestID (begun.nextID + 1) ≠ 0 := by
    change requestID (s.nextID + 1) ≠ 0
    rw [h.nextID, ne_eq, requestID_eq_zero]
    omega
  have hwindow : ∀ t : Conn, t.nextID = s.nextID ∨ t.nextID = k + 1 → t.CallsInWindow := fun t ht => by
    have := h.nextID
    exact (inWindow_of_lt (by omega)).calls
  have hbegun : ReachedInTime begun := h.reached.next (.post k (h.fresh k (Nat.le_refl k))) (hwindow _ (.inl rfl))
  have hposting : ReachedInTime posting := by
    have hstep := Step.drawPost k (hlook s .postBegun) hz
    have heq : begun.nextID + 1 = k + 1 := congrArg (· + 1) h.nextID
    rw [heq] at hstep
    exact hbegun.next hstep (hwindow _ (.inr rfl))
  have hposted : ReachedInTime posted :=
    hposting.next (.sendPost k false (hlook _ (.posting (k + 1)))) (hwindow _ (.inr rfl))
  have hcalls : ∀ c, posted.calls.lookup c = if c = k then some (.posted (k + 1)) else s.calls.lookup c := by
    intro c
    change (((s.calls.insert k _).insert k _).insert k _).lookup c = _
    simp only [Table.lookup_insert_eq]
    by_cases hc : c = k
    · rw [if_pos hc, if_pos hc]
    · rw [if_neg hc, if_neg hc, if_neg hc, if_neg hc]
  refine ⟨posted, hposted, rfl, h.closed, fun c call hc => ?_, fun c hc => ?_, h.channel, h.recv, h.unanswered, h.incoming⟩
  · rw [hcalls] at hc
    by_cases hck : c = k
    · rw [if_pos hck] at hc
      cases hc
      trivial
    · rw [if_neg hck] at hc
      exact h.done c call hc
  · rw [hcalls, if_neg (by omega)]
    exact h.fresh c (by omega)

theorem exists_abandoned (k : Nat) (hk : k + 1 < 2 ^ 32) : ∃ s, Abandoned (k + 1) s := by
  induction k with
  | zero => exact abandoned_one
  | succ k ih =>
    obtain ⟨s, hs⟩ := ih (by omega)
    exact hs.post hk

/-- A call that is pending has drawn its id last. -/
theorem callsInWindow_of_last {s : Conn}
    (h : ∀ c call m, s.calls.lookup c = some call → call.Pending m → m = s.nextID) : s.CallsInWindow := by
  intro c call m hc hm
  rw [h c call m hc hm]
  unfold Conn.idsSince idsDrawn
  omega

theorem Call.Done.not_pending {call : Call} (h : call.Done) (n : Nat) : ¬ call.Pending n := by
  cases call with
  | returned | posted => exact id
  | _ => exact h.elim

/-- Only the call `c` is not over. -/
def Conn.Only (s : Conn) (c : Nat) : Prop := ∀ c' call, c' ≠ c → s.calls.lookup c' = some call → call.Done

theorem Conn.Only.setCall {s : Conn} {c : Nat} (h : s.Only c) (call : Call) : (setCall c call s).Only c := by
  intro c' call' hc hlook
  change (s.calls.insert c call).lookup c' = _ at hlook
  rw [Table.lookup_insert_eq, if_neg hc] at hlook
  exact h c' call' hc hlook

theorem lookup_setCall (s : Conn) (c : Nat) (call : Call) : (setCall c call s).calls.lookup c = some call := by
  change (s.calls.insert c call).lookup c = _
  rw [Table.lookup_insert_eq, if_pos rfl]

theorem Conn.Only.callsInWindow {s : Conn} {c : Nat} (h : s.Only c) {call : Call} (hc : s.calls.lookup c = some call)
    (hlast : ∀ m, call.Pending m → m = s.nextID) : s.CallsInWindow := by
  refine callsInWindow_of_last fun c' call' m hc' hm => ?_
  by_cases hcc : c' = c
  · rw [hcc, hc] at hc'
    cases hc'
    exact hlast m hm
  · exact absurd hm ((h c' call' hcc hc').not_pending m)

/-- The call has drawn the id of the request that was abandoned. -/
structure Reused (c n : Nat) (s : Conn) : Prop where
  reached : ReachedInTime s
  nextID : s.nextID = n
  only : s.Only c
  waiting : s.calls.lookup c = some (.waiting n)
  pending : s.pending.lookup (requestID 1) = some c
  channel : s.channel.lookup c = none
  recv : s.recv = .reading
  unanswered : 1 ∈ s.unanswered
  incoming : s.incoming = []

theorem Abandoned.reuse {k : Nat} {s : Conn} (h : Abandoned k s) (hk : k + 1 = 2 ^ 32) : ∃ t, Reused k (k + 2) t := by
  let begun := setCall k .begun s
  let skipped : Conn := { begun with nextID := begun.nextID + 1 }
  let drawn := setCall k (.drawn (skipped.nextID + 1)) { skipped with nextID := skipped.nextID + 1 }
  let stored := setCall k (.stored (skipped.nextID + 1))
    { drawn with pending := drawn.pending.insert (requestID (skipped.nextID + 1)) k }
  let waiting := setCall k (.waiting (skipped.nextID + 1)) (stored.sent true (skipped.nextID + 1))
  have hnext : skipped.nextID + 1 = k + 2 := congrArg (· + 2) h.nextID
  have hid : requestID (skipped.nextID + 1) = requestID 1 := by
    rw [hnext, requestID_eq_iff]
    omega
  have honly : s.Only k := fun c call _ hc => h.done c call hc
  have hbegun : ReachedInTime begun :=
    h.reached.next (.begin k (h.fresh k (Nat.le_refl k)) h.closed)
      ((honly.setCall _).callsInWindow (lookup_setCall s k _) nofun)
  -- The counter comes round to 0, which is no id.
  have hskipped : ReachedInTime skipped := by
    have hzero : requestID (begun.nextID + 1) = 0 := by
      change requestID (s.nextID + 1) = 0
      rw [h.nextID, requestID_eq_zero]
      omega
    exact hbegun.next (.drawZero k (.inl (lookup_setCall s k _)) hzero)
      (Conn.Only.callsInWindow (s := skipped) (honly.setCall _) (lookup_setCall s k _) nofun)
  have hdrawn : ReachedInTime drawn := by
    have hne : requestID (skipped.nextID + 1) ≠ 0 := by
      rw [hid]
      decide
    exact hskipped.next (.draw k (lookup_setCall s k _) hne)
      (Conn.Only.callsInWindow (s := drawn) ((honly.setCall _).setCall _) (lookup_setCall _ k _) fun m hm => hm.symm)
  have hstored : ReachedInTime stored :=
    hdrawn.next (.store k (lookup_setCall _ k _))
      (Conn.Only.callsInWindow (s := stored) (((honly.setCall _).setCall _).setCall _) (lookup_setCall _ k _)
        fun m hm => hm.symm)
  have hwaiting : waiting.Only k := (((honly.setCall _).setCall _).setCall _).setCall _
  have hreached : ReachedInTime waiting :=
    hstored.next (.send k (lookup_setCall _ k _)) (hwaiting.callsInWindow (lookup_setCall _ k _) fun m hm => hm.symm)
  refine ⟨waiting, hreached, hnext, hwaiting, ?_, ?_, h.channel k, h.recv, ?_, h.incoming⟩
  · rw [← hnext]
    exact lookup_setCall _ k _
  · change (s.pending.insert (requestID (skipped.nextID + 1)) k).lookup (requestID 1) = some k
    rw [hid, Table.lookup_insert_eq, if_pos rfl]
  · exact List.mem_cons_of_mem _ h.unanswered

theorem Reused.misdelivered {c n : Nat} {s : Conn} (h : Reused c n s) :
    ∃ t, ReachedInTime t ∧ t.nextID = n ∧ t.calls.lookup c = some (.returned n (some ⟨some 1, .ok, []⟩)) := by
  let late : Answer := ⟨some 1, .ok, []⟩
  let answered : Conn := { s with unanswered := s.unanswered.erase 1, incoming := s.incoming ++ [late] }
  let found : Conn := { answered with recv := .delivering c late, incoming := [] }
  let delivered : Conn := { found with recv := .reading, channel := found.channel.insert c late }
  let taken := setCall c (.leaving n (some late)) { delivered with channel := delivered.channel.erase c }
  let deleted := setCall c (.returned n (returnedOf (some late)))
    { taken with pending := taken.pending.erase (requestID n) }
  have hwindow : ∀ u : Conn, u.calls = s.calls → u.nextID = n → u.CallsInWindow := fun u hu hn => by
    have honly : u.Only c := by
      unfold Conn.Only
      rw [hu]
      exact h.only
    have hc : u.calls.lookup c = some (.waiting n) := by
      rw [hu]
      exact h.waiting
    exact honly.callsInWindow hc fun m hm => by rw [hn]; exact hm.symm
  have hanswered : ReachedInTime answered := h.reached.next (.answer 1 .ok [] h.unanswered) (hwindow _ rfl h.nextID)
  have hfound : ReachedInTime found := by
    have hin : answered.incoming = late :: [] := by
      change s.incoming ++ [late] = _
      rw [h.incoming]
      rfl
    exact hanswered.next (.receive h.recv hin (by decide) h.pending) (hwindow _ rfl h.nextID)
  have hdelivered : ReachedInTime delivered := hfound.next (.deliver rfl h.channel) (hwindow _ rfl h.nextID)
  have htaken : ReachedInTime taken := by
    have hlook : delivered.channel.lookup c = some late := by
      change (s.channel.insert c late).lookup c = _
      rw [Table.lookup_insert_eq, if_pos rfl]
    exact hdelivered.next (.take c h.waiting hlook)
      (Conn.Only.callsInWindow (s := taken) (Conn.Only.setCall (s := { delivered with channel := _ }) h.only _)
        (lookup_setCall _ c _) fun m hm => hm.symm.trans h.nextID.symm)
  have hdeleted : ReachedInTime deleted :=
    htaken.next (.delete c (lookup_setCall _ c _))
      (Conn.Only.callsInWindow (s := deleted)
        ((Conn.Only.setCall (s := { delivered with channel := _ }) h.only _).setCall _) (lookup_setCall _ c _) nofun)
  exact ⟨deleted, hdeleted, h.nextID, lookup_setCall _ c _⟩

/-- With an answer that may come at any time, a call returns the answer to another request. -/
theorem late_answer_misdelivered : ¬ ∀ s, ReachedInTime s → Correlated s := by
  intro h
  obtain ⟨s, hs⟩ := exists_abandoned (2 ^ 32 - 2) (by decide)
  obtain ⟨t, ht⟩ := hs.reuse (by decide)
  obtain ⟨u, hreached, -, hret⟩ := ht.misdelivered
  obtain ⟨call, n, hc, hn, ha⟩ := (h u hreached).own _ _ (.inr (.inr ⟨_, .inr hret⟩))
  rw [hret] at hc
  cases hc
  cases hn
  cases ha

end DdsBridge.GoConn
