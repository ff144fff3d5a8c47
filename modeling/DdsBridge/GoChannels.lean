import DdsBridge.GoDelivery
import DdsBridge.Lib.Runs
import Mathlib.Logic.Function.Basic

/-!
# Subscription channels of the Go client

`ddswsclient/client.go`: `deliverData` in the goroutine of `recvLoop`, and `Subscribe`, `Unsubscribe` and
`Close` in others. What happens between two operations on shared memory is one step.
-/

namespace DdsBridge.GoChannels

open GoDelivery (DataMessage channelCap)

/-! ## The client -/

/-- What has arrived on the connection, in the eyes of `recvLoop`. -/
inductive Frame where
  | ok (call : Nat)
  | data (msg : DataMessage)
  | other
  deriving DecidableEq, Repr

/-- `closes` counts how often `close(s.ch)` was called. For the proofs: the frame that the Subscription
became known with, and how many frames had arrived when `Unsubscribe` was first called. -/
structure Subscription extends GoDelivery.Subscription where
  closeOnce : Bool
  closes : Nat
  okAt : Nat
  calledAt : Option Nat

/-- The two `select` statements of `deliverData` that send, and the one between them. -/
inductive Select where
  | send
  | drop
  | retry
  deriving DecidableEq, Repr

/-- `recvLoop` with `deliverData`: the frame at `i` is being handled. -/
inductive RecvLoop where
  | reading
  | copying (i : Nat) (msg : DataMessage)
  | delivering (i : Nat) (msg : DataMessage) (targets : List Nat)
  | sending (select : Select) (i : Nat) (msg : DataMessage) (sub : Nat) (targets : List Nat)
  | done
  /-- `panic: send on closed channel` -/
  | crashed

/-- A `Subscribe` or an `Unsubscribe`, with what it does next. -/
inductive Call where
  | idle
  | subscribing (topicName typeName : GoCodec.GoString)
  /-- The response is in the channel of the request. -/
  | answered (topicName typeName : GoCodec.GoString) (okAt : Nat)
  | removing (sub : Nat)
  | closing (sub : Nat)
  | ended

/-- The one `Close` that gets past the check of `c.closed`. -/
inductive Closing where
  | notCalled
  /-- `<-c.done`, and then `<-c.recvDone` of the connection. -/
  | waiting
  /-- `c.subsMu` is held, and these Subscriptions are left. -/
  | locked (subs : List Nat)
  | storedFlag (sub : Nat) (subs : List Nat)
  | ended

/-- Subscriptions have numbers below `nextSub`. -/
structure Client where
  frames : List Frame
  /-- How many frames `recvLoop` has read. -/
  read : Nat
  recv : RecvLoop
  subs : List Nat
  sub : Nat → Subscription
  nextSub : Nat
  call : Nat → Call
  close : Closing
  /-- Which frame was put into the channel of which Subscription. -/
  placed : List (Nat × Nat)

namespace Client

/-- Whether `c.subsMu` can be locked. -/
def Unlocked (s : Client) : Prop :=
  match s.close with
  | .locked _ => False
  | .storedFlag _ _ => False
  | _ => True

def setCall (c : Nat) (call : Call) (s : Client) : Client := { s with call := Function.update s.call c call }

def setSub (o : Nat) (sub : Subscription) (s : Client) : Client := { s with sub := Function.update s.sub o sub }

/-- `sub.closeOnce.Do(func() { close(sub.ch) })` -/
def closeChannel (o : Nat) (s : Client) : Client :=
  if (s.sub o).closeOnce then s
  else s.setSub o { s.sub o with closeOnce := true, closes := (s.sub o).closes + 1 }

/-- `sub.unsubscribed.Store(true)` -/
def storeFlag (o : Nat) (s : Client) : Client := s.setSub o { s.sub o with unsubscribed := true }

/-- The loop of `deliverData` over a copy of `c.subs`. -/
def targets (s : Client) (msg : DataMessage) : List Nat :=
  s.subs.filter fun o => (s.sub o).topicName = msg.topicName

def newSub (topicName typeName : GoCodec.GoString) (okAt : Nat) : Subscription where
  topicName
  typeName
  unsubscribed := false
  ch := .empty
  closeOnce := false
  closes := 0
  okAt
  calledAt := none

/-- `c.subs = append(c.subs, sub)` -/
def append (topicName typeName : GoCodec.GoString) (okAt : Nat) (s : Client) : Client :=
  { s.setSub s.nextSub (newSub topicName typeName okAt) with subs := s.subs ++ [s.nextSub], nextSub := s.nextSub + 1 }

/-- The first thing that `Unsubscribe` does. -/
def unsubscribe (o : Nat) (s : Client) : Client :=
  s.setSub o { s.sub o with unsubscribed := true, calledAt := (s.sub o).calledAt.orElse fun _ => some s.frames.length }

/-- `case sub.ch <- msg` where there is room. -/
def put (i o : Nat) (ch : Chan DataMessage channelCap) (s : Client) : Client :=
  { s.setSub o { s.sub o with ch } with placed := (i, o) :: s.placed }

def new : Client where
  frames := []
  read := 0
  recv := .reading
  subs := []
  sub _ := newSub [] [] 0
  nextSub := 0
  call _ := .idle
  close := .notCalled
  placed := []

end Client

inductive Action where
  | arrive (f : Frame)
  | read
  | copy
  | check
  | select
  | finish
  | recvEnds
  | dial
  | receive (sub : Nat)
  | subscribe (call : Nat)
  | fail (call : Nat)
  | append (call : Nat)
  | unsubscribe (call : Nat)
  | removeSub (call : Nat)
  | closeOnce (call : Nat)
  | close

open Client

inductive Step : Client → Action → Client → Prop
  /-- The bridge answers a request once. -/
  | arrive {s} (f : Frame) (hr : s.recv ≠ .done) (hf : ∀ c, f = .ok c → f ∉ s.frames) :
      Step s (.arrive f) { s with frames := s.frames ++ [f] }
  -- `recvLoop`
  | readOk {s c topicName typeName} (hr : s.recv = .reading) (hf : s.frames[s.read]? = some (.ok c))
      (hc : s.call c = .subscribing topicName typeName) :
      Step s .read (setCall c (.answered topicName typeName s.read) { s with read := s.read + 1 })
  | readOther {s f} (hr : s.recv = .reading) (hf : s.frames[s.read]? = some f) (hd : ∀ msg, f ≠ .data msg)
      (hc : ∀ c topicName typeName, f = .ok c → s.call c ≠ .subscribing topicName typeName) :
      Step s .read { s with read := s.read + 1 }
  | readData {s msg} (hr : s.recv = .reading) (hf : s.frames[s.read]? = some (.data msg)) :
      Step s .read { s with recv := .copying s.read msg, read := s.read + 1 }
  | copy {s i msg} (hr : s.recv = .copying i msg) (hl : s.Unlocked) :
      Step s .copy { s with recv := .delivering i msg (s.targets msg) }
  | finish {s i msg} (hr : s.recv = .delivering i msg []) : Step s .finish { s with recv := .reading }
  | skip {s i msg o targets} (hr : s.recv = .delivering i msg (o :: targets)) (hu : (s.sub o).unsubscribed = true) :
      Step s .check { s with recv := .delivering i msg targets }
  | load {s i msg o targets} (hr : s.recv = .delivering i msg (o :: targets)) (hu : (s.sub o).unsubscribed = false) :
      Step s .check { s with recv := .sending .send i msg o targets }
  | sent {s select i msg o targets ch} (hr : s.recv = .sending select i msg o targets) (hs : select ≠ .drop)
      (ho : (s.sub o).closes = 0) (hch : (s.sub o).ch.trySend msg = some ch) :
      Step s .select (put i o ch { s with recv := .delivering i msg targets })
  | full {s i msg o targets} (hr : s.recv = .sending .send i msg o targets) (ho : (s.sub o).closes = 0)
      (hch : (s.sub o).ch.trySend msg = none) :
      Step s .select { s with recv := .sending .drop i msg o targets }
  | drop {s i msg o targets} (hr : s.recv = .sending .drop i msg o targets) :
      Step s .select (setSub o { s.sub o with ch := (s.sub o).ch.dropOldest }
        { s with recv := .sending .retry i msg o targets })
  | stillFull {s i msg o targets} (hr : s.recv = .sending .retry i msg o targets) (ho : (s.sub o).closes = 0)
      (hch : (s.sub o).ch.trySend msg = none) :
      Step s .select { s with recv := .delivering i msg targets }
  | panics {s select i msg o targets} (hr : s.recv = .sending select i msg o targets) (hs : select ≠ .drop)
      (ho : 0 < (s.sub o).closes) :
      Step s .select { s with recv := .crashed }
  | recvEnds {s} (hr : s.recv = .reading) (hf : s.read = s.frames.length) :
      Step s .recvEnds { s with recv := .done }
  /-- `watchLoop` reconnects; while `Close` waits for it, it may still be at it. -/
  | dial {s} (hr : s.recv = .done) (hw : s.close = .notCalled ∨ s.close = .waiting) :
      Step s .dial { s with recv := .reading }
  -- The application reads from `C`.
  | receive {s} (o : Nat) (ho : o < s.nextSub) :
      Step s (.receive o) (setSub o { s.sub o with ch := (s.sub o).ch.dropOldest } s)
  -- `Subscribe`
  | subscribe {s} (c : Nat) (topicName typeName : GoCodec.GoString) (hc : s.call c = .idle) :
      Step s (.subscribe c) (setCall c (.subscribing topicName typeName) s)
  | fail {s topicName typeName} (c : Nat) (hc : s.call c = .subscribing topicName typeName ∨
        ∃ k, s.call c = .answered topicName typeName k) :
      Step s (.fail c) (setCall c .ended s)
  | append {s topicName typeName k} (c : Nat) (hc : s.call c = .answered topicName typeName k) (hl : s.Unlocked) :
      Step s (.append c) (setCall c .ended (s.append topicName typeName k))
  -- `Unsubscribe`
  | unsubscribe {s} (c o : Nat) (hc : s.call c = .idle) (ho : o < s.nextSub) :
      Step s (.unsubscribe c) (setCall c (.removing o) (s.unsubscribe o))
  | removeSub {s o} (c : Nat) (hc : s.call c = .removing o) (hl : s.Unlocked) :
      Step s (.removeSub c) (setCall c (.closing o) { s with subs := s.subs.erase o })
  | closeOnce {s o} (c : Nat) (hc : s.call c = .closing o) :
      Step s (.closeOnce c) (setCall c .ended (s.closeChannel o))
  -- `Close`
  | closeCalled {s} (hc : s.close = .notCalled) : Step s .close { s with close := .waiting }
  | closeLocks {s} (hc : s.close = .waiting) (hr : s.recv = .done) :
      Step s .close { s with close := .locked s.subs }
  | closeStores {s o subs} (hc : s.close = .locked (o :: subs)) :
      Step s .close { s.storeFlag o with close := .storedFlag o subs }
  | closeOnces {s o subs} (hc : s.close = .storedFlag o subs) :
      Step s .close { s.closeChannel o with close := .locked subs }
  | closeEnds {s} (hc : s.close = .locked []) : Step s .close { s with subs := [], close := .ended }

/-! ## Numbers and flags -/

/-- The Subscriptions that `deliverData` has still to serve, the one at hand first. -/
def RecvLoop.targets : RecvLoop → List Nat
  | .delivering _ _ targets => targets
  | .sending _ _ _ sub targets => sub :: targets
  | _ => []

def Closing.subs : Closing → List Nat
  | .locked subs => subs
  | .storedFlag sub subs => sub :: subs
  | _ => []

/-- The Subscription that an `Unsubscribe` is about. -/
def Call.sub? : Call → Option Nat
  | .removing sub => some sub
  | .closing sub => some sub
  | _ => none

/-- Who refers to a Subscription refers to one that was made, and whoever closes a channel has stored the flag. -/
structure FlagsInv (s : Client) : Prop where
  subs : ∀ o ∈ s.subs, o < s.nextSub
  targets : ∀ o ∈ s.recv.targets, o < s.nextSub
  calls : ∀ c o, (s.call c).sub? = some o → o < s.nextSub ∧ (s.sub o).unsubscribed = true
  close : ∀ o ∈ s.close.subs, o < s.nextSub
  stored : ∀ o subs, s.close = .storedFlag o subs → (s.sub o).unsubscribed = true
  once : ∀ o, (s.sub o).closes = if (s.sub o).closeOnce then 1 else 0
  flagged : ∀ o, (s.sub o).closeOnce = true → (s.sub o).unsubscribed = true

theorem flagsInv_new : FlagsInv .new where
  subs o h := by cases h
  targets o h := by cases h
  calls c o h := by cases h
  close o h := by cases h
  stored o subs h := by cases h
  once o := rfl
  flagged o h := by cases h

section
variable {s t : Client} {action : Action}

@[simp] theorem setSub_sub (o o' : Nat) (sub : Subscription) :
    (s.setSub o sub).sub o' = if o' = o then sub else s.sub o' := by
  simp [setSub, Function.update_apply]

@[simp] theorem setCall_call (c c' : Nat) (call : Call) :
    (setCall c call s).call c' = if c' = c then call else s.call c' := by
  simp [setCall, Function.update_apply]

@[simp] theorem setSub_placed (o : Nat) (sub : Subscription) : (s.setSub o sub).placed = s.placed := rfl

/-- With nobody in between, the steps for one Subscription are those of `GoDelivery.Subscription.deliver`. -/
theorem deliver_alone {i o : Nat} {msg : DataMessage} {targets : List Nat}
    (hr : s.recv = .delivering i msg (o :: targets)) (hopen : (s.sub o).closes = 0) :
    ∃ u, Runs.Reachable Step s u ∧ u.recv = .delivering i msg targets ∧
      (u.sub o).toSubscription = ((s.sub o).toSubscription.deliver msg).1 ∧
      u.placed = if ((s.sub o).toSubscription.deliver msg).2 then (i, o) :: s.placed else s.placed := by
  unfold GoDelivery.Subscription.deliver
  cases hu : (s.sub o).unsubscribed with
  | true => exact ⟨_, .tail .refl ⟨_, .skip hr hu⟩, rfl, rfl, rfl⟩
  | false =>
    have hload := Step.load hr hu
    cases hch : (s.sub o).ch.trySend msg with
    | some ch =>
      refine ⟨_, .tail (.tail .refl ⟨_, hload⟩) ⟨_, .sent rfl nofun hopen hch⟩, rfl, ?_, rfl⟩
      simp [put, hu]
    | none =>
      have hroom := Chan.hasRoom_dropOldest (by decide) (s.sub o).ch
      obtain ⟨ch, hch', -⟩ := Chan.trySend_of_room hroom msg
      have hfull := Step.full (s := { s with recv := .sending .send i msg o targets }) rfl hopen hch
      have hdrop := Step.drop (s := { s with recv := .sending .drop i msg o targets }) rfl
      refine ⟨_, .tail (.tail (.tail (.tail .refl ⟨_, hload⟩) ⟨_, hfull⟩) ⟨_, hdrop⟩)
        ⟨_, .sent rfl nofun ?_ (show _ = some ch from ?_)⟩, rfl, ?_, ?_⟩
      · simpa using hopen
      · simpa using hch'
      · simp [put, hch', hu]
      · simp [put, hch', hu]

@[simp] theorem setCall_sub (c : Nat) (call : Call) : (setCall c call s).sub = s.sub := rfl

@[simp] theorem setSub_call (o : Nat) (sub : Subscription) : (s.setSub o sub).call = s.call := rfl

theorem FlagsInv.sameSubs (hi : FlagsInv s) (hsub : t.sub = s.sub) (hnext : t.nextSub = s.nextSub)
    (hcall : t.call = s.call) (hclose : t.close = s.close) (hsubs : ∀ o ∈ t.subs, o ∈ s.subs)
    (htargets : ∀ o ∈ t.recv.targets, o ∈ s.recv.targets ∨ o ∈ s.subs) : FlagsInv t where
  subs o ho := hnext ▸ hi.subs o (hsubs o ho)
  targets o ho := by
    rw [hnext]
    rcases htargets o ho with h | h
    · exact hi.targets o h
    · exact hi.subs o h
  calls c o h := by
    rw [hcall] at h
    rw [hnext, hsub]
    exact hi.calls c o h
  close o ho := by
    rw [hclose] at ho
    rw [hnext]
    exact hi.close o ho
  stored o subs h := by
    rw [hclose] at h
    rw [hsub]
    exact hi.stored o subs h
  once o := hsub ▸ hi.once o
  flagged o := hsub ▸ hi.flagged o

theorem FlagsInv.setCall (hi : FlagsInv s) (c : Nat) {call : Call}
    (hcall : ∀ o, call.sub? = some o → o < s.nextSub ∧ (s.sub o).unsubscribed = true) :
    FlagsInv (s.setCall c call) where
  subs := hi.subs
  targets := hi.targets
  calls c' o h := by
    rw [setCall_call] at h
    split at h
    · exact hcall o h
    · exact hi.calls c' o h
  close := hi.close
  stored := hi.stored
  once := hi.once
  flagged := hi.flagged

theorem FlagsInv.setSub (hi : FlagsInv s) (o : Nat) {sub : Subscription}
    (hkeep : (s.sub o).unsubscribed = true → sub.unsubscribed = true)
    (honce : sub.closes = if sub.closeOnce then 1 else 0)
    (hflagged : sub.closeOnce = true → sub.unsubscribed = true) : FlagsInv (s.setSub o sub) := by
  have hflag : ∀ o', (s.sub o').unsubscribed = true → ((s.setSub o sub).sub o').unsubscribed = true := by
    intro o' h
    rw [setSub_sub]
    split
    · next he =>
      rw [he] at h
      exact hkeep h
    · exact h
  refine ⟨hi.subs, hi.targets, fun c o' h => ?_, hi.close, fun o' subs h => hflag o' (hi.stored o' subs h),
    fun o' => ?_, fun o' => ?_⟩
  · obtain ⟨hlt, hu⟩ := hi.calls c o' h
    exact ⟨hlt, hflag o' hu⟩
  · rw [setSub_sub]
    split
    · exact honce
    · exact hi.once o'
  · rw [setSub_sub]
    split
    · exact hflagged
    · exact hi.flagged o'

theorem FlagsInv.setCh (hi : FlagsInv s) (o : Nat) (ch : Chan DataMessage channelCap) :
    FlagsInv (s.setSub o { s.sub o with ch }) :=
  hi.setSub o (fun h => h) (hi.once o) (hi.flagged o)

theorem FlagsInv.closeChannel (hi : FlagsInv s) {o : Nat} (hu : (s.sub o).unsubscribed = true) :
    FlagsInv (s.closeChannel o) := by
  unfold Client.closeChannel
  split
  · exact hi
  · next hopen =>
    have hcloses := hi.once o
    rw [if_neg hopen] at hcloses
    exact hi.setSub o (fun h => h) (by simp [hcloses]) fun _ => hu

theorem closeChannel_nextSub (o : Nat) : (s.closeChannel o).nextSub = s.nextSub := by
  unfold closeChannel
  split
  · rfl
  · rfl

theorem append_sub (topicName typeName : GoCodec.GoString) (k o : Nat) :
    (s.append topicName typeName k).sub o = if o = s.nextSub then newSub topicName typeName k else s.sub o :=
  setSub_sub s.nextSub o _

theorem FlagsInv.append (hi : FlagsInv s) (topicName typeName : GoCodec.GoString) (k : Nat) :
    FlagsInv (s.append topicName typeName k) := by
  have hlt : ∀ o, o < s.nextSub → o < s.nextSub + 1 := fun _ => Nat.lt_succ_of_lt
  have hold : ∀ o, o < s.nextSub → (s.append topicName typeName k).sub o = s.sub o := by
    intro o ho
    rw [append_sub, if_neg (Nat.ne_of_lt ho)]
  refine ⟨fun o ho => ?_, fun o ho => hlt o (hi.targets o ho), fun c o h => ?_, fun o ho => hlt o (hi.close o ho),
    fun o subs h => ?_, fun o => ?_, fun o => ?_⟩
  · rcases List.mem_append.mp ho with ho | ho
    · exact hlt o (hi.subs o ho)
    · rw [List.mem_singleton.mp ho]
      exact Nat.lt_succ_self _
  · obtain ⟨ho, hu⟩ := hi.calls c o h
    rw [hold o ho]
    exact ⟨hlt o ho, hu⟩
  · have ho := hi.close o (by
      rw [show s.close = .storedFlag o subs from h]
      exact List.mem_cons_self)
    rw [hold o ho]
    exact hi.stored o subs h
  · rw [append_sub]
    split
    · rfl
    · exact hi.once o
  · rw [append_sub]
    split
    · intro h
      cases h
    · exact hi.flagged o

theorem FlagsInv.setClose (hi : FlagsInv s) {close : Closing} (hsubs : ∀ o ∈ close.subs, o < s.nextSub)
    (hstored : ∀ o subs, close = .storedFlag o subs → (s.sub o).unsubscribed = true) :
    FlagsInv { s with close } :=
  ⟨hi.subs, hi.targets, hi.calls, hsubs, hstored, hi.once, hi.flagged⟩

theorem FlagsInv.step (hi : FlagsInv s) (h : Step s action t) : FlagsInv t := by
  cases h with
  | arrive => exact hi.sameSubs rfl rfl rfl rfl (fun _ h => h) fun _ h => .inl h
  | @readOk c topicName typeName hr hf hc =>
    have hread : FlagsInv { s with read := s.read + 1 } :=
      hi.sameSubs rfl rfl rfl rfl (fun _ h => h) fun _ h => .inl h
    exact hread.setCall c (by simp [Call.sub?])
  | readOther => exact hi.sameSubs rfl rfl rfl rfl (fun _ h => h) fun _ h => .inl h
  | readData => exact hi.sameSubs rfl rfl rfl rfl (fun _ h => h) fun _ h => by cases h
  | copy => exact hi.sameSubs rfl rfl rfl rfl (fun _ h => h) fun _ h => .inr (List.mem_of_mem_filter h)
  | finish | recvEnds | dial | panics =>
    exact hi.sameSubs rfl rfl rfl rfl (fun _ h => h) fun _ h => by cases h
  | skip hr hu =>
    exact hi.sameSubs rfl rfl rfl rfl (fun _ h => h) fun _ h => .inl (by rw [hr]; exact List.mem_cons_of_mem _ h)
  | load hr hu => exact hi.sameSubs rfl rfl rfl rfl (fun _ h => h) fun _ h => .inl (by rw [hr]; exact h)
  | @sent select i msg o targets ch hr hs ho hch =>
    have hput := hi.setCh o ch
    exact hput.sameSubs rfl rfl rfl rfl (fun _ h => h) fun _ h =>
      .inl (by change _ ∈ s.recv.targets; rw [hr]; exact List.mem_cons_of_mem _ h)
  | full hr ho hch => exact hi.sameSubs rfl rfl rfl rfl (fun _ h => h) fun _ h => .inl (by rw [hr]; exact h)
  | @drop i msg o targets hr =>
    have hdrop := hi.setCh o (s.sub o).ch.dropOldest
    exact hdrop.sameSubs rfl rfl rfl rfl (fun _ h => h) fun _ h => .inl (by change _ ∈ s.recv.targets; rw [hr]; exact h)
  | stillFull hr ho hch =>
    exact hi.sameSubs rfl rfl rfl rfl (fun _ h => h) fun _ h => .inl (by rw [hr]; exact List.mem_cons_of_mem _ h)
  | receive o ho => exact hi.setCh o _
  | subscribe c topicName typeName hc => exact hi.setCall c (by simp [Call.sub?])
  | fail c hc => exact hi.setCall c (by simp [Call.sub?])
  | append c hc hl => exact (hi.append _ _ _).setCall c (by simp [Call.sub?])
  | unsubscribe c o hc ho =>
    have hstore : FlagsInv (s.unsubscribe o) := hi.setSub o (fun _ => rfl) (hi.once o) fun _ => rfl
    refine hstore.setCall c fun o' h => ?_
    cases h
    exact ⟨ho, by simp [Client.unsubscribe]⟩
  | @removeSub o c hc hl =>
    have hcall := hi.calls c o (by rw [hc]; rfl)
    have hremove : FlagsInv { s with subs := s.subs.erase o } :=
      hi.sameSubs rfl rfl rfl rfl (fun _ h => List.mem_of_mem_erase h) fun _ h => .inl h
    refine hremove.setCall c fun o' h => ?_
    cases h
    exact hcall
  | @closeOnce o c hc =>
    have hu := (hi.calls c o (by rw [hc]; rfl)).2
    exact (hi.closeChannel hu).setCall c (by simp [Call.sub?])
  | closeCalled hc => exact hi.setClose (fun o h => by cases h) fun o subs h => by cases h
  | closeLocks hc hr => exact hi.setClose hi.subs fun o subs h => by cases h
  | @closeStores o subs hc =>
    have hclose := hi.close
    rw [hc] at hclose
    have hstore : FlagsInv (s.storeFlag o) := hi.setSub o (fun _ => rfl) (hi.once o) fun _ => rfl
    refine hstore.setClose hclose fun o' subs h => ?_
    cases h
    simp [Client.storeFlag]
  | @closeOnces o subs hc =>
    have hclose := hi.close
    rw [hc] at hclose
    refine (hi.closeChannel (hi.stored o subs hc)).setClose (fun o' h => ?_) fun o subs h => by cases h
    rw [closeChannel_nextSub]
    exact hclose o' (List.mem_cons_of_mem _ h)
  | closeEnds hc =>
    have hend : FlagsInv { s with subs := [] } := hi.sameSubs rfl rfl rfl rfl (fun _ h => by cases h) fun _ h => .inl h
    exact hend.setClose (fun o h => by cases h) fun o subs h => by cases h

/-! ## Sends on a closed channel -/

def ClosedOnce (s : Client) : Prop := ∀ o, (s.sub o).closes ≤ 1

def NoSendOnClosed (s : Client) : Prop := s.recv ≠ .crashed

/-- `deliverData` is between its check of the Subscription and its last operation on the channel. -/
def RecvLoop.AtHand (recv : RecvLoop) (o : Nat) : Prop :=
  ∃ select i msg targets, recv = .sending select i msg o targets

/-- `Unsubscribe` does not close a channel that `deliverData` has at hand. -/
def NotWhileSending (s : Client) : Action → Prop
  | .closeOnce c => ∀ o, s.call c = .closing o → (s.sub o).closeOnce = false → ¬ s.recv.AtHand o
  | _ => True

/-- The channel at hand is open, and `Close` closes none while `recvLoop` runs. -/
structure SendInv (s : Client) : Prop where
  flags : FlagsInv s
  sending : ∀ o, s.recv.AtHand o → (s.sub o).closeOnce = false
  closing : ¬ s.Unlocked → s.recv = .done
  notCrashed : s.recv ≠ .crashed

theorem setSub_closeOnce {o : Nat} {sub : Subscription} (h : sub.closeOnce = (s.sub o).closeOnce) (o' : Nat) :
    ((s.setSub o sub).sub o').closeOnce = (s.sub o').closeOnce := by
  rw [setSub_sub]
  split
  · next he => rw [he, h]
  · rfl

theorem closeChannel_other {o o' : Nat} (h : o' ≠ o) : (s.closeChannel o).sub o' = s.sub o' := by
  unfold closeChannel
  split
  · rfl
  · rw [setSub_sub, if_neg h]

theorem closeChannel_recv (o : Nat) : (s.closeChannel o).recv = s.recv := by
  unfold closeChannel
  split
  · rfl
  · rfl

theorem closeChannel_close (o : Nat) : (s.closeChannel o).close = s.close := by
  unfold closeChannel
  split
  · rfl
  · rfl

/-- A step of another goroutine, which leaves the channel at hand open. -/
theorem SendInv.other (hi : SendInv s) (hflags : FlagsInv t) (hrecv : t.recv = s.recv)
    (hopen : ∀ o, s.recv.AtHand o → (s.sub o).closeOnce = false → (t.sub o).closeOnce = false)
    (hclose : ¬ t.Unlocked → ¬ s.Unlocked ∨ s.recv = .done) : SendInv t where
  flags := hflags
  sending o h := by
    rw [hrecv] at h
    exact hopen o h (hi.sending o h)
  closing h := by
    rw [hrecv]
    rcases hclose h with h | h
    · exact hi.closing h
    · exact h
  notCrashed := hrecv ▸ hi.notCrashed

/-- A step of `recvLoop`, which is not under way while `Close` holds the lock. -/
theorem SendInv.loop (hi : SendInv s) {recv : RecvLoop} (hflags : FlagsInv t) (hclose : t.close = s.close)
    (hr : s.recv = recv) (hrun : recv ≠ .done) (hopen : ∀ o, t.recv.AtHand o → (t.sub o).closeOnce = false)
    (hcrash : t.recv ≠ .crashed) : SendInv t where
  flags := hflags
  sending := hopen
  closing h := by
    unfold Client.Unlocked at h
    rw [hclose] at h
    exact absurd (hr.symm.trans (hi.closing h)) hrun
  notCrashed := hcrash

/-- Behind the step `deliverData` has no channel at hand. -/
theorem SendInv.release (hi : SendInv s) {recv : RecvLoop} (hflags : FlagsInv t) (hclose : t.close = s.close)
    (hr : s.recv = recv) (hrun : recv ≠ .done) (hnone : ∀ select i msg o targets, t.recv ≠ .sending select i msg o targets)
    (hcrash : t.recv ≠ .crashed) : SendInv t := by
  refine hi.loop hflags hclose hr hrun (fun o h => ?_) hcrash
  obtain ⟨select, i, msg, targets, h⟩ := h
  exact absurd h (hnone select i msg o targets)

theorem SendInv.step (hi : SendInv s) (h : Step s action t) (hok : NotWhileSending s action) : SendInv t := by
  have hflags := hi.flags.step h
  cases h with
  | arrive | subscribe | fail | removeSub => exact hi.other hflags rfl (fun _ _ h => h) .inl
  | readOk | readOther => exact hi.other hflags (by rfl) (fun _ _ h => h) .inl
  | readData hr hf => exact hi.release hflags rfl hr nofun nofun nofun
  | copy hr hl => exact hi.release hflags rfl hr nofun nofun nofun
  | finish hr => exact hi.release hflags rfl hr nofun nofun nofun
  | skip hr hu => exact hi.release hflags rfl hr nofun nofun nofun
  | @load i msg o targets hr hu =>
    refine hi.loop hflags rfl hr nofun (fun o h => ?_) nofun
    obtain ⟨_, _, _, _, h⟩ := h
    cases h
    have hflagged := hi.flags.flagged o
    rw [hu] at hflagged
    simpa using hflagged
  | sent hr hs ho hch => exact hi.release hflags rfl hr nofun nofun nofun
  | full hr ho hch =>
    have hopen := hi.sending _ ⟨_, _, _, _, hr⟩
    refine hi.loop hflags rfl hr nofun (fun o h => ?_) nofun
    obtain ⟨_, _, _, _, h⟩ := h
    cases h
    exact hopen
  | drop hr =>
    have hopen := hi.sending _ ⟨_, _, _, _, hr⟩
    refine hi.loop hflags rfl hr nofun (fun o h => ?_) nofun
    obtain ⟨_, _, _, _, h⟩ := h
    cases h
    rw [setSub_sub, if_pos rfl]
    exact hopen
  | stillFull hr ho hch => exact hi.release hflags rfl hr nofun nofun nofun
  | @panics select i msg o targets hr hs ho =>
    have hcloses := hi.flags.once o
    rw [hi.sending o ⟨_, _, _, _, hr⟩] at hcloses
    rw [hcloses] at ho
    exact absurd ho (by decide)
  | recvEnds hr hf => exact hi.release hflags rfl hr nofun nofun nofun
  | dial hr hw =>
    refine ⟨hflags, fun o h => ?_, fun h => ?_, nofun⟩
    · obtain ⟨_, _, _, _, h⟩ := h
      cases h
    refine absurd ?_ h
    unfold Client.Unlocked
    rcases hw with hw | hw
    · simp only [hw]
    · simp only [hw]
  | receive o ho =>
    refine hi.other hflags rfl (fun o' _ h => ?_) .inl
    rw [setSub_closeOnce (by rfl)]
    exact h
  | append c hc hl =>
    refine hi.other hflags rfl (fun o ho h => ?_) .inl
    rw [setCall_sub, append_sub]
    split
    · rfl
    · exact h
  | unsubscribe c o hc ho =>
    refine hi.other hflags rfl (fun o' _ h => ?_) .inl
    rw [setCall_sub, Client.unsubscribe, setSub_closeOnce (by rfl)]
    exact h
  | @closeOnce o c hc =>
    refine hi.other hflags (closeChannel_recv o) (fun o' ho' h => ?_) fun hl => .inl ?_
    · rw [setCall_sub]
      by_cases he : o' = o
      · subst he
        exact absurd ho' (hok o' hc h)
      · rw [closeChannel_other he]
        exact h
    · unfold Client.Unlocked at hl ⊢
      rwa [← closeChannel_close o]
  | closeCalled hc => exact hi.other hflags rfl (fun _ _ h => h) fun h => absurd trivial h
  | closeLocks hc hr => exact hi.other hflags rfl (fun _ _ h => h) fun _ => .inr hr
  | @closeStores o subs hc =>
    refine hi.other hflags rfl (fun o' _ h => ?_) fun _ => .inl ?_
    · change ((s.storeFlag o).sub o').closeOnce = false
      rw [Client.storeFlag, setSub_closeOnce (by rfl)]
      exact h
    · unfold Client.Unlocked
      simp [hc]
  | @closeOnces o subs hc =>
    have hdone : s.recv = .done := hi.closing (by unfold Client.Unlocked; simp [hc])
    refine ⟨hflags, fun o' h => ?_, fun _ => ?_, fun h => ?_⟩
    · obtain ⟨_, _, _, _, h⟩ := h
      change (s.closeChannel o).recv = _ at h
      rw [closeChannel_recv, hdone] at h
      cases h
    · change (s.closeChannel o).recv = _
      rw [closeChannel_recv, hdone]
    · change (s.closeChannel o).recv = _ at h
      rw [closeChannel_recv, hdone] at h
      cases h
  | closeEnds hc => exact hi.other hflags rfl (fun _ _ h => h) fun h => absurd trivial h

theorem sendInv_new : SendInv .new where
  flags := flagsInv_new
  sending o h := by
    obtain ⟨_, _, _, _, h⟩ := h
    cases h
  closing h := absurd trivial h
  notCrashed := nofun

theorem FlagsInv.closedOnce (hi : FlagsInv s) : ClosedOnce s := by
  intro o
  rw [hi.once o]
  split
  · exact Nat.le_refl 1
  · exact Nat.zero_le 1

/-- Once its channel is closed, `deliverData` gets to a send on it by its own steps. -/
theorem crashes_of_closed {o : Nat} (h : s.recv.AtHand o) (hclosed : 0 < (s.sub o).closes) :
    ∃ u, Runs.Reachable Step s u ∧ ¬ NoSendOnClosed u := by
  obtain ⟨select, i, msg, targets, hr⟩ := h
  by_cases hs : select = .drop
  · subst hs
    have hretry := Step.drop hr
    refine ⟨_, .tail (.tail .refl ⟨_, hretry⟩) ⟨_, .panics rfl nofun (o := o) ?_⟩, fun h => h rfl⟩
    rw [setSub_sub, if_pos rfl]
    exact hclosed
  · exact ⟨_, .tail .refl ⟨_, .panics hr hs hclosed⟩, fun h => h rfl⟩

theorem crashes_of_closeOnce (h : Step s action t) (hbad : ¬ NotWhileSending s action) :
    ∃ u, Runs.Reachable Step t u ∧ ¬ NoSendOnClosed u := by
  cases h with
  | @closeOnce o c hc =>
    simp only [NotWhileSending, Classical.not_forall, Classical.not_not] at hbad
    obtain ⟨o', hc', hopen, hat⟩ := hbad
    rw [hc] at hc'
    cases hc'
    refine crashes_of_closed (o := o) ?_ ?_
    · change (s.closeChannel o).recv.AtHand o
      rw [closeChannel_recv]
      exact hat
    · simp [Client.closeChannel, hopen]
  | _ => exact absurd trivial hbad

end

/-- **Sends and closes of a channel.** No channel is closed twice. Nothing is sent on a closed channel in a run where
no `Unsubscribe` closes one that `deliverData` has at hand; and whenever one does, `deliverData` can go on to a panic. -/
theorem channels_closed_safely {tr : List (Action × Client)} (hrun : Runs.Run Step .new tr) :
    Runs.Always ClosedOnce .new tr ∧
      (Runs.EachStep NotWhileSending .new tr → Runs.Always NoSendOnClosed .new tr) ∧
      ∀ s action t, Runs.Reachable Step .new s → Step s action t → ¬ NotWhileSending s action →
        ∃ u, Runs.Reachable Step t u ∧ ¬ NoSendOnClosed u := by
  refine ⟨?_, fun hok => ?_, fun s action t _ h hbad => crashes_of_closeOnce h hbad⟩
  · exact hrun.reachable.mono fun s hr => (hr.invariant flagsInv_new fun _ _ _ hi h => hi.step h).closedOnce
  · have hstep : ∀ s action t, SendInv s → Step s action t → NotWhileSending s action → SendInv t :=
      fun _ _ _ hi h hok => hi.step h hok
    exact (Runs.always_of_eachStep hstep hrun sendInv_new hok).mono fun _ hi => hi.notCrashed

/-! ### A message for a Subscription that ends -/

def chatterMessage : DataMessage where
  topicName := [0x61]
  sourceTimestamp := 0
  data := [7]
  state := .alive

/-- An Unsubscribe after the message is delivered. -/
theorem unsubscribe_after_delivery : ∃ tr p, Runs.Run Step .new tr ∧ tr.getLast? = some p ∧
    (p.2.sub 0).closes = 1 ∧ p.2.placed = [(1, 0)] ∧ Runs.Always NoSendOnClosed .new tr := by
  have hrun : ∃ tr p, Runs.Run Step .new tr ∧ tr.getLast? = some p ∧ (p.2.sub 0).closes = 1 ∧ p.2.placed = [(1, 0)] ∧
      Runs.EachStep NotWhileSending .new tr := by
    refine ⟨_, _, .cons (.subscribe 0 [0x61] [0x54] rfl) <|
      .cons (.arrive (.ok 0) nofun nofun) <|
      .cons (.readOk rfl rfl rfl) <|
      .cons (.append 0 rfl trivial) <|
      .cons (.arrive (.data chatterMessage) nofun nofun) <|
      .cons (.readData rfl rfl) <|
      .cons (.copy rfl trivial) <|
      .cons (.load rfl rfl) <|
      .cons (.sent rfl nofun rfl rfl) <|
      .cons (.unsubscribe 1 0 rfl (by decide)) <|
      .cons (.removeSub 1 rfl trivial) <|
      .cons (.closeOnce 1 rfl) (.nil _), rfl, rfl, rfl, ?_⟩
    refine ⟨trivial, trivial, trivial, trivial, trivial, trivial, trivial, trivial, trivial, trivial, trivial, ?_, trivial⟩
    intro o _ _ hat
    obtain ⟨_, _, _, _, h⟩ := hat
    cases h
  obtain ⟨tr, p, hrun, hlast, hcloses, hplaced, hok⟩ := hrun
  exact ⟨tr, p, hrun, hlast, hcloses, hplaced, (channels_closed_safely hrun).2.1 hok⟩

/-- An Unsubscribe between the check of the flag and the send. -/
theorem send_on_closed_channel :
    ¬ ∀ tr, Runs.Run Step .new tr → Runs.Always NoSendOnClosed .new tr ∧ Runs.Always ClosedOnce .new tr := by
  intro h
  have hrun : ∃ tr p, Runs.Run Step .new tr ∧ tr.getLast? = some p ∧ p.2.recv = .crashed := by
    refine ⟨_, _, .cons (.subscribe 0 [0x61] [0x54] rfl) <|
      .cons (.arrive (.ok 0) nofun nofun) <|
      .cons (.readOk rfl rfl rfl) <|
      .cons (.append 0 rfl trivial) <|
      .cons (.arrive (.data chatterMessage) nofun nofun) <|
      .cons (.readData rfl rfl) <|
      .cons (.copy rfl trivial) <|
      .cons (.load rfl rfl) <|
      .cons (.unsubscribe 1 0 rfl (by decide)) <|
      .cons (.removeSub 1 rfl trivial) <|
      .cons (.closeOnce 1 rfl) <|
      .cons (.panics rfl nofun (by decide)) (.nil _), rfl, rfl⟩
  obtain ⟨tr, p, hrun, hlast, hcrash⟩ := hrun
  exact (h tr hrun).1.2 p (List.mem_of_getLast? hlast) hcrash

end DdsBridge.GoChannels
