import DdsBridge.GoBuffer
import DdsBridge.SessionOutput
import Mathlib.Data.List.Flatten

/-!
# What an application receives

A Go client and its sessions together. Each connection of the client is a session of the bridge; `recvLoop` reads the
frames that the session has put on the socket, and the messages in them go to the Subscriptions.
-/

namespace DdsBridge.EndToEnd

open GoDelivery (DataMessage recvFrame)
open GoBuffer (Client RecvLoop Delivery OneInv Buffer)
open GoBuffer.Client (Running)

/-! ## Deliveries in order -/

/-- The Subscriptions that a `recvLoop` has still to give its message to. -/
def targetsOf : RecvLoop → List Nat
  | .delivering _ targets => targets
  | .sending _ _ o _ targets => o :: targets
  | _ => []

/-- Its message, if the Subscription is to have it. -/
def due (o : Nat) : RecvLoop → List DataMessage
  | .delivering msg targets => if o ∈ targets then [msg] else []
  | .sending _ msg o' _ targets => if o ∈ o' :: targets then [msg] else []
  | _ => []

def delivered (s : Client) (o : Nat) : List DataMessage := (s.buffer o).delivered.map Delivery.msg

/-- `reads` has the messages that were read off the connections, in order. -/
structure StreamInv (s : Client) (reads : List DataMessage) : Prop where
  subs : s.subs.Nodup
  made : ∀ o ∈ s.subs, o < s.nextSub
  targets : ∀ k, (targetsOf (s.conns k).recv).Nodup
  ordered : ∀ k o, (delivered s o ++ due o (s.conns k).recv).Sublist reads
  /-- A Subscription has messages of its topic only. -/
  topic : ∀ k o, ∀ msg ∈ delivered s o ++ due o (s.conns k).recv, o < s.nextSub ∧ msg.topicName = (s.sub o).topicName

section
variable {s t : Client} {reads : List DataMessage} {action : GoBuffer.Action}

theorem streamInv_new : StreamInv .new [] where
  subs := List.nodup_nil
  made o h := by cases h
  targets k := by
    simp only [Client.new]
    split <;> exact List.nodup_nil
  ordered k o := by
    simp only [Client.new]
    split <;> exact .refl _
  topic k o msg h := by
    simp only [Client.new] at h
    split at h <;> cases h

theorem StreamInv.delivered (hi : StreamInv s reads) (o : Nat) : (delivered s o).Sublist reads :=
  (List.sublist_append_left _ _).trans (hi.ordered 0 o)

/-- Everything that matters is as before. -/
theorem StreamInv.same (hi : StreamInv s reads) (hconns : ∀ k, (t.conns k).recv = (s.conns k).recv)
    (hbuffer : ∀ o, EndToEnd.delivered t o = EndToEnd.delivered s o) (hsubs : t.subs.Sublist s.subs)
    (hnext : t.nextSub = s.nextSub) (hsub : ∀ o, (t.sub o).topicName = (s.sub o).topicName) : StreamInv t reads where
  subs := hi.subs.sublist hsubs
  made o ho := hnext ▸ hi.made o (hsubs.subset ho)
  targets k := hconns k ▸ hi.targets k
  ordered k o := by
    rw [hconns, hbuffer]
    exact hi.ordered k o
  topic k o msg h := by
    rw [hconns, hbuffer] at h
    rw [hnext, hsub]
    exact hi.topic k o msg h

/-- A step of the `recvLoop` of `k`; no other runs. -/
theorem StreamInv.setRecv (hi : StreamInv s reads) (h1 : OneInv s) {k : Nat} {recv : RecvLoop} (hr : s.Running k)
    (hconns : t.conns = (s.setRecv k recv).conns) (hsubs : t.subs = s.subs) (hnext : t.nextSub = s.nextSub)
    (hsub : t.sub = s.sub) {reads' : List DataMessage} (htargets : (targetsOf recv).Nodup)
    (hordered : ∀ o, (EndToEnd.delivered t o ++ due o recv).Sublist reads')
    (htopic : ∀ o, ∀ msg ∈ EndToEnd.delivered t o ++ due o recv, o < s.nextSub ∧ msg.topicName = (s.sub o).topicName) :
    StreamInv t reads' := by
  have hrecv : ∀ j, (t.conns j).recv = if j = k then recv else (s.conns j).recv := fun j => by
    rw [hconns, GoBuffer.setRecv_recv]
  have hother : ∀ j, j ≠ k → (t.conns j).recv = .done := by
    intro j hne
    rw [hrecv, if_neg hne]
    exact Classical.not_not.mp fun hj => hne (h1.one j k hj hr)
  have hfront : ∀ o, (EndToEnd.delivered t o).Sublist (EndToEnd.delivered t o ++ due o recv) := fun o =>
    List.sublist_append_left _ _
  refine ⟨hsubs ▸ hi.subs, fun o ho => ?_, fun j => ?_, fun j o => ?_, fun j o msg h => ?_⟩
  · rw [hsubs] at ho
    exact hnext ▸ hi.made o ho
  · by_cases hj : j = k
    · rwa [hrecv, if_pos hj]
    · rw [hother j hj]
      exact List.nodup_nil
  · by_cases hj : j = k
    · rw [hrecv, if_pos hj]
      exact hordered o
    · rw [hother j hj]
      simpa [due] using (hfront o).trans (hordered o)
  · rw [hnext, hsub]
    by_cases hj : j = k
    · rw [hrecv, if_pos hj] at h
      exact htopic o msg h
    · rw [hother j hj] at h
      exact htopic o msg ((hfront o).subset (by simpa [due] using h))

theorem StreamInv.topic_delivered (hi : StreamInv s reads) (o : Nat) :
    ∀ msg ∈ EndToEnd.delivered s o, o < s.nextSub ∧ msg.topicName = (s.sub o).topicName := fun msg h =>
  hi.topic 0 o msg (List.mem_append_left _ h)

/-- A message is read off the connection. -/
theorem StreamInv.read (hi : StreamInv s reads) (h1 : OneInv s) {k : Nat} {msg : DataMessage}
    (hr : (s.conns k).recv = .reading) :
    StreamInv (s.setRecv k (.delivering msg (s.targets msg))) (reads ++ [msg]) := by
  have hdue : ∀ o, due o (.delivering msg (s.targets msg)) = if o ∈ s.targets msg then [msg] else [] := fun o => rfl
  refine hi.setRecv h1 (GoBuffer.running_of hr nofun) rfl rfl rfl rfl (hi.subs.filter _) (fun o => ?_) fun o msg' h => ?_
  · rw [hdue]
    split
    · exact (hi.delivered o).append (.refl _)
    · rw [List.append_nil]
      exact (hi.delivered o).trans (List.sublist_append_left _ _)
  · rcases List.mem_append.mp h with h | h
    · exact hi.topic_delivered o msg' h
    · rw [hdue] at h
      split at h
      · next ho =>
        cases List.mem_singleton.mp h
        obtain ⟨hsub, htopic⟩ := List.mem_filter.mp ho
        exact ⟨hi.made o hsub, (of_decide_eq_true htopic).symm⟩
      · cases h

/-- A step of a `recvLoop` that takes nothing out of its message and gives it to nobody. -/
theorem StreamInv.goesOn (hi : StreamInv s reads) (h1 : OneInv s) {k : Nat} {recv : RecvLoop} (hr : s.Running k)
    (hconns : t.conns = (s.setRecv k recv).conns) (hsubs : t.subs = s.subs) (hnext : t.nextSub = s.nextSub)
    (hsub : t.sub = s.sub) (hbuffer : ∀ o, EndToEnd.delivered t o = EndToEnd.delivered s o)
    (htargets : (targetsOf recv).Sublist (targetsOf (s.conns k).recv))
    (hdue : ∀ o, (due o recv).Sublist (due o (s.conns k).recv)) : StreamInv t reads := by
  refine hi.setRecv h1 hr hconns hsubs hnext hsub ((hi.targets k).sublist htargets) (fun o => ?_) fun o msg h => ?_
  · rw [hbuffer]
    exact ((List.Sublist.refl _).append (hdue o)).trans (hi.ordered k o)
  · rw [hbuffer] at h
    exact hi.topic k o msg (((List.Sublist.refl _).append (hdue o)).subset h)

theorem due_tail (msg : DataMessage) (o o' : Nat) (targets : List Nat) :
    (due o (.delivering msg targets)).Sublist (due o (.delivering msg (o' :: targets))) := by
  by_cases h : o ∈ targets
  · simp [due, h]
  · simp [due, h]

/-- The message is in the channel of the Subscription, which is not among the targets any more. -/
theorem StreamInv.sent (hi : StreamInv s reads) (h1 : OneInv s) {k o : Nat} {select : GoChannels.Select}
    {msg : DataMessage} {dropped : Option DataMessage} {targets : List Nat}
    {ch : Chan DataMessage GoDelivery.channelCap} (hr : (s.conns k).recv = .sending select msg o dropped targets) :
    StreamInv ((s.setBuffer o ((s.buffer o).put ⟨msg, dropped⟩ ch)).setRecv k (.delivering msg targets)) reads := by
  have hnodup := hi.targets k
  rw [hr] at hnodup
  obtain ⟨hout, hnodup⟩ := List.nodup_cons.mp hnodup
  have hrest : (targetsOf (.delivering msg targets)).Nodup := hnodup
  have hsame : ∀ o', EndToEnd.delivered
      ((s.setBuffer o ((s.buffer o).put ⟨msg, dropped⟩ ch)).setRecv k (.delivering msg targets)) o' ++
        due o' (.delivering msg targets) = EndToEnd.delivered s o' ++ due o' (s.conns k).recv := by
    intro o'
    have hbuffer : ((s.setBuffer o ((s.buffer o).put ⟨msg, dropped⟩ ch)).setRecv k (.delivering msg targets)).buffer o' =
        if o' = o then (s.buffer o).put ⟨msg, dropped⟩ ch else s.buffer o' := GoBuffer.setBuffer_buffer o o' _
    rw [EndToEnd.delivered, hbuffer, hr]
    by_cases h : o' = o
    · subst h
      simp [due, EndToEnd.delivered, Buffer.put, hout]
    · simp [due, EndToEnd.delivered, h]
  have hconns : ((s.setBuffer o ((s.buffer o).put ⟨msg, dropped⟩ ch)).setRecv k (.delivering msg targets)).conns =
      (s.setRecv k (.delivering msg targets)).conns := rfl
  refine hi.setRecv h1 (GoBuffer.running_of hr (by simp)) hconns rfl rfl rfl hrest (fun o' => ?_) fun o' msg' h => ?_
  · rw [hsame]
    exact hi.ordered k o'
  · rw [hsame] at h
    exact hi.topic k o' msg' h

theorem delivered_take (o o' : Nat) (taker : GoBuffer.Taker) :
    EndToEnd.delivered (s.setBuffer o ((s.buffer o).take taker)) o' = EndToEnd.delivered s o' := by
  unfold EndToEnd.delivered
  rw [GoBuffer.setBuffer_buffer]
  split
  · next h => rw [h]; rfl
  · rfl

theorem setSub_topicName (o o' : Nat) {sub : GoBuffer.Subscription} (h : sub.topicName = (s.sub o).topicName) :
    ((s.setSub o sub).sub o').topicName = (s.sub o').topicName := by
  unfold Client.setSub
  by_cases ho : o' = o
  · subst ho
    simp [h]
  · simp [ho]

/-- The new Subscription has no messages yet. -/
theorem StreamInv.subscribe (hi : StreamInv s reads) (topicName : GoCodec.GoString) :
    StreamInv (s.subscribe topicName) reads := by
  have hsubs : (s.subscribe topicName).subs = s.subs ++ [s.nextSub] := rfl
  refine ⟨?_, fun o ho => ?_, hi.targets, hi.ordered, fun k o msg h => ?_⟩
  · rw [hsubs]
    refine List.nodup_append.mpr ⟨hi.subs, List.nodup_singleton _, fun o ho o' ho' heq => ?_⟩
    rw [List.mem_singleton] at ho'
    have hlt := hi.made o ho
    omega
  · rw [hsubs] at ho
    rcases List.mem_append.mp ho with ho | ho
    · exact Nat.lt_succ_of_lt (hi.made o ho)
    · rw [List.mem_singleton] at ho
      exact ho ▸ Nat.lt_succ_self _
  · obtain ⟨hlt, htopic⟩ := hi.topic k o msg h
    refine ⟨Nat.lt_succ_of_lt hlt, htopic.trans ?_⟩
    simp [Client.subscribe, Client.setSub, Nat.ne_of_lt hlt]

/-- A new connection has nothing in hand. -/
theorem StreamInv.dial (hi : StreamInv s reads) (watch : GoBuffer.Watch) : StreamInv { s.dial with watch } reads := by
  have hdelivered : ∀ o, EndToEnd.delivered { s.dial with watch } o = EndToEnd.delivered s o := fun _ => rfl
  refine ⟨hi.subs, hi.made, fun k => ?_, fun k o => ?_, fun k o msg h => ?_⟩
  · rw [GoBuffer.dial_recv]
    split
    · exact List.nodup_nil
    · exact hi.targets k
  · rw [GoBuffer.dial_recv, hdelivered]
    split
    · simpa [due] using hi.delivered o
    · exact hi.ordered k o
  · rw [GoBuffer.dial_recv, hdelivered] at h
    split at h
    · exact hi.topic_delivered o msg (by simpa [due] using h)
    · exact hi.topic k o msg h

/-- A step that reads no message. -/
theorem StreamInv.step (hi : StreamInv s reads) (h1 : OneInv s) (hb : GoBuffer.BufferInv s)
    (h : GoBuffer.Step s action t) (hread : ∀ k, action ≠ .read k) : StreamInv t reads := by
  have hkeep : ∀ {k : Nat} {recv : RecvLoop}, s.Running k → (targetsOf recv).Sublist (targetsOf (s.conns k).recv) →
      (∀ o, (due o recv).Sublist (due o (s.conns k).recv)) → StreamInv (s.setRecv k recv) reads :=
    fun hr htargets hdue => hi.goesOn h1 hr rfl rfl rfl rfl (fun _ => rfl) htargets hdue
  cases h with
  | read k => exact absurd rfl (hread k)
  | subscribe topicName => exact hi.subscribe topicName
  | receive o => exact hi.same (fun _ => rfl) (fun o' => delivered_take o o' _) (.refl _) rfl fun _ => rfl
  | storeFlag o => exact hi.same (fun _ => rfl) (fun _ => rfl) (.refl _) rfl fun o' => setSub_topicName o o' rfl
  | removeSub o => exact hi.same (fun _ => rfl) (fun _ => rfl) List.erase_sublist rfl fun _ => rfl
  | closeChannel o => exact hi.same (fun _ => rfl) (fun _ => rfl) (.refl _) rfl fun o' => setSub_topicName o o' rfl
  | finish hr => exact hkeep (GoBuffer.running_of hr nofun) (by simp [hr, targetsOf]) (by simp [hr, due])
  | skip hr => exact hkeep (GoBuffer.running_of hr nofun) (by simp [hr, targetsOf]) fun o => hr ▸ due_tail _ o _ _
  | next hr => exact hkeep (GoBuffer.running_of hr nofun) (by simp [hr, targetsOf]) (by simp [hr, due])
  | sent hr => exact hi.sent h1 hr
  | full hr => exact hkeep (GoBuffer.running_of hr nofun) (by simp [hr, targetsOf]) (by simp [hr, due])
  | drop hr =>
    exact hi.goesOn h1 (GoBuffer.running_of hr nofun) rfl rfl rfl rfl (fun o' => delivered_take _ o' _)
      (by simp [hr, targetsOf]) (by simp [hr, due])
  | stillFull hr _ hch => exact absurd hch (Chan.trySend_ne_none (hb.room _ _ _ _ _ hr) _)
  | recvEnds hr => exact hkeep (GoBuffer.running_of hr nofun) (by simp [targetsOf]) (by simp [due])
  | closeConn => exact hi.same (fun k => GoBuffer.setConn_recv _ k _ rfl) (fun _ => rfl) (.refl _) rfl fun _ => rfl
  | closeCloses => exact hi.same (fun k => GoBuffer.setConn_recv _ k _ rfl) (fun _ => rfl) (.refl _) rfl fun _ => rfl
  | dial hw => exact hi.dial _
  | _ => exact hi.same (fun _ => rfl) (fun _ => rfl) (.refl _) rfl fun _ => rfl

theorem running_of_setRecv {k j : Nat} {recv : RecvLoop} (hr : s.Running k) (h : (s.setRecv k recv).Running j) :
    s.Running j := by
  by_cases hj : j = k
  · exact hj ▸ hr
  · rwa [Running, GoBuffer.setRecv_recv, if_neg hj] at h

/-- The `recvLoop` that runs is that of the last connection. -/
theorem running_last (h1 : OneInv s) (hlast : ∀ k, s.Running k → k + 1 = s.nextConn) (h : GoBuffer.Step s action t) :
    ∀ k, t.Running k → k + 1 = t.nextConn := by
  intro j hj
  cases h with
  | read k msg hr => exact hlast j (running_of_setRecv (GoBuffer.running_of hr nofun) hj)
  | finish hr => exact hlast j (running_of_setRecv (GoBuffer.running_of hr nofun) hj)
  | skip hr => exact hlast j (running_of_setRecv (GoBuffer.running_of hr nofun) hj)
  | next hr => exact hlast j (running_of_setRecv (GoBuffer.running_of hr nofun) hj)
  | sent hr => exact hlast j (running_of_setRecv (GoBuffer.running_of hr nofun) hj)
  | full hr => exact hlast j (running_of_setRecv (GoBuffer.running_of hr nofun) hj)
  | drop hr => exact hlast j (running_of_setRecv (GoBuffer.running_of hr nofun) hj)
  | stillFull hr => exact hlast j (running_of_setRecv (GoBuffer.running_of hr nofun) hj)
  | recvEnds hr => exact hlast j (running_of_setRecv (GoBuffer.running_of hr nofun) hj)
  | @closeConn k =>
    have hrecv := GoBuffer.setConn_recv (s := s) k j { s.conns k with closed := true } rfl
    exact hlast j fun hdone => hj (hrecv.trans hdone)
  | @closeCloses k =>
    have hrecv := GoBuffer.setConn_recv (s := s) k j { s.conns k with closed := true } rfl
    exact hlast j fun hdone => hj (hrecv.trans hdone)
  | dial hw =>
    rw [Running, GoBuffer.dial_recv] at hj
    split at hj
    · next h => exact congrArg (· + 1) h
    · exact absurd hj (h1.quiet hw j)
  | _ => exact hlast j hj

end

/-! ## The client and its sessions -/

/-- What a frame has for the Subscriptions. -/
def dataOf (frame : Bytes) : Option DataMessage :=
  match recvFrame (fun _ => false) frame with
  | .data msg => some msg
  | _ => none

/-- Connection `k` is the session `session k`; `read k` counts the frames that `recvLoop` has read of those on its socket,
and `reads` are the messages in them. A session has its own view of the bridge, with what the others do as `.other`. -/
structure System where
  session : Nat → Output
  client : Client
  read : Nat → Nat
  reads : List DataMessage

def System.sent (s : System) (k : Nat) : List Bytes := (s.session k).session.sink

inductive Action where
  | session (conn : Nat) (action : SessionAction)
  | frame (conn : Nat)
  | client (action : GoBuffer.Action)

section
variable (sid : Nat → UInt64) (tx : Nat → Nat)

inductive Step : System → Action → System → Prop
  | session {s o action} (k : Nat) (h : OutputStep (sid k) (tx k) (s.session k) action o) :
      Step s (.session k action) { s with session := Function.update s.session k o }
  /-- `recvLoop` reads a frame with a message. -/
  | data {s frame msg} (k : Nat) (pending : UInt32 → Bool) (hr : (s.client.conns k).recv = .reading)
      (hf : (s.sent k)[s.read k]? = some frame) (hd : recvFrame pending frame = .data msg) :
      Step s (.frame k) { s with
        client := s.client.setRecv k (.delivering msg (s.client.targets msg))
        read := Function.update s.read k (s.read k + 1)
        reads := s.reads ++ [msg] }
  | otherFrame {s frame} (k : Nat) (pending : UInt32 → Bool) (hr : (s.client.conns k).recv = .reading)
      (hf : (s.sent k)[s.read k]? = some frame) (hd : ∀ msg, recvFrame pending frame ≠ .data msg) :
      Step s (.frame k) { s with read := Function.update s.read k (s.read k + 1) }
  | client {s c action} (h : GoBuffer.Step s.client action c) (hread : ∀ k, action ≠ .read k) :
      Step s (.client action) { s with client := c }

def System.start (bridge : Nat → BridgeInner) : System where
  session k := .start (sid k) (tx k) (bridge k)
  client := .new
  read _ := 0
  reads := []

end

theorem dataOf_of_recvFrame {pending : UInt32 → Bool} {frame : Bytes} {msg : DataMessage}
    (h : recvFrame pending frame = .data msg) : dataOf frame = some msg := by
  unfold dataOf
  unfold recvFrame at h ⊢
  split at h
  · cases h
  · next hlen =>
    rw [if_neg hlen]
    split at h
    · next hdr hheader =>
      dsimp only at h ⊢
      split at h
      · cases h
      · next hsize =>
        rw [if_neg hsize]
        split at h
        · cases h
        · simp only [Bool.false_eq_true, and_false, if_false]
          rw [h]
    · cases h

/-! ## Samples and answers -/

section
open Cursor

theorem consumes_readHeader : Consumes readHeader fun header u => u = serializeHeader header := by
  refine Consumes.ensure (consumes_getU8.bind fun magic0 u0 hu0 => consumes_getU8.bind fun magic1 u1 hu1 => ?_)
  refine Consumes.check fun hmagic => consumes_getU8.bind fun v u2 hu2 => consumes_getU8.bind fun b u3 hu3 => ?_
  refine (consumes_ofRes _).bind fun msgType u4 hu4 => consumes_getU32le.bind fun requestId u5 hu5 => ?_
  refine consumes_getU32le.bind fun payloadLength u6 hu6 => (consumes_pure _).mono fun header u7 hu7 => ?_
  obtain ⟨rfl, rfl⟩ := hmagic
  obtain ⟨ht, rfl⟩ := hu4
  obtain ⟨rfl, rfl⟩ := hu7
  have hbyte : msgType.toU8 = b := by
    unfold MsgType.fromU8 at ht
    split at ht <;> cases ht <;> rfl
  simp [hu0, hu1, hu2, hu3, hu5, hu6, serializeHeader, hbyte]

theorem consumes_goReadHeader : Consumes GoCodec.readHeader fun hdr u => ∃ rest,
    u = 0x44 :: 0x42 :: hdr.version :: hdr.type :: rest := by
  refine Consumes.ensure (consumes_getU8.bind fun magic0 u0 hu0 => consumes_getU8.bind fun magic1 u1 hu1 => ?_)
  refine Consumes.check fun hmagic => consumes_getU8.bind fun v u2 hu2 => Consumes.check fun hv => ?_
  refine consumes_getU8.bind fun type u3 hu3 => consumes_getU32le.bind fun requestID u4 hu4 => ?_
  refine consumes_getU32le.bind fun payloadLength u5 hu5 => (consumes_pure _).mono fun hdr u6 hu6 => ?_
  obtain ⟨rfl, rfl⟩ := hmagic
  obtain ⟨rfl, rfl⟩ := hu6
  exact ⟨u4 ++ (u5 ++ []), by simp [hu0, hu1, hu2, hu3]⟩

end

/-- The client sees the type that the bridge has given the message. -/
theorem type_of_headers {frame : Bytes} {header : Header} {hdr : GoCodec.Header} (h : parseHeader frame = .ok header)
    (hgo : GoCodec.decodeHeader frame = .ok hdr) : hdr.type = header.msgType.toU8 := by
  obtain ⟨t, h⟩ := Prog.eval_eq_ok.mp h
  obtain ⟨t', hgo⟩ := Prog.eval_eq_ok.mp hgo
  obtain ⟨u, hu, hheader⟩ := consumes_readHeader frame header t h
  obtain ⟨u', hu', rest, hhdr⟩ := consumes_goReadHeader frame hdr t' hgo
  have heq := hu.symm.trans hu'
  rw [hheader, hhdr] at heq
  simp only [serializeHeader, List.cons_append, List.cons.injEq] at heq
  exact heq.2.2.2.1.symm

/-- A sample that a frame has. -/
def sampleOf (frame : Bytes) : Option DataMessage := (dataOf frame).filter fun msg => msg.state = .alive

theorem alive_of_unsolicited {type : UInt8} {payload : Bytes} {msg : DataMessage}
    (h : GoDelivery.unsolicited type payload = .data msg) (halive : msg.state = .alive) : type = MsgType.data.toU8 := by
  unfold GoDelivery.unsolicited at h
  split at h
  · assumption
  · split at h
    · cases hp : GoCodec.decodeDataDisposed payload <;> simp [hp, GoDelivery.onData] at h
      simp [← h] at halive
    · split at h
      · cases hp : GoCodec.decodeDataNoWriters payload <;> simp [hp, GoDelivery.onData] at h
        simp [← h] at halive
      · split at h <;> cases h

theorem type_of_sampleOf {frame : Bytes} {msg : DataMessage} (h : sampleOf frame = some msg) :
    ∃ hdr, GoCodec.decodeHeader frame = .ok hdr ∧ hdr.type = MsgType.data.toU8 := by
  obtain ⟨hdata, halive⟩ := Option.filter_eq_some_iff.mp h
  have halive : msg.state = .alive := of_decide_eq_true halive
  unfold dataOf recvFrame at hdata
  by_cases hlen : frame.length < GoCodec.headerLen
  · simp [hlen] at hdata
  rw [if_neg hlen] at hdata
  cases hheader : GoCodec.decodeHeader frame with
  | ok hdr =>
    refine ⟨hdr, rfl, ?_⟩
    simp only [hheader, Bool.false_eq_true, and_false, if_false] at hdata
    by_cases hsize : hdr.payloadLength.toNat > frame.length - GoCodec.headerLen
    · simp [hsize] at hdata
    by_cases hok : hdr.requestID ≠ 0 ∧ hdr.type = MsgType.ok.toU8
    · simp [hsize, hok] at hdata
    by_cases herror : hdr.requestID ≠ 0 ∧ hdr.type = MsgType.error.toU8
    · rw [if_neg hsize, if_neg hok, if_pos herror] at hdata
      cases hdata
    rw [if_neg hsize, if_neg hok, if_neg herror] at hdata
    split at hdata
    · next heq =>
      cases hdata
      exact alive_of_unsolicited heq halive
    · cases hdata
  | err e => simp [hheader] at hdata
  | panic => simp [hheader] at hdata

theorem sampleOf_of_header {frame : Bytes} {header : Header} (h : parseHeader frame = .ok header)
    (htype : header.msgType ≠ .data) : sampleOf frame = none := by
  apply Option.eq_none_iff_forall_ne_some.mpr
  intro msg hmsg
  obtain ⟨hdr, hgo, hdata⟩ := type_of_sampleOf hmsg
  have hu8 : MsgType.fromU8 header.msgType.toU8 = MsgType.fromU8 MsgType.data.toU8 := by
    rw [← type_of_headers h hgo, hdata]
  rw [MsgType.fromU8_toU8, MsgType.fromU8_toU8] at hu8
  exact htype (Res.ok.inj hu8)

theorem samples_of_answers {r : UInt32} {msgs : List Bytes} (h : Answers r msgs) : msgs.filterMap sampleOf = [] := by
  obtain ⟨resp, rest, rfl, ⟨header, hparse, -, htype⟩, hrest⟩ := h
  apply List.filterMap_eq_nil_iff.mpr
  intro msg hmsg
  rcases List.mem_cons.mp hmsg with rfl | hmsg
  · exact sampleOf_of_header hparse (by rcases htype with h | h | h <;> simp [h])
  · obtain ⟨header, hparse, -, htype⟩ := hrest msg hmsg
    exact sampleOf_of_header hparse (by simp [htype])

theorem checkFrame_err {maxPayloadSize : Nat} {data errorMsg : Bytes}
    (h : checkFrame maxPayloadSize data = .err errorMsg) :
    ∃ r message, errorMsg = makeParseError r message := by
  unfold checkFrame at h
  split at h
  · cases h
    exact ⟨0, _, rfl⟩
  cases hparse : parseHeader data with
  | err e =>
    simp only [hparse, Res.mapErr, Res.err_bind] at h
    cases h
    exact ⟨0, _, rfl⟩
  | panic => simp [hparse, Res.mapErr] at h
  | ok header =>
    simp only [hparse, Res.mapErr, Res.ok_bind] at h
    cases hvalid : validateClientHeader header version maxPayloadSize with
    | err e =>
      simp only [hvalid, Res.err_bind] at h
      cases h
      exact ⟨header.requestId, _, rfl⟩
    | panic => simp [hvalid] at h
    | ok =>
      simp only [hvalid, Res.ok_bind] at h
      split at h
      · cases h
        exact ⟨header.requestId, _, rfl⟩
      · unfold slice at h
        split at h <;> cases h

/-- No frame is answered with a sample. -/
theorem samples_of_frame {dds : DdsReturns} {sid : UInt64} {data : Bytes} {maxPayloadSize : Nat} {msgs : List Bytes}
    {inner inner' : BridgeInner} (h : processBinaryFrame dds sid data maxPayloadSize inner = .ok (msgs, inner')) :
    msgs.filterMap sampleOf = [] := by
  unfold processBinaryFrame at h
  cases hcheck : checkFrame maxPayloadSize data with
  | err errorMsg =>
    obtain ⟨r, message, rfl⟩ := checkFrame_err hcheck
    rw [hcheck] at h
    cases h
    exact samples_of_answers (Answers.single (responds_error r _ message))
  | ok p =>
    rw [hcheck] at h
    exact samples_of_answers (handleMessage_answers dds sid p.1.requestId h)
  | panic =>
    rw [hcheck] at h
    cases h

/-! ## The runs -/

/-- What `recvLoop` has read off connection `k`. -/
def System.readOff (s : System) (k : Nat) : List DataMessage := ((s.sent k).take (s.read k)).filterMap dataOf

section
variable (sid : Nat → UInt64) (tx : Nat → Nat)

structure SystemInv (s : System) : Prop where
  one : OneInv s.client
  buffers : GoBuffer.BufferInv s.client
  last : ∀ k, s.client.Running k → k + 1 = s.client.nextConn
  stream : StreamInv s.client s.reads
  sessions : ∀ k, OutputInv (sid k) (tx k) (s.session k)
  reads : s.reads.Sublist ((List.range s.client.nextConn).flatMap s.readOff)

end

section
variable {sid : Nat → UInt64} {tx : Nat → Nat} {s t : System} {action : Action}

theorem sink_outputStep {sid : UInt64} {tx : Nat} {o o' : Output} {action : SessionAction}
    (h : OutputStep sid tx o action o') :
    o'.session.sink = o.session.sink ∨ ∃ msg, o'.session.sink = o.session.sink ++ [msg] := by
  obtain ⟨h⟩ := h
  cases h with
  | task h =>
    cases h with
    | sent hw => exact .inr ⟨_, rfl⟩
    | start hr hb => exact .inl rfl
    | _ => exact .inl rfl
  | _ => exact .inl rfl

theorem nextConn_step {c c' : Client} {action : GoBuffer.Action} (h : GoBuffer.Step c action c') :
    c.nextConn ≤ c'.nextConn := by
  cases h with
  | dial => exact Nat.le_succ _
  | _ => exact Nat.le_refl _

theorem systemInv_start (bridge : Nat → BridgeInner) : SystemInv sid tx (.start sid tx bridge) where
  one := GoBuffer.oneInv_new
  buffers := GoBuffer.bufferInv_new
  last k h := by
    rw [GoBuffer.running_new h]
    rfl
  stream := streamInv_new
  sessions k := outputInv_start (bridge k)
  reads := List.nil_sublist _

/-- The reads stay what they are if no connection loses what was read off it. -/
theorem SystemInv.reads_of (hi : SystemInv sid tx s) {n : Nat} {readOff : Nat → List DataMessage}
    (hn : s.client.nextConn ≤ n) (h : ∀ k, (s.readOff k).Sublist (readOff k)) : s.reads.Sublist ((List.range n).flatMap readOff) := by
  apply hi.reads.trans
  apply ((List.range_sublist.mpr hn).flatMap s.readOff).trans
  exact List.Sublist.flatMap_right _ fun k _ => h k

/-- `recvLoop` of the last connection has one message more. -/
theorem SystemInv.reads_data (hi : SystemInv sid tx s) {k : Nat} {msg : DataMessage} {readOff : Nat → List DataMessage}
    (hr : s.client.Running k) (hk : readOff k = s.readOff k ++ [msg]) (h : ∀ j, j ≠ k → readOff j = s.readOff j) :
    (s.reads ++ [msg]).Sublist ((List.range s.client.nextConn).flatMap readOff) := by
  have hreads := hi.reads
  rw [← hi.last k hr, List.range_succ, List.flatMap_append, List.flatMap_singleton] at hreads ⊢
  have hsame : (List.range k).flatMap readOff = (List.range k).flatMap s.readOff :=
    List.flatMap_congr fun j hj => h j (Nat.ne_of_lt (List.mem_range.mp hj))
  rw [hsame, hk, ← List.append_assoc]
  exact hreads.append (.refl _)

theorem readOff_update {k : Nat} {frame : Bytes} (hf : (s.sent k)[s.read k]? = some frame) (client : Client)
    (reads : List DataMessage) (j : Nat) :
    ({ s with client, read := Function.update s.read k (s.read k + 1), reads } : System).readOff j =
      if j = k then s.readOff k ++ (dataOf frame).toList else s.readOff j := by
  unfold System.readOff
  by_cases hj : j = k
  · subst hj
    have htake : (s.sent j).take (s.read j + 1) = (s.sent j).take (s.read j) ++ [frame] := by
      rw [List.take_add_one, hf, Option.toList_some]
    simp only [System.sent, Function.update_self] at htake ⊢
    rw [htake, List.filterMap_append, if_true]
    cases hd : dataOf frame <;> simp [hd]
  · simp only [System.sent, Function.update_of_ne hj, if_neg hj]

theorem step_systemInv (hi : SystemInv sid tx s) (h : Step sid tx s action t) : SystemInv sid tx t := by
  cases h with
  | session k h =>
    refine ⟨hi.one, hi.buffers, hi.last, hi.stream, fun j => ?_, hi.reads_of (Nat.le_refl _) fun j => ?_⟩
    · by_cases hj : j = k
      · subst hj
        simpa using outputInv_step (hi.sessions j) h
      · simpa [hj] using hi.sessions j
    · by_cases hj : j = k
      · subst hj
        unfold System.readOff System.sent
        simp only [Function.update_self]
        rcases sink_outputStep h with hsink | ⟨msg, hsink⟩
        · rw [hsink]
        · rw [hsink]
          exact ((List.prefix_append _ _).take _).sublist.filterMap _
      · unfold System.readOff System.sent
        simp only [Function.update_of_ne hj]
        exact .refl _
  | @data frame msg k pending hr hf hd =>
    have hrunning : s.client.Running k := GoBuffer.running_of hr nofun
    have hread : GoBuffer.Step s.client (.read k) (s.client.setRecv k (.delivering msg (s.client.targets msg))) :=
      .read k msg hr
    refine ⟨GoBuffer.step_oneInv hi.one hread, GoBuffer.step_bufferInv hi.one hi.buffers hread,
      running_last hi.one hi.last hread, hi.stream.read hi.one hr, hi.sessions, ?_⟩
    apply hi.reads_data hrunning
    · rw [readOff_update hf, if_pos rfl, dataOf_of_recvFrame hd, Option.toList_some]
    · intro j hj
      rw [readOff_update hf, if_neg hj]
  | otherFrame k pending hr hf hd =>
    refine ⟨hi.one, hi.buffers, hi.last, hi.stream, hi.sessions, hi.reads_of (Nat.le_refl _) fun j => ?_⟩
    rw [readOff_update hf]
    split
    · next hj =>
      subst hj
      exact List.sublist_append_left _ _
    · exact .refl _
  | client h hread =>
    exact ⟨GoBuffer.step_oneInv hi.one h, GoBuffer.step_bufferInv hi.one hi.buffers h, running_last hi.one hi.last h,
      hi.stream.step hi.one hi.buffers h hread, hi.sessions, hi.reads_of (nextConn_step h) fun _ => .refl _⟩

theorem reachable_systemInv {bridge : Nat → BridgeInner} (h : Runs.Reachable (Step sid tx) (.start sid tx bridge) s) :
    SystemInv sid tx s :=
  h.invariant (I := SystemInv sid tx) (systemInv_start bridge) fun _ _ _ hi h => step_systemInv hi h

/-! ## What is received -/

/-- All that the sessions have sent to the Subscriptions, one session after the other. -/
def System.stream (s : System) : List DataMessage :=
  (List.range s.client.nextConn).flatMap fun k => (s.sent k).filterMap dataOf

/-- All samples that the bridge channels of the sessions have taken. -/
def System.samples (s : System) : List DataMessage :=
  (List.range s.client.nextConn).flatMap fun k => (s.session k).accepted.filterMap sampleOf

def System.received (s : System) (o : Nat) : List DataMessage := (s.client.buffer o).received

theorem SystemInv.received_stream (hi : SystemInv sid tx s) (o : Nat) :
    (s.received o).Sublist (s.stream.filter fun msg => msg.topicName = (s.client.sub o).topicName) := by
  have hdelivered : (s.received o).Sublist (delivered s.client o) := (hi.buffers.ok o).received
  have hsent : s.reads.Sublist s.stream := hi.reads.trans <|
    List.Sublist.flatMap_right _ fun k _ => (List.take_sublist _ _).filterMap _
  have htopic : ∀ msg ∈ s.received o, msg.topicName = (s.client.sub o).topicName := fun msg h =>
    (hi.stream.topic_delivered o msg (hdelivered.subset h)).2
  have hall : (s.received o).filter (fun msg => msg.topicName = (s.client.sub o).topicName) = s.received o :=
    List.filter_eq_self.mpr fun msg h => decide_eq_true (htopic msg h)
  rw [← hall]
  exact ((hdelivered.trans (hi.stream.delivered o)).trans hsent).filter _

theorem sampleOf_eq (frames : List Bytes) :
    (frames.filterMap dataOf).filter (fun msg => msg.state = .alive) = frames.filterMap sampleOf :=
  List.filter_filterMap

/-- The samples of a session come from its bridge channel. -/
theorem samples_of_sent {sid : UInt64} {tx : Nat} {o : Output} (hi : OutputInv sid tx o) :
    (o.session.sink.filterMap sampleOf).Sublist (o.accepted.filterMap sampleOf) := by
  obtain ⟨responses, notifications, hmerged, hresp, hnotif, -⟩ := hi.sent
  obtain ⟨responses', notifications', hsent, hr, hn⟩ := hmerged.front
  have hanswers : o.answers.filterMap sampleOf = [] := by
    unfold Output.answers
    rw [List.filterMap_flatMap]
    apply List.flatMap_eq_nil_iff.mpr
    intro p hp
    obtain ⟨dds, inner, inner', h⟩ := hi.frames p hp
    exact samples_of_frame h
  have hnone : responses'.filterMap sampleOf = [] :=
    List.prefix_nil.mp (hanswers ▸ (hr.trans hresp).filterMap sampleOf)
  rw [hsent.filterMap_right hnone]
  exact ((hn.trans hnotif).filterMap _).sublist

theorem SystemInv.received_samples (hi : SystemInv sid tx s) (o : Nat) :
    ((s.received o).filter fun msg => msg.state = .alive).Sublist
      (s.samples.filter fun msg => msg.topicName = (s.client.sub o).topicName) := by
  have hstream := (hi.received_stream o).filter fun msg => msg.state = .alive
  apply hstream.trans
  rw [List.filter_comm]
  apply List.Sublist.filter
  unfold System.stream System.samples
  rw [List.filter_flatMap]
  simp only [sampleOf_eq]
  exact List.Sublist.flatMap_right _ fun k _ => samples_of_sent (hi.sessions k)

/-- **What an application receives** from a Subscription are messages of its topic, in the order in which its sessions
have sent them, session after session, none twice; and every sample among them was put on the bridge channel of
a session, in this order. -/
theorem received_in_order {bridge : Nat → BridgeInner}
    (h : Runs.Reachable (Step sid tx) (.start sid tx bridge) s) (o : Nat) :
    (s.received o).Sublist (s.stream.filter fun msg => msg.topicName = (s.client.sub o).topicName) ∧
      ((s.received o).filter fun msg => msg.state = .alive).Sublist
        (s.samples.filter fun msg => msg.topicName = (s.client.sub o).topicName) :=
  ⟨(reachable_systemInv h).received_stream o, (reachable_systemInv h).received_samples o⟩

end

def chatterFrame : Bytes :=
  [0x44, 0x42, 1, 0xC0, 0, 0, 0, 0, 14, 0, 0, 0, 1, 0, 0, 0, 0x61, 0, 0, 0, 0, 0, 0, 0, 0, 7]

/-- `received_in_order` for a sample that reaches the application. -/
theorem received_in_order_chatter :
    ∃ s : System, s.received 0 = [GoChannels.chatterMessage] ∧
      (s.received 0).Sublist (s.stream.filter fun msg => msg.topicName = (s.client.sub 0).topicName) ∧
      ((s.received 0).filter fun msg => msg.state = .alive).Sublist
        (s.samples.filter fun msg => msg.topicName = (s.client.sub 0).topicName) := by
  have hrun : ∃ tr p, Runs.Run (Step (fun _ => 1) fun _ => 0) (.start (fun _ => 1) (fun _ => 0) fun _ => idleBridge) tr ∧
      tr.getLast? = some p ∧ p.2.received 0 = [GoChannels.chatterMessage] := by
    refine ⟨_, _, .cons (.client (.subscribe [0x61]) nofun) <|
      .cons (.session 0 (.mk (.clone rfl))) <|
      .cons (.session 0 (.mk (.notify chatterFrame (by decide)))) <|
      .cons (.session 0 (.mk (.task (@TaskStep.recvBridge 1 0 _ chatterFrame [] rfl rfl)))) <|
      .cons (.session 0 (.mk (.task (@TaskStep.sent 1 0 _ chatterFrame rfl)))) <|
      .cons (@Step.data _ _ _ chatterFrame GoChannels.chatterMessage 0 (fun _ => false) rfl rfl rfl) <|
      .cons (.client (.next (k := 0) rfl rfl) nofun) <|
      .cons (.client (.sent (k := 0) rfl nofun rfl rfl) nofun) <|
      .cons (.client (.receive 0 (by decide) nofun) nofun) (.nil _), rfl, rfl⟩
  obtain ⟨tr, ⟨_, s⟩, hrun, hlast, hreceived⟩ := hrun
  have h := hrun.reachable.2 _ (List.mem_of_getLast? hlast)
  exact ⟨s, hreceived, received_in_order h 0⟩

end DdsBridge.EndToEnd
