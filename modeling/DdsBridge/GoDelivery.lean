import DdsBridge.Emits
import DdsBridge.Isolation
import DdsBridge.Lib.Chan

/-!
# Delivery of the Go client

`recvLoop` of `ddswsclient/conn.go` on one frame, and `deliverData` of `ddswsclient/client.go` on one
message while nobody else touches the Subscriptions. A message has the name of its topic but not of its type.
-/

namespace DdsBridge.GoDelivery

open GoCodec Cursor

inductive InstanceState where
  | alive
  | disposed
  | noWriters
  deriving DecidableEq, Repr

structure DataMessage where
  topicName : GoString
  sourceTimestamp : UInt64
  data : Bytes
  state : InstanceState
  deriving DecidableEq, Repr

/-- What `recvLoop` does with a frame. -/
inductive Received where
  | skipped
  | answer (header : GoCodec.Header) (payload : Bytes)
  | error (payload : Bytes)
  | data (msg : DataMessage)
  deriving DecidableEq, Repr

/-! ## The frames -/

/-- `if err != nil { continue }`, or else `c.onData`. -/
def onData {α : Type} (dp : Res String α) (message : α → DataMessage) : Received :=
  match dp with
  | .ok dp => .data (message dp)
  | _ => .skipped

/-- The `switch` on the type of a message that answers no request. -/
def unsolicited (type : UInt8) (payload : Bytes) : Received :=
  if type = MsgType.data.toU8 then
    onData (decodeData payload) fun dp =>
      { topicName := dp.topicName, sourceTimestamp := dp.sourceTimestamp, data := dp.data, state := .alive }
  else if type = MsgType.dataDisposed.toU8 then
    onData (decodeDataDisposed payload) fun dp =>
      { topicName := dp.topicName, sourceTimestamp := dp.sourceTimestamp, data := dp.keyData, state := .disposed }
  else if type = MsgType.dataNoWriters.toU8 then
    onData (decodeDataNoWriters payload) fun dp =>
      { topicName := dp.topicName, sourceTimestamp := 0, data := dp.keyData, state := .noWriters }
  else if type = MsgType.error.toU8 then .error payload
  else .skipped

/-- One turn of the loop of `recvLoop`; `pending` says which ids have a channel. -/
def recvFrame (pending : UInt32 → Bool) (data : Bytes) : Received :=
  if data.length < headerLen then .skipped
  else match decodeHeader data with
    | .ok hdr =>
      if hdr.payloadLength.toNat > data.length - headerLen then .skipped
      else
        let payload := (data.drop headerLen).take hdr.payloadLength.toNat
        if hdr.requestID ≠ 0 ∧ pending hdr.requestID = true then .answer hdr payload
        else if hdr.requestID ≠ 0 ∧ hdr.type = MsgType.ok.toU8 then .skipped
        else if hdr.requestID ≠ 0 ∧ hdr.type = MsgType.error.toU8 then .error payload
        else unsolicited hdr.type payload
    | _ => .skipped

/-! ## The Subscriptions -/

/-- `make(chan *DataMessage, 256)` -/
def channelCap : Nat := 256

structure Subscription where
  topicName : GoString
  typeName : GoString
  unsubscribed : Bool
  ch : Chan DataMessage channelCap
  deriving DecidableEq, Repr

/-- The body of the loop over `targets`, and whether `msg` was put into the channel. -/
def Subscription.deliver (sub : Subscription) (msg : DataMessage) : Subscription × Bool :=
  if sub.unsubscribed then (sub, false)
  else match sub.ch.trySend msg with
    | some ch => ({ sub with ch }, true)
    | none =>
      let dropped := sub.ch.dropOldest
      match dropped.trySend msg with
      | some ch => ({ sub with ch }, true)
      | none => ({ sub with ch := dropped }, false)

/-- For each Subscription of `c.subs`, how `deliverData` leaves it and whether it got the message. -/
def deliverData (subs : List Subscription) (msg : DataMessage) : List (Subscription × Bool) :=
  subs.map fun sub => if sub.topicName = msg.topicName then sub.deliver msg else (sub, false)

def onFrame (pending : UInt32 → Bool) (subs : List Subscription) (frame : Bytes) : List (Subscription × Bool) :=
  match recvFrame pending frame with
  | .data msg => deliverData subs msg
  | _ => subs.map fun sub => (sub, false)

section
variable {sub : Subscription} {msg : DataMessage}

theorem deliver_of_live (h : sub.unsubscribed = false) : (sub.deliver msg).2 = true := by
  unfold Subscription.deliver
  simp only [h, Bool.false_eq_true, if_false]
  by_cases hroom : sub.ch.HasRoom
  · obtain ⟨ch, hsend, -⟩ := Chan.trySend_of_room hroom msg
    rw [hsend]
  · obtain ⟨ch, hsend, -⟩ := Chan.trySend_of_room (Chan.hasRoom_dropOldest (by decide) sub.ch) msg
    rw [Chan.trySend_of_full hroom]
    dsimp only
    rw [hsend]

theorem deliver_names : (sub.deliver msg).1.topicName = sub.topicName ∧ (sub.deliver msg).1.typeName = sub.typeName := by
  unfold Subscription.deliver
  split
  · exact ⟨rfl, rfl⟩
  · split
    · exact ⟨rfl, rfl⟩
    · dsimp only
      split
      · exact ⟨rfl, rfl⟩
      · exact ⟨rfl, rfl⟩

theorem mem_deliverData {subs : List Subscription} {p : Subscription × Bool} (hlive : ∀ sub ∈ subs, sub.unsubscribed = false)
    (h : p ∈ deliverData subs msg) : p.2 = true ↔ p.1.topicName = msg.topicName := by
  obtain ⟨sub, hsub, rfl⟩ := List.mem_map.mp h
  by_cases ht : sub.topicName = msg.topicName
  · rw [if_pos ht]
    exact iff_of_true (deliver_of_live (hlive sub hsub)) (deliver_names.1.trans ht)
  · rw [if_neg ht]
    exact iff_of_false (by simp) ht

end

/-! ## A sample on the wire -/

theorem consumes_decodeString : Consumes decodeString fun s u =>
    s.length ≤ defaultMaxPayloadSize ∧ u = u32le (UInt32.ofNat s.length) ++ s := by
  refine Consumes.ensure (consumes_getU32le.bind fun len u hu => Consumes.check fun hlen => Consumes.ensure ?_)
  refine (consumes_take len.toNat).mono fun s v hv => ?_
  obtain ⟨rfl, hs⟩ := hv
  rw [hs, hu, UInt32.ofNat_toNat]
  exact ⟨hlen, rfl⟩

theorem steady_decodeString : Steady decodeString := by
  refine consumes_decodeString.steady fun s u hu => ?_
  obtain ⟨hs, rfl⟩ := hu
  have hlen : (UInt32.ofNat s.length).toNat = s.length := by
    rw [UInt32.toNat_ofNat']
    exact Nat.mod_eq_of_lt (Nat.lt_of_le_of_lt hs (by decide))
  apply Reads.ensure (by simp)
  apply (reads_getU32le _).bind
  rw [hlen]
  exact Reads.check hs (Reads.ensure (Nat.le_refl _) (reads_take s))

section
variable {topic : String}

/-- The front of a message is decoded if it has all of the topic and the timestamp. -/
theorem readStamped_take {α : Type} (message : String) (mk : GoString → UInt64 → Bytes → α) (h : StringFits topic)
    (stamp : UInt64) (data : Bytes) (n : Nat) :
    (4 + (utf8 topic).length + 8 ≤ n → ∃ rest,
      (GoCodec.readStamped message mk).eval ((stampedBytes topic stamp data).take n) = .ok (mk (utf8 topic) stamp rest)) ∧
    (¬ 4 + (utf8 topic).length + 8 ≤ n → ∀ v,
      (GoCodec.readStamped message mk).eval ((stampedBytes topic stamp data).take n) ≠ .ok v) := by
  have hbytes : stampedBytes topic stamp data = writeString topic ++ (u64le stamp ++ data) := by
    simp [stampedBytes]
  have hname : (writeString topic).length = 4 + (utf8 topic).length := by simp [writeString]
  refine ⟨fun hn => ⟨data.take (n - (4 + (utf8 topic).length + 8)), ?_⟩, fun hn v hv => ?_⟩
  · rw [← goReadStamped_stampedBytes message mk stamp _ h]
    congr 1
    rw [hbytes, stampedBytes, List.take_append, List.take_append, hname, u64le_length,
      List.take_of_length_le (by omega), List.take_of_length_le (by rw [u64le_length]; omega)]
    rw [Nat.sub_sub]
  · obtain ⟨rest, hv⟩ := Prog.eval_eq_ok.mp hv
    obtain ⟨s, b, hs, hv⟩ := Prog.bind_eq_ok.mp hv
    obtain ⟨_, b', hb, hv⟩ := Prog.bind_eq_ok.mp hv
    obtain ⟨hlong, rfl⟩ := Prog.require_eq_ok.mp hb
    obtain ⟨-, hfront⟩ := steady_decodeString.front (reads_decodeString h.go)
      (x := (stampedBytes topic stamp data).drop n) ((List.take_append_drop n _).trans hbytes) hs
    have hlen := congrArg List.length hfront
    have hshort := List.length_take_le n (stampedBytes topic stamp data)
    rw [List.length_append, hname] at hlen
    have hlong' : 8 ≤ b.length := hlong
    omega

theorem readDataNoWriters_take (h : StringFits topic) (data : Bytes) (n : Nat) :
    (4 + (utf8 topic).length ≤ n → ∃ rest,
      decodeDataNoWriters ((writeString topic ++ data).take n) = .ok { topicName := utf8 topic, keyData := rest }) ∧
    (¬ 4 + (utf8 topic).length ≤ n → ∀ v, decodeDataNoWriters ((writeString topic ++ data).take n) ≠ .ok v) := by
  have hname : (writeString topic).length = 4 + (utf8 topic).length := by simp [writeString]
  refine ⟨fun hn => ⟨data.take (n - (4 + (utf8 topic).length)), ?_⟩, fun hn v hv => ?_⟩
  · rw [List.take_append, hname, List.take_of_length_le (by omega)]
    exact Ends.eval ((reads_decodeString h.go).ends (Ends.rest (ends_pure _)))
  · obtain ⟨rest, hv⟩ := Prog.eval_eq_ok.mp hv
    obtain ⟨s, b, hs, hv⟩ := Prog.bind_eq_ok.mp hv
    obtain ⟨-, hfront⟩ := steady_decodeString.front (reads_decodeString h.go)
      (x := (writeString topic ++ data).drop n) (List.take_append_drop n _) hs
    have hlen := congrArg List.length hfront
    have hshort := List.length_take_le n (writeString topic ++ data)
    rw [List.length_append, hname] at hlen
    omega

end

/-- A message that answers no request, whose payload may be longer than its header can say. -/
theorem recvFrame_buildMessage (pending : UInt32 → Bool) (t : MsgType) (payload : Bytes) :
    recvFrame pending (buildMessage t 0 payload) = unsolicited t.toU8 (payload.take (payload.length % 2 ^ 32)) := by
  have hheader : decodeHeader (buildMessage t 0 payload) = .ok ⟨1, t.toU8, 0, UInt32.ofNat payload.length⟩ :=
    Prog.eval_eq_ok.mpr ⟨payload, reads_goReadHeader _ rfl payload⟩
  have hdrop : (buildMessage t 0 payload).drop headerLen = payload := drop_buildMessage t 0 payload
  have hlen : (buildMessage t 0 payload).length = headerLen + payload.length := by
    simp [buildMessage, headerLen, serializeHeader]
    omega
  have hsize : (UInt32.ofNat payload.length).toNat = payload.length % 2 ^ 32 := UInt32.toNat_ofNat'
  have hle : payload.length % 2 ^ 32 ≤ payload.length := Nat.mod_le _ _
  unfold recvFrame
  rw [if_neg (by omega), hheader]
  dsimp only
  rw [hdrop, hsize, if_neg (by omega)]
  rfl

/-- The front of the payload, before the data. -/
def headLength (sample : ReceivedSample) : Nat :=
  4 + (utf8 sample.topicName).length + match sample.instanceState with
    | .noWriters => 0
    | _ => 8

/-- The payload length in the header, modulo 2^32, covers the topic and the timestamp. -/
def HeadCovered (sample : ReceivedSample) : Prop :=
  headLength sample ≤ (headLength sample + sample.data.length) % 2 ^ 32

theorem onData_iff {α : Type} {dp : Res String α} {message : α → DataMessage} {covered : Prop} {topic : GoString}
    (hyes : covered → ∃ v, dp = .ok v ∧ (message v).topicName = topic) (hno : ¬ covered → ∀ v, dp ≠ .ok v) :
    (covered → ∃ msg, onData dp message = .data msg ∧ msg.topicName = topic) ∧
      (¬ covered → onData dp message = .skipped) := by
  refine ⟨fun hc => ?_, fun hc => ?_⟩
  · obtain ⟨v, rfl, htopic⟩ := hyes hc
    exact ⟨message v, rfl, htopic⟩
  · cases dp with
    | ok v => exact absurd rfl (hno hc v)
    | err e => rfl
    | panic => rfl

theorem recvFrame_sample {sample : ReceivedSample} (h : StringFits sample.topicName) (pending : UInt32 → Bool) :
    (HeadCovered sample → ∃ msg, recvFrame pending (sampleToMessage sample) = .data msg ∧
      msg.topicName = utf8 sample.topicName) ∧
    (¬ HeadCovered sample → recvFrame pending (sampleToMessage sample) = .skipped) := by
  have hstamped : (stampedBytes sample.topicName sample.sourceTimestamp.toUInt64 sample.data).length =
      4 + (utf8 sample.topicName).length + 8 + sample.data.length := by
    simp [stampedBytes, writeString]
    omega
  have hread : ∀ {α : Type} (message : String) (mk : GoString → UInt64 → Bytes → α),
      _ := fun message mk => readStamped_take message mk h sample.sourceTimestamp.toUInt64 sample.data
        ((4 + (utf8 sample.topicName).length + 8 + sample.data.length) % 2 ^ 32)
  unfold HeadCovered headLength sampleToMessage
  cases sample.instanceState with
  | alive =>
    dsimp only
    rw [recvFrame_buildMessage, serializeData, hstamped, unsolicited, if_pos rfl]
    obtain ⟨hyes, hno⟩ := hread "data" GoCodec.DataPayload.mk
    refine onData_iff (fun hc => ?_) hno
    obtain ⟨rest, hdec⟩ := hyes hc
    exact ⟨_, hdec, rfl⟩
  | disposed =>
    dsimp only
    rw [recvFrame_buildMessage, serializeDataDisposed, hstamped, unsolicited, if_neg (by decide), if_pos rfl]
    obtain ⟨hyes, hno⟩ := hread "data_disposed" GoCodec.DataDisposedPayload.mk
    refine onData_iff (fun hc => ?_) hno
    obtain ⟨rest, hdec⟩ := hyes hc
    exact ⟨_, hdec, rfl⟩
  | noWriters =>
    dsimp only
    have hlen : (writeString sample.topicName ++ sample.data).length =
        4 + (utf8 sample.topicName).length + 0 + sample.data.length := by
      simp [writeString, Nat.add_assoc]
    rw [recvFrame_buildMessage, serializeDataNoWriters, hlen, unsolicited, if_neg (by decide), if_neg (by decide),
      if_pos rfl]
    obtain ⟨hyes, hno⟩ := readDataNoWriters_take h sample.data
      ((4 + (utf8 sample.topicName).length + 0 + sample.data.length) % 2 ^ 32)
    refine onData_iff (fun hc => ?_) hno
    obtain ⟨rest, hdec⟩ := hyes hc
    exact ⟨_, hdec, rfl⟩

/-! ## Topics and types -/

/-- A Subscription gets the message if and only if it is for the topic and the type. -/
def OwnTypeOnly (pending : UInt32 → Bool) (subs : List Subscription) (topic : Topic) (frame : Bytes) : Prop :=
  ∀ p ∈ onFrame pending subs frame,
    p.2 = true ↔ p.1.topicName = utf8 topic.topicName ∧ p.1.typeName = utf8 topic.typeName

section
variable {pending : UInt32 → Bool} {subs : List Subscription} {topic : Topic} {frame : Bytes}

theorem exists_result (msg : DataMessage) {sub : Subscription} (h : sub ∈ subs) :
    ∃ p ∈ deliverData subs msg, p.1.topicName = sub.topicName ∧ p.1.typeName = sub.typeName := by
  refine ⟨_, List.mem_map.mpr ⟨sub, h, rfl⟩, ?_⟩
  split
  · exact deliver_names
  · exact ⟨rfl, rfl⟩

theorem exists_source {msg : DataMessage} {p : Subscription × Bool} (h : p ∈ deliverData subs msg) :
    ∃ sub ∈ subs, p.1.topicName = sub.topicName ∧ p.1.typeName = sub.typeName := by
  obtain ⟨sub, hsub, rfl⟩ := List.mem_map.mp h
  refine ⟨sub, hsub, ?_⟩
  split
  · exact deliver_names
  · exact ⟨rfl, rfl⟩

theorem ownTypeOnly_of_data {msg : DataMessage} (hlive : ∀ sub ∈ subs, sub.unsubscribed = false)
    (hframe : recvFrame pending frame = .data msg) (hname : msg.topicName = utf8 topic.topicName) :
    OwnTypeOnly pending subs topic frame ↔
      ∀ sub ∈ subs, sub.topicName = utf8 topic.topicName → sub.typeName = utf8 topic.typeName := by
  unfold OwnTypeOnly onFrame
  rw [hframe]
  refine ⟨fun h sub hsub ht => ?_, fun h p hp => ?_⟩
  · obtain ⟨p, hp, htopic, htype⟩ := exists_result msg hsub
    have hgot : p.2 = true := (mem_deliverData hlive hp).mpr (by rw [htopic, ht, hname])
    rw [← htype]
    exact ((h p hp).mp hgot).2
  · rw [mem_deliverData hlive hp, hname]
    refine ⟨fun ht => ⟨ht, ?_⟩, fun ht => ht.1⟩
    obtain ⟨sub, hsub, htopic, htype⟩ := exists_source hp
    rw [htype]
    exact h sub hsub (by rw [← htopic, ht])

theorem ownTypeOnly_of_skipped (hframe : recvFrame pending frame = .skipped) :
    OwnTypeOnly pending subs topic frame ↔
      ∀ sub ∈ subs, sub.topicName = utf8 topic.topicName → sub.typeName ≠ utf8 topic.typeName := by
  unfold OwnTypeOnly onFrame
  rw [hframe]
  refine ⟨fun h sub hsub ht hT => ?_, fun h p hp => ?_⟩
  · have hgot := (h (sub, false) (List.mem_map_of_mem hsub)).mpr ⟨ht, hT⟩
    cases hgot
  · obtain ⟨sub, hsub, rfl⟩ := List.mem_map.mp hp
    exact iff_of_false (by simp) fun hnames => h sub hsub hnames.1 hnames.2

end

/-- **When a message reaches the Subscriptions of its own type only.** The second case takes a payload of
4 GiB or more. -/
theorem own_type_only_iff {inner : BridgeInner} (hreach : BridgeReachable inner) {readerId : UInt64}
    {reader : DdsReader} (hreader : inner.readers.readers.lookup readerId = some reader) {taken : TakenSample}
    {sample : ReceivedSample} (hsample : reader.receive taken = some sample) (subs : List Subscription)
    (hlive : ∀ sub ∈ subs, sub.unsubscribed = false) (pending : UInt32 → Bool) :
    OwnTypeOnly pending subs reader.topic (sampleToMessage sample) ↔
      (HeadCovered sample → ∀ sub ∈ subs, sub.topicName = utf8 reader.topic.topicName →
        sub.typeName = utf8 reader.topic.typeName) ∧
      (¬ HeadCovered sample → ∀ sub ∈ subs, sub.topicName = utf8 reader.topic.topicName →
        sub.typeName ≠ utf8 reader.topic.typeName) := by
  have htopic := DdsReader.topicName_of_receive hsample
  have hfits := hreach.topicsFit.readers readerId reader hreader
  rw [← htopic] at hfits
  obtain ⟨hyes, hno⟩ := recvFrame_sample hfits pending
  rw [htopic] at hyes
  by_cases hc : HeadCovered sample
  · obtain ⟨msg, hmsg, hname⟩ := hyes hc
    rw [ownTypeOnly_of_data hlive hmsg hname]
    exact ⟨fun h => ⟨fun _ => h, fun hn => absurd hc hn⟩, fun h => h.1 hc⟩
  · rw [ownTypeOnly_of_skipped (hno hc)]
    exact ⟨fun h => ⟨fun hc' => absurd hc' hc, fun _ => h⟩, fun h => h.2 hc⟩

/-! ### One topic with two types -/

/-- A bridge with a session that has subscribed to `a` with the type `T`. -/
def subscribedBridge : BridgeInner :=
  (idleBridge.act (.register 1 0)).act (.frame ddsSucceeds 1 (subscribeFrame 0x61) 1024)

theorem subscribedBridge_reachable : BridgeReachable subscribedBridge :=
  ⟨1, _, .tail (.tail .refl ⟨.register 1 0, rfl⟩) ⟨.frame ddsSucceeds 1 (subscribeFrame 0x61) 1024, rfl⟩⟩

def liveSub (typeName : GoString) : Subscription where
  topicName := [0x61]
  typeName
  unsubscribed := false
  ch := Chan.empty

theorem subscribedBridge_reader : ∃ reader, subscribedBridge.readers.readers.lookup 1 = some reader ∧
    reader.topic = chatterTopic ∧ reader.receive ⟨1, true, 0, [7]⟩ = some ⟨"a", .alive, 0, [7]⟩ :=
  ⟨_, rfl, rfl, rfl⟩

theorem headCovered_chatter : HeadCovered ⟨"a", .alive, 0, [7]⟩ := by
  have hname : utf8 "a" = [0x61] := rfl
  unfold HeadCovered headLength
  rw [hname]
  decide

/-- `own_type_only_iff` for a client whose Subscriptions to the topic are of the type. -/
theorem two_of_one_type : ∃ reader, subscribedBridge.readers.readers.lookup 1 = some reader ∧
    OwnTypeOnly (fun _ => false) [liveSub [0x54], liveSub [0x54]] reader.topic
      (sampleToMessage ⟨"a", .alive, 0, [7]⟩) := by
  obtain ⟨reader, hreader, htopic, hsample⟩ := subscribedBridge_reader
  refine ⟨reader, hreader, ?_⟩
  rw [own_type_only_iff subscribedBridge_reachable hreader hsample _ (by decide) _]
  refine ⟨fun _ sub hsub _ => ?_, fun hn => absurd headCovered_chatter hn⟩
  rw [htopic]
  rcases List.mem_pair.mp hsub with rfl | rfl
  · rfl
  · rfl

/-- A Subscription to the topic with the type `U` gets a message of the type `T`. -/
theorem other_type_delivered : ¬ ∀ inner, BridgeReachable inner → ∀ readerId reader,
    inner.readers.readers.lookup readerId = some reader → ∀ taken sample, reader.receive taken = some sample →
      ∀ subs : List Subscription, (∀ sub ∈ subs, sub.unsubscribed = false) → ∀ pending,
        OwnTypeOnly pending subs reader.topic (sampleToMessage sample) := by
  intro h
  obtain ⟨reader, hreader, htopic, hsample⟩ := subscribedBridge_reader
  have hown := h subscribedBridge subscribedBridge_reachable 1 reader hreader _ _ hsample
    [liveSub [0x54], liveSub [0x55]] (by decide) fun _ => false
  have hfits : StringFits "a" := by
    unfold StringFits
    decide
  obtain ⟨msg, hmsg, hname⟩ := (recvFrame_sample hfits fun _ => false).1 headCovered_chatter
  rw [htopic] at hown
  have htype := (ownTypeOnly_of_data (by decide) hmsg hname).mp hown (liveSub [0x55]) (by decide) rfl
  exact absurd htype (by decide)

end DdsBridge.GoDelivery
