import DdsBridge.ErrorTexts
import DdsBridge.NoPanic
import DdsBridge.Poll
import DdsBridge.ReaderFrame

/-!
# What the bridge sends

Every message of the bridge is one of six kinds, and its strings fit the limits of the client: topic
names come from requests that were accepted, error texts repeat at most two of them. So the client's
decoders give back what the bridge serialized. Requests go the other way in `GoAgree`.
-/

namespace DdsBridge

open BridgeInner Prog

/-- The fields of a message to a client. -/
inductive Outgoing where
  | ok (requestId : UInt32) (payload : Bytes)
  | pong (requestId : UInt32)
  | error (requestId : UInt32) (p : ErrorPayload)
  | data (p : DataPayload)
  | dataDisposed (p : DataDisposedPayload)
  | dataNoWriters (p : DataNoWritersPayload)
  deriving DecidableEq, Repr

namespace Outgoing

def msgType : Outgoing → MsgType
  | ok .. => .ok
  | pong .. => .pong
  | error .. => .error
  | data .. => .data
  | dataDisposed .. => .dataDisposed
  | dataNoWriters .. => .dataNoWriters

/-- Notifications have the id 0. -/
def requestId : Outgoing → UInt32
  | ok r _ => r
  | pong r => r
  | error r _ => r
  | _ => 0

def payload : Outgoing → Bytes
  | ok _ bytes => bytes
  | pong _ => []
  | error _ p => serializeError p
  | data p => serializeData p
  | dataDisposed p => serializeDataDisposed p
  | dataNoWriters p => serializeDataNoWriters p

def bytes (m : Outgoing) : Bytes := buildMessage m.msgType m.requestId m.payload

/-- The client's decoders give back the header and the fields. -/
def Received (m : Outgoing) : Prop :=
  GoCodec.decodeHeader m.bytes =
    .ok ⟨version, m.msgType.toU8, m.requestId, UInt32.ofNat m.payload.length⟩ ∧
  let received := m.bytes.drop GoCodec.headerLen
  match m with
  | ok _ bytes => received = bytes
  | pong _ => received = []
  | error _ p => GoCodec.decodeError received = .ok ⟨p.errorCode.toU16, utf8 p.errorMessage⟩
  | data p => GoCodec.decodeData received = .ok ⟨utf8 p.topicName, p.sourceTimestamp, p.data⟩
  | dataDisposed p => GoCodec.decodeDataDisposed received = .ok ⟨utf8 p.topicName, p.sourceTimestamp, p.keyData⟩
  | dataNoWriters p => GoCodec.decodeDataNoWriters received = .ok ⟨utf8 p.topicName, p.keyData⟩

/-- The strings are such as `decodeString` takes. -/
def Fits : Outgoing → Prop
  | ok .. => True
  | pong .. => True
  | error _ p => TextWithin GoCodec.defaultMaxPayloadSize p.errorMessage
  | data p => StringFits p.topicName
  | dataDisposed p => StringFits p.topicName
  | dataNoWriters p => StringFits p.topicName

end Outgoing

/-! ## The client's side -/

open Cursor in
theorem reads_goReadHeader (header : Header) (hv : header.version = version) :
    Reads GoCodec.readHeader (serializeHeader header)
      ⟨version, header.msgType.toU8, header.requestId, header.payloadLength⟩ := by
  apply Reads.ensure (by simp [GoCodec.headerLen])
  refine Reads.bind (u := [0x44]) (reads_getU8 _) (Reads.bind (u := [0x42]) (reads_getU8 _) ?_)
  refine Reads.check ⟨rfl, rfl⟩ ?_
  refine Reads.bind (u := [header.version]) (reads_getU8 _) ?_
  rw [hv]
  refine Reads.check (by decide) ?_
  apply Reads.bind (u := [header.msgType.toU8]) (reads_getU8 _)
  exact (reads_getU32le _).bind ((reads_getU32le _).bind_nil (reads_pure _))

open Cursor in
theorem goReadStamped_stampedBytes {α : Type} (message : String) (mk : GoCodec.GoString → UInt64 → Bytes → α)
    {topic : String} (stamp : UInt64) (data : Bytes) (h : StringFits topic) :
    (GoCodec.readStamped message mk).eval (stampedBytes topic stamp data) = .ok (mk (utf8 topic) stamp data) := by
  refine Ends.eval ((reads_decodeString h.go).ends (Ends.ensure (by simp) ?_))
  exact (reads_getU64le stamp).ends (Ends.rest (ends_pure _))

open Cursor in
theorem Outgoing.received {m : Outgoing} (h : m.Fits) : m.Received := by
  have hheader : GoCodec.decodeHeader m.bytes =
      .ok ⟨version, m.msgType.toU8, m.requestId, UInt32.ofNat m.payload.length⟩ :=
    Prog.eval_eq_ok.mpr ⟨m.payload, reads_goReadHeader _ rfl m.payload⟩
  have hdrop : m.bytes.drop GoCodec.headerLen = m.payload := drop_buildMessage _ _ _
  refine ⟨hheader, ?_⟩
  rw [hdrop]
  cases m with
  | ok r bytes => rfl
  | pong r => rfl
  | error r p =>
    refine Ends.eval (Ends.ensure (by simp [serializeError, Outgoing.payload]) ((reads_getU16le _).ends ?_))
    exact (reads_decodeString h).ends_nil (ends_noTrailing _ (ends_pure _))
  | data p => exact goReadStamped_stampedBytes _ _ _ _ h
  | dataDisposed p => exact goReadStamped_stampedBytes _ _ _ _ h
  | dataNoWriters p => exact Ends.eval ((reads_decodeString h.go).ends (Ends.rest (ends_pure _)))

/-- A message of the bridge whose strings fit. -/
def Sendable (msg : Bytes) : Prop := ∃ m : Outgoing, m.Fits ∧ msg = m.bytes

def AllSendable (msgs : List Bytes) : Prop := ∀ msg ∈ msgs, Sendable msg

theorem allSendable_single {msg : Bytes} (h : Sendable msg) : AllSendable [msg] := fun m hm => by
  rwa [List.mem_singleton.mp hm]

theorem sendable_error {text : String} (r : UInt32) (code : ErrorCode)
    (h : TextWithin GoCodec.defaultMaxPayloadSize text) : Sendable (makeErrorResponse r code text) :=
  ⟨.error r ⟨code, text⟩, h, rfl⟩

theorem sendable_ok (r : UInt32) (payload : Bytes) : Sendable (okResponse r payload) :=
  ⟨.ok r payload, trivial, rfl⟩

theorem sendable_sample {reader : DdsReader} {taken : TakenSample} {sample : ReceivedSample}
    (hfits : StringFits reader.topic.topicName) (h : reader.receive taken = some sample) :
    Sendable (sampleToMessage sample) := by
  rw [← DdsReader.topicName_of_receive h] at hfits
  unfold sampleToMessage
  cases sample.instanceState with
  | alive => exact ⟨.data ⟨_, _, _⟩, hfits, rfl⟩
  | disposed => exact ⟨.dataDisposed ⟨_, _, _⟩, hfits, rfl⟩
  | noWriters => exact ⟨.dataNoWriters ⟨_, _⟩, hfits, rfl⟩

/-! ## Names of topics -/

/-- Topics are named by requests, so their names fit. -/
structure TopicsFit (inner : BridgeInner) : Prop where
  topics : ∀ key topic, inner.participant.topics.lookup key = some topic → StringFits topic.topicName
  writers : ∀ writerId p, inner.writers.writers.lookup writerId = some p → StringFits p.1.topic.topicName
  readers : ∀ readerId reader, inner.readers.readers.lookup readerId = some reader →
    StringFits reader.topic.topicName

/-- What is added to the channels is sendable. -/
def AddsSendable (s t : BridgeInner) : Prop :=
  ∀ sender c, s.channels.lookup sender = some c → ∃ c' added, t.channels.lookup sender = some c' ∧
    c'.queue = c.queue ++ added ∧ ∀ msg ∈ added, Sendable msg

theorem addsSendable_of_eq {s t : BridgeInner} (h : t.channels = s.channels) : AddsSendable s t := by
  intro sender c hc
  rw [h]
  exact ⟨c, [], hc, (List.append_nil _).symm, List.forall_mem_nil _⟩

instance : Std.Refl AddsSendable where
  refl _ := addsSendable_of_eq rfl

instance : IsTrans BridgeInner AddsSendable where
  trans s t u hst htu := by
    intro sender c hc
    obtain ⟨c', added, hc', hq, hadded⟩ := hst sender c hc
    obtain ⟨c'', more, hc'', hq', hmore⟩ := htu sender c' hc'
    refine ⟨c'', added ++ more, hc'', by rw [hq', hq, List.append_assoc], ?_⟩
    exact List.forall_mem_append.mpr ⟨hadded, hmore⟩

/-- A part of a handler that keeps the names in order and fails with a message that fits. -/
def Emits {α : Type} (Q : α → Prop) (m : Prog BridgeInner Bytes α) : Prop :=
  Spec TopicsFit AddsSendable Q Sendable m

section
variable (dds : DdsReturns) (sid : UInt64) (r : UInt32)

theorem emits_parsed {α : Type} {x : Res ProtocolError α} (h : ∀ e, x = .err e → e.Small) :
    Emits (fun a => x = .ok a) (parsed r x) :=
  (spec_ofRes h).mapErr fun _ he => sendable_error r _ (he.text.mono (by decide))

theorem sendable_ddsError (code : ErrorCode) {e : DdsError} (h : ∀ name, e = .invalidName name → StringFits name) :
    Sendable (makeErrorResponse r code e.toString) :=
  sendable_error r code ((DdsError.text h).mono (by decide))

theorem emits_orDdsError {α : Type} {Q : α → Prop} {m : Prog BridgeInner DdsError α}
    (h : Spec TopicsFit AddsSendable Q (fun e => ∀ name, e = .invalidName name → StringFits name) m) :
    Emits Q (orDdsError r m) := h.mapErr fun _ he => sendable_ddsError r _ he

theorem emits_orWriterError {α : Type} {Q : α → Prop} {m : Prog BridgeInner DdsError α}
    (h : Spec TopicsFit AddsSendable Q (fun e => ∀ name, e = .invalidName name → StringFits name) m) :
    Emits Q (orWriterError r m) := h.mapErr fun _ he => sendable_ddsError r _ he

theorem emits_getOrCreateTopic {topicName : String} (hname : StringFits topicName) (typeName : String)
    (isKeyed : Bool) (keys : KeyDescriptors) :
    Emits (fun topic : Topic => StringFits topic.topicName) (getOrCreateTopic dds r topicName typeName isKeyed keys) := by
  apply emits_orDdsError
  intro s hs
  unfold onParticipant DdsParticipant.getOrCreateTopic
  rw [wp_zoom, wp_bind, wp_get]
  cases h : s.participant.topics.lookup (topicName, typeName) with
  | some topic => exact ⟨hs, addsSendable_of_eq rfl, hs.topics _ topic h⟩
  | none =>
    simp only [wp_bind, wp_require, wp_pure, wp_modify, wp_ofRes]
    refine ⟨fun _ => ⟨fun _ _ => ⟨fun _ => ⟨⟨?_, hs.writers, hs.readers⟩, addsSendable_of_eq rfl, hname⟩, fun _ => ?_⟩,
      fun e he => ?_, fun _ => trivial⟩, fun _ => ?_⟩
    · exact Table.forall_insert (P := fun topic : Topic => StringFits topic.topicName) hs.topics _ hname
    · exact ⟨hs, addsSendable_of_eq rfl, fun name h => by cases h⟩
    · unfold createOpaqueSertype at he
      split at he <;> cases he
    · exact ⟨hs, addsSendable_of_eq rfl, fun name h => by cases h; exact hname⟩

theorem emits_createWriter {topic : Topic} (htopic : StringFits topic.topicName) (qos : QosSet) :
    Emits (fun _ => True) (createWriter dds sid r topic qos) := by
  refine Spec.bind spec_get fun inner _ => Spec.bind (Q := fun writer => writer.topic = topic) ?_ fun writer hw => ?_
  · refine emits_orDdsError r ((spec_ofRes fun e he => ?_).mono (fun writer hw => ?_) fun _ h => h)
    · unfold DdsWriter.new at he
      split at he <;> cases he
      exact fun name h => by cases h
    · unfold DdsWriter.new at hw
      split at hw <;> cases hw
      rfl
  · refine Spec.bind (R := AddsSendable) (spec_modify fun s hs => ?_) fun _ _ => spec_pure trivial
    refine ⟨⟨hs.topics, ?_, hs.readers⟩, addsSendable_of_eq rfl⟩
    refine Table.forall_insert (P := fun p : DdsWriter × UInt64 => StringFits p.1.topic.topicName) hs.writers _ ?_
    rw [hw]
    exact htopic

theorem emits_implicitWriter {topicName : String} (hname : StringFits topicName) (typeName : String) (qos : QosSet)
    (keys : KeyDescriptors) : Emits (fun _ => True) (implicitWriter dds sid r topicName typeName qos keys) := by
  refine Spec.bind spec_get fun inner _ => ?_
  by_cases h : inner.writers.findByTopic sid topicName typeName qos.normalize = none
  · rw [if_pos h]
    refine (emits_getOrCreateTopic dds r hname typeName _ keys).bind fun topic htopic => ?_
    refine (emits_createWriter dds sid r htopic qos).bind fun _ _ => Spec.bind spec_get fun inner _ => ?_
    split
    · exact spec_pure trivial
    · exact spec_throw (sendable_error r _ (by unfold TextWithin; decide))
  · rw [if_neg h]
    refine Spec.bind spec_get fun inner _ => ?_
    split
    · exact spec_pure trivial
    · exact spec_throw (sendable_error r _ (by unfold TextWithin; decide))

theorem emits_doWriteOp {mode : WriteMode} (hmode : mode.WF) (op : WriteOp) :
    Emits Sendable (doWriteOp dds sid r mode op) := by
  have hexec : ∀ writer, Emits Sendable (executeWriteOp dds r writer op >>= fun _ => pure (okResponse r [])) := by
    intro writer
    refine (emits_orDdsError r (spec_ofRes fun e he => ?_)).bind fun _ _ => spec_pure (sendable_ok r [])
    intro name hn
    subst hn
    cases op with
    | write =>
      simp only [DdsWriter.write] at he
      split at he <;> cases he
    | dispose =>
      simp only [DdsWriter.dispose] at he
      split at he <;> cases he
    | writeDispose =>
      simp only [DdsWriter.writeDispose] at he
      split at he <;> cases he
  cases mode with
  | topicName topicName typeName qos keys data =>
    exact (emits_implicitWriter dds sid r hmode.1 typeName qos keys).bind fun writer _ => hexec writer
  | writerId writerId keyBytes data =>
    refine Spec.bind spec_get fun inner _ => (emits_orWriterError r (spec_ofRes fun e he => ?_)).bind
      fun writer _ => hexec writer
    intro name hn
    subst hn
    unfold WriterRegistry.get at he
    split at he
    · cases he
    · split at he <;> cases he

theorem Channel.trySend_adds (c : Channel) (msg : Bytes) :
    ∃ added, (c.trySend msg).queue = c.queue ++ added ∧ ∀ m ∈ added, m = msg := by
  unfold Channel.trySend
  split
  · exact ⟨[msg], rfl, fun m hm => List.mem_singleton.mp hm⟩
  · exact ⟨[], (List.append_nil _).symm, List.forall_mem_nil _⟩

theorem addsSendable_sendTo {msg : Bytes} (hmsg : Sendable msg) (inner : BridgeInner) (s : UInt64) :
    AddsSendable inner (sendTo msg inner s) := by
  unfold sendTo
  cases inner.sessionSenders.lookup s with
  | none => exact Std.Refl.refl inner
  | some sender =>
    intro other c hc
    change ∃ c' added, (Table.modify inner.channels sender fun c => c.trySend msg).lookup other = some c' ∧ _
    rw [Table.lookup_modify]
    by_cases h : other = sender
    · rw [if_pos h, ← h, hc]
      obtain ⟨added, hq, hadded⟩ := c.trySend_adds msg
      exact ⟨_, added, rfl, hq, fun m hm => by rwa [hadded m hm]⟩
    · rw [if_neg h]
      exact ⟨c, [], hc, (List.append_nil _).symm, List.forall_mem_nil _⟩

theorem TopicsFit.congr {s t : BridgeInner} (h : TopicsFit s) (hp : t.participant = s.participant)
    (hw : t.writers = s.writers) (hr : t.readers = s.readers) : TopicsFit t := by
  refine ⟨?_, ?_, ?_⟩
  · rw [hp]
    exact h.topics
  · rw [hw]
    exact h.writers
  · rw [hr]
    exact h.readers

theorem emits_sendAll {msg : Bytes} (hmsg : Sendable msg) (sids : List UInt64) {inner : BridgeInner}
    (hs : TopicsFit inner) :
    TopicsFit (sids.foldl (sendTo msg) inner) ∧ AddsSendable inner (sids.foldl (sendTo msg) inner) := by
  induction sids generalizing inner with
  | nil => exact ⟨hs, Std.Refl.refl inner⟩
  | cons s sids ih =>
    have hsent : TopicsFit (sendTo msg inner s) := by
      unfold sendTo
      split
      · exact hs.congr rfl rfl rfl
      · exact hs
    obtain ⟨h, hadds⟩ := ih hsent
    exact ⟨h, IsTrans.trans _ _ _ (addsSendable_sendTo hmsg inner s) hadds⟩

theorem emits_notification {resp : Bytes} (hresp : Sendable resp) {mode : WriteMode} (hmode : mode.WF) :
    Emits AllSendable (respWithDisposeNotification sid resp mode) := by
  refine Spec.bind spec_get fun inner hinner => ?_
  cases hd : disposedTopic inner mode with
  | none => exact spec_pure (allSendable_single hresp)
  | some p =>
    obtain ⟨topicName, typeName, keyData⟩ := p
    have hname : StringFits topicName := by
      cases mode with
      | topicName t T qos keys data =>
        cases hd
        exact hmode.1
      | writerId writerId keyBytes data =>
        obtain ⟨writer, hw, he⟩ := Option.map_eq_some_iff.mp hd
        obtain ⟨q, hq, rfl⟩ := Option.map_eq_some_iff.mp hw
        cases he
        exact hinner.writers writerId q hq
    have hmsg : Sendable (buildMessage .dataDisposed 0
        (serializeDataDisposed { topicName, sourceTimestamp := 0, keyData })) := ⟨.dataDisposed ⟨_, _, _⟩, hname, rfl⟩
    refine (spec_modify fun s hs => emits_sendAll hmsg _ hs).bind fun _ _ => spec_pure ?_
    refine List.forall_mem_cons.mpr ⟨hresp, fun msg hm => ?_⟩
    obtain ⟨s, -, rfl⟩ := List.mem_map.mp hm
    exact hmsg

theorem emits_subscribe {topic : Topic} (htopic : StringFits topic.topicName) (rc : Int32) (qos : Option DdsQos)
    (qosSet : QosSet) : Emits (fun _ => True)
      (orDdsError r (onReaders (ReaderRegistry.subscribe rc topic qos qosSet sid))) := by
  apply emits_orDdsError
  intro s hs
  unfold onReaders
  rw [wp_zoom]
  unfold wp
  have hinsert : ∀ id reader, StringFits reader.topic.topicName → ∀ a x,
      (s.readers.readers.insert id reader).lookup a = some x → StringFits x.topic.topicName := fun id reader h =>
    Table.forall_insert (P := fun x : DdsReader => StringFits x.topic.topicName) hs.readers id h
  rcases subscribe_cases s.readers rc topic qos qosSet sid with
    ⟨id, reader, hsh, he⟩ | ⟨-, -, he⟩ | ⟨-, -, reader, ht, -, -, -, -, he⟩
  · rw [he]
    have hfits := hs.readers id reader (shared_eq_some.mp hsh).2
    exact ⟨⟨hs.topics, hs.writers, hinsert id _ hfits⟩, addsSendable_of_eq rfl, trivial⟩
  · rw [he]
    exact ⟨hs.congr rfl rfl rfl, addsSendable_of_eq rfl, fun name h => by cases h⟩
  · rw [he]
    rw [← ht] at htopic
    exact ⟨⟨hs.topics, hs.writers, hinsert _ _ htopic⟩, addsSendable_of_eq rfl, trivial⟩

theorem TopicsFit.departs {s : UInt64} {inner : BridgeInner} {readers : ReaderRegistry} (hs : TopicsFit inner)
    (h : Departs s inner.readers readers) : TopicsFit { inner with readers } where
  topics := hs.topics
  writers := hs.writers
  readers := by
    intro r x hx
    obtain ⟨reader, hr, ht, -⟩ := h.topic hx
    rw [ht]
    exact hs.readers r reader hr

theorem emits_unsubscribe {payload : Bytes} (hN : SmallNat payload.length) :
    Emits AllSendable (handleUnsubscribe sid r payload) := by
  refine (emits_parsed r fun e he => (smallErrors_readUnsubscribe hN).eval he).bind fun unsub hunsub => ?_
  obtain ⟨⟨ht, hT⟩, -⟩ := (unsubscribe_canonical payload unsub).mp hunsub
  have htext : TextWithin GoCodec.defaultMaxPayloadSize
      s!"no subscription for topic='{unsub.topicName}' type='{unsub.typeName}'" := by
    have hx : TextWithin 60 "no subscription for topic='" := by unfold TextWithin; decide
    have hy : TextWithin 60 "' type='" := by unfold TextWithin; decide
    have hz : TextWithin 60 "'" := by unfold TextWithin; decide
    have htopic : TextWithin maxStringLength unsub.topicName := ht
    have htype : TextWithin maxStringLength unsub.typeName := hT
    exact ((((hx.append htopic).append hy).append htype).append hz).mono (by decide)
  intro s hs
  have hleft : TopicsFit { s with readers := (s.readers.unsubscribe unsub.topicName unsub.typeName sid).2 } :=
    hs.departs (unsubscribe_departs _ _)
  simp only [wp_bind, wp_get, wp_modify, wp_require, wp_pure]
  exact ⟨fun _ => ⟨hleft, addsSendable_of_eq rfl, allSendable_single (sendable_ok r [])⟩,
    fun _ => ⟨hleft, addsSendable_of_eq rfl, sendable_error r _ htext⟩⟩

theorem emits_delete (writerId : UInt32) :
    Emits (fun _ => True) (orWriterError r (onWriters (WriterRegistry.delete writerId sid))) := by
  apply emits_orWriterError
  intro s hs
  unfold onWriters WriterRegistry.delete
  simp only [wp_zoom, wp_bind, wp_get, wp_ofRes, wp_modify]
  refine ⟨fun writer _ => ⟨⟨hs.topics, ?_, hs.readers⟩, addsSendable_of_eq rfl, trivial⟩,
    fun e he => ⟨hs.congr rfl rfl rfl, addsSendable_of_eq rfl, fun name hn => ?_⟩, fun _ => trivial⟩
  · exact Table.forall_erase (P := fun p : DdsWriter × UInt64 => StringFits p.1.topic.topicName) hs.writers writerId
  · subst hn
    unfold WriterRegistry.get at he
    split at he
    · cases he
    · split at he <;> cases he

theorem writeMode_small {α : Type} {mk : WriteMode → α} {payload : Bytes} {e : ProtocolError}
    (he : mk <$> parseWriteMode payload = .err e) : e.Small :=
  SmallErrors.eval smallErrors_readWriteMode (Res.map_eq_err.mp he)

theorem writeMode_wf {α : Type} {mk : WriteMode → α} {payload : Bytes} {a : α}
    (h : mk <$> parseWriteMode payload = .ok a) : ∃ mode, mk mode = a ∧ mode.WF := by
  obtain ⟨mode, hmode, ha⟩ := Res.map_eq_ok.mp h
  exact ⟨mode, ha, ((writeMode_canonical payload mode).mp hmode).1⟩

theorem emits_dispatch {payload : Bytes} (hN : SmallNat payload.length) (t : MsgType) :
    Emits AllSendable (dispatch dds sid r t payload) := by
  have hok : ∀ bytes, AllSendable [okResponse r bytes] := fun bytes => allSendable_single (sendable_ok r bytes)
  have hunexpected : ∀ t : MsgType, Emits AllSendable
      (Prog.throw (makeErrorResponse r .invalidMessage s!"unexpected message type: {t.debugName}")) := by
    intro t
    refine spec_throw (sendable_error r _ ?_)
    cases t <;> (unfold TextWithin; decide)
  cases t with
  | subscribe =>
    refine (emits_parsed r fun e he => (smallErrors_readEndpoint hN _).eval he).bind fun sub hsub => ?_
    have hname := ((subscribe_canonical payload sub).mp hsub).1.1
    refine (emits_getOrCreateTopic dds r hname _ _ _).bind fun topic htopic => ?_
    exact (emits_subscribe sid r htopic _ _ _).bind fun _ _ => spec_pure (hok [])
  | createWriter =>
    refine (emits_parsed r fun e he => (smallErrors_readEndpoint hN _).eval he).bind fun cw hcw => ?_
    have hname := ((createWriter_canonical payload cw).mp hcw).1.1
    refine (emits_getOrCreateTopic dds r hname _ _ _).bind fun topic htopic => ?_
    exact (emits_createWriter dds sid r htopic cw.qos).bind fun _ _ => spec_pure (hok _)
  | unsubscribe => exact emits_unsubscribe sid r hN
  | write =>
    refine (emits_parsed r fun e he => writeMode_small he).bind fun p hp => ?_
    obtain ⟨mode, rfl, hwf⟩ := writeMode_wf hp
    exact (emits_doWriteOp dds sid r hwf .write).bind fun resp hresp => spec_pure (allSendable_single hresp)
  | dispose =>
    refine (emits_parsed r fun e he => writeMode_small he).bind fun p hp => ?_
    obtain ⟨mode, rfl, hwf⟩ := writeMode_wf hp
    exact (emits_doWriteOp dds sid r hwf .dispose).bind fun resp hresp => emits_notification sid hresp hwf
  | writeDispose =>
    refine (emits_parsed r fun e he => writeMode_small he).bind fun p hp => ?_
    obtain ⟨mode, rfl, hwf⟩ := writeMode_wf hp
    exact (emits_doWriteOp dds sid r hwf .writeDispose).bind fun resp hresp => emits_notification sid hresp hwf
  | deleteWriter =>
    refine (emits_parsed r fun e he => (smallErrors_readDeleteWriter hN).eval he).bind fun dw _ => ?_
    exact (emits_delete sid r dw.writerId).bind fun _ _ => spec_pure (hok [])
  | ping =>
    exact spec_pure (allSendable_single ⟨.pong r, trivial, rfl⟩)
  | ok | data | dataDisposed | dataNoWriters | error | pong => exact hunexpected _

end

/-! ## Frames -/

/-- What `process_binary_frame` hands to `handle_message`. -/
def RequestPayload (payload : Bytes) : Prop :=
  ∃ maxPayloadSize data header, checkFrame maxPayloadSize data = .ok (header, payload)

theorem checkFrame_cases (maxPayloadSize : Nat) (data : Bytes) :
    (data.length < headerSize ∧ checkFrame maxPayloadSize data = .err (makeParseError 0 "message too short")) ∨
    (∃ e, parseHeader data = .err e ∧ checkFrame maxPayloadSize data = .err (makeParseError 0 e.toString)) ∨
    ∃ header, parseHeader data = .ok header ∧
      ((∃ e, validateClientHeader header version maxPayloadSize = .err e ∧
        checkFrame maxPayloadSize data = .err (makeParseError header.requestId e.toString)) ∨
      (data.length < headerSize + header.payloadLength.toNat ∧
        checkFrame maxPayloadSize data = .err (makeParseError header.requestId
          s!"incomplete message: expected {headerSize + header.payloadLength.toNat} bytes, got {data.length}")) ∨
      checkFrame maxPayloadSize data =
        .ok (header, (data.drop headerSize).take header.payloadLength.toNat)) := by
  have hpanic := checkFrame_ne_panic maxPayloadSize data
  unfold checkFrame at hpanic ⊢
  by_cases hlen : data.length < headerSize
  · exact .inl ⟨hlen, if_pos hlen⟩
  rw [if_neg hlen] at hpanic ⊢
  cases hp : parseHeader data with
  | err e => exact .inr (.inl ⟨e, rfl, rfl⟩)
  | panic =>
    rw [hp] at hpanic
    exact absurd rfl hpanic
  | ok header =>
    refine .inr (.inr ⟨header, rfl, ?_⟩)
    rw [hp] at hpanic
    simp only [Res.mapErr, Res.ok_bind] at hpanic ⊢
    cases hv : validateClientHeader header version maxPayloadSize with
    | err e => exact .inl ⟨e, rfl, rfl⟩
    | panic =>
      rw [hv] at hpanic
      exact absurd rfl hpanic
    | ok u =>
      simp only [Res.ok_bind]
      by_cases hshort : data.length < headerSize + header.payloadLength.toNat
      · rw [if_pos hshort]
        exact .inr (.inl ⟨hshort, rfl⟩)
      · have hslice : headerSize ≤ headerSize + header.payloadLength.toNat ∧
            headerSize + header.payloadLength.toNat ≤ data.length := by omega
        rw [if_neg hshort, slice, if_pos hslice, Nat.add_sub_cancel_left]
        exact .inr (.inr rfl)

theorem RequestPayload.length_lt {payload : Bytes} (h : RequestPayload payload) : payload.length < 2 ^ 32 := by
  obtain ⟨maxPayloadSize, data, header, h⟩ := h
  rcases checkFrame_cases maxPayloadSize data with ⟨-, he⟩ | ⟨e, -, he⟩ | ⟨header', -, ⟨e, -, he⟩ | ⟨-, he⟩ | he⟩
  · rw [he] at h; cases h
  · rw [he] at h; cases h
  · rw [he] at h; cases h
  · rw [he] at h; cases h
  · rw [he] at h
    cases h
    rw [List.length_take]
    exact Nat.lt_of_le_of_lt (Nat.min_le_left _ _) header.payloadLength.toNat_lt

theorem RequestPayload.smallNat {payload : Bytes} (h : RequestPayload payload) : SmallNat payload.length :=
  Nat.lt_trans h.length_lt (by decide)

theorem validateClientHeader_small {header : Header} {maxVersion : UInt8} {maxPayloadSize : Nat} {e : ProtocolError}
    (hmax : SmallNat maxPayloadSize) (h : validateClientHeader header maxVersion maxPayloadSize = .err e) :
    e.Small := by
  unfold validateClientHeader at h
  split at h
  · cases h
    trivial
  · split at h
    · cases h
      exact ⟨smallNat_u32 _, hmax⟩
    · split at h <;> cases h
      trivial

theorem checkFrame_sendable {maxPayloadSize : Nat} {data msg : Bytes} (hmax : SmallNat maxPayloadSize)
    (h : checkFrame maxPayloadSize data = .err msg) : Sendable msg := by
  have hsend : ∀ (r : UInt32) (e : ProtocolError), e.Small → Sendable (makeParseError r e.toString) :=
    fun r e he => sendable_error r _ (he.text.mono (by decide))
  rcases checkFrame_cases maxPayloadSize data with ⟨-, he⟩ | ⟨e, hp, he⟩ | ⟨header, -, ⟨e, hv, he⟩ | ⟨hlen, he⟩ | he⟩
  · rw [he] at h
    cases h
    exact sendable_error _ _ (by unfold TextWithin; decide)
  · rw [he] at h
    cases h
    exact hsend _ e (SmallErrors.eval smallErrors_readHeader hp)
  · rw [he] at h
    cases h
    exact hsend _ e (validateClientHeader_small hmax hv)
  · rw [he] at h
    cases h
    have hexpected : SmallNat (headerSize + header.payloadLength.toNat) := by
      have hl := header.payloadLength.toNat_lt
      unfold SmallNat headerSize
      omega
    refine sendable_error _ _ (TextWithin.mono (textWithin_two ?_ hexpected ?_ (Nat.lt_trans hlen hexpected)) ?_)
    · unfold TextWithin; decide
    · unfold TextWithin; decide
    · decide
  · rw [he] at h
    cases h

theorem emits_processBinaryFrame (dds : DdsReturns) (sid : UInt64) (data : Bytes) (maxPayloadSize : Nat) :
    Spec TopicsFit AddsSendable (fun msgs => SmallNat maxPayloadSize → AllSendable msgs) (fun _ => True)
      (processBinaryFrame dds sid data maxPayloadSize) := by
  unfold processBinaryFrame
  cases h : checkFrame maxPayloadSize data with
  | err msg => exact spec_pure fun hmax => allSendable_single (checkFrame_sendable hmax h)
  | panic => exact fun _ _ => trivial
  | ok p =>
    have hN := RequestPayload.smallNat ⟨maxPayloadSize, data, p.1, h⟩
    have hdispatch := emits_dispatch dds sid p.1.requestId hN p.1.msgType
    exact (hdispatch.recover fun _ he => allSendable_single he).mono (fun _ h _ => h) fun _ h => h

theorem topicsFit_act {inner : BridgeInner} (hs : TopicsFit inner) (action : BridgeAction) :
    TopicsFit (inner.act action) := by
  cases action with
  | register sessionId sender => exact hs.congr rfl rfl rfl
  | channel sender channel => exact hs.congr rfl rfl rfl
  | frame dds sid data maxPayloadSize => exact ((emits_processBinaryFrame dds sid data maxPayloadSize).after hs).1
  | unregister sessionId =>
    have hleft := hs.departs (removeSession_departs (s := sessionId))
    refine ⟨hleft.topics, fun writerId p hlook => ?_, hleft.readers⟩
    change (inner.writers.removeSession sessionId).writers.lookup writerId = some p at hlook
    unfold WriterRegistry.removeSession at hlook
    cases hids : inner.writers.sessionWriters.lookup sessionId with
    | none =>
      rw [hids] at hlook
      exact hs.writers writerId p hlook
    | some ids =>
      simp only [hids, Table.lookup_eraseAll] at hlook
      split at hlook
      · cases hlook
      · exact hs.writers writerId p hlook

theorem BridgeReachable.topicsFit {inner : BridgeInner} (h : BridgeReachable inner) : TopicsFit inner := by
  obtain ⟨handle, config, hreach⟩ := h
  refine hreach.invariant ⟨fun _ _ h => ?_, fun _ _ h => ?_, fun _ _ h => ?_⟩ ?_
  · cases h
  · cases h
  · cases h
  · intro inner action _ hs hstep
    subst hstep
    exact topicsFit_act hs action

/-- The messages of a bridge: what a frame gets back (`max_payload_size` is a `usize`), what a frame puts into
a channel, and what the poll loop makes of a sample. -/
inductive BridgeSends (inner : BridgeInner) : Bytes → Prop
  | response {dds : DdsReturns} {sid : UInt64} {data : Bytes} {maxPayloadSize : Nat} {msgs : List Bytes}
      {inner' : BridgeInner} {msg : Bytes} : maxPayloadSize < 2 ^ 64 →
      processBinaryFrame dds sid data maxPayloadSize inner = .ok (msgs, inner') → msg ∈ msgs → BridgeSends inner msg
  | notification {dds : DdsReturns} {sid : UInt64} {data : Bytes} {maxPayloadSize sender : Nat} {c c' : Channel}
      {added : List Bytes} {msg : Bytes} : inner.channels.lookup sender = some c →
      ((processBinaryFrame dds sid data maxPayloadSize).after inner).channels.lookup sender = some c' →
      c'.queue = c.queue ++ added → msg ∈ added → BridgeSends inner msg
  | sample {readerId : UInt64} {reader : DdsReader} {taken : TakenSample} {sample : ReceivedSample} :
      inner.readers.readers.lookup readerId = some reader → reader.receive taken = some sample →
      BridgeSends inner (sampleToMessage sample)

theorem BridgeSends.sendable {inner : BridgeInner} (hreach : BridgeReachable inner) {msg : Bytes}
    (h : BridgeSends inner msg) : Sendable msg := by
  have hs := hreach.topicsFit
  cases h with
  | response hmax hframe hm =>
    exact (emits_processBinaryFrame _ _ _ _).value hs hframe (Nat.lt_trans hmax (by decide)) msg hm
  | notification hc hc' hq hm =>
    obtain ⟨c'', added', hlook, hq', hadded⟩ := ((emits_processBinaryFrame _ _ _ _).after hs).2 _ _ hc
    rw [hc'] at hlook
    cases hlook
    rw [hq, List.append_cancel_left_eq] at hq'
    subst hq'
    exact hadded msg hm
  | sample hr htaken => exact sendable_sample (hs.readers _ _ hr) htaken

/-! ## Both codecs -/

/-- **The codecs agree.** What a client encodes within the limits is parsed to the same fields; what the bridge
accepts is decoded to the same fields by the client; and what the bridge sends is decoded to what it
serialized. -/
theorem codecs_agree :
    (∀ g : GoCodec.SubscribePayload, GoCodec.WithinLimits g.topicName g.typeName g.qos g.keys →
      ∃ p, parseSubscribe (GoCodec.encodeSubscribe g) = .ok p ∧ p.toGo = g) ∧
    (∀ g : GoCodec.UnsubscribePayload, GoCodec.ValidString g.topicName → GoCodec.ValidString g.typeName →
      ∃ p, parseUnsubscribe (GoCodec.encodeUnsubscribe g) = .ok p ∧ p.toGo = g) ∧
    (∀ g : GoCodec.CreateWriterPayload, GoCodec.WithinLimits g.topicName g.typeName g.qos g.keys →
      ∃ p, parseCreateWriter (GoCodec.encodeCreateWriter g) = .ok p ∧ p.toGo = g) ∧
    (∀ g : GoCodec.DeleteWriterPayload,
      ∃ p, parseDeleteWriter (GoCodec.encodeDeleteWriter g) = .ok p ∧ p.toGo = g) ∧
    (∀ g : GoCodec.WritePayload, g.WithinLimits →
      (∃ p, parseWrite (GoCodec.encodeWrite g) = .ok p ∧ p.mode.SameAs g) ∧
      (∃ p, parseDispose (GoCodec.encodeDispose g) = .ok p ∧ p.mode.SameAs g) ∧
      (∃ p, parseWriteDispose (GoCodec.encodeWriteDispose g) = .ok p ∧ p.mode.SameAs g)) ∧
    (∀ b, RequestPayload b →
      (∀ p, parseSubscribe b = .ok p → GoCodec.decodeSubscribe b = .ok p.toGo) ∧
      (∀ p, parseUnsubscribe b = .ok p → GoCodec.decodeUnsubscribe b = .ok p.toGo) ∧
      (∀ p, parseCreateWriter b = .ok p → GoCodec.decodeCreateWriter b = .ok p.toGo) ∧
      (∀ p, parseDeleteWriter b = .ok p → GoCodec.decodeDeleteWriter b = .ok p.toGo) ∧
      (∀ p, parseWrite b = .ok p → ∃ g, GoCodec.decodeWrite b = .ok g ∧ p.mode.SameAs g) ∧
      (∀ p, parseDispose b = .ok p → ∃ g, GoCodec.decodeDispose b = .ok g ∧ p.mode.SameAs g) ∧
      (∀ p, parseWriteDispose b = .ok p → ∃ g, GoCodec.decodeWriteDispose b = .ok g ∧ p.mode.SameAs g)) ∧
    ∀ inner, BridgeReachable inner → ∀ msg, BridgeSends inner msg → ∃ m : Outgoing, msg = m.bytes ∧ m.Received := by
  refine ⟨parseSubscribe_encodeSubscribe, parseUnsubscribe_encodeUnsubscribe, parseCreateWriter_encodeCreateWriter,
    parseDeleteWriter_encodeDeleteWriter, fun g hg => ?_, fun b hb => ?_, fun inner hreach msg hmsg => ?_⟩
  · obtain ⟨mode, hmode, hsame⟩ := parseWriteMode_encodeWriteMode g hg
    exact ⟨⟨⟨mode⟩, Res.map_eq_ok.mpr ⟨mode, hmode, rfl⟩, hsame⟩,
      ⟨⟨mode⟩, Res.map_eq_ok.mpr ⟨mode, hmode, rfl⟩, hsame⟩,
      ⟨⟨mode⟩, Res.map_eq_ok.mpr ⟨mode, hmode, rfl⟩, hsame⟩⟩
  · refine ⟨fun p => decodeSubscribe_toGo, fun p => decodeUnsubscribe_toGo, fun p => decodeCreateWriter_toGo,
      fun p => decodeDeleteWriter_toGo, fun p hp => ?_, fun p hp => ?_, fun p hp => ?_⟩
    · obtain ⟨mode, hmode, rfl⟩ := Res.map_eq_ok.mp hp
      exact decodeWriteMode_sameAs hb.length_lt hmode
    · obtain ⟨mode, hmode, rfl⟩ := Res.map_eq_ok.mp hp
      exact decodeWriteMode_sameAs hb.length_lt hmode
    · obtain ⟨mode, hmode, rfl⟩ := Res.map_eq_ok.mp hp
      exact decodeWriteMode_sameAs hb.length_lt hmode
  · obtain ⟨m, hfits, rfl⟩ := hmsg.sendable hreach
    exact ⟨m, rfl, m.received hfits⟩

/-- `codecs_agree` for a subscription with a partition list that is built in Go, for the PONG of an idle bridge,
and for its error message about an unknown writer. -/
theorem codecs_agree_partition_ping :
    let g : GoCodec.SubscribePayload :=
      { topicName := [0x74], typeName := [0xC3, 0xA9], isKeyed := true, keys := [⟨0, 4, 2⟩],
        qos := [GoCodec.qosPartitionPolicy [[0x61], []], GoCodec.qosHistoryPolicy 1 5] }
    (∃ p, parseSubscribe (GoCodec.encodeSubscribe g) = .ok p ∧ p.toGo = g) ∧
    ∃ m : Outgoing, buildMessage .pong 7 [] = m.bytes ∧ m.Received := by
  intro g
  refine ⟨codecs_agree.1 g ⟨⟨by decide, ?_⟩, ⟨by decide, ?_⟩, ?_, by decide, by decide, by decide⟩, ?_⟩
  · exact ⟨['t'], rfl⟩
  · exact ⟨['é'], rfl⟩
  · refine List.forall_mem_cons.mpr ⟨.partition (by decide) ?_, List.forall_mem_cons.mpr ⟨.history 5 (by decide), ?_⟩⟩
    · refine List.forall_mem_cons.mpr ⟨⟨by decide, ⟨['a'], rfl⟩⟩, List.forall_mem_cons.mpr ⟨⟨by decide, ⟨[], rfl⟩⟩, ?_⟩⟩
      exact List.forall_mem_nil _
    · exact List.forall_mem_nil _
  · have hping : processBinaryFrame ddsSucceeds 1 [0x44, 0x42, 1, 0x0F, 7, 0, 0, 0, 0, 0, 0, 0] 1024 idleBridge =
        .ok ([buildMessage .pong 7 []], idleBridge) := rfl
    exact codecs_agree.2.2.2.2.2.2 idleBridge ⟨1, _, .refl⟩ _
      (.response (by decide) hping List.mem_cons_self)

end DdsBridge
