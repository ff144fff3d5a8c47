import DdsBridge.Delivery
import DdsBridge.Isolation
import DdsBridge.Reports

/-!
# Subscribing and unsubscribing

What a SUBSCRIBE and an UNSUBSCRIBE that are answered OK have done to the registry of readers, and that no
other request of a session adds it to a reader.
-/

namespace DdsBridge

open BridgeInner Prog ReaderRegistry

/-! ## Requests that are answered OK -/

/-- The bridge handles the request of the session and answers it with OK. A longer payload does not fit
a frame. -/
def Accepted (dds : DdsReturns) (sid : UInt64) (r : UInt32) (msgType : MsgType) (payload : Bytes)
    (s t : BridgeInner) : Prop :=
  payload.length < 2 ^ 32 ∧ ∃ body msgs, handleMessage dds sid r msgType payload s = .ok (okResponse r body :: msgs, t)

section
variable {r : UInt32}

theorem okResponse_ne_error {body msg : Bytes} (h : IsReport r msg) : okResponse r body ≠ msg := by
  intro he
  obtain ⟨code, text, -, rfl⟩ := h
  rw [okResponse, makeErrorResponse] at he
  exact absurd (msgType_of_buildMessage_eq he) (by decide)

theorem dispatch_of_okResponse {dds : DdsReturns} {sid : UInt64} {t : MsgType} {payload body : Bytes}
    {rest : List Bytes} {s s' : BridgeInner}
    (h : handleMessage dds sid r t payload s = .ok (okResponse r body :: rest, s')) :
    ∃ msgs, dispatch dds sid r t payload s = .ok (msgs, s') := by
  unfold handleMessage Prog.recover at h
  have hwp := reportsErrors_dispatch dds sid r t payload s trivial
  cases hd : dispatch dds sid r t payload s with
  | ok p =>
    rw [hd] at h
    obtain ⟨-, rfl⟩ := Prod.mk.inj (Res.ok.inj h)
    exact ⟨_, rfl⟩
  | err p =>
    rw [hd] at h
    obtain ⟨hmsgs, -⟩ := Prod.mk.inj (Res.ok.inj h)
    exact absurd (List.cons.inj hmsgs).1.symm (okResponse_ne_error (post_of_err hwp hd).2.2)
  | panic =>
    rw [hd] at h
    cases h

theorem Accepted.dispatch {dds : DdsReturns} {sid : UInt64} {t : MsgType} {payload : Bytes} {s s' : BridgeInner}
    (h : Accepted dds sid r t payload s s') : ∃ msgs, DdsBridge.dispatch dds sid r t payload s = .ok (msgs, s') := by
  obtain ⟨-, body, msgs, h⟩ := h
  exact dispatch_of_okResponse h

end

section
variable {dds : DdsReturns} {sid : UInt64} {r : UInt32}

/-! ## The entry of a subscription -/

def TopicsNamed (inner : BridgeInner) : Prop :=
  ∀ key topic, inner.participant.topics.lookup key = some topic → (topic.topicName, topic.typeName) = key

theorem TopicsNamed.files {s t : BridgeInner} (hs : TopicsNamed s) (h : FilesTopics s t) : TopicsNamed t := by
  intro key topic ht
  rcases h key topic ht with hold | hnamed
  · exact hs key topic hold
  · exact hnamed

theorem wp_getOrCreateTopic (dds : DdsReturns) (r : UInt32) (topicName typeName : String) (isKeyed : Bool)
    (keys : KeyDescriptors) {s : BridgeInner} (hs : TopicsNamed s) :
    (getOrCreateTopic dds r topicName typeName isKeyed keys).wp
      (fun topic t => topic.topicName = topicName ∧ topic.typeName = typeName ∧ t.readers = s.readers)
      (fun _ t => t.readers = s.readers) True s := by
  unfold getOrCreateTopic orDdsError onParticipant DdsParticipant.getOrCreateTopic
  rw [wp_mapErr, wp_zoom, wp_bind, wp_get]
  cases hlook : s.participant.topics.lookup (topicName, typeName) with
  | some topic =>
    obtain ⟨rfl, rfl⟩ := Prod.mk.inj (hs _ topic hlook)
    exact ⟨rfl, rfl, rfl⟩
  | none =>
    simp only [wp_bind, wp_require, wp_pure, wp_modify, wp_ofRes]
    exact ⟨fun _ => ⟨fun _ _ => ⟨fun _ => ⟨trivial, trivial, trivial⟩, fun _ => trivial⟩, fun _ _ => trivial,
      fun _ => trivial⟩, fun _ => trivial⟩

/-- A SUBSCRIBE that is answered OK is one call of `subscribe`, with the names of its payload. -/
theorem wp_subscribe {payload : Bytes} {s : BridgeInner} (hs : TopicsNamed s) :
    (dispatch dds sid r .subscribe payload).wp
      (fun msgs t => msgs = [okResponse r []] ∧ ∃ sub topic qos id, parseSubscribe payload = .ok sub ∧
        topic.topicName = sub.topicName ∧ topic.typeName = sub.typeName ∧
        ReaderRegistry.subscribe dds.createReader topic qos sub.qos sid s.readers = .ok (id, t.readers))
      (fun _ t => t.readers = s.readers) True s := by
  unfold dispatch handleSubscribe parsed
  rw [wp_bind, wp_mapErr, wp_ofRes]
  refine ⟨fun sub hparse => ?_, fun _ _ => rfl, fun _ => trivial⟩
  rw [wp_bind]
  refine wp_mono (wp_getOrCreateTopic dds r _ _ _ _ hs) (fun topic t ht => ?_) (fun _ t h => h) id
  obtain ⟨ht, hT, hreaders⟩ := ht
  rw [wp_bind, orDdsError, wp_mapErr, onReaders, wp_zoom, hreaders]
  unfold wp
  rcases subscribe_cases s.readers dds.createReader topic (makeQos dds.createQos sub.qos) sub.qos sid with
    ⟨id, reader, -, he⟩ | ⟨-, -, he⟩ | ⟨-, -, reader, -, -, -, -, -, he⟩
  · rw [he]
    exact ⟨rfl, sub, topic, _, _, hparse, ht, hT, he⟩
  · rw [he]
  · rw [he]
    exact ⟨rfl, sub, topic, _, _, hparse, ht, hT, he⟩

theorem wp_unsubscribe {payload : Bytes} {s : BridgeInner} :
    (dispatch dds sid r .unsubscribe payload).wp
      (fun _ t => ∃ unsub, parseUnsubscribe payload = .ok unsub ∧ t.participant = s.participant ∧
        s.readers.unsubscribe unsub.topicName unsub.typeName sid = (true, t.readers))
      (fun _ _ => True) True s := by
  unfold dispatch handleUnsubscribe parsed
  simp only [wp_bind, wp_mapErr, wp_ofRes, wp_get, wp_modify, wp_require, wp_pure]
  exact ⟨fun unsub hparse => ⟨fun hfound => ⟨unsub, hparse, trivial, Prod.ext hfound rfl⟩, fun _ => trivial⟩,
    fun _ _ => trivial, fun _ => trivial⟩

theorem subscribe_entries {reg reg' : ReaderRegistry} {rc : Int32} {topic : Topic} {qos : Option DdsQos}
    {qosSet : QosSet} {id : UInt64} (h : ReaderRegistry.subscribe rc topic qos qosSet sid reg = .ok (id, reg'))
    (a : UInt64 × String × String) : reg'.sessionSubscriptions.lookup a =
      if a = (sid, topic.topicName, topic.typeName) then some id else reg.sessionSubscriptions.lookup a := by
  rcases subscribe_cases reg rc topic qos qosSet sid with
    ⟨id', reader, -, he⟩ | ⟨-, -, he⟩ | ⟨-, -, reader, -, -, -, -, -, he⟩
  · rw [he] at h
    cases h
    exact join_subscriptions _ _ a
  · rw [he] at h
    cases h
  · rw [he] at h
    cases h
    exact add_subscriptions _ _ a

theorem unsubscribe_entries (reg : ReaderRegistry) (topicName typeName : String) (a : UInt64 × String × String) :
    (reg.unsubscribe topicName typeName sid).2.sessionSubscriptions.lookup a =
      if a = (sid, topicName, typeName) then none else reg.sessionSubscriptions.lookup a := by
  cases h : reg.sessionSubscriptions.lookup (sid, topicName, typeName) with
  | none =>
    rw [unsubscribe_none h]
    by_cases ha : a = (sid, topicName, typeName)
    · rw [if_pos ha, ha, h]
    · rw [if_neg ha]
  | some id =>
    cases hr : reg.readers.lookup id with
    | none =>
      simp only [unsubscribe, h, hr]
      exact Table.lookup_erase_eq _ _ _
    | some reader =>
      obtain ⟨reg', he, hsubs, -⟩ := unsubscribe_some h hr
      rw [he]
      exact hsubs a

def HasEntry (inner : BridgeInner) (sid : UInt64) (topicName typeName : String) : Prop :=
  ∃ id, inner.readers.sessionSubscriptions.lookup (sid, topicName, typeName) = some id

theorem handleSubscribe_entries {payload : Bytes} {s t : BridgeInner} {msgs : List Bytes} (hs : TopicsNamed s)
    (h : dispatch dds sid r .subscribe payload s = .ok (msgs, t)) :
    ∃ sub, parseSubscribe payload = .ok sub ∧ ∀ topicName typeName, HasEntry t sid topicName typeName ↔
      (topicName = sub.topicName ∧ typeName = sub.typeName) ∨ HasEntry s sid topicName typeName := by
  have hwp : (dispatch dds sid r .subscribe payload).wp _ _ True s := wp_subscribe hs
  obtain ⟨-, sub, topic, qos, id, hparse, ht, hT, hsub⟩ := post_of_ok hwp h
  have hentries := subscribe_entries hsub
  rw [ht, hT] at hentries
  refine ⟨sub, hparse, fun t T => ?_⟩
  unfold HasEntry
  rw [hentries]
  by_cases hkey : (sid, t, T) = (sid, sub.topicName, sub.typeName)
  · simp only [Prod.mk.injEq, true_and] at hkey
    simp [hkey]
  · rw [if_neg hkey]
    simp only [Prod.mk.injEq, true_and] at hkey
    simp [hkey]

theorem handleUnsubscribe_entries {payload : Bytes} {s t : BridgeInner} {msgs : List Bytes}
    (h : dispatch dds sid r .unsubscribe payload s = .ok (msgs, t)) :
    ∃ unsub, parseUnsubscribe payload = .ok unsub ∧ t.participant = s.participant ∧
      ∀ topicName typeName, HasEntry t sid topicName typeName ↔
        ¬ (topicName = unsub.topicName ∧ typeName = unsub.typeName) ∧ HasEntry s sid topicName typeName := by
  have hwp : (dispatch dds sid r .unsubscribe payload).wp _ _ True s := wp_unsubscribe
  obtain ⟨unsub, hparse, hpart, hcall⟩ := post_of_ok hwp h
  have hreaders : t.readers = (s.readers.unsubscribe unsub.topicName unsub.typeName sid).2 := by rw [hcall]
  refine ⟨unsub, hparse, hpart, fun t T => ?_⟩
  unfold HasEntry
  rw [hreaders, unsubscribe_entries]
  by_cases hkey : (sid, t, T) = (sid, unsub.topicName, unsub.typeName)
  · simp only [Prod.mk.injEq, true_and] at hkey
    simp [hkey]
  · rw [if_neg hkey]
    simp only [Prod.mk.injEq, true_and] at hkey
    simp [hkey]

theorem hasEntry_foreign {s : BridgeInner} {a : UInt64} {action : BridgeAction} (hof : ActionOf a action) (ha : a ≠ sid)
    (topicName typeName : String) : HasEntry (s.act action) sid topicName typeName ↔ HasEntry s sid topicName typeName := by
  have hkey : ∀ t T, (sid, topicName, typeName) ≠ (a, t, T) := fun t T e => ha (congrArg Prod.fst e).symm
  unfold HasEntry
  cases action with
  | register sessionId sender => exact hof.elim
  | channel sender channel => exact hof.elim
  | unregister sessionId =>
    change sessionId = a at hof
    subst hof
    change (∃ id, (s.readers.removeSession sessionId).sessionSubscriptions.lookup _ = some id) ↔ _
    rw [removeSession_departs.subscriptions sid _ _ ha.symm]
  | frame dds sessionId data maxPayloadSize =>
    change sessionId = a at hof
    subst hof
    rcases (effect_after dds sessionId data maxPayloadSize s).readers with
      hr | ⟨rc, topic, qos, qosSet, hr⟩ | ⟨t, T, hr⟩
    · rw [hr]
    · rw [hr]
      simp only [ReaderRegistry.call, Prog.after]
      rcases subscribe_cases s.readers rc topic qos qosSet sessionId with
        ⟨id, reader, -, he⟩ | ⟨-, -, he⟩ | ⟨-, -, reader, -, -, -, -, -, he⟩
      · rw [he]
        simp only [join_subscriptions, if_neg (hkey _ _)]
      · rw [he]
      · rw [he]
        simp only [add_subscriptions, if_neg (hkey _ _)]
    · rw [hr]
      simp only [ReaderRegistry.call, unsubscribe_entries, if_neg (hkey _ _)]

end

/-! ## What a frame does to the readers -/

section
variable (dds : DdsReturns) (sid : UInt64) (data : Bytes) (maxPayloadSize : Nat)

/-- The frame is a request of the type, and the bridge answers it with OK. -/
def AnsweredOk (msgType : MsgType) (payload : Bytes) (inner : BridgeInner) : Prop :=
  ∃ header body rest inner', checkFrame maxPayloadSize data = .ok (header, payload) ∧ header.msgType = msgType ∧
    processBinaryFrame dds sid data maxPayloadSize inner = .ok (okResponse header.requestId body :: rest, inner')

def SubscribeOk (topicName typeName : String) (inner : BridgeInner) : Prop :=
  ∃ payload sub, AnsweredOk dds sid data maxPayloadSize .subscribe payload inner ∧ parseSubscribe payload = .ok sub ∧
    sub.topicName = topicName ∧ sub.typeName = typeName

def UnsubscribeOk (topicName typeName : String) (inner : BridgeInner) : Prop :=
  ∃ payload unsub, AnsweredOk dds sid data maxPayloadSize .unsubscribe payload inner ∧
    parseUnsubscribe payload = .ok unsub ∧ unsub.topicName = topicName ∧ unsub.typeName = typeName

/-- The session joins no reader. -/
def NotJoined (reg reg' : ReaderRegistry) : Prop :=
  reg' = reg ∨ ∃ topicName typeName, reg' = (reg.unsubscribe topicName typeName sid).2

theorem wp_readers (r : UInt32) {msgType : MsgType} {payload : Bytes} {s : BridgeInner} (hs : TopicsNamed s) :
    (dispatch dds sid r msgType payload).wp
      (fun msgs t => NotJoined sid s.readers t.readers ∨ msgType = .subscribe ∧ msgs = [okResponse r []] ∧
        ∃ sub topic qos id, parseSubscribe payload = .ok sub ∧ topic.topicName = sub.topicName ∧
          topic.typeName = sub.typeName ∧
          ReaderRegistry.subscribe dds.createReader topic qos sub.qos sid s.readers = .ok (id, t.readers))
      (fun _ t => NotJoined sid s.readers t.readers) True s := by
  by_cases ht : msgType.OnReaders
  · cases msgType with
    | subscribe =>
      exact wp_mono (wp_subscribe hs) (fun msgs t h => .inr ⟨rfl, h⟩) (fun _ t h => .inl h) id
    | unsubscribe =>
      unfold dispatch handleUnsubscribe parsed
      simp only [wp_bind, wp_mapErr, wp_ofRes, wp_get, wp_modify, wp_require, wp_pure]
      exact ⟨fun unsub hparse => ⟨fun _ => .inl (.inr ⟨_, _, rfl⟩), fun _ => .inr ⟨_, _, rfl⟩⟩, fun _ _ => .inl rfl,
        fun _ => trivial⟩
    | _ => exact ht.elim
  · exact wp_mono (within_sameReaders dds sid r ht payload s) (fun _ _ h => .inl (.inl h)) (fun _ _ h => .inl h) id

/-- Only a SUBSCRIBE that is answered OK adds the session to a reader. -/
theorem readers_frame {inner : BridgeInner} (hs : TopicsNamed inner) :
    let t := (processBinaryFrame dds sid data maxPayloadSize).after inner
    NotJoined sid inner.readers t.readers ∨
      ∃ payload sub topic qos id, AnsweredOk dds sid data maxPayloadSize .subscribe payload inner ∧
        parseSubscribe payload = .ok sub ∧ topic.topicName = sub.topicName ∧ topic.typeName = sub.typeName ∧
        ReaderRegistry.subscribe dds.createReader topic qos sub.qos sid inner.readers = .ok (id, t.readers) := by
  unfold AnsweredOk processBinaryFrame
  cases hcheck : checkFrame maxPayloadSize data with
  | err e => exact .inl (.inl rfl)
  | panic => exact .inl (.inl rfl)
  | ok p =>
    obtain ⟨header, payload⟩ := p
    have hwp : (dispatch dds sid header.requestId header.msgType payload).wp _ _ True inner :=
      wp_readers dds sid header.requestId hs
    simp only [Prog.after, handleMessage, Prog.recover]
    cases hd : dispatch dds sid header.requestId header.msgType payload inner with
    | ok q =>
      obtain ⟨msgs, t⟩ := q
      rcases post_of_ok hwp hd with h | ⟨htype, rfl, sub, topic, qos, id, hparse, ht, hT, hsub⟩
      · exact .inl h
      · exact .inr ⟨payload, sub, topic, qos, id, ⟨header, [], [], t, rfl, htype, rfl⟩, hparse, ht, hT, hsub⟩
    | err q =>
      have hfailed := post_of_err hwp hd
      exact .inl hfailed
    | panic => exact .inl (.inl rfl)

theorem unsubscribe_of_ok {topicName typeName : String} {inner : BridgeInner}
    (h : UnsubscribeOk dds sid data maxPayloadSize topicName typeName inner) :
    inner.readers.unsubscribe topicName typeName sid =
      (true, ((processBinaryFrame dds sid data maxPayloadSize).after inner).readers) := by
  obtain ⟨payload, unsub, ⟨header, body, rest, inner', hcheck, htype, hframe⟩, hparse, rfl, rfl⟩ := h
  have hafter := after_of_ok hframe
  unfold processBinaryFrame at hframe
  rw [hcheck] at hframe
  obtain ⟨msgs, hd⟩ := dispatch_of_okResponse hframe
  rw [htype] at hd
  have hwp : (dispatch dds sid header.requestId .unsubscribe payload).wp _ _ True inner := wp_unsubscribe
  obtain ⟨unsub', hparse', -, hcall⟩ := post_of_ok hwp hd
  rw [hparse] at hparse'
  cases hparse'
  rw [hafter]
  exact hcall

end

theorem topicsNamed_act {inner : BridgeInner} (hs : TopicsNamed inner) (action : BridgeAction) :
    TopicsNamed (inner.act action) := by
  cases action with
  | frame dds sid data maxPayloadSize => exact hs.files (effect_after _ _ _ _ _).topics
  | register | unregister | channel => exact hs

theorem topicsNamed_of_reachable {inner : BridgeInner} (h : BridgeReachable inner) : TopicsNamed inner := by
  obtain ⟨handle, config, hreach⟩ := h
  refine hreach.invariant (fun key topic h => by cases h) fun s action t hs hstep => ?_
  subst hstep
  exact topicsNamed_act hs action

end DdsBridge
