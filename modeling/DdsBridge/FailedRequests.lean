import DdsBridge.ImplicitWriters

/-!
# Requests that fail

A request that is answered with ERROR has changed no registry. UNSUBSCRIBE takes its entry away before it looks at the
reader, and a write in topic-name mode keeps the writer that it has created; the first needs the entry to lead to a
reader, the second an id that no writer has.
-/

namespace DdsBridge

open BridgeInner Prog ReaderRegistry

/-! ## What is promised, and when -/

section
variable (dds : DdsReturns) (sid : UInt64) (data : Bytes) (maxPayloadSize : Nat)

def IsError (resp : Bytes) : Prop := ∃ header, parseHeader resp = .ok header ∧ header.msgType = .error

def AnsweredError (s : BridgeInner) : Prop :=
  ∃ resp rest t, processBinaryFrame dds sid data maxPayloadSize s = .ok (resp :: rest, t) ∧ IsError resp

end

/-- One writer more, the session's, which the same request finds when it is made again. -/
structure WriterAdded (sid : UInt64) (topicName typeName : String) (qos : QosSet) (s t : BridgeInner)
    (writer : DdsWriter) : Prop where
  free : s.writers.writers.lookup writer.writerId = none
  writers : ∀ w, t.writers.writers.lookup w =
    if w = writer.writerId then some (writer, sid) else s.writers.writers.lookup w
  lists : ∀ b, t.writers.ids b = if b = sid then s.writers.ids sid ++ [writer.writerId] else s.writers.ids b
  named : writer.topic.topicName = topicName ∧ writer.topic.typeName = typeName
  sameQos : writer.qosNormalized = qos.normalize
  again : ∀ dds r keys, implicitWriter dds sid r topicName typeName qos keys t = .ok (writer, t)

/-- A request that is answered with ERROR leaves the registries, save for a writer that it has created. -/
def LeavesRegistries (s : BridgeInner) : BridgeAction → Prop
  | .frame dds sid data maxPayloadSize => AnsweredError dds sid data maxPayloadSize s →
    let t := s.act (.frame dds sid data maxPayloadSize)
    match writeRequest maxPayloadSize data with
    | some (_, _, .topicName topicName typeName qos _ _) => t.readers = s.readers ∧
        (t.writers = s.writers ∨ ∃ writer, WriterAdded sid topicName typeName qos s t writer)
    | _ => t.readers = s.readers ∧ t.writers = s.writers
  | _ => True

/-- The entry that an UNSUBSCRIBE names leads to a reader. A writer that is created for a write in topic-name mode which
then fails has an id of its own. -/
def IdsHold (s : BridgeInner) : BridgeAction → Prop
  | .frame dds sid data maxPayloadSize =>
    (∀ header payload unsub id, checkFrame maxPayloadSize data = .ok (header, payload) → header.msgType = .unsubscribe →
      parseUnsubscribe payload = .ok unsub →
      s.readers.sessionSubscriptions.lookup (sid, unsub.topicName, unsub.typeName) = some id →
        ∃ reader, s.readers.readers.lookup id = some reader) ∧
    ∀ r op topicName typeName qos keys keyData topic u,
      writeRequest maxPayloadSize data = some (r, op, .topicName topicName typeName qos keys keyData) →
      s.writers.findByTopic sid topicName typeName qos.normalize = none →
      getOrCreateTopic dds r topicName typeName (!keys.keys.isEmpty) keys s = .ok (topic, u) → 0 ≤ dds.createWriter →
      dds.code op < 0 → s.writers.writers.lookup s.writers.nextWriterId = none
  | _ => True

/-! ## Answers -/

section
variable {dds : DdsReturns} {sid : UInt64} {r : UInt32} {data : Bytes} {maxPayloadSize : Nat} {s t : BridgeInner}

theorem isError_error (r : UInt32) (code : ErrorCode) (text : String) : IsError (makeErrorResponse r code text) :=
  ⟨_, parseHeader_buildMessage _ _ _, rfl⟩

theorem not_isError {msgType : MsgType} {payload : Bytes} (h : msgType ≠ .error) :
    ¬ IsError (buildMessage msgType r payload) := by
  rintro ⟨header, hparse, herr⟩
  rw [parseHeader_buildMessage] at hparse
  cases hparse
  exact h herr

/-- Its error leaves the registries, and its first message is no ERROR. -/
def FailsClean (m : Prog BridgeInner Bytes (List Bytes)) : Prop :=
  ∀ s, m.wp (fun msgs _ => ∀ resp ∈ msgs.head?, ¬ IsError resp) (fun _ u => SameRegistries s u) True s

theorem failsClean_bind {α : Type} {m : Prog BridgeInner Bytes α} {f : α → Prog BridgeInner Bytes (List Bytes)}
    (hm : Within SameRegistries m) (hf : ∀ a, FailsClean (f a)) : FailsClean (m >>= f) := by
  intro s
  rw [wp_bind]
  refine wp_mono (hm s) (fun a u hu => ?_) (fun _ _ h => h) id
  exact wp_mono (hf a u) (fun _ _ h => h) (fun _ v hv => IsTrans.trans _ _ _ hu hv) id

theorem failsClean_pure {resp : Bytes} (h : ¬ IsError resp) : FailsClean (pure [resp]) := fun s resp' hr => by
  cases hr
  exact h

theorem failsClean_throw (e : Bytes) : FailsClean (Prog.throw e) := fun s => Std.Refl.refl s

/-- A last call that leaves everything when it fails. -/
theorem failsClean_last {α : Type} {Q : α → Prop} {m : Prog BridgeInner Bytes α}
    {f : α → Prog BridgeInner Bytes (List Bytes)}
    (hm : ∀ s, m.wp (fun a _ => Q a) (fun _ u => SameRegistries s u) True s)
    (hf : ∀ a, Q a → ∀ s, (f a).wp (fun msgs _ => ∀ resp ∈ msgs.head?, ¬ IsError resp) (fun _ _ => False) True s) :
    FailsClean (m >>= f) := by
  intro s
  rw [wp_bind]
  refine wp_mono (hm s) (fun a u ha => ?_) (fun _ _ h => h) id
  exact wp_mono (hf a ha u) (fun _ _ h => h) (fun _ _ h => h.elim) id

end

section
variable (dds : DdsReturns) (sid : UInt64) (r : UInt32)

theorem not_isError_ok (payload : Bytes) : ¬ IsError (okResponse r payload) := not_isError (by decide)

theorem failsClean_subscribe (payload : Bytes) : FailsClean (handleSubscribe dds sid r payload) := by
  refine failsClean_bind (same_parsed r _) fun sub => ?_
  refine failsClean_bind (same_getOrCreateTopic dds r _ _ _ _) fun topic => ?_
  refine failsClean_last (Q := fun _ => True) (fun s => ?_) fun _ _ s => failsClean_pure (not_isError_ok r []) s
  rw [orDdsError, wp_mapErr, onReaders, wp_zoom]
  unfold wp
  rcases subscribe_cases s.readers dds.createReader topic (makeQos dds.createQos sub.qos) sub.qos sid with
    ⟨id, reader, -, he⟩ | ⟨-, -, he⟩ | ⟨-, -, reader, -, -, -, -, -, he⟩
  · rw [he]
    trivial
  · rw [he]
    exact Std.Refl.refl s
  · rw [he]
    trivial

theorem failsClean_createWriter (payload : Bytes) : FailsClean (handleCreateWriter dds sid r payload) := by
  refine failsClean_bind (same_parsed r _) fun cw => ?_
  refine failsClean_bind (same_getOrCreateTopic dds r _ _ _ _) fun topic => ?_
  refine failsClean_last (Q := fun _ => True) (fun s => ?_) fun _ _ s => failsClean_pure (not_isError_ok r _) s
  unfold createWriter orDdsError
  simp only [wp_bind, wp_get, wp_mapErr, wp_ofRes, wp_modify, wp_pure]
  exact ⟨fun _ _ => trivial, fun _ _ => Std.Refl.refl s, fun _ => trivial⟩

theorem failsClean_deleteWriter (payload : Bytes) : FailsClean (handleDeleteWriter sid r payload) := by
  refine failsClean_bind (same_parsed r _) fun dw => ?_
  refine failsClean_last (Q := fun _ => True) (fun s => ?_) fun _ _ s => failsClean_pure (not_isError_ok r []) s
  rw [orWriterError, wp_mapErr, onWriters, wp_zoom, WriterRegistry.delete, wp_bind, wp_get, wp_bind, wp_ofRes]
  exact ⟨fun _ _ => trivial, fun _ _ => Std.Refl.refl s, fun _ => trivial⟩

theorem failsClean_writerId (writerId : UInt32) (keyBytes keyData : Bytes) (op : WriteOp) :
    FailsClean (doWriteOp dds sid r (.writerId writerId keyBytes keyData) op >>=
      finishWrite sid (.writerId writerId keyBytes keyData) op) := by
  refine failsClean_last (Q := fun resp => resp = okResponse r []) (fun s => ?_) fun resp hresp s => ?_
  · have hexec : ∀ writer, (executeWriteOp dds r writer op >>= fun _ => pure (okResponse r [])).wp
        (fun resp _ => resp = okResponse r []) (fun _ u => SameRegistries s u) True s := by
      intro writer
      rw [wp_bind]
      exact wp_mono (same_executeWriteOp dds r writer op s) (fun _ _ _ => rfl) (fun _ _ h => h) id
    unfold doWriteOp
    rw [wp_bind, wp_get, wp_bind, orWriterError, wp_mapErr, wp_ofRes]
    exact ⟨fun writer _ => hexec writer, fun _ _ => Std.Refl.refl s, fun _ => trivial⟩
  · obtain ⟨rest, t, hfinish, -⟩ := finishWrite_ok sid (.writerId writerId keyBytes keyData) op resp s
    unfold wp
    rw [hfinish]
    intro resp' hr
    cases hr
    rw [hresp]
    exact not_isError_ok r []

end

/-! ## One frame -/

section
variable {dds : DdsReturns} {sid : UInt64} {r : UInt32} {op : WriteOp} {data keyData : Bytes} {maxPayloadSize : Nat}
  {s : BridgeInner}

theorem same_of_failsClean {m : Prog BridgeInner Bytes (List Bytes)} (hm : FailsClean m)
    (hframe : processBinaryFrame dds sid data maxPayloadSize = m.recover fun errorMsg => [errorMsg])
    (herr : AnsweredError dds sid data maxPayloadSize s) :
    SameRegistries s (s.act (.frame dds sid data maxPayloadSize)) := by
  obtain ⟨resp, rest, t, he, hresp⟩ := herr
  rw [show s.act (.frame dds sid data maxPayloadSize) = t from after_of_ok he]
  have hwp := hm s
  rw [hframe] at he
  unfold recover at he
  cases hd : m s with
  | ok p =>
    rw [hd] at he
    cases he
    exact absurd hresp (post_of_ok hwp hd resp rfl)
  | err p =>
    rw [hd] at he
    cases he
    have hsame := post_of_err hwp hd
    exact hsame
  | panic =>
    rw [hd] at he
    cases he

/-- An UNSUBSCRIBE of an entry that leads nowhere fails after it has taken the entry away. -/
theorem unsubscribe_frame (dds : DdsReturns) (sid : UInt64) (s : BridgeInner) {header : Header} {payload : Bytes}
    {unsub : UnsubscribePayload}
    (hcheck : checkFrame maxPayloadSize data = .ok (header, payload)) (htype : header.msgType = .unsubscribe)
    (hparse : parseUnsubscribe payload = .ok unsub) :
    let found := s.readers.unsubscribe unsub.topicName unsub.typeName sid
    s.act (.frame dds sid data maxPayloadSize) = { s with readers := found.2 } ∧
      (AnsweredError dds sid data maxPayloadSize s ↔ found.1 = false) := by
  intro found
  have hframe : ∃ resp, processBinaryFrame dds sid data maxPayloadSize s = .ok ([resp], { s with readers := found.2 }) ∧
      (IsError resp ↔ found.1 = false) := by
    unfold processBinaryFrame
    rw [hcheck]
    simp only [handleMessage, recover, htype, dispatch, handleUnsubscribe, parsed, hparse, bind_apply, mapErr, ofRes,
      pure_apply, Res.ok_bind, Prog.get, Prog.modify, Prog.require]
    cases hfound : found.1 with
    | true =>
      exact ⟨_, rfl, iff_of_false (not_isError_ok header.requestId []) (by decide)⟩
    | false =>
      exact ⟨_, rfl, iff_of_true (isError_error _ _ _) rfl⟩
  obtain ⟨resp, hframe, hresp⟩ := hframe
  refine ⟨after_of_ok hframe, fun h => ?_, fun h => ⟨resp, [], _, hframe, hresp.mpr h⟩⟩
  · obtain ⟨resp', rest, t, he, herr⟩ := h
    rw [hframe] at he
    cases he
    exact hresp.mp herr

theorem failsClean_parseError {α : Type} {f : α → Prog BridgeInner Bytes (List Bytes)} {x : Res ProtocolError α}
    (hx : ∀ a, x ≠ .ok a) : FailsClean (parsed r x >>= f) := by
  intro s
  cases x with
  | ok a => exact absurd rfl (hx a)
  | err e => exact Std.Refl.refl s
  | panic => trivial

theorem same_of_error (herr : AnsweredError dds sid data maxPayloadSize s)
    (hunsub : ∀ header payload unsub, checkFrame maxPayloadSize data = .ok (header, payload) →
      header.msgType = .unsubscribe → parseUnsubscribe payload ≠ .ok unsub)
    (hwrite : ∀ r op topicName typeName qos keys keyData,
      writeRequest maxPayloadSize data ≠ some (r, op, .topicName topicName typeName qos keys keyData)) :
    SameRegistries s (s.act (.frame dds sid data maxPayloadSize)) := by
  cases hcheck : checkFrame maxPayloadSize data with
  | err e =>
    change SameRegistries s ((processBinaryFrame dds sid data maxPayloadSize).after s)
    unfold processBinaryFrame
    rw [hcheck]
    exact Std.Refl.refl s
  | panic =>
    change SameRegistries s ((processBinaryFrame dds sid data maxPayloadSize).after s)
    unfold processBinaryFrame
    rw [hcheck]
    exact Std.Refl.refl s
  | ok p =>
    obtain ⟨header, payload⟩ := p
    have hframe : processBinaryFrame dds sid data maxPayloadSize =
        (dispatch dds sid header.requestId header.msgType payload).recover fun errorMsg => [errorMsg] := by
      unfold processBinaryFrame
      rw [hcheck]
      rfl
    refine same_of_failsClean ?_ hframe herr
    have hmodes : ∀ {α : Type} {mk : WriteMode → α} {op : WriteOp} {f : α → Prog BridgeInner Bytes (List Bytes)},
        WriteOp.ofMsgType header.msgType = some op →
        (∀ mode, f (mk mode) = doWriteOp dds sid header.requestId mode op >>= finishWrite sid mode op) →
        FailsClean (parsed header.requestId (mk <$> parseWriteMode payload) >>= f) := by
      intro α mk op f hop hf
      cases hmode : parseWriteMode payload with
      | ok mode =>
        have hreq : writeRequest maxPayloadSize data = some (header.requestId, op, mode) := by
          unfold writeRequest
          simp only [hcheck, hop, hmode]
        have hbind : (parsed header.requestId (mk <$> (Res.ok mode : Res ProtocolError WriteMode)) >>= f) = f (mk mode) :=
          rfl
        rw [hbind, hf]
        cases mode with
        | topicName topicName typeName qos keys keyData => exact absurd hreq (hwrite _ _ _ _ _ _ _)
        | writerId writerId keyBytes keyData =>
          exact failsClean_writerId dds sid header.requestId writerId keyBytes keyData op
      | err e => exact failsClean_parseError fun a h => by cases h
      | panic => exact failsClean_parseError fun a h => by cases h
    cases htype : header.msgType with
    | subscribe => exact failsClean_subscribe dds sid header.requestId payload
    | unsubscribe => exact failsClean_parseError fun unsub => hunsub header payload unsub hcheck htype
    | write => exact hmodes (by rw [htype]; rfl) fun _ => rfl
    | dispose => exact hmodes (by rw [htype]; rfl) fun _ => rfl
    | writeDispose => exact hmodes (by rw [htype]; rfl) fun _ => rfl
    | createWriter => exact failsClean_createWriter dds sid header.requestId payload
    | deleteWriter => exact failsClean_deleteWriter sid header.requestId payload
    | ping => exact failsClean_pure (not_isError (by decide))
    | ok | error | data | dataDisposed | dataNoWriters | pong => exact failsClean_throw _

theorem writeRequest_unsubscribe {header : Header} {payload : Bytes}
    (hcheck : checkFrame maxPayloadSize data = .ok (header, payload)) (htype : header.msgType = .unsubscribe) :
    writeRequest maxPayloadSize data = none := by
  unfold writeRequest
  simp only [hcheck, htype]
  rfl

theorem unsubscribe_leaves_iff {header : Header} {payload : Bytes} {unsub : UnsubscribePayload}
    (hcheck : checkFrame maxPayloadSize data = .ok (header, payload)) (htype : header.msgType = .unsubscribe)
    (hparse : parseUnsubscribe payload = .ok unsub) :
    LeavesRegistries s (.frame dds sid data maxPayloadSize) ↔
      ∀ id, s.readers.sessionSubscriptions.lookup (sid, unsub.topicName, unsub.typeName) = some id →
        ∃ reader, s.readers.readers.lookup id = some reader := by
  obtain ⟨hact, hanswer⟩ := unsubscribe_frame dds sid s hcheck htype hparse
  simp only [LeavesRegistries, writeRequest_unsubscribe hcheck htype, hact, hanswer, and_true]
  cases hentry : s.readers.sessionSubscriptions.lookup (sid, unsub.topicName, unsub.typeName) with
  | none =>
    rw [unsubscribe_none hentry]
    exact iff_of_true (fun _ => rfl) fun id h => by cases h
  | some id =>
    cases hreader : s.readers.readers.lookup id with
    | some reader =>
      refine iff_of_true (fun hfalse => ?_) fun id' h => ?_
      · obtain ⟨reg', he, -⟩ := unsubscribe_some hentry hreader
        rw [he] at hfalse
        cases hfalse
      · cases h
        exact ⟨reader, hreader⟩
    | none =>
      have hleft : s.readers.unsubscribe unsub.topicName unsub.typeName sid = (false, { s.readers with
          sessionSubscriptions := s.readers.sessionSubscriptions.erase (sid, unsub.topicName, unsub.typeName) }) := by
        unfold unsubscribe
        simp only [hentry, hreader]
      refine iff_of_false (fun h => ?_) fun h => ?_
      · rw [hleft] at h
        have hgone := congrArg (fun reg : ReaderRegistry =>
          reg.sessionSubscriptions.lookup (sid, unsub.topicName, unsub.typeName)) (h rfl)
        simp only [Table.lookup_erase_eq, if_true, hentry] at hgone
        cases hgone
      · obtain ⟨reader, hlive⟩ := h id rfl
        rw [hreader] at hlive
        cases hlive

theorem writerAdded_created {topicName typeName : String} {qos : QosSet} {topic : Topic} {u : BridgeInner}
    (hnone : s.writers.findByTopic sid topicName typeName qos.normalize = none) (ht : topic.topicName = topicName)
    (hT : topic.typeName = typeName) (hfree : s.writers.writers.lookup s.writers.nextWriterId = none) :
    let writer := createdWriter dds topic qos s.writers.nextWriterId
    WriterAdded sid topicName typeName qos s { u with writers := s.writers.register writer sid } writer where
  free := hfree
  writers _ := Table.lookup_insert_eq _ _ _ _
  lists _ := WriterRegistry.ids_register _ _ _
  named := ⟨ht, hT⟩
  sameQos := rfl
  again dds' r keys := implicitWriter_found dds' r keys (findByTopic_created hnone ht hT _)

/-- A write that fails leaves the writer that it has created behind, in the place of the one that had its id. -/
theorem createdWrite_leaves_iff (hs : TopicsNamed s) {topicName typeName : String} {qos : QosSet} {keys : KeyDescriptors}
    {topic : Topic} {u : BridgeInner}
    (hreq : writeRequest maxPayloadSize data = some (r, op, .topicName topicName typeName qos keys keyData))
    (hnone : s.writers.findByTopic sid topicName typeName qos.normalize = none)
    (htopic : getOrCreateTopic dds r topicName typeName (!keys.keys.isEmpty) keys s = .ok (topic, u))
    (hrc : 0 ≤ dds.createWriter) :
    LeavesRegistries s (.frame dds sid data maxPayloadSize) ↔
      (dds.code op < 0 → s.writers.writers.lookup s.writers.nextWriterId = none) := by
  obtain ⟨ht, hT, hu, hwriter⟩ := implicitWriter_created qos hs hnone htopic hrc
  rcases frame_of_writer hreq hwriter with ⟨hcode, rest, t, he, -⟩ | ⟨hcode, text, he⟩
  · refine iff_of_true ?_ fun h => absurd h (Int32.not_lt.mpr hcode)
    rintro ⟨resp, rest', t', he', herr⟩
    rw [he] at he'
    cases he'
    exact absurd herr (not_isError_ok r [])
  · have hact : s.act (.frame dds sid data maxPayloadSize) = _ := after_of_ok he
    refine ⟨fun h _ => ?_, fun h _ => ?_⟩
    · have hleaves := h ⟨_, [], _, he, isError_error r .ddsError text⟩
      simp only [hreq, hact] at hleaves
      rcases hleaves.2 with hw | ⟨writer, hadded⟩
      · have hnext := congrArg WriterRegistry.nextWriterId hw
        exact absurd hnext (by simp [WriterRegistry.register])
      · have hlists := hadded.lists sid
        rw [WriterRegistry.ids_register, if_pos rfl, if_pos rfl] at hlists
        have hid := List.singleton_inj.mp (List.append_cancel_left hlists)
        rw [show s.writers.nextWriterId = writer.writerId from hid]
        exact hadded.free
    · simp only [hreq, hact]
      exact ⟨hu.readers, .inr ⟨_, writerAdded_created hnone ht hT (h hcode)⟩⟩

theorem topicWrite_leaves_iff (hs : TopicsNamed s) {topicName typeName : String} {qos : QosSet} {keys : KeyDescriptors}
    (hreq : writeRequest maxPayloadSize data = some (r, op, .topicName topicName typeName qos keys keyData)) :
    LeavesRegistries s (.frame dds sid data maxPayloadSize) ↔
      (s.writers.findByTopic sid topicName typeName qos.normalize = none →
        (∃ topic u, getOrCreateTopic dds r topicName typeName (!keys.keys.isEmpty) keys s = .ok (topic, u)) →
        0 ≤ dds.createWriter → dds.code op < 0 → s.writers.writers.lookup s.writers.nextWriterId = none) := by
  have hsame : SameRegistries s (s.act (.frame dds sid data maxPayloadSize)) →
      LeavesRegistries s (.frame dds sid data maxPayloadSize) := by
    intro h _
    simp only [hreq]
    exact ⟨h.readers, .inl h.writers⟩
  cases hfind : s.writers.findByTopic sid topicName typeName qos.normalize with
  | some writer =>
    have hwriter := implicitWriter_found dds r keys hfind
    exact iff_of_true (hsame (frame_after_writer hreq hwriter).1) fun h => by cases h
  | none =>
    by_cases hcreate : ∃ topic u, getOrCreateTopic dds r topicName typeName (!keys.keys.isEmpty) keys s = .ok (topic, u) ∧
        0 ≤ dds.createWriter
    · obtain ⟨topic, u, htopic, hrc⟩ := hcreate
      rw [createdWrite_leaves_iff hs hreq hfind htopic hrc]
      exact ⟨fun h _ _ _ hcode => h hcode, fun h hcode => h rfl ⟨topic, u, htopic⟩ hrc hcode⟩
    · refine iff_of_true ?_ fun _ htopic hrc _ => ?_
      · rcases implicitWriter_fails qos hs hfind hcreate with ⟨text, u, herr, hu⟩ | hpanic
        · have hact : s.act (.frame dds sid data maxPayloadSize) = u := after_of_ok (frame_of_error hreq herr)
          exact hsame (hact ▸ hu)
        · rintro ⟨resp, rest, t, he, -⟩
          rw [frame_of_panic hreq hpanic] at he
          cases he
      · obtain ⟨topic, u, htopic⟩ := htopic
        exact absurd ⟨topic, u, htopic, hrc⟩ hcreate

theorem leaves_of_other
    (hunsub : ¬ ∃ header payload unsub, checkFrame maxPayloadSize data = .ok (header, payload) ∧
      header.msgType = .unsubscribe ∧ parseUnsubscribe payload = .ok unsub)
    (hwrite : ¬ ∃ r op topicName typeName qos keys keyData,
      writeRequest maxPayloadSize data = some (r, op, .topicName topicName typeName qos keys keyData)) :
    LeavesRegistries s (.frame dds sid data maxPayloadSize) := by
  intro herr
  have hsame := same_of_error herr
    (fun header payload unsub hcheck htype hparse => hunsub ⟨header, payload, unsub, hcheck, htype, hparse⟩)
    fun r op t T qos keys keyData hreq => hwrite ⟨r, op, t, T, qos, keys, keyData, hreq⟩
  cases hreq : writeRequest maxPayloadSize data with
  | none => exact ⟨hsame.readers, hsame.writers⟩
  | some p =>
    obtain ⟨r, op, mode⟩ := p
    cases mode with
    | topicName t T qos keys keyData => exact absurd ⟨r, op, t, T, qos, keys, keyData, hreq⟩ hwrite
    | writerId => exact ⟨hsame.readers, hsame.writers⟩

theorem leavesRegistries_iff (hs : TopicsNamed s) (action : BridgeAction) :
    LeavesRegistries s action ↔ IdsHold s action := by
  cases action with
  | register | unregister | channel => exact Iff.rfl
  | frame dds sid data maxPayloadSize =>
    by_cases hunsub : ∃ header payload unsub, checkFrame maxPayloadSize data = .ok (header, payload) ∧
        header.msgType = .unsubscribe ∧ parseUnsubscribe payload = .ok unsub
    · obtain ⟨header, payload, unsub, hcheck, htype, hparse⟩ := hunsub
      rw [unsubscribe_leaves_iff hcheck htype hparse]
      refine ⟨fun h => ⟨fun header' payload' unsub' id hcheck' _ hparse' hentry => ?_, ?_⟩, fun h id => ?_⟩
      · rw [hcheck] at hcheck'
        cases hcheck'
        rw [hparse] at hparse'
        cases hparse'
        exact h id hentry
      · intro r op topicName typeName qos keys keyData topic u hreq
        rw [writeRequest_unsubscribe hcheck htype] at hreq
        cases hreq
      · exact h.1 header payload unsub id hcheck htype hparse
    · by_cases hwrite : ∃ r op topicName typeName qos keys keyData,
          writeRequest maxPayloadSize data = some (r, op, .topicName topicName typeName qos keys keyData)
      · obtain ⟨r, op, topicName, typeName, qos, keys, keyData, hreq⟩ := hwrite
        rw [topicWrite_leaves_iff hs hreq]
        refine ⟨fun h => ⟨fun header payload unsub id hcheck htype hparse _ => ?_, ?_⟩, fun h hnone htopic hrc hcode => ?_⟩
        · exact absurd ⟨header, payload, unsub, hcheck, htype, hparse⟩ hunsub
        · intro r' op' topicName' typeName' qos' keys' keyData' topic u hreq' hnone htopic hrc hcode
          rw [hreq] at hreq'
          cases hreq'
          exact h hnone ⟨topic, u, htopic⟩ hrc hcode
        · obtain ⟨topic, u, htopic⟩ := htopic
          exact h.2 r op topicName typeName qos keys keyData topic u hreq hnone htopic hrc hcode
      · refine iff_of_true (leaves_of_other hunsub hwrite) ⟨fun header payload unsub id hcheck htype hparse _ => ?_, ?_⟩
        · exact absurd ⟨header, payload, unsub, hcheck, htype, hparse⟩ hunsub
        · intro r op t T qos keys keyData topic u hreq
          exact absurd ⟨r, op, t, T, qos, keys, keyData, hreq⟩ hwrite

theorem idsHold_of_fresh (hs : TopicsNamed s) (hinv : SessionsInv s) {action : BridgeAction}
    (hfresh : DrawsFresh s (s.act action)) : IdsHold s action := by
  cases action with
  | register | unregister | channel => trivial
  | frame dds sid data maxPayloadSize =>
    refine ⟨fun header payload unsub id _ _ _ hentry => ?_, ?_⟩
    · obtain ⟨reader, hlive, -⟩ := hinv.subscriptions.live sid unsub.topicName unsub.typeName id hentry
      exact ⟨reader, hlive⟩
    · intro r op topicName typeName qos keys keyData topic u hreq hnone htopic hrc hcode
      obtain ⟨-, -, hu, hwriter⟩ := implicitWriter_created qos hs hnone htopic hrc
      refine hfresh.1 ?_
      rw [(frame_after_writer hreq hwriter).1.writers]
      simp [WriterRegistry.register]

end

/-! ## Runs -/

/-- **Failed requests leave the registries** in a run exactly when each UNSUBSCRIBE names an entry that leads to a
reader, and each writer of a write that fails gets an id of its own; and so it is where no id in use is ever drawn. -/
theorem failed_requests_leave_iff {handle : Int32} {config : BridgeConfig} {tr : List (BridgeAction × BridgeInner)}
    (hrun : Runs.Run BridgeStep (BridgeInner.create handle config) tr) :
    (Runs.EachStep LeavesRegistries (BridgeInner.create handle config) tr ↔
        Runs.EachStep IdsHold (BridgeInner.create handle config) tr) ∧
      (Runs.EachStep (fun s action => DrawsFresh s (s.act action)) (BridgeInner.create handle config) tr →
        Runs.EachStep IdsHold (BridgeInner.create handle config) tr) := by
  have hnamed : Runs.Always TopicsNamed (BridgeInner.create handle config) tr :=
    hrun.reachable.mono fun s hr => topicsNamed_of_reachable ⟨handle, config, hr⟩
  refine ⟨Runs.eachStep_congr hnamed fun s hs action => leavesRegistries_iff hs action, fun hfresh => ?_⟩
  have hstep : ∀ s action t, TopicsNamed s ∧ SessionsInv s → BridgeStep s action t → DrawsFresh s (s.act action) →
      TopicsNamed t ∧ SessionsInv t := by
    rintro s action t ⟨hs, hinv⟩ hst hdraws
    cases hst
    exact ⟨topicsNamed_act hs action, hinv.act action hdraws⟩
  have hinv := Runs.always_of_eachStep hstep hrun ⟨hnamed.1, sessionsInv_create handle config⟩ hfresh
  exact hfresh.imp hinv fun s hs action hdraws => idsHold_of_fresh hs.1 hs.2 hdraws

/-- WRITE to the topic `a` and the type `T`. -/
def writeFrame : Bytes :=
  [0x44, 0x42, 1, 3, 7, 0, 0, 0, 14, 0, 0, 0, 0, 1, 0, 0, 0, 0x61, 1, 0, 0, 0, 0x54, 0, 0, 9]

def ddsWriteFails : DdsReturns := { ddsSucceeds with write := -1 }

/-- Session 1 keeps writer 1 until the counter is back at its id; a write of session 2 that fails replaces it. -/
theorem failed_write_replaces :
    ¬ ∀ handle config tr, Runs.Run BridgeStep (BridgeInner.create handle config) tr →
      Runs.EachStep LeavesRegistries (BridgeInner.create handle config) tr := by
  intro h
  obtain ⟨s, hreach, hs⟩ := held_one
  have hleaves : LeavesRegistries s (.frame ddsWriteFails 2 writeFrame 1024) :=
    hreach.step_ok rfl fun tr htr => h 1 _ tr htr
  have hnone : s.writers.findByTopic 2 "a" "T" (QosSet.normalize ⟨[]⟩) = none := by
    rw [Option.eq_none_iff_forall_ne_some]
    intro writer hfound
    obtain ⟨w, hw, -⟩ := WriterRegistry.findByTopic_owns hs.owners hfound
    have howner := WriterRegistry.owner_eq_some.mpr ⟨writer, hw⟩
    by_cases hone : w = 1
    · rw [hone, hs.held] at howner
      exact absurd howner (by decide)
    · rw [hs.only w hone] at howner
      cases howner
  have htopic : getOrCreateTopic ddsWriteFails 7 "a" "T" false ⟨[]⟩ s = .ok (chatterTopic, s) := by
    simp only [getOrCreateTopic, orDdsError, mapErr, onParticipant, zoom, DdsParticipant.getOrCreateTopic, bind_apply,
      Prog.get, Res.ok_bind, hs.topic, pure_apply]
  have hholds := (leavesRegistries_iff (topicsNamed_of_reachable ⟨1, _, hreach⟩) _).mp hleaves
  have hfree := hholds.2 7 .write "a" "T" ⟨[]⟩ ⟨[]⟩ [9] chatterTopic s rfl hnone htopic (by decide) (by decide)
  obtain ⟨writer, hw⟩ := WriterRegistry.owner_eq_some.mp hs.held
  rw [hs.next, hw] at hfree
  cases hfree

/-- `failed_requests_leave_iff` where the write that fails is the first request. -/
theorem first_write_fails :
    Runs.EachStep LeavesRegistries idleBridge [(.frame ddsWriteFails 1 writeFrame 1024,
      idleBridge.act (.frame ddsWriteFails 1 writeFrame 1024))] :=
  have hresult := failed_requests_leave_iff (.cons rfl (.nil _))
  hresult.1.mpr (hresult.2 ⟨⟨fun _ => rfl, fun _ => rfl⟩, trivial⟩)

end DdsBridge
