import DdsBridge.Canonical
import DdsBridge.Subscriptions

/-!
# Writes

The three requests that send a sample: they find a writer, in topic-name mode one they may have to create, and then
make one DDS call. What `do_write_op` does, case by case.
-/

namespace DdsBridge

open BridgeInner Prog

def WriteOp.ofMsgType : MsgType → Option WriteOp
  | .write => some .write
  | .dispose => some .dispose
  | .writeDispose => some .writeDispose
  | _ => none

/-- The request that a frame carries, if it is a WRITE, DISPOSE or WRITE_DISPOSE. -/
def writeRequest (maxPayloadSize : Nat) (data : Bytes) : Option (UInt32 × WriteOp × WriteMode) :=
  match checkFrame maxPayloadSize data with
  | .ok (header, payload) =>
    match WriteOp.ofMsgType header.msgType, parseWriteMode payload with
    | some op, .ok mode => some (header.requestId, op, mode)
    | _, _ => none
  | _ => none

def DdsReturns.code (dds : DdsReturns) : WriteOp → Int32
  | .write => dds.write
  | .dispose => dds.dispose
  | .writeDispose => dds.writeDispose

/-- What is left to do once the writer has been used. -/
def finishWrite (sid : UInt64) (mode : WriteMode) (op : WriteOp) (resp : Bytes) : Prog BridgeInner Bytes (List Bytes) :=
  match op with
  | .write => pure [resp]
  | _ => respWithDisposeNotification sid resp mode

def createdWriter (dds : DdsReturns) (topic : Topic) (qos : QosSet) (writerId : UInt32) : DdsWriter where
  handle := { handle := dds.createWriter, qos := makeQos dds.createQos qos }
  writerId
  topic
  qosNormalized := qos.normalize

/-! ## The frame -/

section
variable {dds : DdsReturns} {sid : UInt64} {data : Bytes} {maxPayloadSize : Nat} {r : UInt32} {op : WriteOp}
  {mode : WriteMode}

theorem writeRequest_eq_some (h : writeRequest maxPayloadSize data = some (r, op, mode)) :
    ∃ header payload, checkFrame maxPayloadSize data = .ok (header, payload) ∧ header.requestId = r ∧
      WriteOp.ofMsgType header.msgType = some op ∧ parseWriteMode payload = .ok mode := by
  unfold writeRequest at h
  split at h
  · rename_i hcheck
    split at h
    · rename_i hop hmode
      cases h
      exact ⟨_, _, hcheck, rfl, hop, hmode⟩
    · cases h
  · cases h

theorem processBinaryFrame_write (h : writeRequest maxPayloadSize data = some (r, op, mode)) :
    processBinaryFrame dds sid data maxPayloadSize =
      (doWriteOp dds sid r mode op >>= finishWrite sid mode op).recover fun errorMsg => [errorMsg] := by
  obtain ⟨header, payload, hcheck, rfl, hop, hmode⟩ := writeRequest_eq_some h
  unfold processBinaryFrame
  rw [hcheck]
  cases htype : header.msgType with
  | write =>
    rw [htype] at hop
    cases hop
    simp only [handleMessage, dispatch, handleWrite, parseWrite, hmode, htype]
    rfl
  | dispose =>
    rw [htype] at hop
    cases hop
    simp only [handleMessage, dispatch, handleDispose, parseDispose, hmode, htype]
    rfl
  | writeDispose =>
    rw [htype] at hop
    cases hop
    simp only [handleMessage, dispatch, handleWriteDispose, parseWriteDispose, hmode, htype]
    rfl
  | _ =>
    rw [htype] at hop
    cases hop

end

/-! ## The writer -/

section
variable {dds : DdsReturns} {sid : UInt64} {r : UInt32} {s t : BridgeInner}

theorem executeWriteOp_eq (dds : DdsReturns) (r : UInt32) (writer : DdsWriter) (op : WriteOp) (s : BridgeInner) :
    (0 ≤ dds.code op ∧ executeWriteOp dds r writer op s = .ok ((), s)) ∨
      (dds.code op < 0 ∧ ∃ text, executeWriteOp dds r writer op s = .err (makeErrorResponse r .ddsError text, s)) := by
  have hcall : ∀ (rc : Int32) (e : DdsError), let m : Prog BridgeInner Bytes Unit := orDdsError r (Prog.ofRes
      (if rc < 0 then .err e else .ok ()))
      (0 ≤ rc ∧ m s = .ok ((), s)) ∨ (rc < 0 ∧ ∃ text, m s = .err (makeErrorResponse r .ddsError text, s)) := by
    intro rc e
    by_cases h : rc < 0
    · simp only [if_pos h]
      exact .inr ⟨h, _, rfl⟩
    · simp only [if_neg h]
      exact .inl ⟨Int32.not_lt.mp h, rfl⟩
  cases op with
  | write => exact hcall dds.write _
  | dispose => exact hcall dds.dispose _
  | writeDispose => exact hcall dds.writeDispose _

theorem getOrCreateTopic_cases (dds : DdsReturns) (r : UInt32) (topicName typeName : String) (isKeyed : Bool)
    (keys : KeyDescriptors) (hs : TopicsNamed s) :
    (∃ topic u, getOrCreateTopic dds r topicName typeName isKeyed keys s = .ok (topic, u) ∧ SameRegistries s u ∧
      topic.topicName = topicName ∧ topic.typeName = typeName) ∨
    (∃ text u, getOrCreateTopic dds r topicName typeName isKeyed keys s = .err (makeErrorResponse r .ddsError text, u) ∧
      SameRegistries s u) ∨
    getOrCreateTopic dds r topicName typeName isKeyed keys s = .panic := by
  have hsame := same_getOrCreateTopic dds r topicName typeName isKeyed keys
  have hnamed := wp_getOrCreateTopic dds r topicName typeName isKeyed keys hs
  have herror : ∀ e u, getOrCreateTopic dds r topicName typeName isKeyed keys s = .err (e, u) →
      ∃ text, e = makeErrorResponse r .ddsError text := by
    intro e u h
    unfold getOrCreateTopic orDdsError mapErr at h
    split at h
    · cases h
    · cases h
      exact ⟨_, rfl⟩
    · cases h
  cases h : getOrCreateTopic dds r topicName typeName isKeyed keys s with
  | ok p =>
    obtain ⟨ht, hT, -⟩ := post_of_ok hnamed h
    exact .inl ⟨p.1, p.2, rfl, hsame.ok h, ht, hT⟩
  | err p =>
    obtain ⟨text, he⟩ := herror p.1 p.2 h
    exact .inr (.inl ⟨text, p.2, by rw [← he], hsame.err h⟩)
  | panic => exact .inr (.inr rfl)

end

namespace WriterRegistry

/-- The writer with this id, if it is one that `find_by_topic` looks for. -/
def matching (topicName typeName : String) (qos : QosSet) (reg : WriterRegistry) (w : UInt32) : Option DdsWriter :=
  match reg.writers.lookup w with
  | some (writer, _) =>
    if writer.topic.topicName = topicName ∧ writer.topic.typeName = typeName ∧
      writer.qosNormalized.normalizedEq qos then some writer else none
  | none => none

theorem findByTopic_eq (reg : WriterRegistry) (sid : UInt64) (topicName typeName : String) (qos : QosSet) :
    reg.findByTopic sid topicName typeName qos = (reg.ids sid).findSome? (matching topicName typeName qos reg) := by
  unfold findByTopic ids
  cases reg.sessionWriters.lookup sid with
  | none => rfl
  | some l => rfl

theorem findByTopic_register {reg : WriterRegistry} {sid : UInt64} {topicName typeName : String} {qos : QosSet}
    {writer : DdsWriter} (hnone : reg.findByTopic sid topicName typeName qos = none)
    (ht : writer.topic.topicName = topicName) (hT : writer.topic.typeName = typeName)
    (hqos : writer.qosNormalized.normalizedEq qos = true) :
    (reg.register writer sid).findByTopic sid topicName typeName qos = some writer := by
  have hnew : matching topicName typeName qos (reg.register writer sid) writer.writerId = some writer := by
    simp only [matching, register, Table.lookup_insert_eq, if_true]
    exact if_pos ⟨ht, hT, hqos⟩
  have hold : ∀ w, w ≠ writer.writerId →
      matching topicName typeName qos (reg.register writer sid) w = matching topicName typeName qos reg w := by
    intro w hw
    simp only [matching, register, Table.lookup_insert_eq, if_neg hw]
  rw [findByTopic_eq, List.findSome?_eq_none_iff] at hnone
  rw [findByTopic_eq, ids_register, if_pos rfl]
  cases hfound : (reg.ids sid ++ [writer.writerId]).findSome?
      (matching topicName typeName qos (reg.register writer sid)) with
  | none =>
    rw [List.findSome?_eq_none_iff.mp hfound writer.writerId (by simp)] at hnew
    cases hnew
  | some found =>
    obtain ⟨w, hmem, hw⟩ := List.exists_of_findSome?_eq_some hfound
    by_cases hwid : w = writer.writerId
    · rw [hwid, hnew] at hw
      rw [Option.some.inj hw]
    · have hids : w ∈ reg.ids sid := by simpa [hwid] using hmem
      rw [hold w hwid, hnone w hids] at hw
      cases hw

end WriterRegistry

theorem normalizedEq_normalize (qos : QosSet) : qos.normalize.normalizedEq qos.normalize = true := by
  unfold QosSet.normalizedEq
  simp

section
variable {dds : DdsReturns} {sid : UInt64} {r : UInt32} {topicName typeName : String} {qos : QosSet}
  {keys : KeyDescriptors} {s : BridgeInner}

theorem implicitWriter_found (dds : DdsReturns) (r : UInt32) (keys : KeyDescriptors) {writer : DdsWriter}
    (h : s.writers.findByTopic sid topicName typeName qos.normalize = some writer) :
    implicitWriter dds sid r topicName typeName qos keys s = .ok (writer, s) := by
  simp only [implicitWriter, bind_apply, Prog.get, Res.ok_bind, h, reduceCtorEq, if_false, pure_apply]

theorem findByTopic_created {topic : Topic} (hnone : s.writers.findByTopic sid topicName typeName qos.normalize = none)
    (ht : topic.topicName = topicName) (hT : topic.typeName = typeName) (id : UInt32) :
    (s.writers.register (createdWriter dds topic qos id) sid).findByTopic sid topicName typeName qos.normalize =
      some (createdWriter dds topic qos id) :=
  WriterRegistry.findByTopic_register hnone ht hT (normalizedEq_normalize qos)

theorem implicitWriter_created (qos : QosSet) (hs : TopicsNamed s) {topic : Topic} {u : BridgeInner}
    (hnone : s.writers.findByTopic sid topicName typeName qos.normalize = none)
    (htopic : getOrCreateTopic dds r topicName typeName (!keys.keys.isEmpty) keys s = .ok (topic, u))
    (hrc : 0 ≤ dds.createWriter) :
    let writer := createdWriter dds topic qos s.writers.nextWriterId
    topic.topicName = topicName ∧ topic.typeName = typeName ∧ SameRegistries s u ∧
      implicitWriter dds sid r topicName typeName qos keys s =
        .ok (writer, { u with writers := s.writers.register writer sid }) := by
  intro writer
  rcases getOrCreateTopic_cases dds r topicName typeName (!keys.keys.isEmpty) keys hs with
    ⟨topic', u', he, hsame, ht, hT⟩ | ⟨text, u', he, -⟩ | he
  · rw [htopic] at he
    cases he
    refine ⟨ht, hT, hsame, ?_⟩
    have hcreate : createWriter dds sid r topic qos u =
        .ok (writer.writerId, { u with writers := s.writers.register writer sid }) := by
      simp only [createWriter, bind_apply, Prog.get, Res.ok_bind, orDdsError, mapErr, ofRes, DdsWriter.new,
        if_neg (Int32.not_lt.mpr hrc), pure_apply, Prog.modify]
      rw [hsame.writers]
      rfl
    have hfound : (s.writers.register writer sid).findByTopic sid topicName typeName qos.normalize = some writer :=
      findByTopic_created hnone ht hT _
    simp only [implicitWriter, bind_apply, Prog.get, Res.ok_bind, hnone, if_true, htopic, hcreate, hfound, pure_apply]
  · rw [htopic] at he
    cases he
  · rw [htopic] at he
    cases he

/-- Where no writer is found and none is created, the registries stay. -/
theorem implicitWriter_fails (qos : QosSet) (hs : TopicsNamed s)
    (hnone : s.writers.findByTopic sid topicName typeName qos.normalize = none)
    (hcreate : ¬ ∃ topic u, getOrCreateTopic dds r topicName typeName (!keys.keys.isEmpty) keys s = .ok (topic, u) ∧
      0 ≤ dds.createWriter) :
    (∃ text u, implicitWriter dds sid r topicName typeName qos keys s = .err (makeErrorResponse r .ddsError text, u) ∧
      SameRegistries s u) ∨ implicitWriter dds sid r topicName typeName qos keys s = .panic := by
  rcases getOrCreateTopic_cases dds r topicName typeName (!keys.keys.isEmpty) keys hs with
    ⟨topic, u, he, hsame, -⟩ | ⟨text, u, he, hsame⟩ | he
  · have hrc : dds.createWriter < 0 := Int32.not_le.mp fun hrc => hcreate ⟨topic, u, he, hrc⟩
    have hfails : ∃ text, createWriter dds sid r topic qos u = .err (makeErrorResponse r .ddsError text, u) := by
      simp only [createWriter, bind_apply, Prog.get, Res.ok_bind, orDdsError, mapErr, ofRes, DdsWriter.new, if_pos hrc]
      exact ⟨_, rfl⟩
    obtain ⟨text, hfails⟩ := hfails
    refine .inl ⟨text, u, ?_, hsame⟩
    simp only [implicitWriter, bind_apply, Prog.get, Res.ok_bind, hnone, if_true, he, hfails, Res.err_bind]
  · refine .inl ⟨text, u, ?_, hsame⟩
    simp only [implicitWriter, bind_apply, Prog.get, Res.ok_bind, hnone, if_true, he, Res.err_bind]
  · refine .inr ?_
    simp only [implicitWriter, bind_apply, Prog.get, Res.ok_bind, hnone, if_true, he, Res.panic_bind]

end

/-! ## The frame of a write in topic-name mode -/

section
variable {dds : DdsReturns} {sid : UInt64} {r : UInt32} {op : WriteOp} {topicName typeName : String} {qos : QosSet}
  {keys : KeyDescriptors} {data keyData : Bytes} {maxPayloadSize : Nat} {s u : BridgeInner}

theorem finishWrite_ok (sid : UInt64) (mode : WriteMode) (op : WriteOp) (resp : Bytes) (s : BridgeInner) :
    ∃ rest t, finishWrite sid mode op resp s = .ok (resp :: rest, t) ∧ SameRegistries s t := by
  have hnotice : ∃ rest t, respWithDisposeNotification sid resp mode s = .ok (resp :: rest, t) ∧ SameRegistries s t := by
    have hsame := same_notification sid resp mode s
    unfold wp at hsame
    unfold respWithDisposeNotification at hsame ⊢
    rw [bind_of_ok (show (Prog.get : Prog BridgeInner Bytes _) s = .ok (s, s) from rfl)] at hsame ⊢
    cases hp : disposedTopic s mode with
    | none => exact ⟨[], s, rfl, Std.Refl.refl s⟩
    | some p =>
      rw [hp] at hsame
      exact ⟨_, _, rfl, hsame⟩
  cases op with
  | write => exact ⟨[], s, rfl, Std.Refl.refl s⟩
  | dispose => exact hnotice
  | writeDispose => exact hnotice

variable (hreq : writeRequest maxPayloadSize data = some (r, op, .topicName topicName typeName qos keys keyData))
include hreq

/-- Once there is a writer, the request depends on what DDS says to it. -/
theorem frame_of_writer {writer : DdsWriter}
    (h : implicitWriter dds sid r topicName typeName qos keys s = .ok (writer, u)) :
    (0 ≤ dds.code op ∧ ∃ rest t, processBinaryFrame dds sid data maxPayloadSize s = .ok (okResponse r [] :: rest, t) ∧
      SameRegistries u t) ∨
    (dds.code op < 0 ∧ ∃ text,
      processBinaryFrame dds sid data maxPayloadSize s = .ok ([makeErrorResponse r .ddsError text], u)) := by
  rw [processBinaryFrame_write hreq]
  unfold recover doWriteOp
  rcases executeWriteOp_eq dds r writer op u with ⟨hcode, he⟩ | ⟨hcode, text, he⟩
  · obtain ⟨rest, t, hfinish, hsame⟩ := finishWrite_ok sid (.topicName topicName typeName qos keys keyData) op
      (okResponse r []) u
    refine .inl ⟨hcode, rest, t, ?_, hsame⟩
    simp only [bind_apply, h, Res.ok_bind, he, pure_apply, hfinish]
  · refine .inr ⟨hcode, text, ?_⟩
    simp only [bind_apply, h, Res.ok_bind, he, Res.err_bind]

theorem frame_of_error {e : Bytes} (h : implicitWriter dds sid r topicName typeName qos keys s = .err (e, u)) :
    processBinaryFrame dds sid data maxPayloadSize s = .ok ([e], u) := by
  rw [processBinaryFrame_write hreq]
  unfold recover doWriteOp
  simp only [bind_apply, h, Res.err_bind]

theorem frame_of_panic (h : implicitWriter dds sid r topicName typeName qos keys s = .panic) :
    processBinaryFrame dds sid data maxPayloadSize s = .panic := by
  rw [processBinaryFrame_write hreq]
  unfold recover doWriteOp
  simp only [bind_apply, h, Res.panic_bind]

end

end DdsBridge
