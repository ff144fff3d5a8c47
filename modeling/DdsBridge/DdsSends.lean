import DdsBridge.DdsLedger
import DdsBridge.FailedRequests
import DdsBridge.Reports

/-!
# Samples handed to DDS

The bridge calls `dds_write`, `dds_dispose` or `dds_writedispose` only for the request that asks for it, at most once
and with exactly its bytes; the request is acknowledged if and only if the call was made and DDS took the sample. The
writer is one of the session that serves the request, unless a writer id came round again.
-/

namespace DdsBridge

def DdsCall.isSend : DdsCall → Bool
  | .send _ _ _ _ => true
  | _ => false

namespace Calls

open Prog

/-- The calls so far that handed over a sample. -/
def sends (t : Traced BridgeInner DdsCall) : List DdsCall := t.calls.filter DdsCall.isSend

/-- The session's writer for the topic, type and QoS of the request, or with its id. -/
def Serves (sid : UInt64) : WriteMode → WriterRegistry → DdsWriter → Prop
  | .topicName topicName typeName qos _ _, writers, writer => writers.Owns sid topicName typeName qos.normalize writer
  | .writerId writerId _ _, writers, writer => writers.writers.lookup writerId = some (writer, sid)

/-- From `t` to `t'` one sample was handed over, that of the request, through a writer of which `W` holds. -/
def HandedOverBy (W : WriterRegistry → DdsWriter → Prop) (dds : DdsReturns) (op : WriteOp) (mode : WriteMode)
    (t t' : Traced BridgeInner DdsCall) : Prop :=
  ∃ writer, W t'.state.writers writer ∧
    sends t' = sends t ++ [.send op writer.handle.handle mode.sample (dds.code op)]

def HandedOver (dds : DdsReturns) (op : WriteOp) (mode : WriteMode) (t t' : Traced BridgeInner DdsCall) : Prop :=
  HandedOverBy (fun _ _ => True) dds op mode t t'

/-! ## Parts that hand over nothing -/

/-- No sample was handed over from the one state to the other. -/
def SameSends {σ : Type} (t t' : Traced σ DdsCall) : Prop :=
  t'.calls.filter DdsCall.isSend = t.calls.filter DdsCall.isSend

instance {σ : Type} : Std.Refl (SameSends (σ := σ)) where
  refl _ := Eq.refl _

instance {σ : Type} : IsTrans (Traced σ DdsCall) SameSends where
  trans _ _ _ h h' := Eq.trans h' h

section
variable {σ τ ε ε' α : Type}

theorem noSends_quiet (m : Prog σ ε α) : Within SameSends (quiet m : Calling σ ε α) := by
  intro t
  rw [wp_quiet]
  exact wp_of_forall (fun _ _ => Eq.refl _) (fun _ _ => Eq.refl _) trivial

theorem noSends_calls {cs : List DdsCall} (h : ∀ c ∈ cs, c.isSend = false) :
    Within SameSends (calls cs : Calling σ ε Unit) := by
  intro t
  have hnone : cs.filter DdsCall.isSend = [] := List.filter_eq_nil_iff.mpr fun c hc => by simp [h c hc]
  simp [SameSends, hnone]

theorem noSends_zoom {m : Calling τ ε α} (hm : Within SameSends m) (part : σ → τ) (put : τ → σ → σ) :
    Within SameSends (m.zoomTraced part put) := by
  intro t
  rw [wp_zoomTraced]
  exact hm ⟨part t.state, t.calls⟩

theorem noSends_withQos {created : Bool} {qos : QosSet} {body : Option DdsQos → Calling σ ε α}
    (hm : ∀ q, Within SameSends (body q)) : Within SameSends (withQos created qos body) := by
  refine (noSends_calls fun c hc => ?_).bind fun _ t => ?_
  · obtain ⟨q, -, rfl⟩ := List.mem_map.mp hc
    simp [DdsCall.isSend]
  · rw [wp_atEnd]
    have hnone : ((makeQos created qos).toList.map DdsCall.deleteQos).filter DdsCall.isSend = [] := by
      refine List.filter_eq_nil_iff.mpr fun c hc => ?_
      obtain ⟨q, -, rfl⟩ := List.mem_map.mp hc
      simp [DdsCall.isSend]
    refine wp_mono (hm _ t) (fun _ u hu => ?_) (fun _ u hu => ?_) id
    · simpa [SameSends, hnone] using hu
    · simpa [SameSends, hnone] using hu

end

theorem noSends_topic (rc : Int32) (topicName typeName : String) (isKeyed : Bool) (keys : KeyDescriptors) :
    Within SameSends (DdsParticipant.getOrCreateTopic rc topicName typeName isKeyed keys) := by
  refine (noSends_quiet _).bind fun participant => ?_
  cases participant.topics.lookup (topicName, typeName) with
  | some topic => exact within_pure _
  | none =>
    refine (noSends_quiet _).bind fun _ => (noSends_quiet _).bind fun _ => ?_
    refine (noSends_calls (by simp [DdsCall.isSend])).bind fun _ => (noSends_quiet _).bind fun _ => ?_
    exact (noSends_quiet _).bind fun _ => within_pure _

theorem noSends_drops {ι σ ε : Type} (is : List ι) {drop : ι → DdsCall} (h : ∀ i, (drop i).isSend = false) :
    Within SameSends (calls (is.map drop) : Calling σ ε Unit) :=
  noSends_calls fun c hc => by
    obtain ⟨i, -, rfl⟩ := List.mem_map.mp hc
    exact h i

theorem noSends_subscribe (rc : Int32) (topic : Topic) (qos : Option DdsQos) (qosSet : QosSet) (sid : UInt64) :
    Within SameSends (ReaderRegistry.subscribe rc topic qos qosSet sid) := by
  refine (noSends_quiet _).bind fun reg => ?_
  simp only
  cases reg.shared (ReaderKey.new topic.topicName topic.typeName qosSet) with
  | some p => exact (noSends_quiet _).bind fun _ => within_pure _
  | none =>
    refine (noSends_calls (by simp [DdsCall.isSend])).bind fun _ => (noSends_quiet _).bind fun _ => ?_
    refine (noSends_quiet _).bind fun _ => (noSends_drops _ fun _ => ?_).bind fun _ => within_pure _
    simp [DdsReader.drop, DdsCall.isSend]

theorem noSends_unsubscribe {ε : Type} (topicName typeName : String) (sid : UInt64) :
    Within SameSends (ReaderRegistry.unsubscribe topicName typeName sid : Calling _ ε Bool) := by
  refine (noSends_quiet _).bind fun reg => ?_
  simp only
  cases reg.sessionSubscriptions.lookup (sid, topicName, typeName) with
  | none => exact within_pure _
  | some readerId =>
    refine (noSends_quiet _).bind fun _ => ?_
    cases reg.readers.lookup readerId with
    | none => exact within_pure _
    | some reader =>
      by_cases he : (reader.leave sid).subscribers.isEmpty
      · simp only [if_pos he]
        refine (noSends_quiet _).bind fun _ => (noSends_calls ?_).bind fun _ => within_pure _
        simp [DdsReader.drop, DdsCall.isSend]
      · simp only [if_neg he]
        exact (noSends_quiet _).bind fun _ => within_pure _

theorem noSends_delete (writerId : UInt32) (sid : UInt64) : Within SameSends (WriterRegistry.delete writerId sid) :=
  (noSends_quiet _).bind fun _ => (noSends_quiet _).bind fun _ => noSends_drops _ fun _ => by
    simp [DdsWriter.drop, DdsCall.isSend]

section
variable (dds : DdsReturns) (sid : UInt64) (r : UInt32)

theorem noSends_getOrCreateTopic (topicName typeName : String) (isKeyed : Bool) (keys : KeyDescriptors) :
    Within SameSends (getOrCreateTopic dds r topicName typeName isKeyed keys) :=
  (noSends_zoom (noSends_topic _ _ _ _ _) _ _).mapErr _

theorem noSends_createWriter (topic : Topic) (qos : QosSet) : Within SameSends (createWriter dds sid r topic qos) := by
  refine noSends_withQos fun q => (noSends_quiet _).bind fun inner => ?_
  refine (noSends_calls (by simp [DdsCall.isSend])).bind fun _ => (noSends_quiet _).bind fun writer => ?_
  refine Within.bind (noSends_zoom ?_ _ _) fun _ => within_pure _
  refine (noSends_quiet _).bind fun _ => (noSends_quiet _).bind fun _ => noSends_drops _ fun _ => ?_
  simp [DdsWriter.drop, DdsCall.isSend]

theorem noSends_implicitWriter (topicName typeName : String) (qos : QosSet) (keys : KeyDescriptors) :
    Within SameSends (implicitWriter dds sid r topicName typeName qos keys) := by
  refine (noSends_quiet _).bind fun inner => ?_
  by_cases hnone : inner.writers.findByTopic sid topicName typeName qos.normalize = none
  · simp only [hnone, if_true]
    refine (noSends_getOrCreateTopic dds r _ _ _ _).bind fun topic => ?_
    refine (noSends_createWriter dds sid r topic qos).bind fun _ => (noSends_quiet _).bind fun inner => ?_
    split
    · exact within_pure _
    · exact noSends_quiet _
  · simp only [hnone, if_false]
    refine (noSends_quiet _).bind fun inner => ?_
    split
    · exact within_pure _
    · exact noSends_quiet _

theorem noSends_findWriter (mode : WriteMode) : Within SameSends (findWriter dds sid r mode) := by
  cases mode with
  | topicName topicName typeName qos keys data => exact noSends_implicitWriter dds sid r topicName typeName qos keys
  | writerId writerId keyBytes data => exact (noSends_quiet _).bind fun _ => noSends_quiet _

/-- A request that sends no sample. -/
theorem noSends_dispatch {t : MsgType} (h : WriteOp.ofMsgType t = none) (payload : Bytes) :
    Within SameSends (dispatch dds sid r t payload) := by
  cases t with
  | subscribe =>
    refine (noSends_quiet _).bind fun sub => (noSends_getOrCreateTopic dds r _ _ _ _).bind fun topic => ?_
    refine noSends_withQos fun q => Within.bind ?_ fun _ => within_pure _
    exact (noSends_zoom (noSends_subscribe _ _ _ _ _) _ _).mapErr _
  | unsubscribe =>
    refine (noSends_quiet _).bind fun unsub => Within.bind (noSends_zoom (noSends_unsubscribe _ _ _) _ _) fun _ => ?_
    exact (noSends_quiet _).bind fun _ => within_pure _
  | write => cases h
  | dispose => cases h
  | writeDispose => cases h
  | createWriter =>
    refine (noSends_quiet _).bind fun cw => (noSends_getOrCreateTopic dds r _ _ _ _).bind fun topic => ?_
    exact (noSends_createWriter dds sid r topic cw.qos).bind fun _ => within_pure _
  | deleteWriter =>
    refine (noSends_quiet _).bind fun dw => Within.bind ?_ fun _ => within_pure _
    exact (noSends_zoom (noSends_delete _ _) _ _).mapErr _
  | _ => exact noSends_quiet _

end

/-! ## The request that sends -/

section
variable {dds : DdsReturns} {sid : UInt64} {r : UInt32} {t : Traced BridgeInner DdsCall}

/-- What the bridge needs of its history: topics under their names, writers in the lists of their owners. -/
structure Settled (inner : BridgeInner) : Prop where
  named : TopicsNamed inner
  owners : OwnersInv inner.writers

theorem wp_implicitWriter (hs : Settled t.state) (topicName typeName : String) (qos : QosSet) (keys : KeyDescriptors) :
    (DdsBridge.implicitWriter dds sid r topicName typeName qos keys).wp
      (fun writer u => u.writers.Owns sid topicName typeName qos.normalize writer) (fun e _ => IsError e) True t.state := by
  cases hfound : t.state.writers.findByTopic sid topicName typeName qos.normalize with
  | some writer =>
    rw [wp, implicitWriter_found dds r keys hfound]
    exact WriterRegistry.findByTopic_owns hs.owners hfound
  | none =>
    by_cases hcreate : ∃ topic u, DdsBridge.getOrCreateTopic dds r topicName typeName (!keys.keys.isEmpty) keys t.state =
        .ok (topic, u) ∧ 0 ≤ dds.createWriter
    · obtain ⟨topic, u, htopic, hrc⟩ := hcreate
      obtain ⟨ht, hT, -, hok⟩ := implicitWriter_created qos hs.named hfound htopic hrc
      rw [wp, hok]
      refine ⟨t.state.writers.nextWriterId, ?_, ht, hT, normalizedEq_normalize qos⟩
      exact (Table.lookup_insert_eq _ _ _ _).trans (if_pos rfl)
    · rcases implicitWriter_fails (r := r) qos hs.named hfound hcreate with ⟨text, u, herr, -⟩ | hpanic
      · rw [wp, herr]
        exact isError_error r _ text
      · rw [wp, hpanic]
        trivial

/-- What `findWriter` comes back with is a writer of which `W` holds, or an error. -/
def Finds (W : WriterRegistry → DdsWriter → Prop) (dds : DdsReturns) (sid : UInt64) (r : UInt32) (mode : WriteMode)
    (t : Traced BridgeInner DdsCall) : Prop :=
  (findWriter dds sid r mode).wp (fun writer u => W u.state.writers writer) (fun e _ => IsError e) True t

theorem finds_some (mode : WriteMode) : Finds (fun _ _ => True) dds sid r mode t := by
  cases mode with
  | topicName topicName typeName qos keys data =>
    have hreports : (DdsBridge.implicitWriter dds sid r topicName typeName qos keys).wp (fun _ _ => True)
        (fun e _ => IsError e) True t.state := by
      refine wp_mono (reportsErrors_implicitWriter dds sid r _ _ _ _ t.state trivial) (fun _ _ _ => trivial)
        (fun e _ h => ?_) id
      obtain ⟨-, -, code, text, -, rfl⟩ := h
      exact isError_error r code text
    exact (erases_implicitWriter dds sid r topicName typeName qos keys).wp hreports
  | writerId writerId keyBytes data =>
    unfold Finds findWriter DdsBridge.orWriterError
    simp only [wp_bind, wp_quiet, wp_get, wp_mapErr, wp_ofRes]
    exact ⟨fun _ _ => trivial, fun e _ => isError_error r _ _, fun _ => trivial⟩

theorem finds_own (hs : Settled t.state) (mode : WriteMode) :
    Finds (Serves sid mode) dds sid r mode t := by
  cases mode with
  | topicName topicName typeName qos keys data =>
    exact (erases_implicitWriter dds sid r topicName typeName qos keys).wp (wp_implicitWriter hs _ _ _ _)
  | writerId writerId keyBytes data =>
    unfold Finds findWriter DdsBridge.orWriterError
    simp only [wp_bind, wp_quiet, wp_get, wp_mapErr, wp_ofRes]
    exact ⟨fun writer hw => WriterRegistry.get_eq_ok.mp hw, fun e _ => isError_error r _ _, fun _ => trivial⟩

section
variable {W : WriterRegistry → DdsWriter → Prop}

theorem Finds.noSends {mode : WriteMode} (h : Finds W dds sid r mode t) :
    (findWriter dds sid r mode).wp (fun writer u => W u.state.writers writer ∧ sends u = sends t)
      (fun e u => IsError e ∧ sends u = sends t) True t :=
  wp_mono (wp_and h (noSends_findWriter dds sid r mode t)) (fun _ _ h => h) (fun _ _ h => h) id

theorem wp_doWriteOp {mode : WriteMode} (hf : Finds W dds sid r mode t) (op : WriteOp) :
    (doWriteOp dds sid r mode op).wp
      (fun resp u => resp = okResponse r [] ∧ 0 ≤ dds.code op ∧ HandedOverBy W dds op mode t u)
      (fun e u => IsError e ∧ (sends u = sends t ∨ dds.code op < 0 ∧ HandedOverBy W dds op mode t u)) True t := by
  unfold doWriteOp executeWriteOp
  rw [wp_bind]
  refine wp_mono hf.noSends (fun writer u h => ?_) (fun e u h => ⟨h.1, .inl h.2⟩) id
  have hsent : HandedOverBy W dds op mode t
      ⟨u.state, u.calls ++ [.send op writer.handle.handle mode.sample (dds.code op)]⟩ := by
    refine ⟨writer, h.1, ?_⟩
    rw [← h.2]
    simp [sends, DdsCall.isSend]
  simp only [wp_bind, wp_calls, wp_quiet, wp_pure]
  rcases executeWriteOp_eq dds r writer op u.state with ⟨hcode, he⟩ | ⟨hcode, text, he⟩
  · rw [wp, he]
    exact ⟨trivial, hcode, hsent⟩
  · rw [wp, he]
    exact ⟨isError_error r _ text, .inr ⟨hcode, hsent⟩⟩

end

end

section
variable {dds : DdsReturns} {sid : UInt64} {data : Bytes} {maxPayloadSize : Nat} {r : UInt32} {op : WriteOp}
  {mode : WriteMode} {t : Traced BridgeInner DdsCall}

theorem processBinaryFrame_sends (h : writeRequest maxPayloadSize data = some (r, op, mode)) :
    processBinaryFrame dds sid data maxPayloadSize =
      (doWriteOp dds sid r mode op >>= fun resp => quiet (finishWrite sid mode op resp)).recover
        fun errorMsg => [errorMsg] := by
  obtain ⟨header, payload, hcheck, rfl, hop, hmode⟩ := writeRequest_eq_some h
  unfold processBinaryFrame
  rw [hcheck]
  cases htype : header.msgType with
  | write =>
    rw [htype] at hop
    cases hop
    simp only [handleMessage, dispatch, handleWrite, parseWrite, hmode, htype]
    rfl
  | dispose =>
    rw [htype] at hop
    cases hop
    simp only [handleMessage, dispatch, handleDispose, parseDispose, hmode, htype]
    rfl
  | writeDispose =>
    rw [htype] at hop
    cases hop
    simp only [handleMessage, dispatch, handleWriteDispose, parseWriteDispose, hmode, htype]
    rfl
  | _ =>
    rw [htype] at hop
    cases hop

theorem noSends_parseError {α : Type} {x : Res ProtocolError α} (hx : ∀ a, x ≠ .ok a) (r : UInt32)
    (f : α → Calling BridgeInner Bytes (List Bytes)) : Within SameSends (quiet (parsed r x) >>= f) := by
  intro t
  rw [wp_bind, wp_quiet, parsed, wp_mapErr, wp_ofRes]
  exact ⟨fun a ha => absurd ha (hx a), fun _ _ => Eq.refl _, fun _ => trivial⟩

/-- Any other frame. -/
theorem noSends_frame (h : writeRequest maxPayloadSize data = none) :
    Within SameSends (processBinaryFrame dds sid data maxPayloadSize) := by
  unfold processBinaryFrame
  cases hcheck : checkFrame maxPayloadSize data with
  | err e => exact within_pure _
  | panic => exact fun _ => trivial
  | ok p =>
    obtain ⟨header, payload⟩ := p
    refine Within.recover ?_ _
    cases hop : WriteOp.ofMsgType header.msgType with
    | none => exact noSends_dispatch dds sid header.requestId hop payload
    | some op =>
      have hmode : ∀ mode, parseWriteMode payload ≠ .ok mode := by
        intro mode hmode
        rw [writeRequest, hcheck] at h
        simp only [hop, hmode] at h
        cases h
      cases htype : header.msgType with
      | write =>
        refine noSends_parseError (fun p hp => ?_) _ _
        obtain ⟨mode, hm, -⟩ := Res.map_eq_ok.mp hp
        exact hmode mode hm
      | dispose =>
        refine noSends_parseError (fun p hp => ?_) _ _
        obtain ⟨mode, hm, -⟩ := Res.map_eq_ok.mp hp
        exact hmode mode hm
      | writeDispose =>
        refine noSends_parseError (fun p hp => ?_) _ _
        obtain ⟨mode, hm, -⟩ := Res.map_eq_ok.mp hp
        exact hmode mode hm
      | _ =>
        rw [htype] at hop
        cases hop

/-- What a frame that carries a write comes back with. -/
theorem wp_writeFrame {W : WriterRegistry → DdsWriter → Prop}
    (hf : Finds W dds sid r mode t)
    (h : writeRequest maxPayloadSize data = some (r, op, mode)) :
    (processBinaryFrame dds sid data maxPayloadSize).wp (fun msgs u =>
      ((∃ rest, msgs = okResponse r [] :: rest) ∧ 0 ≤ dds.code op ∧
        HandedOverBy W dds op mode t u) ∨
      ((∃ e, msgs = [e] ∧ IsError e) ∧ (sends u = sends t ∨
        dds.code op < 0 ∧ HandedOverBy W dds op mode t u)))
      (fun _ _ => True) True t := by
  rw [processBinaryFrame_sends h, wp_recover, wp_bind]
  refine wp_mono (wp_doWriteOp hf op) (fun resp u hu => ?_) (fun e u hu => ?_) id
  · obtain ⟨rfl, hcode, writer, hserves, hsends⟩ := hu
    obtain ⟨rest, v, hfinish, hsame⟩ := finishWrite_ok sid mode op (okResponse r []) u.state
    rw [wp_quiet, wp, hfinish]
    exact .inl ⟨⟨rest, rfl⟩, hcode, writer, hsame.writers ▸ hserves, hsends⟩
  · exact .inr ⟨⟨e, rfl, hu.1⟩, hu.2⟩

/-- The bridge answers the request with OK. -/
def Acknowledged (dds : DdsReturns) (sid : UInt64) (data : Bytes) (maxPayloadSize : Nat) (r : UInt32)
    (inner : BridgeInner) : Prop :=
  ∃ rest inner', DdsBridge.processBinaryFrame dds sid data maxPayloadSize inner = .ok (okResponse r [] :: rest, inner')

theorem HandedOverBy.not_same {W : WriterRegistry → DdsWriter → Prop} {t' : Traced BridgeInner DdsCall}
    (h : HandedOverBy W dds op mode t t') : sends t' ≠ sends t := by
  obtain ⟨writer, -, hsends⟩ := h
  rw [hsends]
  simp

theorem not_acknowledged_of_error {e : Bytes} {inner inner' : BridgeInner} (he : IsError e)
    (hframe : DdsBridge.processBinaryFrame dds sid data maxPayloadSize inner = .ok ([e], inner')) :
    ¬ Acknowledged dds sid data maxPayloadSize r inner := by
  rintro ⟨rest, inner₂, hok⟩
  rw [hframe] at hok
  cases hok
  exact not_isError (by simp) he

theorem sends_writeFrame {W : WriterRegistry → DdsWriter → Prop}
    (hf : Finds W dds sid r mode t)
    (h : writeRequest maxPayloadSize data = some (r, op, mode)) :
    let t' := act t (.bridge (.frame dds sid data maxPayloadSize))
    (sends t' = sends t ∨ HandedOverBy W dds op mode t t') ∧
    (Acknowledged dds sid data maxPayloadSize r t.state ↔
      0 ≤ dds.code op ∧ HandedOverBy W dds op mode t t') := by
  intro t'
  have hwp : (processBinaryFrame dds sid data maxPayloadSize).wp _ _ _ t := wp_writeFrame hf h
  have herase := erases_processBinaryFrame dds sid data maxPayloadSize t
  have hafter : t' = (processBinaryFrame dds sid data maxPayloadSize).after t := by
    simp [t', act]
  cases hframe : processBinaryFrame dds sid data maxPayloadSize t with
  | err p => exact p.1.elim
  | panic =>
    rw [hframe] at herase
    rw [after_of_panic hframe] at hafter
    rw [hafter]
    refine ⟨.inl rfl, fun hack => ?_, fun hsent => absurd rfl hsent.2.not_same⟩
    obtain ⟨rest, inner', hok⟩ := hack
    rw [hok] at herase
    cases herase
  | ok p =>
    obtain ⟨msgs, u⟩ := p
    rw [hframe] at herase
    rw [after_of_ok hframe] at hafter
    rw [hafter]
    rcases post_of_ok hwp hframe with ⟨⟨rest, rfl⟩, hcode, hsent⟩ | ⟨⟨e, rfl, he⟩, hsends⟩
    · exact ⟨.inr hsent, fun _ => ⟨hcode, hsent⟩, fun _ => ⟨rest, u.state, herase.symm⟩⟩
    · refine ⟨hsends.imp id And.right, fun hack => ?_, fun hsent => ?_⟩
      · exact absurd hack (not_acknowledged_of_error he herase.symm)
      · rcases hsends with hsame | ⟨hcode, -⟩
        · exact absurd hsame hsent.2.not_same
        · exact absurd hsent.1 (Int32.not_le.mpr hcode)

theorem settled_of_reached {inner : BridgeInner} (hreach : ReachedWith DrawsFresh inner) : Settled inner := by
  refine ⟨topicsNamed_of_reachable ?_, hreach.inv.owners⟩
  obtain ⟨handle, config, hr⟩ := hreach
  exact ⟨handle, config, hr.mono fun _ _ _ h => h.1⟩

/-- **Samples handed to DDS.** Only a WRITE, DISPOSE or WRITE_DISPOSE hands over a sample, and at most one: its own.
It is answered with OK if and only if DDS has taken the sample. As long as drawn ids are fresh, the sample is handed
over through a writer of the session. -/
theorem samples_handed_over (t : Traced BridgeInner DdsCall) (dds : DdsReturns) (sid : UInt64) (data : Bytes)
    (maxPayloadSize : Nat) :
    let t' := act t (.bridge (.frame dds sid data maxPayloadSize))
    match writeRequest maxPayloadSize data with
    | none => sends t' = sends t
    | some (r, op, mode) =>
      (sends t' = sends t ∨ HandedOver dds op mode t t') ∧
      (Acknowledged dds sid data maxPayloadSize r t.state ↔ 0 ≤ dds.code op ∧ HandedOver dds op mode t t') ∧
      (ReachedWith DrawsFresh t.state → HandedOver dds op mode t t' → HandedOverBy (Serves sid mode) dds op mode t t') := by
  intro t'
  cases h : writeRequest maxPayloadSize data with
  | none => exact (noSends_frame h).after t
  | some request =>
    obtain ⟨r, op, mode⟩ := request
    have hfinds : Finds (fun _ _ => True) dds sid r mode t := finds_some mode
    obtain ⟨hsent, hack⟩ := sends_writeFrame hfinds h
    refine ⟨hsent, hack, fun hreach hover => ?_⟩
    have hown : Finds (Serves sid mode) dds sid r mode t := finds_own (settled_of_reached hreach) mode
    exact (sends_writeFrame hown h).1.resolve_left hover.not_same

/-- The first WRITE of a session. -/
theorem samples_handed_over_first :
    let t := start 1 idleBridge.config
    let t' := act t (.bridge (.frame ddsSucceeds 1 durableWriteFrame 1024))
    let mode : WriteMode := .topicName "a" "T" ⟨[.durability 1, .deadline 5]⟩ ⟨[]⟩ [9]
    HandedOverBy (Serves 1 mode) ddsSucceeds .write mode t t' ∧ Acknowledged ddsSucceeds 1 durableWriteFrame 1024 7 t.state ∧
      sends t' = [.send .write 3 (.fromBytes [9] []) 0] := by
  intro t t' mode
  have hmode : writeRequest 1024 durableWriteFrame = some (7, .write, mode) := rfl
  have hsends : sends t' = [.send .write 3 (.fromBytes [9] []) 0] := by decide +kernel
  have h := samples_handed_over t ddsSucceeds 1 durableWriteFrame 1024
  rw [hmode] at h
  obtain ⟨hsent, hack, hown⟩ := h
  have hover : HandedOver ddsSucceeds .write mode t t' := hsent.resolve_left (by rw [hsends]; exact nofun)
  exact ⟨hown ⟨1, _, .refl⟩ hover, hack.mpr ⟨by decide, hover⟩, hsends⟩

end

end Calls

end DdsBridge
