import DdsBridge.Emits

/-!
# The kinds of responses

A handler ends with OK, PONG and DATA_DISPOSED messages, or with an ERROR of a code other than
BUFFER_OVERFLOW.
-/

namespace DdsBridge

open BridgeInner Prog

def IsReport (r : UInt32) (msg : Bytes) : Prop :=
  ∃ code text, code ≠ ErrorCode.bufferOverflow ∧ msg = makeErrorResponse r code text

def IsResult (msg : Bytes) : Prop :=
  (∃ r payload, msg = okResponse r payload) ∨ (∃ r, msg = buildMessage .pong r []) ∨
    ∃ p, msg = buildMessage .dataDisposed 0 (serializeDataDisposed p)

/-- A part of a handler whose error is a report, with its values in `Q`. -/
def ReportsErrors {α : Type} (r : UInt32) (Q : α → Prop) (m : Prog BridgeInner Bytes α) : Prop :=
  Spec (fun _ => True) Any Q (IsReport r) m

theorem isReport {r : UInt32} {code : ErrorCode} (h : code ≠ .bufferOverflow) (text : String) :
    IsReport r (makeErrorResponse r code text) := ⟨code, text, h, rfl⟩

section
variable {α : Type} {r : UInt32}

theorem reportsErrors_mapErr {m : Prog BridgeInner DdsError α} {g : DdsError → Bytes} (h : ∀ e, IsReport r (g e)) :
    ReportsErrors r (fun _ => True) (m.mapErr g) := by
  intro s _
  rw [wp_mapErr]
  exact wp_of_forall (fun _ _ => ⟨trivial, trivial, trivial⟩) (fun e _ => ⟨trivial, trivial, h e⟩) trivial

theorem reportsErrors_parsed (x : Res ProtocolError α) : ReportsErrors r (fun _ => True) (parsed r x) := by
  intro s _
  rw [parsed, wp_mapErr]
  exact wp_of_forall (fun _ _ => ⟨trivial, trivial, trivial⟩) (fun _ _ => ⟨trivial, trivial, isReport (by decide) _⟩) trivial

theorem reportsErrors_orDdsError (m : Prog BridgeInner DdsError α) :
    ReportsErrors r (fun _ => True) (orDdsError r m) := reportsErrors_mapErr fun _ => isReport (by decide) _

theorem reportsErrors_orWriterError (m : Prog BridgeInner DdsError α) :
    ReportsErrors r (fun _ => True) (orWriterError r m) := by
  refine reportsErrors_mapErr fun e => isReport ?_ _
  cases e <;> exact nofun

theorem reportsErrors_get : ReportsErrors r (fun _ => True) (Prog.get : Prog BridgeInner Bytes BridgeInner) :=
  fun _ _ => ⟨trivial, trivial, trivial⟩

theorem reportsErrors_modify (f : BridgeInner → BridgeInner) : ReportsErrors r (fun _ => True) (Prog.modify f) :=
  fun _ _ => ⟨trivial, trivial, trivial⟩

end

section
variable (dds : DdsReturns) (sid : UInt64) (r : UInt32)

theorem reportsErrors_createWriter (topic : Topic) (qos : QosSet) :
    ReportsErrors r (fun _ => True) (createWriter dds sid r topic qos) := by
  refine reportsErrors_get.bind fun inner _ => (reportsErrors_orDdsError _).bind fun writer _ => ?_
  exact (reportsErrors_modify _).bind fun _ _ => spec_pure trivial

theorem reportsErrors_implicitWriter (topicName typeName : String) (qos : QosSet) (keys : KeyDescriptors) :
    ReportsErrors r (fun _ => True) (implicitWriter dds sid r topicName typeName qos keys) := by
  refine reportsErrors_get.bind fun inner _ => ?_
  by_cases h : inner.writers.findByTopic sid topicName typeName qos.normalize = none
  · rw [if_pos h]
    refine (reportsErrors_orDdsError _).bind fun topic _ => (reportsErrors_createWriter dds sid r topic qos).bind
      fun _ _ => reportsErrors_get.bind fun _ _ => ?_
    split
    · exact spec_pure trivial
    · exact spec_throw (isReport (by decide) _)
  · rw [if_neg h]
    refine reportsErrors_get.bind fun _ _ => ?_
    split
    · exact spec_pure trivial
    · exact spec_throw (isReport (by decide) _)

theorem reportsErrors_doWriteOp (mode : WriteMode) (op : WriteOp) :
    ReportsErrors r IsResult (doWriteOp dds sid r mode op) := by
  have hexec : ∀ writer, ReportsErrors r IsResult
      (executeWriteOp dds r writer op >>= fun _ => pure (okResponse r [])) := fun writer =>
    (reportsErrors_orDdsError _).bind fun _ _ => spec_pure (.inl ⟨r, [], rfl⟩)
  cases mode with
  | topicName topicName typeName qos keys data =>
    exact (reportsErrors_implicitWriter dds sid r topicName typeName qos keys).bind fun writer _ => hexec writer
  | writerId writerId keyBytes data =>
    exact reportsErrors_get.bind fun inner _ => (reportsErrors_orWriterError _).bind fun writer _ => hexec writer

theorem isResult_single {msg : Bytes} (h : IsResult msg) : ∀ m ∈ [msg], IsResult m := fun m hm => by
  rwa [List.mem_singleton.mp hm]

theorem reportsErrors_notification {resp : Bytes} (h : IsResult resp) (mode : WriteMode) :
    ReportsErrors r (fun msgs => ∀ msg ∈ msgs, IsResult msg) (respWithDisposeNotification sid resp mode) := by
  refine reportsErrors_get.bind fun inner _ => ?_
  cases disposedTopic inner mode with
  | none => exact spec_pure (isResult_single h)
  | some p =>
    refine (reportsErrors_modify _).bind fun _ _ => spec_pure (List.forall_mem_cons.mpr ⟨h, fun msg hm => ?_⟩)
    obtain ⟨s, -, rfl⟩ := List.mem_map.mp hm
    exact .inr (.inr ⟨_, rfl⟩)

theorem reportsErrors_dispatch (t : MsgType) (payload : Bytes) :
    ReportsErrors r (fun msgs => ∀ msg ∈ msgs, IsResult msg) (dispatch dds sid r t payload) := by
  have hok : ∀ bytes, ∀ m ∈ [okResponse r bytes], IsResult m := fun bytes => isResult_single (.inl ⟨r, bytes, rfl⟩)
  have hunexpected : ∀ text, ReportsErrors r (fun msgs : List Bytes => ∀ msg ∈ msgs, IsResult msg)
      (Prog.throw (makeErrorResponse r .invalidMessage text)) := fun text => spec_throw (isReport (by decide) _)
  cases t with
  | subscribe =>
    refine (reportsErrors_parsed _).bind fun sub _ => (reportsErrors_orDdsError _).bind fun topic _ => ?_
    exact (reportsErrors_orDdsError _).bind fun _ _ => spec_pure (hok [])
  | unsubscribe =>
    refine (reportsErrors_parsed _).bind fun unsub _ => reportsErrors_get.bind fun inner _ => ?_
    refine (reportsErrors_modify _).bind fun _ _ => ?_
    exact (spec_require fun _ => isReport (by decide) _).bind fun _ _ => spec_pure (hok [])
  | write =>
    refine (reportsErrors_parsed _).bind fun p _ => ?_
    exact (reportsErrors_doWriteOp dds sid r p.mode .write).bind fun resp h => spec_pure (isResult_single h)
  | dispose =>
    refine (reportsErrors_parsed _).bind fun p _ => ?_
    exact (reportsErrors_doWriteOp dds sid r p.mode .dispose).bind fun resp h => reportsErrors_notification sid r h p.mode
  | writeDispose =>
    refine (reportsErrors_parsed _).bind fun p _ => ?_
    exact (reportsErrors_doWriteOp dds sid r p.mode .writeDispose).bind fun resp h =>
      reportsErrors_notification sid r h p.mode
  | createWriter =>
    refine (reportsErrors_parsed _).bind fun cw _ => (reportsErrors_orDdsError _).bind fun topic _ => ?_
    exact (reportsErrors_createWriter dds sid r topic cw.qos).bind fun _ _ => spec_pure (hok _)
  | deleteWriter =>
    refine (reportsErrors_parsed _).bind fun dw _ => ?_
    exact (reportsErrors_orWriterError _).bind fun _ _ => spec_pure (hok _)
  | ping => exact spec_pure (isResult_single (.inr (.inl ⟨r, rfl⟩)))
  | ok | error | data | dataDisposed | dataNoWriters | pong => exact hunexpected _

/-- Every message that answers a frame is a result or a report. -/
theorem processBinaryFrame_kinds {dds : DdsReturns} {sid : UInt64} {data : Bytes} {maxPayloadSize : Nat}
    {s t : BridgeInner} {msgs : List Bytes} (h : processBinaryFrame dds sid data maxPayloadSize s = .ok (msgs, t)) :
    ∀ msg ∈ msgs, IsResult msg ∨ ∃ r, IsReport r msg := by
  unfold processBinaryFrame at h
  have hreport : ∀ r text, ∀ msg ∈ [makeParseError r text], IsResult msg ∨ ∃ r, IsReport r msg := by
    intro r text msg hm
    rw [List.mem_singleton.mp hm]
    exact .inr ⟨r, isReport (by decide) text⟩
  cases hcheck : checkFrame maxPayloadSize data with
  | panic =>
    rw [hcheck] at h
    cases h
  | err e =>
    rw [hcheck] at h
    cases h
    rcases checkFrame_cases maxPayloadSize data with
      ⟨-, he⟩ | ⟨e, -, he⟩ | ⟨header, -, ⟨e, -, he⟩ | ⟨-, he⟩ | he⟩
    all_goals
      rw [hcheck] at he
      cases he
    all_goals exact hreport _ _
  | ok p =>
    rw [hcheck] at h
    have hwp := reportsErrors_dispatch dds sid p.1.requestId p.1.msgType p.2 s trivial
    simp only [handleMessage, Prog.recover] at h
    cases hd : dispatch dds sid p.1.requestId p.1.msgType p.2 s with
    | ok q =>
      rw [hd] at h
      cases h
      exact fun msg hm => .inl ((post_of_ok hwp hd).2.2 msg hm)
    | err q =>
      rw [hd] at h
      cases h
      intro msg hm
      rw [List.mem_singleton.mp hm]
      exact .inr ⟨_, (post_of_err hwp hd).2.2⟩
    | panic =>
      rw [hd] at h
      cases h

end

end DdsBridge
