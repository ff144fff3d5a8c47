import DdsBridge.QosSharing
import DdsBridge.WriteRequests
import DdsBridge.WriterIds

/-!
# Writers that are created on the way

A write in topic-name mode uses the session's writer for the topic, type and QoS, and creates it if there is none. The
QoS is compared without its defaults and without its order, so that one writer does for all spellings.
-/

namespace DdsBridge

open BridgeInner Prog

/-! ## What is promised -/

/-- The write in topic-name mode finds a writer of its session or makes one. -/
structure ReusesWriter (dds : DdsReturns) (sid : UInt64) (data : Bytes) (maxPayloadSize : Nat) (r : UInt32)
    (topicName typeName : String) (qos : QosSet) (keys : KeyDescriptors) (s : BridgeInner) : Prop where
  readers : (s.act (.frame dds sid data maxPayloadSize)).readers = s.readers
  found : (∃ writer, s.writers.Owns sid topicName typeName qos writer) →
    (s.act (.frame dds sid data maxPayloadSize)).writers = s.writers
  created : Registers s (s.act (.frame dds sid data maxPayloadSize)) →
    ∃ writer, (s.act (.frame dds sid data maxPayloadSize)).writers.Owns sid topicName typeName qos writer
  used : ∀ writer u, implicitWriter dds sid r topicName typeName qos keys s = .ok (writer, u) →
    u.writers.Owns sid topicName typeName qos writer
  answered : ∀ resp rest t text, processBinaryFrame dds sid data maxPayloadSize s = .ok (resp :: rest, t) →
    resp ≠ makeErrorResponse r .internalError text

/-- So does every write in topic-name mode. -/
def ReusesWriters (s : BridgeInner) : BridgeAction → Prop
  | .frame dds sid data maxPayloadSize => ∀ r op topicName typeName qos keys keyData,
      writeRequest maxPayloadSize data = some (r, op, .topicName topicName typeName qos keys keyData) →
        ReusesWriter dds sid data maxPayloadSize r topicName typeName qos keys s
  | _ => True

/-- The writes in topic-name mode of a session to a topic and type, whose QoS are the same to the comparison. -/
structure TopicWrites where
  sid : UInt64
  topicName : String
  typeName : String
  qos : Set QosSet
  parsed : ∀ q ∈ qos, Parsed q
  same : ∀ q ∈ qos, ∀ q' ∈ qos, q.normalizedEq q' = true

namespace TopicWrites

def Has (writes : TopicWrites) : BridgeAction → Prop
  | .frame _ sid data maxPayloadSize => sid = writes.sid ∧ ∃ r op qos keys keyData,
      writeRequest maxPayloadSize data =
        some (r, op, .topicName writes.topicName writes.typeName qos keys keyData) ∧ qos ∈ writes.qos
  | _ => False

/-- The session has a writer for one of them. -/
def Matched (writes : TopicWrites) (s : BridgeInner) : Prop :=
  ∃ qos ∈ writes.qos, ∃ writer, s.writers.Owns writes.sid writes.topicName writes.typeName qos writer

def Creates (writes : TopicWrites) (s : BridgeInner) (action : BridgeAction) (t : BridgeInner) : Prop :=
  writes.Has action ∧ Registers s t

open Classical in
noncomputable def creations (writes : TopicWrites) : BridgeInner → List (BridgeAction × BridgeInner) → Nat
  | _, [] => 0
  | s, (action, t) :: tr => (if writes.Creates s action t then 1 else 0) + creations writes t tr

/-- Once one of them has created a writer, there is always one that matches. -/
def Stays (writes : TopicWrites) : BridgeInner → List (BridgeAction × BridgeInner) → Prop
  | _, [] => True
  | s, (action, t) :: tr => (writes.Creates s action t → Runs.Always writes.Matched t tr) ∧
      (¬ writes.Creates s action t → Stays writes t tr)

end TopicWrites

/-! ## The comparison -/

section
variable {a b c : QosSet}

theorem normalizedEq_normalize_right : a.normalizedEq b.normalize = a.normalizedEq b := by
  unfold QosSet.normalizedEq
  rw [normalize_normalize]

theorem normalizedEq_trans (ha : a.WF) (hb : b.WF) (hab : a.normalizedEq b = true) (hbc : b.normalizedEq c = true) :
    a.normalizedEq c = true :=
  (normalizedEq_iff_perm ha.nodup).mpr (((normalizedEq_iff_perm ha.nodup).mp hab).trans ((normalizedEq_iff_perm hb.nodup).mp hbc))

end

theorem WriterRegistry.owns_normalize {reg : WriterRegistry} {sid : UInt64} {topicName typeName : String} {qos : QosSet}
    {writer : DdsWriter} :
    reg.Owns sid topicName typeName qos.normalize writer ↔ reg.Owns sid topicName typeName qos writer := by
  unfold Owns
  rw [normalizedEq_normalize_right]

/-! ## The QoS of the writers -/

def QosParsed (reg : WriterRegistry) : Prop := ∀ w p, reg.writers.lookup w = some p → p.1.qosNormalized.WF

def KeepsQos (s t : BridgeInner) : Prop := QosParsed s.writers → QosParsed t.writers

instance : Std.Refl KeepsQos where
  refl _ h := h

instance : IsTrans BridgeInner KeepsQos where
  trans _ _ _ h h' := fun hs => h' (h hs)

theorem SameRegistries.keepsQos {s t : BridgeInner} (h : SameRegistries s t) : KeepsQos s t := fun hs => by
  rw [h.writers]
  exact hs

theorem keepsQos_of_same {ε α : Type} {m : Prog BridgeInner ε α} (h : Within SameRegistries m) : Within KeepsQos m :=
  fun s => wp_mono (h s) (fun _ _ h => h.keepsQos) (fun _ _ h => h.keepsQos) id

section
variable (dds : DdsReturns) (sid : UInt64) (r : UInt32)

theorem keepsQos_createWriter (topic : Topic) {qos : QosSet} (hq : qos.WF) :
    Within KeepsQos (createWriter dds sid r topic qos) := by
  intro s
  unfold createWriter DdsWriter.new
  rw [wp_bind, wp_get, wp_bind, orDdsError, wp_mapErr, wp_ofRes]
  refine ⟨fun writer hw => ?_, fun _ _ h => h, fun _ => trivial⟩
  intro hs
  by_cases hrc : dds.createWriter < 0
  · rw [if_pos hrc] at hw
    cases hw
  · rw [if_neg hrc] at hw
    cases hw
    exact Table.forall_insert hs _ hq.normalize

theorem keepsQos_deleteWriter (w : UInt32) :
    Within KeepsQos (orWriterError r (onWriters (WriterRegistry.delete w sid))) := by
  refine Within.mapErr (fun s => ?_) _
  unfold onWriters WriterRegistry.delete
  rw [wp_zoom, wp_bind, wp_get, wp_bind, wp_ofRes]
  exact ⟨fun _ _ h => Table.forall_erase h w, fun _ _ h => h, fun _ => trivial⟩

theorem keepsQos_doWriteOp {mode : WriteMode} (hmode : mode.WF) (op : WriteOp) :
    Within KeepsQos (doWriteOp dds sid r mode op) := by
  have hexec : ∀ writer, Within KeepsQos (executeWriteOp dds r writer op >>= fun _ => pure (okResponse r [])) :=
    fun writer => (keepsQos_of_same (same_executeWriteOp dds r writer op)).bind fun _ => within_pure _
  cases mode with
  | topicName topicName typeName qos keys data =>
    refine Within.bind (within_get.bind fun inner => ?_) hexec
    by_cases h : inner.writers.findByTopic sid topicName typeName qos.normalize = none
    · rw [if_pos h]
      refine (keepsQos_of_same (same_getOrCreateTopic dds r topicName typeName _ keys)).bind fun topic => ?_
      refine (keepsQos_createWriter dds sid r topic hmode.2.2.1).bind fun _ => within_get.bind fun _ => ?_
      split
      · exact within_pure _
      · exact within_throw _
    · rw [if_neg h]
      refine within_get.bind fun _ => ?_
      split
      · exact within_pure _
      · exact within_throw _
  | writerId writerId keyBytes data =>
    exact within_get.bind fun inner => ((within_ofRes _).mapErr _).bind hexec

theorem keepsQos_dispatch (t : MsgType) (payload : Bytes) : Within KeepsQos (dispatch dds sid r t payload) := by
  have hparsed : ∀ {α : Type} {x : Res ProtocolError α} {f : α → Prog BridgeInner Bytes (List Bytes)},
      (∀ p, x = .ok p → Within KeepsQos (f p)) → Within KeepsQos (parsed r x >>= f) := by
    intro α x f hf
    cases x with
    | ok p => exact hf p rfl
    | err e => exact fun s h => h
    | panic => exact fun s => trivial
  have hmode : ∀ {α : Type} {f : WriteMode → α} {get : α → WriteMode} {p : α}, (∀ m, get (f m) = m) →
      f <$> parseWriteMode payload = .ok p → (get p).WF := by
    intro α f get p hget hp
    obtain ⟨m, hm, rfl⟩ := Res.map_eq_ok.mp hp
    rw [hget]
    exact ((writeMode_canonical _ _).mp hm).1
  cases t with
  | write =>
    refine hparsed fun p hp => ?_
    exact (keepsQos_doWriteOp dds sid r (hmode (fun _ => rfl) hp) .write).bind fun _ => within_pure _
  | dispose =>
    refine hparsed fun p hp => ?_
    exact (keepsQos_doWriteOp dds sid r (hmode (fun _ => rfl) hp) .dispose).bind fun _ =>
      keepsQos_of_same (same_notification sid _ _)
  | writeDispose =>
    refine hparsed fun p hp => ?_
    exact (keepsQos_doWriteOp dds sid r (hmode (fun _ => rfl) hp) .writeDispose).bind fun _ =>
      keepsQos_of_same (same_notification sid _ _)
  | createWriter =>
    refine hparsed fun cw hp => ?_
    have hqos : cw.qos.WF := ((createWriter_canonical payload cw).mp hp).1.2.2.1
    refine (keepsQos_of_same (same_getOrCreateTopic dds r _ _ _ _)).bind fun topic => ?_
    exact (keepsQos_createWriter dds sid r topic hqos).bind fun _ => within_pure _
  | deleteWriter =>
    refine (keepsQos_of_same (same_parsed r _)).bind fun dw => ?_
    exact (keepsQos_deleteWriter sid r dw.writerId).bind fun _ => within_pure _
  | subscribe =>
    refine (keepsQos_of_same (same_parsed r _)).bind fun sub => ?_
    refine (keepsQos_of_same (same_getOrCreateTopic dds r _ _ _ _)).bind fun topic => ?_
    have hreaders : ∀ m : Prog ReaderRegistry DdsError UInt64, Within KeepsQos (onReaders m) :=
      fun m => within_zoom (fun _ _ h => h) m
    exact ((hreaders _).mapErr _).bind fun _ => within_pure _
  | unsubscribe =>
    refine (keepsQos_of_same (same_parsed r _)).bind fun unsub => within_get.bind fun inner => ?_
    exact Within.bind (within_modify (R := KeepsQos) fun _ h => h) fun _ => (within_require _ _).bind fun _ => within_pure _
  | ping => exact within_pure _
  | ok | error | data | dataDisposed | dataNoWriters | pong => exact within_throw _

end

/-! ## Reachable bridges -/

/-- What a reachable bridge keeps, if no writer has taken an id in use. -/
structure WritersInv (s : BridgeInner) : Prop where
  owners : OwnersInv s.writers
  named : TopicsNamed s
  qos : QosParsed s.writers

def DrawsFreshWriters (s : BridgeInner) (action : BridgeAction) : Prop :=
  DrawsFreshWriter s.writers (s.act action).writers

theorem writersInv_create (handle : Int32) (config : BridgeConfig) : WritersInv (BridgeInner.create handle config) where
  owners _ _ := rfl
  named key topic h := by cases h
  qos w p h := by cases h

theorem WritersInv.act {s : BridgeInner} (hi : WritersInv s) {action : BridgeAction}
    (hfresh : DrawsFreshWriters s action) : WritersInv (s.act action) where
  owners := ownersInv_act hi.owners hfresh
  named := topicsNamed_act hi.named action
  qos := by
    cases action with
    | register sessionId sender => exact hi.qos
    | channel sender channel => exact hi.qos
    | unregister sessionId => exact fun w p h => hi.qos w p (lookup_of_removeSession h)
    | frame dds sid data maxPayloadSize =>
      have hframe : Within KeepsQos (processBinaryFrame dds sid data maxPayloadSize) := by
        unfold processBinaryFrame
        cases checkFrame maxPayloadSize data with
        | ok q => exact (keepsQos_dispatch dds sid q.1.requestId q.1.msgType q.2).recover _
        | err e => exact within_pure _
        | panic => exact fun s => trivial
      exact hframe.after s hi.qos

section
variable {dds : DdsReturns} {sid : UInt64} {r : UInt32} {op : WriteOp} {topicName typeName : String} {qos : QosSet}
  {keys : KeyDescriptors} {data keyData : Bytes} {maxPayloadSize : Nat} {s : BridgeInner}

theorem WritersInv.findByTopic (hi : WritersInv s) :
    (∃ writer, s.writers.findByTopic sid topicName typeName qos.normalize = some writer) ↔
      ∃ writer, s.writers.Owns sid topicName typeName qos writer := by
  rw [WriterRegistry.exists_findByTopic hi.owners]
  exact exists_congr fun writer => WriterRegistry.owns_normalize

theorem owns_register {reg : WriterRegistry} {topic : Topic} (ht : topic.topicName = topicName)
    (hT : topic.typeName = typeName) (id : UInt32) :
    (reg.register (createdWriter dds topic qos id) sid).Owns sid topicName typeName qos (createdWriter dds topic qos id) := by
  refine ⟨id, (Table.lookup_insert_eq _ _ _ _).trans (if_pos rfl), ht, hT, ?_⟩
  change qos.normalize.normalizedEq qos = true
  rw [← normalizedEq_normalize_right]
  exact normalizedEq_normalize qos

theorem ddsError_ne {text text' : String} : makeErrorResponse r .ddsError text ≠ makeErrorResponse r .internalError text' := by
  intro he
  have hpayload := congrArg (fun msg : Bytes => (msg.drop headerSize).take 2) he
  simp only [makeErrorResponse, drop_buildMessage, serializeError] at hpayload
  cases hpayload

/-- The request ends with the registries that the search for the writer has left, and not in INTERNAL_ERROR. -/
theorem frame_after_writer {writer : DdsWriter} {u : BridgeInner}
    (hreq : writeRequest maxPayloadSize data = some (r, op, .topicName topicName typeName qos keys keyData))
    (h : implicitWriter dds sid r topicName typeName qos keys s = .ok (writer, u)) :
    SameRegistries u (s.act (.frame dds sid data maxPayloadSize)) ∧
      ∀ resp rest t text, processBinaryFrame dds sid data maxPayloadSize s = .ok (resp :: rest, t) →
        resp ≠ makeErrorResponse r .internalError text := by
  have hact : s.act (.frame dds sid data maxPayloadSize) = (processBinaryFrame dds sid data maxPayloadSize).after s := rfl
  rw [hact]
  unfold Prog.after
  rcases frame_of_writer hreq h with ⟨-, rest, t, he, hsame⟩ | ⟨-, text, he⟩
  · rw [he]
    refine ⟨hsame, fun resp rest' t' text' h => ?_⟩
    cases h
    exact fun hbad => absurd (msgType_of_buildMessage_eq hbad) (by decide)
  · rw [he]
    refine ⟨Std.Refl.refl u, fun resp rest' t' text' h => ?_⟩
    cases h
    exact ddsError_ne

/-- Three things can become of a write in topic-name mode: it finds a writer, creates one, or gets none. -/
theorem reusesWriter (hi : WritersInv s)
    (hreq : writeRequest maxPayloadSize data = some (r, op, .topicName topicName typeName qos keys keyData)) :
    ReusesWriter dds sid data maxPayloadSize r topicName typeName qos keys s := by
  cases hfind : s.writers.findByTopic sid topicName typeName qos.normalize with
  | some writer =>
    have hwriter := implicitWriter_found dds r keys hfind
    obtain ⟨hsame, hanswer⟩ := frame_after_writer hreq hwriter
    refine ⟨hsame.readers, fun _ => hsame.writers, fun hreg => ?_, fun writer' u h => ?_, hanswer⟩
    · exact absurd (congrArg WriterRegistry.nextWriterId hsame.writers) hreg
    · rw [hwriter] at h
      cases h
      exact WriterRegistry.owns_normalize.mp (WriterRegistry.findByTopic_owns hi.owners hfind)
  | none =>
    have hunmatched : ¬ ∃ writer, s.writers.Owns sid topicName typeName qos writer := by
      rw [← hi.findByTopic, hfind]
      simp
    by_cases hcreate : ∃ topic u, getOrCreateTopic dds r topicName typeName (!keys.keys.isEmpty) keys s = .ok (topic, u) ∧
        0 ≤ dds.createWriter
    · obtain ⟨topic, u, htopic, hrc⟩ := hcreate
      obtain ⟨ht, hT, hsameTopic, hwriter⟩ := implicitWriter_created qos hi.named hfind htopic hrc
      obtain ⟨hsame, hanswer⟩ := frame_after_writer hreq hwriter
      refine ⟨hsame.readers.trans hsameTopic.readers, fun h => absurd h hunmatched, fun _ => ?_, fun writer' u' h => ?_,
        hanswer⟩
      · rw [hsame.writers]
        exact ⟨_, owns_register ht hT _⟩
      · rw [hwriter] at h
        cases h
        exact owns_register ht hT _
    · rcases implicitWriter_fails qos hi.named hfind hcreate with ⟨text, u, herr, hsame⟩ | hpanic
      · have hframe := frame_of_error hreq herr
        have hact : s.act (.frame dds sid data maxPayloadSize) = u := after_of_ok hframe
        refine ⟨hact ▸ hsame.readers, fun _ => hact ▸ hsame.writers, fun hreg => ?_, fun writer u' h => ?_,
          fun resp rest t text' h => ?_⟩
        · rw [hact] at hreg
          exact absurd (congrArg WriterRegistry.nextWriterId hsame.writers) hreg
        · rw [herr] at h
          cases h
        · rw [hframe] at h
          cases h
          exact ddsError_ne
      · have hframe := frame_of_panic hreq hpanic
        have hact : s.act (.frame dds sid data maxPayloadSize) = s := after_of_panic hframe
        refine ⟨by rw [hact], fun _ => by rw [hact], fun hreg => ?_, fun writer u' h => ?_, fun resp rest t text' h => ?_⟩
        · rw [hact] at hreg
          exact absurd rfl hreg
        · rw [hpanic] at h
          cases h
        · rw [hframe] at h
          cases h

end

/-! ## Runs -/

namespace TopicWrites

variable {writes : TopicWrites} {s t : BridgeInner} {action : BridgeAction} {tr : List (BridgeAction × BridgeInner)}

theorem Matched.owns (h : writes.Matched s) (hi : WritersInv s) {qos : QosSet} (hqos : qos ∈ writes.qos) :
    ∃ writer, s.writers.Owns writes.sid writes.topicName writes.typeName qos writer := by
  obtain ⟨q, hq, writer, w, hlook, ht, hT, heq⟩ := h
  refine ⟨writer, w, hlook, ht, hT, ?_⟩
  exact normalizedEq_trans (hi.qos w _ hlook) (writes.parsed q hq).wf heq (writes.same q hq qos hqos)

theorem Matched.not_creates (h : writes.Matched s) (hi : WritersInv s) (hstep : BridgeStep s action t) :
    ¬ writes.Creates s action t := by
  rintro ⟨hhas, hreg⟩
  cases hstep
  cases action with
  | frame dds sid data maxPayloadSize =>
    obtain ⟨rfl, r, op, qos, keys, keyData, hreq, hqos⟩ := hhas
    exact hreg (congrArg WriterRegistry.nextWriterId ((reusesWriter hi hreq).found (h.owns hi hqos)))
  | register | unregister | channel => exact hhas

theorem creations_eq_zero (hrun : Runs.Run BridgeStep s tr) (hinv : Runs.Always WritersInv s tr)
    (hmatched : Runs.Always writes.Matched s tr) : writes.creations s tr = 0 := by
  induction hrun with
  | nil s => rfl
  | cons hstep _ ih =>
    obtain ⟨hi, hinv⟩ := Runs.Always.cons.mp hinv
    obtain ⟨hm, hmatched⟩ := Runs.Always.cons.mp hmatched
    rw [creations, if_neg (hm.not_creates hi hstep), ih hinv hmatched]

theorem creations_le_one (hrun : Runs.Run BridgeStep s tr) (hinv : Runs.Always WritersInv s tr)
    (hstays : writes.Stays s tr) : writes.creations s tr ≤ 1 := by
  induction hrun with
  | nil s => exact Nat.zero_le 1
  | @cons s t action tr hstep hrest ih =>
    obtain ⟨hi, hinv⟩ := Runs.Always.cons.mp hinv
    rw [creations]
    by_cases hc : writes.Creates s action t
    · rw [if_pos hc, creations_eq_zero hrest hinv (hstays.1 hc)]
    · rw [if_neg hc, Nat.zero_add]
      exact ih hinv (hstays.2 hc)

end TopicWrites

/-- **Implicit writers are reused.** A write in topic-name mode uses a writer of its session and creates one only where
none matches; so of the writes whose QoS are the same to the comparison at most one creates a writer, as long as one
that matches stays. -/
theorem implicit_writers_reused {handle : Int32} {config : BridgeConfig} {tr : List (BridgeAction × BridgeInner)}
    (hrun : Runs.Run BridgeStep (BridgeInner.create handle config) tr)
    (hfresh : Runs.EachStep DrawsFreshWriters (BridgeInner.create handle config) tr) :
    Runs.EachStep ReusesWriters (BridgeInner.create handle config) tr ∧
      ∀ writes : TopicWrites, writes.Stays (BridgeInner.create handle config) tr →
        writes.creations (BridgeInner.create handle config) tr ≤ 1 := by
  have hstep : ∀ s action t, WritersInv s → BridgeStep s action t → DrawsFreshWriters s action → WritersInv t := by
    intro s action t hi hst hdraws
    cases hst
    exact hi.act hdraws
  have hinv := Runs.always_of_eachStep hstep hrun (writersInv_create handle config) hfresh
  refine ⟨Runs.eachStep_of_always (fun s hi action => ?_) hinv, fun writes => TopicWrites.creations_le_one hrun hinv⟩
  cases action with
  | frame dds sid data maxPayloadSize => exact fun r op topicName typeName qos keys keyData => reusesWriter hi
  | register | unregister | channel => trivial

/-- WRITE to the topic `a` and the type `T` with the durability 1 and the deadline 5. -/
def durableWriteFrame : Bytes :=
  [0x44, 0x42, 1, 3, 7, 0, 0, 0, 21, 0, 0, 0, 0, 1, 0, 0, 0, 0x61, 1, 0, 0, 0, 0x54, 2, 2, 1, 4, 5, 0, 0, 0, 0, 9]

/-- The same the other way round, with the history at its default. -/
def reorderedWriteFrame : Bytes :=
  [0x44, 0x42, 1, 3, 8, 0, 0, 0, 27, 0, 0, 0, 0, 1, 0, 0, 0, 0x61, 1, 0, 0, 0, 0x54, 3, 4, 5, 0, 0, 0, 3, 0, 1, 0, 0, 0,
    2, 1, 0, 9]

def durableWrites : TopicWrites where
  sid := 1
  topicName := "a"
  typeName := "T"
  qos := {⟨[.durability 1, .deadline 5]⟩, ⟨[.deadline 5, .history 0 1, .durability 1]⟩}
  parsed := by
    rintro q (rfl | rfl)
    · exact QosSet.WF.parsed ⟨by decide, by simp [QosPolicy.WF]⟩
    · exact QosSet.WF.parsed ⟨by decide, by simp [QosPolicy.WF]⟩
  same := by
    rintro q (rfl | rfl) q' (rfl | rfl)
    all_goals decide

/-- A session writes with both spellings of a QoS: the first makes a writer, and the second finds it. -/
theorem two_spellings_one_writer :
    let first := BridgeAction.frame ddsSucceeds 1 durableWriteFrame 1024
    let second := BridgeAction.frame ddsSucceeds 1 reorderedWriteFrame 1024
    let one := idleBridge.act first
    let two := one.act second
    durableWrites.creations idleBridge [(first, one), (second, two)] = 1 ∧ two.writers = one.writers := by
  intro first second one two
  have hmatched : ∀ s : BridgeInner,
      (∃ writer, s.writers.findByTopic 1 "a" "T" ⟨[.durability 1, .deadline 5]⟩ = some writer) → OwnersInv s.writers → durableWrites.Matched s := fun s h hinv =>
    ⟨_, .inl rfl, (WriterRegistry.exists_findByTopic hinv).mp h⟩
  have hone : OwnersInv one.writers := ownersInv_act (fun _ _ => rfl) fun _ => rfl
  have htwo : OwnersInv two.writers := ownersInv_act hone fun _ => rfl
  have hcreates : durableWrites.Creates idleBridge first one :=
    ⟨⟨rfl, 7, .write, _, ⟨[]⟩, [9], rfl, .inl rfl⟩, by decide⟩
  have hrun : Runs.Run BridgeStep idleBridge [(first, one), (second, two)] := .cons rfl (.cons rfl (.nil _))
  obtain ⟨⟨-, hreuses, -⟩, hcreations⟩ := implicit_writers_reused hrun ⟨fun _ => rfl, fun _ => rfl, trivial⟩
  have hle := hcreations durableWrites ⟨fun _ => ?_, fun hno => absurd hcreates hno⟩
  · refine ⟨Nat.le_antisymm hle ?_, ?_⟩
    · rw [TopicWrites.creations, if_pos hcreates]
      exact Nat.le_add_right _ _
    · have hreused := hreuses 8 .write "a" "T" ⟨[.deadline 5, .history 0 1, .durability 1]⟩ ⟨[]⟩ [9] rfl
      exact hreused.found ((WriterRegistry.exists_findByTopic hone).mp ⟨_, rfl⟩)
  · refine Runs.Always.cons.mpr ⟨hmatched one ⟨_, rfl⟩ hone, hmatched two ⟨_, rfl⟩ htwo, fun p hp => ?_⟩
    cases hp

end DdsBridge
