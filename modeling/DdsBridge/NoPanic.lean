import DdsBridge.Lib.Runs
import DdsBridge.ReaderInvariant
import DdsBridge.Respond

/-!
# Frames that panic the bridge

The readers stay inside their buffers and every name goes through a check, except the type name of a
topic that is about to be created: with a NUL in it, `create_opaque_sertype` panics.
-/

namespace DdsBridge

open BridgeInner Cursor

/-! ## The bridge under its sessions -/

inductive BridgeAction where
  | register (sessionId : UInt64) (sender : Nat)
  | unregister (sessionId : UInt64)
  | frame (dds : DdsReturns) (sessionId : UInt64) (data : Bytes) (maxPayloadSize : Nat)
  /-- A channel opens, a message is queued or taken, or a receiver goes. -/
  | channel (sender : Nat) (channel : Channel)

def BridgeAction.IsFrame : BridgeAction → Prop
  | .frame _ _ _ _ => True
  | _ => False

def BridgeInner.act (inner : BridgeInner) : BridgeAction → BridgeInner
  | .register sessionId sender => registerSession sessionId sender inner
  | .unregister sessionId => unregisterSession sessionId inner
  | .frame dds sessionId data maxPayloadSize => (processBinaryFrame dds sessionId data maxPayloadSize).after inner
  | .channel sender channel => { inner with channels := inner.channels.insert sender channel }

def BridgeStep (inner : BridgeInner) (action : BridgeAction) (inner' : BridgeInner) : Prop :=
  inner' = inner.act action

def BridgeReachable (inner : BridgeInner) : Prop :=
  ∃ handle config, Runs.Reachable BridgeStep (BridgeInner.create handle config) inner

/-! ## Parsers -/

theorem needs_readEndpoint {α : Type} (mk : String → String → QosSet → Bool → KeyDescriptors → α) :
    Needs 0 (readEndpoint mk) := by
  refine needs_readString.bind fun _ => needs_readString.bind fun _ => needs_parseQos.bind fun _ => ?_
  refine needs_readBool.bind fun _ => needs_parseKeyDescriptors.bind fun _ => ?_
  exact needs_checkNoTrailing.bind fun _ => needs_pure 0 _

theorem parseSubscribe_ne_panic (payload : Bytes) : parseSubscribe payload ≠ .panic :=
  (needs_readEndpoint _).eval_ne_panic payload

theorem parseCreateWriter_ne_panic (payload : Bytes) : parseCreateWriter payload ≠ .panic :=
  (needs_readEndpoint _).eval_ne_panic payload

theorem parseUnsubscribe_ne_panic (payload : Bytes) : parseUnsubscribe payload ≠ .panic := by
  have h : Needs 0 readUnsubscribe :=
    needs_readString.bind fun _ => needs_readString.bind fun _ =>
      needs_checkNoTrailing.bind fun _ => needs_pure 0 _
  exact h.eval_ne_panic payload

theorem parseDeleteWriter_ne_panic (payload : Bytes) : parseDeleteWriter payload ≠ .panic := by
  have h : Needs 0 readDeleteWriter :=
    Needs.ensure (Needs.getU32le fun _ => needs_checkNoTrailing.bind fun _ => needs_pure 0 _)
  exact h.eval_ne_panic payload

theorem needs_readTopicNameMode : Needs 0 readTopicNameMode := by
  refine needs_readString.bind fun _ => needs_readString.bind fun _ => needs_parseQos.bind fun _ => ?_
  exact needs_parseKeyDescriptors.bind fun _ => needs_rest.bind fun _ => needs_pure 0 _

theorem needs_readWriterIdMode : Needs 0 readWriterIdMode := by
  refine Needs.ensure (Needs.getU32le fun id => Needs.getU32le fun keyLen => Needs.ensure ?_)
  exact (Needs.take fun keyBytes => needs_rest.bind fun _ => needs_pure 0 _).mono (by omega)

theorem parseWriteMode_ne_panic (payload : Bytes) : parseWriteMode payload ≠ .panic := by
  have h : Needs 0 readWriteMode := by
    refine Needs.ensure (Needs.getU8 fun mode => ?_)
    split
    · exact needs_readTopicNameMode
    · exact needs_readWriterIdMode
    · exact needs_throw 0 _
  exact h.eval_ne_panic payload

theorem map_ne_panic {α β : Type} {x : Res ProtocolError α} (f : α → β) (h : x ≠ .panic) : f <$> x ≠ .panic := by
  cases x with
  | ok a => exact fun h' => by cases h'
  | err e => exact fun h' => by cases h'
  | panic => exact absurd rfl h

theorem parseHeader_ne_panic (data : Bytes) : parseHeader data ≠ .panic := by
  have h : Needs 0 readHeader := by
    refine Needs.ensure ((Needs.getU8 fun _ => Needs.getU8 fun _ => Needs.check fun _ => ?_).mono
      (show 2 + 2 + 8 ≤ headerSize by decide))
    refine Needs.getU8 fun _ => Needs.getU8 fun t => ?_
    intro s hs
    cases ht : MsgType.fromU8 t with
    | ok t =>
      exact (Needs.getU32le fun _ => Needs.getU32le fun _ => needs_pure 0 _ :
        Needs 8 (getU32le >>= fun _ => getU32le >>= fun _ => _)) s hs
    | err e => exact fun h => by cases h
    | panic => exact absurd ht (MsgType.fromU8_ne_panic t)
  exact h.eval_ne_panic data

theorem checkFrame_ne_panic (maxPayloadSize : Nat) (data : Bytes) : checkFrame maxPayloadSize data ≠ .panic := by
  unfold checkFrame
  by_cases hlen : data.length < headerSize
  · rw [if_pos hlen]
    exact fun h => by cases h
  rw [if_neg hlen]
  cases hp : parseHeader data with
  | err e => exact fun h => by cases h
  | panic => exact absurd hp (parseHeader_ne_panic data)
  | ok header =>
    simp only [Res.mapErr, Res.ok_bind]
    cases hv : validateClientHeader header version maxPayloadSize with
    | err e => exact fun h => by cases h
    | panic =>
      unfold validateClientHeader at hv
      split at hv
      · cases hv
      · split at hv
        · cases hv
        · split at hv <;> cases hv
    | ok u =>
      simp only [Res.ok_bind]
      by_cases hshort : data.length < headerSize + header.payloadLength.toNat
      · rw [if_pos hshort]
        exact fun h => by cases h
      · have hslice : headerSize ≤ headerSize + header.payloadLength.toNat ∧
            headerSize + header.payloadLength.toNat ≤ data.length := by omega
        rw [if_neg hshort, slice, if_pos hslice]
        exact fun h => by cases h

/-! ## Names -/

/-- The name can be handed to C. -/
def NulFree (name : String) : Prop := cString name ≠ none

/-- A type name that cannot, for a topic whose name can. -/
def NulType (topicName typeName : String) : Prop := NulFree topicName ∧ ¬ NulFree typeName

/-- Topics and writers have type names without a NUL. -/
structure NamesInv (inner : BridgeInner) : Prop where
  topics : ∀ topicName typeName topic, inner.participant.topics.lookup (topicName, typeName) = some topic →
    topic.typeName = typeName ∧ NulFree typeName
  writers : ∀ writerId writer owner, inner.writers.writers.lookup writerId = some (writer, owner) →
    NulFree writer.topic.typeName

/-- A part of a handler that keeps the invariant and panics only if `P`. -/
def Keeps {ε α : Type} (P : Prop) (Q : α → Prop) (m : Prog BridgeInner ε α) : Prop :=
  ∀ s, NamesInv s → m.wp (fun a t => NamesInv t ∧ Q a) (fun _ t => NamesInv t) P s

section
variable {ε ε' α β : Type} {P : Prop} {Q : α → Prop} {R : β → Prop}

theorem Keeps.bind {m : Prog BridgeInner ε α} {f : α → Prog BridgeInner ε β} (hm : Keeps P Q m)
    (hf : ∀ a, Q a → Keeps P R (f a)) : Keeps P R (m >>= f) := by
  intro s hs
  rw [Prog.wp_bind]
  exact Prog.wp_mono (hm s hs) (fun a t h => hf a h.2 t h.1) (fun _ _ h => h) id

theorem keeps_pure {a : α} (h : Q a) : Keeps P Q (pure a : Prog BridgeInner ε α) := fun _ hs => ⟨hs, h⟩

theorem keeps_throw (e : ε) : Keeps P Q (Prog.throw e : Prog BridgeInner ε α) := fun _ hs => hs

theorem keeps_get : Keeps P NamesInv (Prog.get : Prog BridgeInner ε BridgeInner) := fun _ hs => ⟨hs, hs⟩

theorem keeps_modify {f : BridgeInner → BridgeInner} (h : ∀ s, NamesInv s → NamesInv (f s)) :
    Keeps P (fun _ => True) (Prog.modify f : Prog BridgeInner ε Unit) := fun s hs => ⟨h s hs, trivial⟩

theorem keeps_require {c : Prop} [Decidable c] (e : ε) :
    Keeps P (fun _ => c) (Prog.require c e : Prog BridgeInner ε Unit) := by
  intro s hs
  rw [Prog.wp_require]
  exact ⟨fun hc => ⟨hs, hc⟩, fun _ => hs⟩

theorem keeps_ofRes {r : Res ε α} (h : r = .panic → P) :
    Keeps P (fun a => r = .ok a) (Prog.ofRes r : Prog BridgeInner ε α) := by
  intro s hs
  rw [Prog.wp_ofRes]
  exact ⟨fun a ha => ⟨hs, ha⟩, fun _ _ => hs, h⟩

theorem Keeps.mapErr {m : Prog BridgeInner ε α} (hm : Keeps P Q m) (g : ε → ε') : Keeps P Q (m.mapErr g) := by
  intro s hs
  rw [Prog.wp_mapErr]
  exact hm s hs

theorem Keeps.mono {P' : Prop} {Q' : α → Prop} {m : Prog BridgeInner ε α} (hm : Keeps P Q m) (hP : P → P')
    (hQ : ∀ a, Q a → Q' a) : Keeps P' Q' m := fun s hs =>
  Prog.wp_mono (hm s hs) (fun _ _ h => ⟨h.1, hQ _ h.2⟩) (fun _ _ h => h) hP

theorem keeps_parsed (r : UInt32) {x : Res ProtocolError α} (h : x ≠ .panic) :
    Keeps P (fun a => x = .ok a) (parsed r x) := (keeps_ofRes fun hx => absurd hx h).mapErr _

end

theorem NamesInv.congr {s t : BridgeInner} (h : NamesInv s) (hp : t.participant = s.participant)
    (hw : t.writers = s.writers) : NamesInv t where
  topics := by
    rw [hp]
    exact h.topics
  writers := by
    rw [hw]
    exact h.writers

/-! ### Topics and writers -/

section
variable (dds : DdsReturns) (sid : UInt64) (r : UInt32)

theorem keeps_getOrCreateTopic (topicName typeName : String) (isKeyed : Bool) (keys : KeyDescriptors) :
    Keeps (NulType topicName typeName) (fun topic => NulFree topic.typeName)
      (getOrCreateTopic dds r topicName typeName isKeyed keys) := by
  refine Keeps.mapErr ?_ _
  intro s hs
  unfold onParticipant DdsParticipant.getOrCreateTopic
  rw [Prog.wp_zoom, Prog.wp_bind, Prog.wp_get]
  cases h : s.participant.topics.lookup (topicName, typeName) with
  | some topic =>
    obtain ⟨htype, hfree⟩ := hs.topics topicName typeName topic h
    exact ⟨hs, by simpa only [htype] using hfree⟩
  | none =>
    simp only [Prog.wp_bind, Prog.wp_require, Prog.wp_pure, Prog.wp_modify, Prog.wp_ofRes]
    refine ⟨fun hname => ⟨fun sertype hsertype => ?_, fun _ _ => hs, fun hpanic => ⟨hname, ?_⟩⟩, fun _ => hs⟩
    · have hfree : NulFree typeName := by
        intro hnone
        simp only [createOpaqueSertype, hnone] at hsertype
        cases hsertype
      refine ⟨fun _ => ⟨⟨?_, hs.writers⟩, hfree⟩, fun _ => hs⟩
      intro t T topic hlook
      change (s.participant.topics.insert (topicName, typeName) _).lookup (t, T) = some topic at hlook
      rw [Table.lookup_insert_eq] at hlook
      by_cases hkey : (t, T) = (topicName, typeName)
      · rw [if_pos hkey] at hlook
        simp only [Prod.mk.injEq] at hkey
        cases hlook
        exact ⟨hkey.2.symm, hkey.2 ▸ hfree⟩
      · rw [if_neg hkey] at hlook
        exact hs.topics t T topic hlook
    · intro hfree
      obtain ⟨name, hname'⟩ := Option.ne_none_iff_exists'.mp hfree
      simp only [createOpaqueSertype, hname'] at hpanic
      cases hpanic

theorem keeps_createWriter {P : Prop} {topic : Topic} (qos : QosSet) (htopic : NulFree topic.typeName) :
    Keeps P (fun _ => True) (createWriter dds sid r topic qos) := by
  refine keeps_get.bind fun inner _ => ?_
  have hnew : DdsWriter.new dds.createWriter topic (makeQos dds.createQos qos) qos.normalize
      inner.writers.nextWriterId ≠ .panic := by
    unfold DdsWriter.new
    split <;> exact fun h => by cases h
  refine ((keeps_ofRes fun h => absurd h hnew).mapErr _).bind fun writer hwriter => ?_
  have hwtopic : writer.topic = topic := by
    unfold DdsWriter.new at hwriter
    split at hwriter
    · cases hwriter
    · cases hwriter
      rfl
  refine Keeps.bind (R := fun _ => True) (keeps_modify fun s hs => ⟨hs.topics, ?_⟩) fun _ _ => keeps_pure trivial
  intro writerId w owner hlook
  change (s.writers.writers.insert writer.writerId (writer, sid)).lookup writerId = some (w, owner) at hlook
  rw [Table.lookup_insert_eq] at hlook
  by_cases hid : writerId = writer.writerId
  · rw [if_pos hid] at hlook
    cases hlook
    rw [hwtopic]
    exact htopic
  · rw [if_neg hid] at hlook
    exact hs.writers writerId w owner hlook

theorem findByTopic_free {inner : BridgeInner} (hs : NamesInv inner) {topicName typeName : String} {qos : QosSet}
    {writer : DdsWriter} (h : inner.writers.findByTopic sid topicName typeName qos = some writer) :
    NulFree typeName := by
  unfold WriterRegistry.findByTopic at h
  cases hids : inner.writers.sessionWriters.lookup sid with
  | none =>
    rw [hids] at h
    cases h
  | some ids =>
    rw [hids] at h
    obtain ⟨writerId, -, hw⟩ := List.exists_of_findSome?_eq_some h
    cases hlook : inner.writers.writers.lookup writerId with
    | none =>
      rw [hlook] at hw
      cases hw
    | some p =>
      obtain ⟨w, owner⟩ := p
      have hfree := hs.writers writerId w owner hlook
      rw [hlook] at hw
      by_cases hmatch : w.topic.topicName = topicName ∧ w.topic.typeName = typeName ∧
          w.qosNormalized.normalizedEq qos = true
      · rw [← hmatch.2.1]
        exact hfree
      · simp only [if_neg hmatch] at hw
        cases hw

theorem keeps_implicitWriter (topicName typeName : String) (qos : QosSet) (keys : KeyDescriptors) :
    Keeps (NulType topicName typeName) (fun _ => True)
      (implicitWriter dds sid r topicName typeName qos keys) := by
  refine keeps_get.bind fun inner _ => ?_
  by_cases h : inner.writers.findByTopic sid topicName typeName qos.normalize = none
  · rw [if_pos h]
    refine (keeps_getOrCreateTopic dds r topicName typeName _ keys).bind fun topic htopic => ?_
    refine (keeps_createWriter dds sid r qos htopic).bind fun _ _ => keeps_get.bind fun inner _ => ?_
    split
    · exact keeps_pure trivial
    · exact keeps_throw _
  · rw [if_neg h]
    refine keeps_get.bind fun inner _ => ?_
    split
    · exact keeps_pure trivial
    · exact keeps_throw _

/-! ### Requests -/

def modeTopic : WriteMode → Option (String × String)
  | .topicName topicName typeName _ _ _ => some (topicName, typeName)
  | .writerId .. => none

def acceptedNames {α : Type} (names : α → Option (String × String)) : Res ProtocolError α → Option (String × String)
  | .ok a => names a
  | _ => none

/-- The topic that a request asks for by name. -/
def namedTopic (t : MsgType) (payload : Bytes) : Option (String × String) :=
  match t with
  | .subscribe => acceptedNames (fun p => some (p.topicName, p.typeName)) (parseSubscribe payload)
  | .createWriter => acceptedNames (fun p => some (p.topicName, p.typeName)) (parseCreateWriter payload)
  | .write => acceptedNames (fun p => modeTopic p.mode) (parseWrite payload)
  | .dispose => acceptedNames (fun p => modeTopic p.mode) (parseDispose payload)
  | .writeDispose => acceptedNames (fun p => modeTopic p.mode) (parseWriteDispose payload)
  | _ => none

def AsksNulType (names : Option (String × String)) : Prop :=
  ∃ topicName typeName, names = some (topicName, typeName) ∧ NulType topicName typeName

theorem keeps_executeWriteOp {P : Prop} (writer : DdsWriter) (op : WriteOp) :
    Keeps P (fun _ => True) (executeWriteOp dds r writer op) := by
  refine Keeps.mapErr ((keeps_ofRes fun h => ?_).mono id fun _ _ => trivial) _
  cases op with
  | write =>
    simp only [DdsWriter.write] at h
    split at h <;> cases h
  | dispose =>
    simp only [DdsWriter.dispose] at h
    split at h <;> cases h
  | writeDispose =>
    simp only [DdsWriter.writeDispose] at h
    split at h <;> cases h

theorem WriterRegistry.get_ne_panic (reg : WriterRegistry) (writerId : UInt32) : reg.get writerId sid ≠ .panic := by
  unfold WriterRegistry.get
  cases reg.writers.lookup writerId with
  | none => exact fun h => by cases h
  | some p =>
    by_cases howner : p.2 ≠ sid
    · simp only [if_pos howner]
      exact fun h => by cases h
    · simp only [if_neg howner]
      exact fun h => by cases h

theorem keeps_doWriteOp (mode : WriteMode) (op : WriteOp) :
    Keeps (AsksNulType (modeTopic mode)) (fun _ => True) (doWriteOp dds sid r mode op) := by
  have hexec : ∀ writer, Keeps (AsksNulType (modeTopic mode)) (fun _ => True)
      (executeWriteOp dds r writer op >>= fun _ => pure (okResponse r [])) := fun writer =>
    (keeps_executeWriteOp dds r writer op).bind fun _ _ => keeps_pure trivial
  cases mode with
  | topicName topicName typeName qos keys data =>
    refine Keeps.bind ((keeps_implicitWriter dds sid r topicName typeName qos keys).mono (fun h => ?_) fun _ h => h)
      fun writer _ => hexec writer
    exact ⟨topicName, typeName, rfl, h⟩
  | writerId writerId keyBytes data =>
    refine keeps_get.bind fun inner _ => ?_
    refine ((keeps_ofRes fun h => ?_).mapErr _).bind fun writer _ => hexec writer
    exact absurd h (WriterRegistry.get_ne_panic sid inner.writers writerId)

theorem namesInv_sendTo {msg : Bytes} {inner : BridgeInner} (h : NamesInv inner) (s : UInt64) :
    NamesInv (sendTo msg inner s) := by
  unfold sendTo
  split
  · exact h.congr rfl rfl
  · exact h

theorem namesInv_sendAll (msg : Bytes) : ∀ (sids : List UInt64) (inner : BridgeInner), NamesInv inner →
    NamesInv (sids.foldl (sendTo msg) inner)
  | [], _, h => h
  | s :: sids, _, h => namesInv_sendAll msg sids _ (namesInv_sendTo h s)

theorem keeps_notification {P : Prop} (resp : Bytes) (mode : WriteMode) :
    Keeps P (fun _ => True) (respWithDisposeNotification sid resp mode) := by
  refine keeps_get.bind fun inner _ => ?_
  cases disposedTopic inner mode with
  | none => exact keeps_pure trivial
  | some p =>
    refine Keeps.bind (R := fun _ => True) (keeps_modify fun s hs => ?_) fun _ _ => keeps_pure trivial
    exact namesInv_sendAll _ _ s hs

theorem namesInv_delete {P : Prop} (writerId : UInt32) :
    Keeps P (fun _ => True) (onWriters (WriterRegistry.delete writerId sid)) := by
  intro s hs
  unfold onWriters WriterRegistry.delete
  simp only [Prog.wp_zoom, Prog.wp_bind, Prog.wp_get, Prog.wp_ofRes, Prog.wp_modify]
  refine ⟨fun writer _ => ⟨⟨hs.topics, ?_⟩, trivial⟩, fun _ _ => hs, fun h => ?_⟩
  · intro id w owner hlook
    change (s.writers.writers.erase writerId).lookup id = some (w, owner) at hlook
    rw [Table.lookup_erase_eq] at hlook
    by_cases hid : id = writerId
    · rw [if_pos hid] at hlook
      cases hlook
    · rw [if_neg hid] at hlook
      exact hs.writers id w owner hlook
  · exact absurd h (WriterRegistry.get_ne_panic sid s.writers writerId)

theorem keeps_subscribe {P : Prop} (rc : Int32) (topic : Topic) (qos : Option DdsQos) (qosSet : QosSet) :
    Keeps P (fun _ => True) (onReaders (ReaderRegistry.subscribe rc topic qos qosSet sid)) := by
  intro s hs
  unfold onReaders
  rw [Prog.wp_zoom]
  unfold Prog.wp
  rcases subscribe_cases s.readers rc topic qos qosSet sid with ⟨_, _, -, he⟩ | ⟨-, -, he⟩ | ⟨-, -, _, -, -, -, -, -, he⟩
  · rw [he]
    exact ⟨hs.congr rfl rfl, trivial⟩
  · rw [he]
    exact hs.congr rfl rfl
  · rw [he]
    exact ⟨hs.congr rfl rfl, trivial⟩

theorem keeps_dispatch (t : MsgType) (payload : Bytes) :
    Keeps (AsksNulType (namedTopic t payload)) (fun _ => True) (dispatch dds sid r t payload) := by
  have hmode := parseWriteMode_ne_panic payload
  cases t with
  | subscribe =>
    refine (keeps_parsed r (parseSubscribe_ne_panic payload)).bind fun sub hsub => ?_
    refine ((keeps_getOrCreateTopic dds r sub.topicName sub.typeName _ _).mono (fun h => ?_) fun _ h => h).bind
      fun topic _ => ((keeps_subscribe sid _ topic _ _).mapErr _).bind fun _ _ => keeps_pure trivial
    exact ⟨_, _, by rw [namedTopic, hsub]; rfl, h⟩
  | createWriter =>
    refine (keeps_parsed r (parseCreateWriter_ne_panic payload)).bind fun cw hcw => ?_
    refine ((keeps_getOrCreateTopic dds r cw.topicName cw.typeName _ _).mono (fun h => ?_) fun _ h => h).bind
      fun topic htopic => (keeps_createWriter dds sid r cw.qos htopic).bind fun _ _ => keeps_pure trivial
    exact ⟨_, _, by rw [namedTopic, hcw]; rfl, h⟩
  | unsubscribe =>
    refine (keeps_parsed r (parseUnsubscribe_ne_panic payload)).bind fun unsub _ => keeps_get.bind fun inner _ => ?_
    refine Keeps.bind (R := fun _ => True) (keeps_modify fun s hs => hs.congr rfl rfl) fun _ _ => ?_
    exact (keeps_require _).bind fun _ _ => keeps_pure trivial
  | write =>
    refine (keeps_parsed r (show parseWrite payload ≠ .panic from map_ne_panic _ hmode)).bind fun p hp => ?_
    refine ((keeps_doWriteOp dds sid r p.mode .write).mono (fun h => ?_) fun _ h => h).bind
      fun resp _ => keeps_pure trivial
    rw [namedTopic, hp]
    exact h
  | dispose =>
    refine (keeps_parsed r (show parseDispose payload ≠ .panic from map_ne_panic _ hmode)).bind fun p hp => ?_
    refine ((keeps_doWriteOp dds sid r p.mode .dispose).mono (fun h => ?_) fun _ h => h).bind
      fun resp _ => keeps_notification sid resp p.mode
    rw [namedTopic, hp]
    exact h
  | writeDispose =>
    refine (keeps_parsed r (show parseWriteDispose payload ≠ .panic from map_ne_panic _ hmode)).bind fun p hp => ?_
    refine ((keeps_doWriteOp dds sid r p.mode .writeDispose).mono (fun h => ?_) fun _ h => h).bind
      fun resp _ => keeps_notification sid resp p.mode
    rw [namedTopic, hp]
    exact h
  | deleteWriter =>
    refine (keeps_parsed r (parseDeleteWriter_ne_panic payload)).bind fun dw _ => ?_
    exact ((namesInv_delete sid dw.writerId).mapErr _).bind fun _ _ => keeps_pure trivial
  | ping => exact keeps_pure trivial
  | ok | data | dataDisposed | dataNoWriters | error | pong => exact keeps_throw _

end

/-! ## Requests that panic -/

section
variable (dds : DdsReturns) (sid : UInt64) (r : UInt32) {inner : BridgeInner} {topicName typeName : String}

theorem getOrCreateTopic_panics (hs : NamesInv inner) (h : NulType topicName typeName) (isKeyed : Bool)
    (keys : KeyDescriptors) : getOrCreateTopic dds r topicName typeName isKeyed keys inner = .panic := by
  obtain ⟨hname, htype⟩ := h
  have hlook : inner.participant.topics.lookup (topicName, typeName) = none := by
    rw [Option.eq_none_iff_forall_not_mem]
    exact fun topic ht => htype (hs.topics topicName typeName topic ht).2
  have hsertype : (createOpaqueSertype typeName isKeyed keys : Res DdsError OpaqueSertype) = .panic := by
    unfold createOpaqueSertype
    rw [Classical.not_not.mp htype]
  have hzoom : DdsParticipant.getOrCreateTopic dds.createTopic topicName typeName isKeyed keys
      inner.participant = .panic := by
    unfold DdsParticipant.getOrCreateTopic
    rw [NulFree] at hname
    simp only [Prog.bind_apply, Prog.get, Res.ok_bind, hlook, Prog.require, if_pos hname, Prog.pure_apply,
      hsertype, Prog.ofRes, Prog.abort, Res.panic_bind]
  unfold getOrCreateTopic orDdsError Prog.mapErr onParticipant Prog.zoom
  rw [hzoom]

theorem implicitWriter_panics (hs : NamesInv inner) (h : NulType topicName typeName) (qos : QosSet)
    (keys : KeyDescriptors) : implicitWriter dds sid r topicName typeName qos keys inner = .panic := by
  have hnone : inner.writers.findByTopic sid topicName typeName qos.normalize = none := by
    rw [Option.eq_none_iff_forall_not_mem]
    exact fun writer hw => h.2 (findByTopic_free sid hs hw)
  unfold implicitWriter
  rw [Prog.bind_of_ok (show (Prog.get : Prog BridgeInner Bytes BridgeInner) inner = .ok (inner, inner) from rfl),
    if_pos hnone]
  exact Prog.bind_of_panic (getOrCreateTopic_panics dds r hs h _ keys)

theorem doWriteOp_panics (hs : NamesInv inner) {mode : WriteMode} (h : AsksNulType (modeTopic mode))
    (op : WriteOp) : doWriteOp dds sid r mode op inner = .panic := by
  obtain ⟨topicName, typeName, hmode, h⟩ := h
  cases mode with
  | topicName t T qos keys data =>
    cases hmode
    exact Prog.bind_of_panic (implicitWriter_panics dds sid r hs h qos keys)
  | writerId writerId keyBytes data => cases hmode

theorem acceptedNames_eq {α : Type} {names : α → Option (String × String)} {x : Res ProtocolError α}
    (h : AsksNulType (acceptedNames names x)) : ∃ a, x = .ok a ∧ AsksNulType (names a) := by
  obtain ⟨t, T, hnames, hnul⟩ := h
  cases x with
  | ok a => exact ⟨a, rfl, t, T, hnames, hnul⟩
  | err e => cases hnames
  | panic => cases hnames

theorem parsed_of_ok {α : Type} {x : Res ProtocolError α} {a : α} (h : x = .ok a) :
    parsed r x inner = .ok (a, inner) := by
  subst h
  rfl

theorem dispatch_panics (hs : NamesInv inner) {t : MsgType} {payload : Bytes}
    (h : AsksNulType (namedTopic t payload)) : dispatch dds sid r t payload inner = .panic := by
  cases t with
  | subscribe =>
    obtain ⟨sub, hsub, t, T, hnames, hnul⟩ := acceptedNames_eq h
    cases hnames
    apply (Prog.bind_of_ok (parsed_of_ok r hsub)).trans
    exact Prog.bind_of_panic (getOrCreateTopic_panics dds r hs hnul _ _)
  | createWriter =>
    obtain ⟨cw, hcw, t, T, hnames, hnul⟩ := acceptedNames_eq h
    cases hnames
    apply (Prog.bind_of_ok (parsed_of_ok r hcw)).trans
    exact Prog.bind_of_panic (getOrCreateTopic_panics dds r hs hnul _ _)
  | write =>
    obtain ⟨p, hp, hnul⟩ := acceptedNames_eq h
    apply (Prog.bind_of_ok (parsed_of_ok r hp)).trans
    exact Prog.bind_of_panic (doWriteOp_panics dds sid r hs hnul _)
  | dispose =>
    obtain ⟨p, hp, hnul⟩ := acceptedNames_eq h
    apply (Prog.bind_of_ok (parsed_of_ok r hp)).trans
    exact Prog.bind_of_panic (doWriteOp_panics dds sid r hs hnul _)
  | writeDispose =>
    obtain ⟨p, hp, hnul⟩ := acceptedNames_eq h
    apply (Prog.bind_of_ok (parsed_of_ok r hp)).trans
    exact Prog.bind_of_panic (doWriteOp_panics dds sid r hs hnul _)
  | unsubscribe | deleteWriter | ping | ok | data | dataDisposed | dataNoWriters | error | pong =>
    obtain ⟨t, T, hnames, -⟩ := h
    cases hnames

end

/-! ## Frames -/

/-- A complete frame that passes the checks and asks for a topic whose type name has a NUL. -/
def NulTypeFrame (maxPayloadSize : Nat) (data : Bytes) : Prop :=
  ∃ header payload, checkFrame maxPayloadSize data = .ok (header, payload) ∧
    AsksNulType (namedTopic header.msgType payload)

section
variable (dds : DdsReturns) (sid : UInt64) (data : Bytes) (maxPayloadSize : Nat)

theorem keeps_processBinaryFrame : Keeps (NulTypeFrame maxPayloadSize data) (fun msgs => msgs ≠ [])
    (processBinaryFrame dds sid data maxPayloadSize) := by
  intro s hs
  unfold processBinaryFrame
  cases hcheck : checkFrame maxPayloadSize data with
  | err errorMsg => exact ⟨hs, List.cons_ne_nil _ _⟩
  | panic => exact absurd hcheck (checkFrame_ne_panic maxPayloadSize data)
  | ok p =>
    obtain ⟨header, payload⟩ := p
    have hkeeps := keeps_dispatch dds sid header.requestId header.msgType payload s hs
    have hanswers := reports_dispatch dds sid header.requestId header.msgType payload s
    simp only
    unfold handleMessage
    rw [Prog.wp_recover]
    unfold Prog.wp at hkeeps hanswers ⊢
    cases hd : dispatch dds sid header.requestId header.msgType payload s with
    | ok r =>
      rw [hd] at hkeeps hanswers
      exact ⟨hkeeps.1, hanswers.ne_nil⟩
    | err r =>
      rw [hd] at hkeeps
      exact ⟨hkeeps, List.cons_ne_nil _ _⟩
    | panic =>
      rw [hd] at hkeeps
      exact ⟨header, payload, hcheck, hkeeps⟩

theorem processBinaryFrame_panics {inner : BridgeInner} (hs : NamesInv inner)
    (h : NulTypeFrame maxPayloadSize data) : processBinaryFrame dds sid data maxPayloadSize inner = .panic := by
  obtain ⟨header, payload, hcheck, hnul⟩ := h
  unfold processBinaryFrame
  rw [hcheck]
  simp only [handleMessage, Prog.recover, dispatch_panics dds sid header.requestId hs hnul]

end

/-! ## Reachable bridges -/

theorem Keeps.after {ε α : Type} {P : Prop} {Q : α → Prop} {m : Prog BridgeInner ε α} (h : Keeps P Q m)
    {inner : BridgeInner} (hs : NamesInv inner) : NamesInv (m.after inner) := by
  exact Prog.after_of_wp (Prog.wp_mono (h inner hs) (fun _ _ hq => hq.1) (fun _ _ he => he) id) fun _ => hs

theorem namesInv_act {inner : BridgeInner} (hs : NamesInv inner) (action : BridgeAction) :
    NamesInv (inner.act action) := by
  cases action with
  | register sessionId sender => exact hs.congr rfl rfl
  | channel sender channel => exact hs.congr rfl rfl
  | frame dds sid data maxPayloadSize => exact (keeps_processBinaryFrame dds sid data maxPayloadSize).after hs
  | unregister sessionId =>
    refine ⟨hs.topics, fun writerId writer owner hlook => ?_⟩
    change (inner.writers.removeSession sessionId).writers.lookup writerId = some (writer, owner) at hlook
    unfold WriterRegistry.removeSession at hlook
    cases hids : inner.writers.sessionWriters.lookup sessionId with
    | none =>
      rw [hids] at hlook
      exact hs.writers writerId writer owner hlook
    | some ids =>
      simp only [hids, Table.lookup_eraseAll] at hlook
      by_cases hid : writerId ∈ ids
      · rw [if_pos hid] at hlook
        cases hlook
      · rw [if_neg hid] at hlook
        exact hs.writers writerId writer owner hlook

theorem BridgeReachable.namesInv {inner : BridgeInner} (h : BridgeReachable inner) : NamesInv inner := by
  obtain ⟨handle, config, hreach⟩ := h
  refine hreach.invariant ⟨fun _ _ _ h => ?_, fun _ _ _ h => ?_⟩ ?_
  · cases h
  · cases h
  · rintro inner action _ hs rfl
    exact namesInv_act hs action

/-- **Which frames panic.** In a reachable bridge a frame comes back with messages unless it is accepted
and asks for a topic whose type name has a NUL. -/
theorem processBinaryFrame_returns_iff {inner : BridgeInner} (hreach : BridgeReachable inner)
    (dds : DdsReturns) (sid : UInt64) (data : Bytes) (maxPayloadSize : Nat) :
    (∃ msgs inner', processBinaryFrame dds sid data maxPayloadSize inner = .ok (msgs, inner') ∧ msgs ≠ []) ↔
      ¬ NulTypeFrame maxPayloadSize data := by
  have hs := hreach.namesInv
  constructor
  · rintro ⟨msgs, inner', h, -⟩ hnul
    rw [processBinaryFrame_panics dds sid data maxPayloadSize hs hnul] at h
    cases h
  · intro hnul
    have hwp := keeps_processBinaryFrame dds sid data maxPayloadSize inner hs
    cases h : processBinaryFrame dds sid data maxPayloadSize inner with
    | ok p => exact ⟨p.1, p.2, rfl, (Prog.post_of_ok hwp h).2⟩
    | err p => exact p.1.elim
    | panic => exact absurd (Prog.post_of_panic hwp h) hnul

/-- SUBSCRIBE to the topic `t` of a type whose name is one NUL. -/
theorem nul_type_panics :
    let payload : Bytes := [1, 0, 0, 0, 0x74, 1, 0, 0, 0, 0, 0, 0, 0]
    let data : Bytes := [0x44, 0x42, 1, 1, 7, 0, 0, 0, 13, 0, 0, 0] ++ payload
    BridgeReachable idleBridge ∧
      parseSubscribe payload = .ok { topicName := "t", typeName := "\x00", qos := { policies := [] },
                                     isKeyed := false, keyDescriptors := { keys := [] } } ∧
      processBinaryFrame ddsSucceeds 1 data 1024 idleBridge = .panic :=
  ⟨⟨1, _, .refl⟩, rfl, rfl⟩

/-- `processBinaryFrame_returns_iff` for a PING. -/
theorem ping_returns :
    let data : Bytes := [0x44, 0x42, 1, 0x0F, 7, 0, 0, 0, 0, 0, 0, 0]
    ∃ msgs inner', processBinaryFrame ddsSucceeds 1 data 1024 idleBridge = .ok (msgs, inner') ∧ msgs ≠ [] := by
  intro data
  have hreach : BridgeReachable idleBridge := ⟨1, _, .refl⟩
  apply (processBinaryFrame_returns_iff hreach ddsSucceeds 1 data 1024).mpr
  intro h
  obtain ⟨header, payload, hcheck, topicName, typeName, hnames, -⟩ := h
  have hping : checkFrame 1024 data = .ok (⟨1, .ping, 7, 0⟩, []) := rfl
  rw [hping] at hcheck
  cases hcheck
  cases hnames

end DdsBridge
