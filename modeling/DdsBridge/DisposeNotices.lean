import DdsBridge.AfterUnsubscribe
import DdsBridge.ReaderRuns
import DdsBridge.WriteRequests

/-!
# Who hears of a dispose

`resp_with_dispose_notification` goes through the readers of the topic and type and tells every subscriber of each.
A session that is in one of them is told once; one that has come into two is told twice.
-/

namespace DdsBridge

open BridgeInner Prog ReaderRegistry

instance (inner : BridgeInner) (sid : UInt64) (topicName typeName : String) :
    Decidable (HasEntry inner sid topicName typeName) := decidable_of_iff _ Option.isSome_iff_exists

def disposedMessage (topicName : String) (keyData : Bytes) : Bytes :=
  buildMessage .dataDisposed 0 (serializeDataDisposed { topicName, sourceTimestamp := 0, keyData })

/-- One DATA_DISPOSED for each session with an entry, none for the others: the requesting session has it behind its
response, another one in the channel that it has for itself. -/
structure NoticedOnce (sid : UInt64) (topicName typeName : String) (msg : Bytes) (inner : BridgeInner)
    (behind : List Bytes) (inner' : BridgeInner) : Prop where
  requester : behind = if HasEntry inner sid topicName typeName then [msg] else []
  others : ∀ b tx, b ≠ sid → inner.sessionSenders.lookup b = some tx →
    (∀ b', inner.sessionSenders.lookup b' = some tx → b' = b) →
    inner'.channels.lookup tx = if HasEntry inner b topicName typeName
      then (inner.channels.lookup tx).map (·.trySend msg) else inner.channels.lookup tx

/-- Every dispose that succeeds here is told once to each subscriber. -/
def NoticesOnce (inner : BridgeInner) : Prop :=
  ∀ dds sid data maxPayloadSize r op mode resp done, writeRequest maxPayloadSize data = some (r, op, mode) →
    op ≠ .write → doWriteOp dds sid r mode op inner = .ok (resp, done) →
      ∃ topicName typeName keyData behind inner', disposedTopic inner mode = some (topicName, typeName, keyData) ∧
        processBinaryFrame dds sid data maxPayloadSize inner = .ok (okResponse r [] :: behind, inner') ∧
        NoticedOnce sid topicName typeName (disposedMessage topicName keyData) inner behind inner'

/-- A session that is subscribed to the topic and type comes back to its reader, and a reader that is created gets an
id that no live one has. -/
def JoinsOneReader (reg : ReaderRegistry) (sid : UInt64) (sub : SubscribePayload) : Prop :=
  let held := reg.sessionSubscriptions.lookup (sid, sub.topicName, sub.typeName)
  match reg.keyToReader.lookup (ReaderKey.new sub.topicName sub.typeName sub.qos) with
  | some r => held = none ∨ held = some r
  | none => held = none ∧ reg.readers.lookup reg.nextReaderId = none

/-- So does each SUBSCRIBE that is answered OK. -/
def KeepsReaders (inner : BridgeInner) : BridgeAction → Prop
  | .frame dds sid data maxPayloadSize => ∀ payload sub, AnsweredOk dds sid data maxPayloadSize .subscribe payload inner →
      parseSubscribe payload = .ok sub → JoinsOneReader inner.readers sid sub
  | _ => True

/-! ## One subscriber, one reader -/

section
variable {inner : BridgeInner}

theorem JoinsOneReader.keeps {reg : ReaderRegistry} {sid : UInt64} {sub : SubscribePayload} (h : JoinsOneReader reg sid sub)
    (rc : Int32) {topic : Topic} (qos : Option DdsQos) (ht : topic.topicName = sub.topicName)
    (hT : topic.typeName = sub.typeName) : KeepsReader reg (.subscribe rc topic qos sub.qos sid) := by
  obtain ⟨handle, topicName, typeName, isKeyed, keys⟩ := topic
  cases ht
  cases hT
  unfold JoinsOneReader at h
  unfold KeepsReader
  cases hkey : reg.keyToReader.lookup (ReaderKey.new sub.topicName sub.typeName sub.qos) with
  | some r =>
    simp only [hkey] at h ⊢
    exact h
  | none =>
    simp only [hkey] at h ⊢
    exact fun _ => h

theorem NotJoined.inv {reg reg' : ReaderRegistry} {sid : UInt64} (h : NotJoined sid reg reg') (hinv : RegistryInv reg) :
    RegistryInv reg' := by
  rcases h with rfl | ⟨topicName, typeName, rfl⟩
  · exact hinv
  · exact (unsubscribe_leaves hinv).inv hinv

theorem registryInv_act {action : BridgeAction} (hs : TopicsNamed inner) (hinv : RegistryInv inner.readers)
    (hkeeps : KeepsReaders inner action) : RegistryInv (inner.act action).readers := by
  cases action with
  | register sessionId sender => exact hinv
  | channel sender channel => exact hinv
  | unregister sessionId => exact (removeSession_leaves hinv).inv hinv
  | frame dds sid data maxPayloadSize =>
    rcases readers_frame dds sid data maxPayloadSize hs with
      h | ⟨payload, sub, topic, qos, id, hok, hparse, ht, hT, hsub⟩
    · exact h.inv hinv
    · have hjoins := (hkeeps payload sub hok hparse).keeps dds.createReader qos ht hT
      have hafter := subscribe_inv hinv hjoins
      rw [after_of_ok hsub] at hafter
      exact hafter

theorem count_topicSubscribers (hinv : RegistryInv inner.readers) (b : UInt64) (topicName typeName : String) :
    (topicSubscribers inner topicName typeName).count b = if HasEntry inner b topicName typeName then 1 else 0 := by
  have hreader : ∀ reader : DdsReader, reader.subscribers.keys.count b = if b ∈ reader.subscribers then 1 else 0 := by
    intro reader
    rw [List.Nodup.count reader.subscribers.keys_nodup]
    simp only [AList.mem_keys]
  have hcount : (topicSubscribers inner topicName typeName).count b = inner.readers.allReaders.countP fun reader =>
      (reader.topic.topicName = topicName ∧ reader.topic.typeName = typeName) ∧ b ∈ reader.subscribers := by
    unfold topicSubscribers
    induction inner.readers.allReaders with
    | nil => rfl
    | cons reader readers ih =>
      by_cases hnames : reader.topic.topicName = topicName ∧ reader.topic.typeName = typeName
      · rw [List.filter_cons, if_pos (decide_eq_true hnames), List.flatMap_cons, List.count_append, ih, hreader,
          List.countP_cons, Nat.add_comm]
        by_cases hb : b ∈ reader.subscribers
        · rw [if_pos hb, if_pos (decide_eq_true ⟨hnames, hb⟩)]
        · rw [if_neg hb, if_neg (by simp [hb])]
      · rw [List.filter_cons, if_neg (by simp [hnames]), ih, List.countP_cons_of_neg (by simp [hnames])]
  rw [hcount]
  refine (Table.countP_values (o := inner.readers.sessionSubscriptions.lookup (b, topicName, typeName)) ?_ ?_).trans ?_
  · intro r reader hr
    rw [decide_eq_true_iff]
    refine ⟨fun h => ?_, fun h => ?_⟩
    · obtain ⟨⟨rfl, rfl⟩, hb⟩ := h
      exact (hinv.subscribed r reader b hr).mp hb
    · obtain ⟨live, hlive, ht, hT⟩ := hinv.live b topicName typeName r h
      rw [hr] at hlive
      cases hlive
      exact ⟨⟨ht, hT⟩, (hinv.subscribed r reader b hr).mpr (by rw [ht, hT]; exact h)⟩
  · intro r h
    obtain ⟨live, hlive, -⟩ := hinv.live b topicName typeName r h
    exact ⟨live, hlive⟩
  · by_cases h : HasEntry inner b topicName typeName
    · rw [if_pos h, if_pos (Option.isSome_iff_exists.mpr h)]
    · rw [if_neg h, if_neg fun hsome => h (Option.isSome_iff_exists.mp hsome)]

end

/-! ## What a dispose does -/

theorem lookup_send (n : Notice) (inner : BridgeInner) (tx : Nat) :
    (n.send inner).channels.lookup tx = (inner.channels.lookup tx).map
      (·.trySend n.msg)^[n.recipients.countP fun sid => inner.sessionSenders.lookup sid = some tx] := by
  unfold Notice.send
  induction n.recipients generalizing inner with
  | nil => simp
  | cons sid sids ih =>
    rw [List.foldl_cons, ih, List.countP_cons]
    unfold sendTo
    cases hs : inner.sessionSenders.lookup sid with
    | none => simp
    | some sender =>
      simp only [Table.lookup_modify]
      by_cases htx : tx = sender
      · rw [if_pos htx, htx, Option.map_map, if_pos (decide_eq_true rfl), ← Function.iterate_succ]
      · rw [if_neg htx, if_neg (by simpa using Ne.symm htx)]
        rfl

section
variable {dds : DdsReturns} {sid : UInt64} {r : UInt32} {op : WriteOp} {mode : WriteMode} {inner done : BridgeInner}
  {resp : Bytes}

theorem executeWriteOp_ok {writer : DdsWriter}
    (h : (executeWriteOp dds r writer op >>= fun _ => pure (okResponse r [])) inner = .ok (resp, done)) :
    resp = okResponse r [] ∧ done = inner := by
  obtain ⟨u, t, hexec, hpure⟩ := bind_eq_ok.mp h
  obtain ⟨rfl, rfl⟩ := pure_eq_ok.mp hpure
  rcases executeWriteOp_eq dds r writer op inner with ⟨-, he⟩ | ⟨-, text, he⟩
  · rw [he] at hexec
    cases hexec
    exact ⟨rfl, rfl⟩
  · rw [he] at hexec
    cases hexec

theorem doWriteOp_ok (h : doWriteOp dds sid r mode op inner = .ok (resp, done)) :
    resp = okResponse r [] ∧ disposedTopic done mode = disposedTopic inner mode ∧ ∃ p, disposedTopic inner mode = some p := by
  cases mode with
  | topicName topicName typeName qos keys data =>
    obtain ⟨writer, s, -, h⟩ := bind_eq_ok.mp h
    obtain ⟨rfl, rfl⟩ := executeWriteOp_ok h
    exact ⟨rfl, rfl, _, rfl⟩
  | writerId writerId keyBytes data =>
    obtain ⟨i, s, hget, h⟩ := bind_eq_ok.mp h
    cases hget
    obtain ⟨writer, t, hwriter, h⟩ := bind_eq_ok.mp h
    obtain ⟨rfl, rfl⟩ := executeWriteOp_ok h
    unfold orWriterError mapErr ofRes at hwriter
    cases hreg : inner.writers.get writerId sid with
    | ok found =>
      rw [hreg] at hwriter
      cases hwriter
      refine ⟨rfl, rfl, (writer.topic.topicName, writer.topic.typeName, data), ?_⟩
      simp only [disposedTopic, WriterRegistry.findById, WriterRegistry.get_eq_ok.mp hreg, Option.map_some]
    | err e =>
      rw [hreg] at hwriter
      cases hwriter
    | panic =>
      rw [hreg] at hwriter
      cases hwriter

theorem doWriteOp_same (h : doWriteOp dds sid r mode op inner = .ok (resp, done)) :
    SameReaders inner done ∧ SameChannels inner done := by
  have hreaders := within_doWriteOp ignores_sameReaders dds sid r mode op
  have hchannels := within_doWriteOp ignores_sameChannels dds sid r mode op
  exact ⟨hreaders.ok h, hchannels.ok h⟩

/-- The response, the copies for the requesting session, and the notice for the others. -/
theorem notification_eq {topicName typeName : String} {keyData : Bytes}
    (h : disposedTopic inner mode = some (topicName, typeName, keyData)) :
    respWithDisposeNotification sid resp mode inner =
      .ok (resp :: List.replicate ((topicSubscribers inner topicName typeName).count sid) (disposedMessage topicName keyData),
        Notice.send ⟨topicName, typeName, disposedMessage topicName keyData,
          (topicSubscribers inner topicName typeName).filter (· != sid)⟩ inner) := by
  unfold respWithDisposeNotification
  rw [bind_of_ok (show (Prog.get : Prog BridgeInner Bytes _) inner = .ok (inner, inner) from rfl), h]
  simp only [List.filter_beq, List.map_replicate]
  rfl

theorem frame_of_dispose {data : Bytes} {maxPayloadSize : Nat} {msgs : List Bytes} {inner' : BridgeInner}
    (hreq : writeRequest maxPayloadSize data = some (r, op, mode)) (hop : op ≠ .write)
    (hdone : doWriteOp dds sid r mode op inner = .ok (resp, done))
    (hnotice : respWithDisposeNotification sid resp mode done = .ok (msgs, inner')) :
    processBinaryFrame dds sid data maxPayloadSize inner = .ok (msgs, inner') := by
  have hfinish : finishWrite sid mode op resp = respWithDisposeNotification sid resp mode := by
    cases op with
    | write => exact absurd rfl hop
    | dispose => rfl
    | writeDispose => rfl
  rw [processBinaryFrame_write hreq]
  unfold recover
  rw [bind_of_ok hdone, hfinish, hnotice]

end

theorem noticesOnce_of_inv {inner : BridgeInner} (hinv : RegistryInv inner.readers) : NoticesOnce inner := by
  intro dds sid data maxPayloadSize r op mode resp done hreq hop hdone
  obtain ⟨rfl, htopic, ⟨topicName, typeName, keyData⟩, hp⟩ := doWriteOp_ok hdone
  obtain ⟨hreaders, hchannels⟩ := doWriteOp_same hdone
  have hsubs : topicSubscribers done topicName typeName = topicSubscribers inner topicName typeName := by
    unfold topicSubscribers
    rw [show done.readers = inner.readers from hreaders]
  refine ⟨topicName, typeName, keyData, _, _, hp,
    frame_of_dispose hreq hop hdone (notification_eq (htopic.trans hp)), ?_, fun b tx hb hsender halone => ?_⟩
  · rw [hsubs, count_topicSubscribers hinv]
    by_cases h : HasEntry inner sid topicName typeName
    · rw [if_pos h, if_pos h]
      rfl
    · rw [if_neg h, if_neg h]
      rfl
  · have hcount : ((topicSubscribers done topicName typeName).filter (· != sid)).countP
        (fun b' => done.sessionSenders.lookup b' = some tx) = if HasEntry inner b topicName typeName then 1 else 0 := by
      rw [← count_topicSubscribers hinv, hsubs, hchannels.sessionSenders,
        ← List.count_filter (p := fun b' => b' != sid) (bne_iff_ne.mpr hb)]
      refine List.countP_congr fun b' _ => ?_
      rw [decide_eq_true_iff, beq_iff_eq]
      refine ⟨halone b', fun he => ?_⟩
      rw [he]
      exact hsender
    rw [lookup_send, hcount, hchannels.channels]
    by_cases h : HasEntry inner b topicName typeName
    · rw [if_pos h, if_pos h]
      rfl
    · rw [if_neg h, if_neg h]
      exact Option.map_id_apply

/-- **Each subscriber hears of a dispose once.** In a run where sessions come back to the readers they are subscribed
through, no dispose is told to a session twice, none is kept from a subscriber, and none reaches a session that has
left. -/
theorem dispose_noticed_once {handle : Int32} {config : BridgeConfig} {tr : List (BridgeAction × BridgeInner)}
    (hrun : Runs.Run BridgeStep (BridgeInner.create handle config) tr)
    (hkeeps : Runs.EachStep KeepsReaders (BridgeInner.create handle config) tr) :
    Runs.Always NoticesOnce (BridgeInner.create handle config) tr := by
  have hstep : ∀ s action t, TopicsNamed s ∧ RegistryInv s.readers → BridgeStep s action t → KeepsReaders s action →
      TopicsNamed t ∧ RegistryInv t.readers := by
    rintro s action t ⟨hs, hinv⟩ hst hk
    cases hst
    exact ⟨topicsNamed_act hs action, registryInv_act hs hinv hk⟩
  have hstart : TopicsNamed (BridgeInner.create handle config) ∧ RegistryInv (BridgeInner.create handle config).readers :=
    ⟨fun _ _ h => (by cases h), registryInv_new⟩
  exact (Runs.always_of_eachStep hstep hrun hstart hkeeps).mono fun s h => noticesOnce_of_inv h.2

/-- DISPOSE in topic-name mode, topic `a` and type `T`, with the key data 1. -/
def disposeFrame : Bytes :=
  [0x44, 0x42, 1, 4, 7, 0, 0, 0, 14, 0, 0, 0, 0, 1, 0, 0, 0, 0x61, 1, 0, 0, 0, 0x54, 0, 0, 1]

/-- `subscribeFrame 0x61` with the durability 1. -/
def durableSubscribeFrame : Bytes :=
  [0x44, 0x42, 1, 1, 7, 0, 0, 0, 15, 0, 0, 0, 1, 0, 0, 0, 0x61, 1, 0, 0, 0, 0x54, 1, 2, 1, 0, 0]

/-- `dispose_noticed_once` where two sessions share a reader. -/
theorem dispose_noticed_once_shared :
    let subscribes (sid : UInt64) := BridgeAction.frame ddsSucceeds sid (subscribeFrame 0x61) 1024
    let one := idleBridge.act (subscribes 1)
    Runs.Always NoticesOnce idleBridge [(subscribes 1, one), (subscribes 2, one.act (subscribes 2))] := by
  intro subscribes one
  have hkeeps : ∀ sid inner, JoinsOneReader inner.readers sid ⟨"a", "T", ⟨[]⟩, false, ⟨[]⟩⟩ →
      KeepsReaders inner (subscribes sid) := by
    rintro sid inner hjoins payload sub ⟨header, body, rest, inner', hcheck, -, -⟩ hparse
    cases hcheck
    cases hparse
    exact hjoins
  exact dispose_noticed_once (.cons rfl (.cons rfl (.nil _))) ⟨hkeeps 1 _ ⟨rfl, rfl⟩, hkeeps 2 _ (.inl rfl), trivial⟩

/-- A session that subscribes again with another durability is told twice. -/
theorem dispose_noticed_twice :
    ¬ ∀ handle config tr, Runs.Run BridgeStep (BridgeInner.create handle config) tr →
      Runs.Always NoticesOnce (BridgeInner.create handle config) tr := by
  intro h
  let first := BridgeAction.frame ddsSucceeds 1 (subscribeFrame 0x61) 1024
  let second := BridgeAction.frame ddsSucceeds 1 durableSubscribeFrame 1024
  let inner := (idleBridge.act first).act second
  have halways := h 1 _ [(first, _), (second, inner)] (.cons rfl (.cons rfl (.nil _)))
  have honce : NoticesOnce inner := halways.2 (second, inner) (.tail _ (.head _))
  let mode := WriteMode.topicName "a" "T" ⟨[]⟩ ⟨[]⟩ [1]
  have hreq : writeRequest 1024 disposeFrame = some (7, .dispose, mode) := rfl
  have hop : WriteOp.dispose ≠ .write := by decide
  obtain ⟨⟨resp, done⟩, hdone⟩ : ∃ p, doWriteOp ddsSucceeds 1 7 mode .dispose inner = .ok p := by
    unfold doWriteOp executeWriteOp implicitWriter
    exact ⟨_, rfl⟩
  obtain ⟨topicName, typeName, keyData, behind, inner', htopic, hframe, honce⟩ :=
    honce ddsSucceeds 1 disposeFrame 1024 7 .dispose mode resp done hreq hop hdone
  cases htopic
  have htwice : (topicSubscribers done "a" "T").count 1 = 2 := by
    unfold topicSubscribers
    rw [show done.readers = inner.readers from (doWriteOp_same hdone).1]
    decide
  have hbehind : behind.length = 2 := by
    rw [frame_of_dispose hreq hop hdone (notification_eq rfl), htwice] at hframe
    rw [← (List.cons.inj (Prod.mk.inj (Res.ok.inj hframe)).1).2]
    rfl
  rw [honce.requester] at hbehind
  split at hbehind
  · cases hbehind
  · cases hbehind

end DdsBridge
