import DdsBridge.Lib.Interleave
import DdsBridge.Respond
import DdsBridge.Teardown

/-!
# What a session sends

The writer task of `run_session` puts two streams on the socket: the answers to the frames, through the
response channel, and the notifications, through the bridge channel. Each of them arrives in order and
without gaps; a session that breaks off loses an end of them.
-/

namespace DdsBridge

open BridgeInner Session

/-! ## The streams -/

/-- A session with its frames, each with the messages it got back, and all that was put on its bridge channel. -/
structure Output where
  session : Session
  frames : List (Bytes × List Bytes)
  accepted : List Bytes

def handledFrame : SessionAction → Session → List (Bytes × List Bytes)
  | .task (.receive _ data), t =>
    match t.reader with
    | .responding messages => [(data, messages)]
    | _ => []
  | _, _ => []

section
variable (sid : UInt64) (tx : Nat)

/-- What is behind the messages that were queued before. -/
def Session.accepts (s t : Session) : List Bytes := (t.bridgeQueue tx).drop (s.bridgeQueue tx).length

inductive OutputStep : Output → SessionAction → Output → Prop
  | mk {s frames accepted action t} (h : SessionStep sid tx s action t) :
      OutputStep ⟨s, frames, accepted⟩ action ⟨t, frames ++ handledFrame action t, accepted ++ s.accepts tx t⟩

def Output.start (bridge : BridgeInner) : Output where
  session := (Session.new bridge).started sid tx
  frames := []
  accepted := []

def Output.answers (o : Output) : List Bytes := o.frames.flatMap (·.2)

def ReaderTask.pending : ReaderTask → List Bytes
  | .responding messages => messages
  | _ => []

def WriterTask.inHand : WriterTask → List Bytes
  | .sending msg => [msg]
  | _ => []

/-- Both tasks are where they wait for something to do. -/
def Session.Idle (s : Session) : Prop := s.reader = .reading ∧ s.writer = .selecting ∧ s.Drained tx

/-- Both streams are on the socket up to what is still on its way; what the writer task leaves behind when it
ends never gets there. -/
structure OutputInv (o : Output) : Prop where
  writer : o.session.writer ≠ .notStarted
  reader : o.session.reader ≠ .start
  resp : o.session.resp.isOpen = true ↔ o.session.writer ≠ .done
  sent : ∃ responses notifications,
    Interleaved responses notifications (o.session.sink ++ o.session.writer.inHand) ∧
      responses <+: o.answers ∧ notifications <+: o.accepted ∧
      (o.session.writer ≠ .done →
        o.answers = responses ++ (o.session.resp.queue ++ o.session.reader.pending) ∧
        o.accepted = notifications ++ o.session.bridgeQueue tx)
  frames : ∀ p ∈ o.frames, ∃ dds inner inner',
    processBinaryFrame dds sid p.1 o.session.maxPayloadSize inner = .ok (p.2, inner')

end

section
variable {sid : UInt64} {tx : Nat} {s t : Session} {frames : List (Bytes × List Bytes)} {accepted : List Bytes}

theorem outputInv_start (bridge : BridgeInner) : OutputInv sid tx (.start sid tx bridge) where
  writer h := by cases h
  reader h := by cases h
  resp := by simp [Output.start, started, Channel.new]
  sent := by
    refine ⟨[], [], .nil, List.nil_prefix, List.nil_prefix, fun _ => ⟨rfl, ?_⟩⟩
    simp [Output.start, started, bridgeQueue, registerSession, Channel.new, AList.lookup_insert]
  frames p hp := by cases hp

/-! ## One step -/

theorem accepts_of_front (h : s.bridgeQueue tx <+: t.bridgeQueue tx) :
    t.bridgeQueue tx = s.bridgeQueue tx ++ s.accepts tx t := by
  obtain ⟨added, hadded⟩ := h
  unfold accepts
  rw [← hadded, List.drop_left]

theorem accepts_of_short (h : (t.bridgeQueue tx).length ≤ (s.bridgeQueue tx).length) : s.accepts tx t = [] :=
  List.drop_eq_nil_of_le h

theorem prefix_of_queues {inner : BridgeInner}
    (h : ∀ c, s.bridge.channels.lookup tx = some c → ∃ c', inner.channels.lookup tx = some c' ∧ c.queue <+: c'.queue) :
    s.bridgeQueue tx <+: ({ s with bridge := inner } : Session).bridgeQueue tx := by
  unfold bridgeQueue
  cases hc : s.bridge.channels.lookup tx with
  | none => exact List.nil_prefix
  | some c =>
    obtain ⟨c', hc', hp⟩ := h c hc
    simp only [hc', Option.map_some, Option.getD_some]
    exact hp

theorem bridgeQueue_modifyChannel (f : Channel → Channel) :
    ({ s with bridge := s.bridge.modifyChannel tx f } : Session).bridgeQueue tx =
      ((s.bridge.channels.lookup tx).map fun c => (f c).queue).getD [] := by
  unfold bridgeQueue
  simp only [modifyChannel, Table.lookup_modify, if_pos, Option.map_map]
  rfl

/-- A step that only adds to the bridge channel. -/
theorem OutputInv.adds (hi : OutputInv sid tx ⟨s, frames, accepted⟩) {inner : BridgeInner}
    (h : s.bridgeQueue tx <+: ({ s with bridge := inner } : Session).bridgeQueue tx) (clones : Nat) (ended : Bool) :
    OutputInv sid tx ⟨{ s with bridge := inner, clones, ended }, frames,
      accepted ++ s.accepts tx { s with bridge := inner, clones, ended }⟩ := by
  obtain ⟨responses, notifications, hmerged, hr, hn, hlive⟩ := hi.sent
  refine ⟨hi.writer, hi.reader, hi.resp, ⟨responses, notifications, hmerged, hr, hn.trans (List.prefix_append _ _), ?_⟩,
    hi.frames⟩
  intro hw
  obtain ⟨hanswers, haccepted⟩ := hlive hw
  refine ⟨hanswers, ?_⟩
  change accepted = _ at haccepted
  change accepted ++ _ = _
  rw [haccepted, List.append_assoc]
  congr 1
  exact (accepts_of_front h).symm

/-- A step of the reader task that leaves both channels and the messages that it has to send. -/
theorem OutputInv.reading (hi : OutputInv sid tx ⟨s, frames, accepted⟩) {reader : ReaderTask} (respTx : Bool)
    {inner : BridgeInner} (hr : reader ≠ .start) (hp : reader.pending = s.reader.pending)
    (hc : inner.channels = s.bridge.channels) :
    OutputInv sid tx ⟨{ s with reader, respTx, bridge := inner }, frames, accepted⟩ := by
  have hq : ({ s with reader, respTx, bridge := inner } : Session).bridgeQueue tx = s.bridgeQueue tx := by
    simp only [bridgeQueue, hc]
  refine ⟨hi.writer, hr, hi.resp, ?_, hi.frames⟩
  simp only [Output.answers, hp, hq]
  exact hi.sent

theorem OutputInv.receive (hi : OutputInv sid tx ⟨s, frames, accepted⟩) {dds : DdsReturns} {data : Bytes}
    {messages : List Bytes} {inner : BridgeInner} (hr : s.reader = .reading)
    (h : processBinaryFrame dds sid data s.maxPayloadSize s.bridge = .ok (messages, inner)) :
    OutputInv sid tx ⟨{ s with reader := .responding messages, bridge := inner }, frames ++ [(data, messages)],
      accepted ++ s.accepts tx { s with reader := .responding messages, bridge := inner }⟩ := by
  have hd := (within_processBinaryFrame dds sid data s.maxPayloadSize).ok h
  obtain ⟨-, -, -, hsent, hframes⟩ := hi.adds (prefix_of_queues (hd.queues tx)) s.clones s.ended
  obtain ⟨responses, notifications, hmerged, hresp, hnotif, hlive⟩ := hsent
  have hanswers : ∀ accepted, (⟨s, frames ++ [(data, messages)], accepted⟩ : Output).answers =
      (⟨s, frames, accepted⟩ : Output).answers ++ messages := by
    intro accepted
    simp [Output.answers]
  refine ⟨hi.writer, fun h => (by cases h), hi.resp, ⟨responses, notifications, hmerged, ?_, hnotif, ?_⟩, ?_⟩
  · exact hresp.trans ⟨messages, (hanswers []).symm⟩
  · intro hw
    obtain ⟨hpending, haccepted⟩ := hlive hw
    refine ⟨?_, haccepted⟩
    apply (hanswers []).trans
    change _ ++ messages = responses ++ (s.resp.queue ++ messages)
    change (⟨s, frames, []⟩ : Output).answers = responses ++ (s.resp.queue ++ s.reader.pending) at hpending
    rw [hpending, hr]
    simp [ReaderTask.pending]
  · intro p hp
    rcases List.mem_append.mp hp with hp | hp
    · exact hframes p hp
    · cases List.mem_singleton.mp hp
      exact ⟨dds, s.bridge, inner, h⟩

theorem OutputInv.respond (hi : OutputInv sid tx ⟨s, frames, accepted⟩) {msg : Bytes} {rest : List Bytes}
    (hr : s.reader = .responding (msg :: rest)) (ho : s.resp.isOpen = true) (hc : s.resp.queue.length < s.resp.capacity) :
    OutputInv sid tx ⟨{ s with reader := .responding rest, resp := s.resp.trySend msg }, frames, accepted⟩ := by
  have hsend : s.resp.trySend msg = { s.resp with queue := s.resp.queue ++ [msg] } := if_pos ⟨ho, hc⟩
  obtain ⟨responses, notifications, hmerged, hresp, hnotif, hlive⟩ := hi.sent
  rw [hsend]
  refine ⟨hi.writer, fun h => (by cases h), hi.resp, ⟨responses, notifications, hmerged, hresp, hnotif, ?_⟩, hi.frames⟩
  intro hw
  obtain ⟨hanswers, haccepted⟩ := hlive hw
  refine ⟨hanswers.trans ?_, haccepted⟩
  simp [hr, ReaderTask.pending]

/-- The writer task ends; what it has in hand, if anything, is lost. -/
theorem OutputInv.writerEnds (hi : OutputInv sid tx ⟨s, frames, accepted⟩) :
    OutputInv sid tx ⟨s.writerEnds tx, frames, accepted⟩ := by
  obtain ⟨responses, notifications, hmerged, hresp, hnotif, -⟩ := hi.sent
  obtain ⟨responses', notifications', hsent, hr, hn⟩ := hmerged.front
  have hwriter : (s.writerEnds tx).writer = .done := rfl
  refine ⟨fun h => (by cases h), hi.reader, ⟨fun h => (by cases h), fun h => absurd hwriter h⟩, ?_, hi.frames⟩
  refine ⟨responses', notifications', ?_, hr.trans hresp, hn.trans hnotif, fun h => absurd hwriter h⟩
  simpa [Session.writerEnds, WriterTask.inHand] using hsent

theorem OutputInv.recvBridge (hi : OutputInv sid tx ⟨s, frames, accepted⟩) {msg : Bytes} {rest : List Bytes}
    (hw : s.writer = .selecting) (hq : s.bridgeQueue tx = msg :: rest) :
    OutputInv sid tx ⟨{ s with writer := .sending msg, bridge := s.bridge.modifyChannel tx Channel.pop }, frames,
      accepted⟩ := by
  have hnext : ({ s with writer := .sending msg, bridge := s.bridge.modifyChannel tx Channel.pop } :
      Session).bridgeQueue tx = rest := by
    apply (bridgeQueue_modifyChannel (s := s) Channel.pop).trans
    unfold bridgeQueue at hq
    cases hc : s.bridge.channels.lookup tx with
    | none => simp [hc] at hq
    | some c =>
      simp only [hc, Option.map_some, Option.getD_some] at hq
      simp [Channel.pop, hq]
  obtain ⟨responses, notifications, hmerged, hresp, hnotif, hlive⟩ := hi.sent
  obtain ⟨hanswers, haccepted⟩ := hlive (by simp [hw])
  have hresp_open := hi.resp
  simp only [hw, WriterTask.inHand, List.append_nil] at hmerged
  simp only [hq] at haccepted
  refine ⟨fun h => (by cases h), hi.reader, by simp_all, ?_, hi.frames⟩
  refine ⟨responses, notifications ++ [msg], hmerged.right msg, hresp, ⟨rest, ?_⟩, fun _ => ⟨hanswers, ?_⟩⟩
  · simp [haccepted]
  · rw [hnext]
    simp [haccepted]

theorem OutputInv.recvResp (hi : OutputInv sid tx ⟨s, frames, accepted⟩) {msg : Bytes} {rest : List Bytes}
    (hw : s.writer = .selecting) (hq : s.resp.queue = msg :: rest) :
    OutputInv sid tx ⟨{ s with writer := .sending msg, resp := s.resp.pop }, frames, accepted⟩ := by
  obtain ⟨responses, notifications, hmerged, hresp, hnotif, hlive⟩ := hi.sent
  obtain ⟨hanswers, haccepted⟩ := hlive (by simp [hw])
  have hresp_open := hi.resp
  simp only [hw, WriterTask.inHand, List.append_nil] at hmerged
  simp only [hq] at hanswers
  have hnext : (⟨{ s with writer := .sending msg, resp := s.resp.pop }, frames, accepted⟩ : Output).answers =
      responses ++ [msg] ++ (rest ++ s.reader.pending) := by
    apply hanswers.trans
    simp
  refine ⟨fun h => (by cases h), hi.reader, by simp_all [Channel.pop], ?_, hi.frames⟩
  refine ⟨responses ++ [msg], notifications, hmerged.left msg, ?_, hnotif, fun _ => ⟨hnext.trans ?_, haccepted⟩⟩
  · rw [hnext]
    exact List.prefix_append _ _
  · simp [Channel.pop, hq]

theorem OutputInv.sent_one (hi : OutputInv sid tx ⟨s, frames, accepted⟩) {msg : Bytes} (hw : s.writer = .sending msg) :
    OutputInv sid tx ⟨{ s with writer := .selecting, sink := s.sink ++ [msg] }, frames, accepted⟩ := by
  obtain ⟨responses, notifications, hmerged, hresp, hnotif, hlive⟩ := hi.sent
  have hresp_open := hi.resp
  have hsame : s.sink ++ [msg] ++ WriterTask.selecting.inHand = s.sink ++ s.writer.inHand := by
    simp [hw, WriterTask.inHand]
  refine ⟨fun h => (by cases h), hi.reader, by simp_all, ?_, hi.frames⟩
  simp only [hsame]
  exact ⟨responses, notifications, hmerged, hresp, hnotif, fun _ => hlive (by simp [hw])⟩

theorem OutputInv.taskStep (hi : OutputInv sid tx ⟨s, frames, accepted⟩) {action : TaskAction}
    (h : TaskStep sid tx s action t) :
    OutputInv sid tx ⟨t, frames ++ handledFrame (.task action) t, accepted ++ s.accepts tx t⟩ := by
  have hquiet : ∀ {t : Session}, t.bridgeQueue tx = s.bridgeQueue tx → s.accepts tx t = [] := fun h =>
    accepts_of_short (by rw [h])
  cases h with
  | start hr hb | noBuffer hr hb => exact absurd hr hi.reader
  | receive dds data hr he hp => exact hi.receive hr hp
  | panic dds data hr he hp =>
    rw [hquiet (by rfl), List.append_nil]
    simp only [handledFrame, List.append_nil]
    exact hi.reading _ (by simp) (by simp [ReaderTask.pending, hr]) rfl
  | otherFrame hr he =>
    rw [hquiet rfl, handledFrame, List.append_nil, List.append_nil]
    · exact hi
    · simp
  | streamEnds hr he | dropRespTx hr | join hr hw | unregister hr =>
    rw [hquiet (by rfl), handledFrame, List.append_nil, List.append_nil]
    · exact hi.reading _ (by simp) (by simp [ReaderTask.pending, hr]) rfl
    · simp
  | respond hr ho hc =>
    rw [hquiet (by rfl), handledFrame, List.append_nil, List.append_nil]
    · exact hi.respond hr ho hc
    · simp
  | respondFails hr ho =>
    have hdone : s.writer = .done := by
      have hresp := hi.resp
      simp only [ho] at hresp
      simpa using hresp
    rw [hquiet (by rfl), handledFrame, List.append_nil, List.append_nil]
    · obtain ⟨responses, notifications, hmerged, hresp, hnotif, -⟩ := hi.sent
      refine ⟨hi.writer, fun h => (by cases h), hi.resp, ⟨responses, notifications, hmerged, hresp, hnotif, ?_⟩, hi.frames⟩
      exact fun h => absurd hdone h
    · simp
  | responded hr =>
    rw [hquiet (by rfl), handledFrame, List.append_nil, List.append_nil]
    · exact hi.reading _ (by simp) (by simp [ReaderTask.pending, hr]) rfl
    · simp
  | recvBridge hw hq =>
    have hinv := hi.recvBridge hw hq
    rw [accepts_of_short, handledFrame, List.append_nil, List.append_nil]
    · exact hinv
    · simp
    · apply (congrArg List.length (bridgeQueue_modifyChannel (s := s) Channel.pop)).trans_le
      unfold bridgeQueue
      cases s.bridge.channels.lookup tx with
      | none => simp
      | some c => simp [Channel.pop]
  | recvResp hw hq =>
    rw [hquiet (by rfl), handledFrame, List.append_nil, List.append_nil]
    · exact hi.recvResp hw hq
    · simp
  | sent hw =>
    rw [hquiet (by rfl), handledFrame, List.append_nil, List.append_nil]
    · exact hi.sent_one hw
    · simp
  | allClosed | sendFails =>
    rw [accepts_of_short, handledFrame, List.append_nil, List.append_nil]
    · exact hi.writerEnds
    · simp
    · apply (congrArg List.length (bridgeQueue_modifyChannel (s := s) Channel.close)).trans_le
      cases s.bridge.channels.lookup tx with
      | none => simp
      | some c => simp [Channel.close]

theorem outputInv_step {o o' : Output} {action : SessionAction} (hi : OutputInv sid tx o)
    (h : OutputStep sid tx o action o') : OutputInv sid tx o' := by
  obtain @⟨s, frames, accepted, action, t, h⟩ := h
  cases h with
  | task h => exact hi.taskStep h
  | disconnect he => simpa [handledFrame] using hi.adds (List.prefix_refl _) s.clones true
  | clone hr => simpa [handledFrame] using hi.adds (List.prefix_refl _) (s.clones + 1) s.ended
  | dropClone hc => simpa [handledFrame] using hi.adds (List.prefix_refl _) (s.clones - 1) s.ended
  | notify msg hc =>
    have hqueue : s.bridgeQueue tx <+:
        ({ s with bridge := s.bridge.modifyChannel tx fun c => c.trySend msg } : Session).bridgeQueue tx :=
      prefix_of_queues ((delivers_modifyChannel s.bridge fun c => c.prefix_trySend msg).queues tx)
    simpa [handledFrame] using hi.adds hqueue s.clones s.ended
  | other ho => simpa [handledFrame] using hi.adds (prefix_of_queues (act_foreign ho s.bridge).2) s.clones s.ended

end

/-! ## Responses -/

/-- The request that a message is the response to. -/
def closedRequest (msg : Bytes) : Option UInt32 :=
  match parseHeader msg with
  | .ok header => if header.requestId = 0 then none else some header.requestId
  | _ => none

/-- The id that a frame is answered under, if it has one and its message type exists. -/
def knownRequest (data : Bytes) : Option UInt32 :=
  if 12 ≤ data.length ∧ data.take 2 = [0x44, 0x42] ∧ frameRequestId data ≠ 0 then
    match MsgType.fromU8 (frameMsgType data) with
    | .ok _ => some (frameRequestId data)
    | _ => none
  else none

theorem Answers.closed {r : UInt32} {msgs : List Bytes} (h : Answers r msgs) :
    msgs.filterMap closedRequest = if r = 0 then [] else [r] := by
  obtain ⟨resp, rest, rfl, ⟨header, hparse, rfl, -⟩, hrest⟩ := h
  have hnone : rest.filterMap closedRequest = [] := by
    apply List.filterMap_eq_nil_iff.mpr
    intro msg hmsg
    obtain ⟨header, hparse, hid, -⟩ := hrest msg hmsg
    simp [closedRequest, hparse, hid]
  rw [List.filterMap_cons, hnone, closedRequest, hparse]
  by_cases hid : header.requestId = 0
  · simp [hid]
  · simp [hid]

theorem parseHeader_badMagic {data : Bytes} (hlen : 12 ≤ data.length) (hmagic : data.take 2 ≠ [0x44, 0x42]) :
    ∃ e, parseHeader data = .err e := by
  obtain ⟨b0, d0, rfl, h0⟩ := uncons_of_le hlen
  obtain ⟨b1, d1, rfl, h1⟩ := uncons_of_le h0
  have hbad : ¬ (b0 = 0x44 ∧ b1 = 0x42) := by
    rintro ⟨rfl, rfl⟩
    exact hmagic rfl
  have hremaining : headerSize ≤ d1.length + 1 + 1 := Nat.add_le_add_right h1 2
  refine ⟨.badMagic b0 b1, ?_⟩
  unfold parseHeader readHeader Prog.eval
  simp only [ensureRemaining, Cursor.ensure, Prog.bind_apply, Prog.get, Res.ok_bind, List.length_cons, Prog.require,
    if_pos hremaining, Prog.pure_apply, Cursor.getU8, if_neg hbad]
  rfl

/-- What the bridge answers to a frame, it answers under the id of the request, or under none. -/
theorem frame_answers {dds : DdsReturns} {sid : UInt64} {data : Bytes} {maxPayloadSize : Nat} {msgs : List Bytes}
    {inner inner' : BridgeInner} (h : processBinaryFrame dds sid data maxPayloadSize inner = .ok (msgs, inner')) :
    Answers ((knownRequest data).getD 0) msgs := by
  have herror : ∀ {message : String}, checkFrame maxPayloadSize data = .err (makeParseError 0 message) →
      Answers 0 msgs := by
    intro message hcheck
    unfold processBinaryFrame at h
    rw [hcheck] at h
    cases h
    exact Answers.single (responds_error 0 _ message)
  by_cases hlen : 12 ≤ data.length
  · by_cases hmagic : data.take 2 = [0x44, 0x42]
    · by_cases ht : ∃ t, MsgType.fromU8 (frameMsgType data) = .ok t
      · have hid : (knownRequest data).getD 0 = frameRequestId data := by
          obtain ⟨t, ht⟩ := ht
          by_cases hzero : frameRequestId data = 0
          · rw [knownRequest, if_neg fun h => h.2.2 hzero, hzero]
            rfl
          · rw [knownRequest, if_pos ⟨hlen, hmagic, hzero⟩, ht]
            rfl
        obtain ⟨t, ht⟩ := ht
        rw [hid]
        unfold processBinaryFrame at h
        rcases checkFrame_known maxPayloadSize hlen hmagic ht with
          ⟨errorMsg, hcheck, message, rfl⟩ | ⟨header, payload, hcheck, hheader, -⟩
        · rw [hcheck] at h
          cases h
          exact Answers.single (responds_error _ _ message)
        · rw [hcheck] at h
          rw [← hheader]
          exact handleMessage_answers dds sid header.requestId h
      · have hnone : knownRequest data = none := by
          unfold knownRequest
          split
          · split
            · exact absurd ⟨_, by assumption⟩ ht
            · rfl
          · rfl
        obtain ⟨message, hcheck⟩ := checkFrame_unknown maxPayloadSize hlen hmagic fun t h => ht ⟨t, h⟩
        rw [hnone]
        exact herror hcheck
    · obtain ⟨e, hparse⟩ := parseHeader_badMagic hlen hmagic
      rw [knownRequest, if_neg fun h => hmagic h.2.1]
      have hcheck : checkFrame maxPayloadSize data = .err (makeParseError 0 e.toString) := by
        unfold checkFrame
        simp only [if_neg (Nat.not_lt.mpr hlen), show headerSize = 12 from rfl, hparse, Res.err_bind, Res.mapErr]
      exact herror hcheck
  · rw [knownRequest, if_neg fun h => hlen h.1]
    exact herror (if_pos (Nat.not_le.mp hlen))

theorem closed_answers {dds : DdsReturns} {sid : UInt64} {data : Bytes} {maxPayloadSize : Nat} {msgs : List Bytes}
    {inner inner' : BridgeInner} (h : processBinaryFrame dds sid data maxPayloadSize inner = .ok (msgs, inner')) :
    msgs.filterMap closedRequest = (knownRequest data).toList := by
  rw [(frame_answers h).closed]
  unfold knownRequest
  split
  case isTrue hknown =>
    split
    · exact if_neg hknown.2.2
    · rfl
  case isFalse => rfl

section
variable {sid : UInt64} {tx : Nat} {o : Output}

theorem OutputInv.closed (hi : OutputInv sid tx o) :
    o.answers.filterMap closedRequest = o.frames.filterMap fun p => knownRequest p.1 := by
  unfold Output.answers
  rw [List.filterMap_flatMap, List.filterMap_eq_flatMap_toList]
  refine List.flatMap_congr fun p hp => ?_
  obtain ⟨dds, inner, inner', h⟩ := hi.frames p hp
  exact closed_answers h

/-- **What a session sends** is an interleaving of the front of the answers to its frames and the front of what its
bridge channel took, in all of both once it has nothing left to do. So the responses come in the order of the
requests, no two for one, and then there is one for each. -/
theorem output_interleaved {bridge : BridgeInner} (hr : Runs.Reachable (OutputStep sid tx) (.start sid tx bridge) o) :
    ∃ responses notifications, Interleaved responses notifications o.session.sink ∧
      responses <+: o.answers ∧ notifications <+: o.accepted ∧
      (o.session.Idle tx → responses = o.answers ∧ notifications = o.accepted) ∧
      (∀ p ∈ o.frames, ∃ dds inner inner',
        processBinaryFrame dds sid p.1 o.session.maxPayloadSize inner = .ok (p.2, inner')) ∧
      responses.filterMap closedRequest <+: (o.frames.filterMap fun p => knownRequest p.1) ∧
      (o.session.Idle tx → responses.filterMap closedRequest = o.frames.filterMap fun p => knownRequest p.1) := by
  have hi := hr.invariant (I := OutputInv sid tx) (outputInv_start bridge) fun _ _ _ hi h => outputInv_step hi h
  obtain ⟨responses, notifications, hmerged, hresp, hnotif, hlive⟩ := hi.sent
  by_cases hidle : o.session.Idle tx
  · obtain ⟨hreader, hwriter, hqueue, hrespQueue⟩ := hidle
    obtain ⟨hanswers, haccepted⟩ := hlive (by simp [hwriter])
    simp only [hwriter, WriterTask.inHand, List.append_nil] at hmerged
    simp only [hrespQueue, hreader, ReaderTask.pending, List.append_nil] at hanswers
    simp only [hqueue, List.append_nil] at haccepted
    refine ⟨responses, notifications, hmerged, hresp, hnotif, fun _ => ⟨hanswers.symm, haccepted.symm⟩, hi.frames, ?_⟩
    rw [← hi.closed, hanswers]
    exact ⟨List.prefix_rfl, fun _ => rfl⟩
  · obtain ⟨responses', notifications', hsent, hr', hn'⟩ := hmerged.front
    refine ⟨responses', notifications', hsent, hr'.trans hresp, hn'.trans hnotif, fun h => absurd h hidle, hi.frames,
      ?_, fun h => absurd h hidle⟩
    rw [← hi.closed]
    exact (hr'.trans hresp).filterMap _

end

def pingFrame : Bytes := [0x44, 0x42, 1, 0x0F, 7, 0, 0, 0, 0, 0, 0, 0]

/-- `output_interleaved` for a session whose client sends a PING. -/
theorem output_interleaved_ping :
    ∃ o : Output, o.session.Idle 0 ∧ o.session.sink = [buildMessage .pong 7 []] ∧ ∃ responses notifications,
      Interleaved responses notifications o.session.sink ∧ responses.filterMap closedRequest = [7] := by
  let pong := buildMessage .pong 7 []
  let s : Session := (Session.new idleBridge).started 1 0
  have hreceive : SessionStep 1 0 s (.task (.receive ddsSucceeds pingFrame)) { s with reader := .responding [pong] } :=
    .task (.receive ddsSucceeds pingFrame rfl rfl rfl)
  have hrespond : SessionStep 1 0 { s with reader := .responding [pong] } (.task .respond)
      { s with reader := .responding [], resp := { s.resp with queue := [pong] } } :=
    .task (.respond rfl rfl (by decide))
  have htake : SessionStep 1 0 { s with reader := .responding [], resp := { s.resp with queue := [pong] } }
      (.task .recvResp) { s with reader := .responding [], writer := .sending pong } :=
    .task (.recvResp rfl rfl)
  have hsent : SessionStep 1 0 { s with reader := .responding [], writer := .sending pong } (.task .sent)
      { s with reader := .responding [], sink := [pong] } :=
    .task (.sent rfl)
  have hresponded : SessionStep 1 0 { s with reader := .responding [], sink := [pong] } (.task .respond)
      { s with sink := [pong] } :=
    .task (.responded rfl)
  have hrun : Runs.Reachable (OutputStep 1 0) (.start 1 0 idleBridge)
      ⟨{ s with sink := [pong] }, [(pingFrame, [pong])], []⟩ :=
    ((((Relation.ReflTransGen.refl.tail ⟨_, .mk hreceive⟩).tail ⟨_, .mk hrespond⟩).tail ⟨_, .mk htake⟩).tail
      ⟨_, .mk hsent⟩).tail ⟨_, .mk hresponded⟩
  obtain ⟨responses, notifications, hmerged, -, -, -, -, -, hclosed⟩ := output_interleaved hrun
  have hidle : Session.Idle 0 { s with sink := [pong] } := ⟨rfl, rfl, rfl, rfl⟩
  exact ⟨_, hidle, rfl, responses, notifications, hmerged, hclosed hidle⟩

end DdsBridge
