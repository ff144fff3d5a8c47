import DdsBridge.Delivery

/-!
# What a request puts on the channels

Only DISPOSE and WRITE_DISPOSE do: the notification for the other subscribers of the topic, as the last
thing that the handler does.
-/

namespace DdsBridge

open BridgeInner Prog

/-- A notification, with the sessions that it is offered to. -/
structure Notice where
  topicName : String
  typeName : String
  msg : Bytes
  recipients : List UInt64

def Notice.send (n : Notice) (inner : BridgeInner) : BridgeInner := n.recipients.foldl (sendTo n.msg) inner

/-- What `resp_with_dispose_notification` sends to others. -/
def noticeAfter (sid : UInt64) (inner : BridgeInner) (mode : WriteMode) : Option Notice :=
  (disposedTopic inner mode).map fun (topicName, typeName, keyData) =>
    { topicName, typeName
      msg := buildMessage .dataDisposed 0 (serializeDataDisposed { topicName, sourceTimestamp := 0, keyData })
      recipients := (topicSubscribers inner topicName typeName).filter (· != sid) }

/-- The notice of a dispose that succeeds. -/
def disposeNotice (dds : DdsReturns) (sid : UInt64) (r : UInt32) (op : WriteOp) (mode : Res ProtocolError WriteMode)
    (inner : BridgeInner) : Option Notice :=
  match mode with
  | .ok mode =>
    match doWriteOp dds sid r mode op inner with
    | .ok (_, inner') => noticeAfter sid inner' mode
    | _ => none
  | _ => none

def noticeOf (dds : DdsReturns) (sid : UInt64) (r : UInt32) (msgType : MsgType) (payload : Bytes)
    (inner : BridgeInner) : Option Notice :=
  match msgType with
  | .dispose => disposeNotice dds sid r .dispose (DisposePayload.mode <$> parseDispose payload) inner
  | .writeDispose => disposeNotice dds sid r .writeDispose (WriteDisposePayload.mode <$> parseWriteDispose payload) inner
  | _ => none

def frameNotice (dds : DdsReturns) (sid : UInt64) (data : Bytes) (maxPayloadSize : Nat) (inner : BridgeInner) :
    Option Notice :=
  match checkFrame maxPayloadSize data with
  | .ok (header, payload) => noticeOf dds sid header.requestId header.msgType payload inner
  | _ => none

theorem frameNotice_eq_some {dds : DdsReturns} {sid : UInt64} {data : Bytes} {maxPayloadSize : Nat}
    {inner : BridgeInner} {n : Notice} (h : frameNotice dds sid data maxPayloadSize inner = some n) :
    ∃ inner' mode, SameReaders inner inner' ∧ noticeAfter sid inner' mode = some n := by
  have hdispose : ∀ {r op mode}, disposeNotice dds sid r op mode inner = some n →
      ∃ inner' mode, SameReaders inner inner' ∧ noticeAfter sid inner' mode = some n := by
    intro r op mode h
    unfold disposeNotice at h
    split at h
    · rename_i mode
      have hsame := within_doWriteOp ignores_sameReaders dds sid r mode op
      split at h
      · rename_i hdone
        exact ⟨_, mode, hsame.ok hdone, h⟩
      · cases h
    · cases h
  unfold frameNotice noticeOf at h
  split at h
  · split at h
    · exact hdispose h
    · exact hdispose h
    · cases h
  · cases h

def notified (notice : Option Notice) (inner : BridgeInner) : BridgeInner := notice.elim inner fun n => n.send inner

structure SameChannels (s t : BridgeInner) : Prop where
  channels : t.channels = s.channels
  sessionSenders : t.sessionSenders = s.sessionSenders

instance : Std.Refl SameChannels where
  refl _ := ⟨rfl, rfl⟩

instance : IsTrans BridgeInner SameChannels where
  trans _ _ _ h h' := ⟨h'.channels.trans h.channels, h'.sessionSenders.trans h.sessionSenders⟩

theorem ignores_sameChannels : Ignores SameChannels where
  participant _ _ := ⟨rfl, rfl⟩
  writers _ _ := ⟨rfl, rfl⟩

section
variable {s t : BridgeInner}

theorem SameChannels.sendTo (h : SameChannels s t) (msg : Bytes) (sid : UInt64) :
    SameChannels (sendTo msg s sid) (sendTo msg t sid) := by
  unfold DdsBridge.sendTo
  rw [h.sessionSenders]
  cases s.sessionSenders.lookup sid with
  | none => exact h
  | some sender => exact ⟨by simp only [h.channels], rfl⟩

theorem SameChannels.send (h : SameChannels s t) (n : Notice) : SameChannels (n.send s) (n.send t) := by
  unfold Notice.send
  induction n.recipients generalizing s t with
  | nil => exact h
  | cons sid sids ih => exact ih (h.sendTo n.msg sid)

theorem SameChannels.notified (h : SameChannels s t) (notice : Option Notice) :
    SameChannels (notified notice s) (notified notice t) := by
  cases notice with
  | none => exact h
  | some n => exact h.send n

end

section
variable (dds : DdsReturns) (sid : UInt64) (r : UInt32)

theorem wp_notification (resp : Bytes) (mode : WriteMode) (s : BridgeInner) :
    (respWithDisposeNotification sid resp mode).wp (fun _ t => t = notified (noticeAfter sid s mode) s)
      (fun _ _ => False) False s := by
  unfold respWithDisposeNotification noticeAfter
  rw [wp_bind, wp_get]
  cases disposedTopic s mode with
  | none => rfl
  | some p => rfl

theorem channels_dispose {α : Type} (op : WriteOp) (p : Res ProtocolError α) (mode : α → WriteMode) (s : BridgeInner) :
    (do
      let p ← parsed r p
      let resp ← doWriteOp dds sid r (mode p) op
      respWithDisposeNotification sid resp (mode p)).wp
      (fun _ t => SameChannels (notified (disposeNotice dds sid r op (mode <$> p) s) s) t)
      (fun _ t => SameChannels (notified (disposeNotice dds sid r op (mode <$> p) s) s) t)
      (disposeNotice dds sid r op (mode <$> p) s = none) s := by
  cases p with
  | err e => exact Std.Refl.refl s
  | panic => rfl
  | ok p =>
    have hsame := within_doWriteOp ignores_sameChannels dds sid r (mode p) op s
    have hnotice : disposeNotice dds sid r op (mode <$> Res.ok p) s =
      match doWriteOp dds sid r (mode p) op s with
      | .ok (_, inner') => noticeAfter sid inner' (mode p)
      | _ => none := rfl
    have hparsed : parsed r (Res.ok p) s = .ok (p, s) := rfl
    rw [hnotice, wp_bind]
    unfold wp at hsame ⊢
    rw [hparsed]
    simp only
    rw [Prog.bind_apply]
    cases hw : doWriteOp dds sid r (mode p) op s with
    | ok q =>
      rw [hw] at hsame
      have hn := wp_notification sid q.1 (mode p) q.2
      unfold wp at hn
      simp only [Res.ok_bind]
      cases hr : respWithDisposeNotification sid q.1 (mode p) q.2 with
      | ok z =>
        rw [hr] at hn
        simp only [hn]
        exact hsame.notified _
      | err z =>
        rw [hr] at hn
        exact hn.elim
      | panic =>
        rw [hr] at hn
        exact hn.elim
    | err q =>
      rw [hw] at hsame
      exact hsame
    | panic => rfl

/-- **The channels after a request** are those with its notice. -/
theorem channels_dispatch (msgType : MsgType) (payload : Bytes) (s : BridgeInner) :
    (dispatch dds sid r msgType payload).wp
      (fun _ t => SameChannels (notified (noticeOf dds sid r msgType payload s) s) t)
      (fun _ t => SameChannels (notified (noticeOf dds sid r msgType payload s) s) t)
      (noticeOf dds sid r msgType payload s = none) s := by
  by_cases ht : msgType ≠ .dispose ∧ msgType ≠ .writeDispose
  · have hnone : noticeOf dds sid r msgType payload s = none := by
      cases msgType with
      | dispose => exact absurd rfl ht.1
      | writeDispose => exact absurd rfl ht.2
      | _ => rfl
    rw [hnone]
    have hw : Within SameChannels (dispatch dds sid r msgType payload) :=
      within_undisposed ignores_sameChannels dds sid r (fun _ _ _ => ⟨rfl, rfl⟩) ht payload
    exact wp_mono (hw s) (fun _ _ h => h) (fun _ _ h => h) fun _ => rfl
  · rcases not_and_or.mp ht with h | h
    · cases not_not.mp h
      exact channels_dispose dds sid r .dispose (parseDispose payload) DisposePayload.mode s
    · cases not_not.mp h
      exact channels_dispose dds sid r .writeDispose (parseWriteDispose payload) WriteDisposePayload.mode s

theorem channels_frame (data : Bytes) (maxPayloadSize : Nat) (s : BridgeInner) :
    SameChannels (notified (frameNotice dds sid data maxPayloadSize s) s)
      ((processBinaryFrame dds sid data maxPayloadSize).after s) := by
  unfold frameNotice processBinaryFrame
  cases hcheck : checkFrame maxPayloadSize data with
  | err e => exact Std.Refl.refl s
  | panic => exact Std.Refl.refl s
  | ok p =>
    obtain ⟨header, payload⟩ := p
    have hwp := channels_dispatch dds sid header.requestId header.msgType payload s
    simp only [Prog.after, handleMessage, Prog.recover]
    cases hd : dispatch dds sid header.requestId header.msgType payload s with
    | ok q =>
      have hdone := post_of_ok hwp hd
      exact hdone
    | err q =>
      have hfailed := post_of_err hwp hd
      exact hfailed
    | panic =>
      simp only [post_of_panic hwp hd]
      exact Std.Refl.refl s

end

end DdsBridge
