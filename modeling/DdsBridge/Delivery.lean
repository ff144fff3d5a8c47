import DdsBridge.Bridge

/-!
# What a request leaves alone

A request may add to the queues of sessions that are registered. It takes nothing off a queue, and
only `register_session` and `unregister_session` touch the senders.
-/

namespace DdsBridge

open BridgeInner Prog

structure Delivers (s t : BridgeInner) : Prop where
  sessionSenders : t.sessionSenders = s.sessionSenders
  queues : ∀ sender c, s.channels.lookup sender = some c →
    ∃ c', t.channels.lookup sender = some c' ∧ c.queue <+: c'.queue

instance : Std.Refl Delivers where
  refl _ := ⟨rfl, fun _ c h => ⟨c, h, List.prefix_refl _⟩⟩

instance : IsTrans BridgeInner Delivers where
  trans s t u hst htu := by
    refine ⟨htu.sessionSenders.trans hst.sessionSenders, fun sender c hc => ?_⟩
    obtain ⟨c', hc', hp⟩ := hst.queues sender c hc
    obtain ⟨c'', hc'', hp'⟩ := htu.queues sender c' hc'
    exact ⟨c'', hc'', hp.trans hp'⟩

theorem delivers_of_eq {s t : BridgeInner} (hs : t.sessionSenders = s.sessionSenders)
    (hc : t.channels = s.channels) : Delivers s t := by
  refine ⟨hs, fun sender c h => ⟨c, ?_, List.prefix_refl _⟩⟩
  rw [hc]
  exact h

/-! ## Messages for other sessions -/

theorem Channel.prefix_trySend (c : Channel) (msg : Bytes) : c.queue <+: (c.trySend msg).queue := by
  unfold Channel.trySend
  split
  · exact List.prefix_append _ _
  · exact List.prefix_refl _

theorem delivers_sendTo (msg : Bytes) (inner : BridgeInner) (sid : UInt64) : Delivers inner (sendTo msg inner sid) := by
  unfold sendTo
  cases inner.sessionSenders.lookup sid with
  | none => exact Std.Refl.refl inner
  | some sender =>
    refine ⟨rfl, fun other c hc => ?_⟩
    change ∃ c', (Table.modify inner.channels sender fun c => c.trySend msg).lookup other = some c' ∧ _
    rw [Table.lookup_modify]
    by_cases h : other = sender
    · rw [if_pos h, ← h, hc]
      exact ⟨c.trySend msg, rfl, c.prefix_trySend msg⟩
    · rw [if_neg h]
      exact ⟨c, hc, List.prefix_refl _⟩

theorem delivers_sendAll (msg : Bytes) (sids : List UInt64) (inner : BridgeInner) :
    Delivers inner (sids.foldl (sendTo msg) inner) := by
  induction sids generalizing inner with
  | nil => exact Std.Refl.refl inner
  | cons sid sids ih => exact IsTrans.trans _ _ _ (delivers_sendTo msg inner sid) (ih _)

/-! ## Requests -/

/-- `R` allows any change to the participant and the writers. -/
structure Ignores (R : BridgeInner → BridgeInner → Prop) : Prop where
  participant : ∀ s participant, R s { s with participant }
  writers : ∀ s writers, R s { s with writers }

theorem ignores_delivers : Ignores Delivers where
  participant _ _ := delivers_of_eq rfl rfl
  writers _ _ := delivers_of_eq rfl rfl

def MsgType.OnReaders : MsgType → Prop
  | .subscribe => True
  | .unsubscribe => True
  | _ => False

section
variable {R : BridgeInner → BridgeInner → Prop} (hR : Ignores R) (dds : DdsReturns) (sid : UInt64) (r : UInt32)

theorem within_parsed [Std.Refl R] {α : Type} (x : Res ProtocolError α) : Within R (parsed r x) :=
  (within_ofRes x).mapErr _

include hR

theorem within_getOrCreateTopic (topicName typeName : String) (isKeyed : Bool) (keys : KeyDescriptors) :
    Within R (getOrCreateTopic dds r topicName typeName isKeyed keys) :=
  (within_zoom hR.participant _).mapErr _

variable [Std.Refl R] [IsTrans BridgeInner R]

theorem within_createWriter (topic : Topic) (qos : QosSet) : Within R (createWriter dds sid r topic qos) := by
  refine within_get.bind fun inner => ((within_ofRes _).mapErr _).bind fun writer => ?_
  exact Within.bind (within_modify fun s => hR.writers s _) fun _ => within_pure _

theorem within_implicitWriter (topicName typeName : String) (qos : QosSet) (keys : KeyDescriptors) :
    Within R (implicitWriter dds sid r topicName typeName qos keys) := by
  refine within_get.bind fun inner => ?_
  by_cases h : inner.writers.findByTopic sid topicName typeName qos.normalize = none
  · rw [if_pos h]
    refine (within_getOrCreateTopic hR dds r topicName typeName _ keys).bind fun topic => ?_
    refine (within_createWriter hR dds sid r topic qos).bind fun _ => within_get.bind fun _ => ?_
    split
    · exact within_pure _
    · exact within_throw _
  · rw [if_neg h]
    refine within_get.bind fun _ => ?_
    split
    · exact within_pure _
    · exact within_throw _

theorem within_doWriteOp (mode : WriteMode) (op : WriteOp) : Within R (doWriteOp dds sid r mode op) := by
  have hexec : ∀ writer, Within R (executeWriteOp dds r writer op >>= fun _ => pure (okResponse r [])) := fun writer =>
    ((within_ofRes _).mapErr _).bind fun _ => within_pure _
  cases mode with
  | topicName topicName typeName qos keys data =>
    exact (within_implicitWriter hR dds sid r topicName typeName qos keys).bind hexec
  | writerId writerId keyBytes data =>
    exact within_get.bind fun inner => ((within_ofRes _).mapErr _).bind hexec

theorem within_undisposed {t : MsgType} (hreaders : t.OnReaders → ∀ s readers, R s { s with readers })
    (ht : t ≠ .dispose ∧ t ≠ .writeDispose) (payload : Bytes) :
    Within R (dispatch dds sid r t payload) := by
  cases t with
  | subscribe =>
    refine (within_parsed r _).bind fun sub => (within_getOrCreateTopic hR dds r _ _ _ _).bind fun topic => ?_
    exact ((within_zoom (hreaders trivial) _).mapErr _).bind fun _ => within_pure _
  | unsubscribe =>
    refine (within_parsed r _).bind fun unsub => within_get.bind fun inner => ?_
    refine Within.bind (within_modify fun s => ?_) fun _ => (within_require _ _).bind fun _ => within_pure _
    exact hreaders trivial s _
  | write =>
    refine (within_parsed r _).bind fun p => ?_
    exact (within_doWriteOp hR dds sid r p.mode .write).bind fun _ => within_pure _
  | dispose => exact absurd rfl ht.1
  | writeDispose => exact absurd rfl ht.2
  | createWriter =>
    refine (within_parsed r _).bind fun cw => (within_getOrCreateTopic hR dds r _ _ _ _).bind fun topic => ?_
    exact (within_createWriter hR dds sid r topic cw.qos).bind fun _ => within_pure _
  | deleteWriter =>
    refine (within_parsed r _).bind fun dw => ?_
    exact ((within_zoom hR.writers _).mapErr _).bind fun _ => within_pure _
  | ping => exact within_pure _
  | ok | error | data | dataDisposed | dataNoWriters | pong => exact within_throw _

theorem within_dispatch (hn : ∀ resp mode, Within R (respWithDisposeNotification sid resp mode)) {t : MsgType}
    (hreaders : t.OnReaders → ∀ s readers, R s { s with readers }) (payload : Bytes) :
    Within R (dispatch dds sid r t payload) := by
  by_cases ht : t ≠ .dispose ∧ t ≠ .writeDispose
  · exact within_undisposed hR dds sid r hreaders ht payload
  · rcases not_and_or.mp ht with h | h
    · cases not_not.mp h
      refine (within_parsed r _).bind fun p => ?_
      exact (within_doWriteOp hR dds sid r p.mode .dispose).bind fun resp => hn resp p.mode
    · cases not_not.mp h
      refine (within_parsed r _).bind fun p => ?_
      exact (within_doWriteOp hR dds sid r p.mode .writeDispose).bind fun resp => hn resp p.mode

end

theorem within_notification (sid : UInt64) (resp : Bytes) (mode : WriteMode) :
    Within Delivers (respWithDisposeNotification sid resp mode) := by
  refine within_get.bind fun inner => ?_
  cases disposedTopic inner mode with
  | none => exact within_pure _
  | some p => exact (within_modify (R := Delivers) (delivers_sendAll _ _)).bind fun _ => within_pure _

/-! ## The readers -/

def SameReaders (s t : BridgeInner) : Prop := t.readers = s.readers

instance : Std.Refl SameReaders where
  refl _ := rfl

instance : IsTrans BridgeInner SameReaders where
  trans _ _ _ h h' := Eq.trans h' h

theorem ignores_sameReaders : Ignores SameReaders where
  participant _ _ := rfl
  writers _ _ := rfl

theorem readers_sendAll (msg : Bytes) (sids : List UInt64) (inner : BridgeInner) :
    SameReaders inner (sids.foldl (sendTo msg) inner) := by
  induction sids generalizing inner with
  | nil => rfl
  | cons sid sids ih =>
    have hsent : SameReaders inner (sendTo msg inner sid) := by
      unfold sendTo
      cases inner.sessionSenders.lookup sid with
      | none => rfl
      | some sender => rfl
    exact IsTrans.trans _ _ _ hsent (ih _)

theorem within_sameReaders (dds : DdsReturns) (sid : UInt64) (r : UInt32) {t : MsgType} (ht : ¬ t.OnReaders)
    (payload : Bytes) : Within SameReaders (dispatch dds sid r t payload) := by
  refine within_dispatch ignores_sameReaders dds sid r (fun resp mode => within_get.bind fun inner => ?_)
    (fun h => absurd h ht) payload
  cases disposedTopic inner mode with
  | none => exact within_pure _
  | some p => exact (within_modify (R := SameReaders) (readers_sendAll _ _)).bind fun _ => within_pure _

/-- **A frame only delivers.** -/
theorem within_processBinaryFrame (dds : DdsReturns) (sid : UInt64) (data : Bytes) (maxPayloadSize : Nat) :
    Within Delivers (processBinaryFrame dds sid data maxPayloadSize) := by
  unfold processBinaryFrame
  cases checkFrame maxPayloadSize data with
  | ok p =>
    refine (within_dispatch ignores_delivers dds sid p.1.requestId (within_notification sid) ?_ p.2).recover _
    exact fun _ s readers => delivers_of_eq rfl rfl
  | err e => exact within_pure _
  | panic => exact fun _ => trivial

end DdsBridge
