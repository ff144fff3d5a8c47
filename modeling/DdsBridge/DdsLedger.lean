import DdsBridge.DdsCalls
import DdsBridge.DisposeNotices

/-!
# What the bridge has in DDS

A call into Cyclone DDS may name only what an earlier call has made and no call has deleted since. Over every run
of the bridge the calls keep to that, and what they have made and not deleted are the topics of the cache, the readers
and the writers of the two registries: nothing leaks, nothing is deleted twice, nothing is used after its end. That
holds also when an id counter has come back and a new entity takes the place of an old one.
-/

namespace DdsBridge

inductive DdsResource where
  | topic (handle : Int32)
  | qos (qos : DdsQos)
  | reader (handle : Int32)
  | writer (handle : Int32)
  deriving DecidableEq, Repr

/-- A creation that fails makes nothing. -/
def made (rc : Int32) (resource : DdsResource) : Multiset DdsResource := if rc < 0 then 0 else {resource}

def qosResources (qos : Option DdsQos) : List DdsResource := qos.toList.map .qos

def DdsCall.effect : DdsCall → Prog.Effect DdsResource
  | .createTopic rc => ⟨[], 0, made rc (.topic rc)⟩
  | .createQos qos => ⟨[], 0, {.qos qos}⟩
  | .deleteQos qos => ⟨[], {.qos qos}, 0⟩
  | .createReader topic qos rc => ⟨.topic topic :: qosResources qos, 0, made rc (.reader rc)⟩
  | .createWriter topic qos rc => ⟨.topic topic :: qosResources qos, 0, made rc (.writer rc)⟩
  | .send _ writer _ _ => ⟨[.writer writer], 0, 0⟩
  | .take reader => ⟨[.reader reader], 0, 0⟩
  | .deleteReader reader => ⟨[], {.reader reader}, 0⟩
  | .deleteWriter writer => ⟨[], {.writer writer}, 0⟩

/-! ## What the registries hold -/

section Table
variable {K V : Type}

def heldIn (f : V → DdsResource) (m : Table K V) : Multiset DdsResource := ↑((Table.values m).map f)

variable [DecidableEq K] {f : V → DdsResource} {m : Table K V} {k : K} {v : V}

theorem heldIn_insert : ↑((m.lookup k).toList.map f) + heldIn f (m.insert k v) = f v ::ₘ heldIn f m := by
  have hperm := ((Table.values_perm_erase m k).map f).cons (f v)
  rw [List.map_append] at hperm
  unfold heldIn
  rw [Table.values_insert, List.map_cons, Multiset.coe_add, Multiset.cons_coe, Multiset.coe_eq_coe]
  exact List.perm_middle.trans hperm.symm

theorem heldIn_erase : ↑((m.lookup k).toList.map f) + heldIn f (m.erase k) = heldIn f m := by
  unfold heldIn
  rw [Multiset.coe_add, ← List.map_append, Multiset.coe_eq_coe]
  exact ((Table.values_perm_erase m k).map f).symm

theorem heldIn_eraseAll (ks : List K) :
    ↑((Table.removed m ks).map f) + heldIn f (Table.eraseAll m ks) = heldIn f m := by
  unfold heldIn
  rw [Multiset.coe_add, ← List.map_append, Multiset.coe_eq_coe]
  exact ((Table.values_perm_removed ks m).map f).symm

theorem heldIn_replace (h : m.lookup k = some v) {v' : V} (hf : f v' = f v) : heldIn f (m.insert k v') = heldIn f m :=
  Multiset.coe_eq_coe.mpr (Table.map_values_replace f h hf)

theorem mem_heldIn (h : m.lookup k = some v) : f v ∈ heldIn f m :=
  Multiset.mem_coe.mpr (List.mem_map_of_mem (Table.mem_values.mpr ⟨k, h⟩))

end Table

def Topic.resource (topic : Topic) : DdsResource := .topic topic.handle

def DdsReader.resource (reader : DdsReader) : DdsResource := .reader reader.handle.handle

def DdsWriter.resource (writer : DdsWriter) : DdsResource := .writer writer.handle.handle

def DdsParticipant.held (participant : DdsParticipant) : Multiset DdsResource := heldIn Topic.resource participant.topics

def ReaderRegistry.held (reg : ReaderRegistry) : Multiset DdsResource := heldIn DdsReader.resource reg.readers

def WriterRegistry.held (reg : WriterRegistry) : Multiset DdsResource :=
  heldIn (fun entry => entry.1.resource) reg.writers

def BridgeInner.held (inner : BridgeInner) : Multiset DdsResource :=
  inner.participant.held + inner.readers.held + inner.writers.held

namespace Calls

open Prog

/-- `Accounts` for the calls into DDS. -/
abbrev Books {σ ε α : Type} (own : σ → Multiset DdsResource) (given : Multiset DdsResource) (P : σ → Prop)
    (Q : α → σ → Prop) (m : Calling σ ε α) : Prop := Accounts DdsCall.effect own given P Q m

/-! ## Scopes and drops -/

section
variable {σ ε α : Type} {own : σ → Multiset DdsResource} {given : Multiset DdsResource} {P : σ → Prop}
  {Q : α → σ → Prop}

theorem books_withQos {created : Bool} {qos : QosSet} {body : Option DdsQos → Calling σ ε α}
    (h : Books own (↑(qosResources (makeQos created qos)) + given) P Q (body (makeQos created qos))) :
    Books own given P Q (withQos created qos body) :=
  h.scope (replay_makes (fun _ => by simp [DdsCall.effect]) _) (replay_frees (fun _ => by simp [DdsCall.effect]) _)

end

theorem replay_dropReaders (readers : List DdsReader) (live : Multiset DdsResource) :
    replay DdsCall.effect (↑(readers.map DdsReader.resource) + live) (readers.map DdsReader.drop) = some live :=
  replay_frees (fun reader => by simp [DdsCall.effect, DdsReader.drop, DdsReader.resource]) readers live

theorem replay_dropWriters (writers : List (DdsWriter × UInt64)) (live : Multiset DdsResource) :
    replay DdsCall.effect (↑(writers.map fun entry => entry.1.resource) + live) (writers.map fun entry => entry.1.drop) =
      some live :=
  replay_frees (fun entry => by simp [DdsCall.effect, DdsWriter.drop, DdsWriter.resource]) writers live

section
variable {c : DdsCall} {uses : List DdsResource} {rc : Int32} {resource : DdsResource} {live : Multiset DdsResource}

theorem replay_created (hc : c.effect = ⟨uses, 0, made rc resource⟩) (huses : ∀ r ∈ uses, r ∈ live) (hrc : ¬ rc < 0) :
    replay DdsCall.effect live [c] = some (resource ::ₘ live) := by
  rw [replay_make (by simpa [hc] using huses) (by simp [hc]), hc]
  simp [made, hrc, add_comm live]

theorem replay_failed (hc : c.effect = ⟨uses, 0, made rc resource⟩) (huses : ∀ r ∈ uses, r ∈ live) (hrc : rc < 0) :
    replay DdsCall.effect live [c] = some live := by
  rw [replay_make (by simpa [hc] using huses) (by simp [hc]), hc]
  simp [made, hrc]

theorem replay_used (hc : c.effect = ⟨uses, 0, 0⟩) (huses : ∀ r ∈ uses, r ∈ live) :
    replay DdsCall.effect live [c] = some live := by
  rw [replay_make (by simpa [hc] using huses) (by simp [hc]), hc]
  simp

end

/-! ## Registries -/

/-- The topic is one of the cache. -/
def HasTopic (topic : Topic) (participant : DdsParticipant) : Prop := topic.resource ∈ participant.held

theorem books_topic (rc : Int32) (topicName typeName : String) (isKeyed : Bool) (keyDescriptors : KeyDescriptors)
    (given : Multiset DdsResource) : Books DdsBridge.DdsParticipant.held given (fun _ => True) HasTopic
      (DdsParticipant.getOrCreateTopic rc topicName typeName isKeyed keyDescriptors) := by
  intro t others _ _ hl
  unfold DdsParticipant.getOrCreateTopic
  simp only [wp_bind, wp_quiet, wp_get]
  cases h : t.state.topics.lookup (topicName, typeName) with
  | some topic => exact ⟨mem_heldIn h, hl⟩
  | none =>
    simp only [wp_bind, wp_quiet, wp_require, wp_ofRes, wp_calls, wp_modify, wp_pure]
    refine ⟨fun _ => ⟨fun _ _ => ⟨fun hrc => ?_, fun hrc => ?_⟩, fun _ _ => hl, fun _ => trivial⟩, fun _ => hl⟩
    · have hnew := heldIn_insert (f := Topic.resource) (m := t.state.topics) (k := (topicName, typeName))
        (v := { handle := rc, topicName, typeName, isKeyed, keyDescriptors })
      simp only [h, Option.toList_none, List.map_nil, Multiset.coe_nil, zero_add] at hnew
      refine ⟨?_, hl.append ?_ _⟩
      · unfold HasTopic DdsBridge.DdsParticipant.held
        rw [hnew]
        exact Multiset.mem_cons_self _ _
      · unfold DdsBridge.DdsParticipant.held
        rw [hnew, Multiset.cons_add]
        exact replay_created rfl (by simp) (Int32.not_lt.mpr hrc)
    · exact hl.append (replay_failed rfl (by simp) (Int32.not_le.mp hrc)) _

theorem drops_of_insert_reader (reg : DdsBridge.ReaderRegistry) (key : ReaderKey) (reader : DdsReader) (topic : Topic)
    (sid : UInt64) (others : Multiset DdsResource) :
    replay DdsCall.effect (reader.resource ::ₘ (reg.held + others))
        ((reg.readers.lookup reader.readerId).toList.map DdsReader.drop) =
      some ((reg.add key reader topic sid).held + others) := by
  have hnew : ↑((reg.readers.lookup reader.readerId).toList.map DdsReader.resource) + (reg.add key reader topic sid).held =
      reader.resource ::ₘ reg.held := heldIn_insert
  rw [← Multiset.cons_add, ← hnew, add_assoc]
  exact replay_dropReaders _ _

/-- The topic and the QoS object are there to be used. -/
theorem books_subscribe (rc : Int32) (topic : Topic) (qos : Option DdsQos) (qosSet : QosSet) (sid : UInt64) :
    Books DdsBridge.ReaderRegistry.held ({topic.resource} + ↑(qosResources qos)) (fun _ => True) (fun _ _ => True)
      (ReaderRegistry.subscribe rc topic qos qosSet sid) := by
  intro t others hg _ hl
  unfold ReaderRegistry.subscribe
  simp only [wp_bind, wp_quiet, wp_get]
  have huses : ∀ r ∈ topic.resource :: qosResources qos, r ∈ t.state.held + others := by
    intro r hr
    refine Multiset.mem_add.mpr (.inr (Multiset.mem_of_le hg ?_))
    simpa using hr
  cases h : t.state.shared (ReaderKey.new topic.topicName topic.typeName qosSet) with
  | some p =>
    have hsame : (t.state.join p.1 p.2 topic sid).held = t.state.held := heldIn_replace (shared_eq_some.mp h).2 rfl
    simp only [wp_bind, wp_quiet, wp_modify, wp_pure]
    refine ⟨trivial, ?_⟩
    rw [hsame]
    exact hl
  | none =>
    simp only [wp_bind, wp_quiet, wp_ofRes, wp_calls, wp_modify, wp_pure]
    refine ⟨fun reader hreader => ⟨trivial, ?_⟩, fun e he => ?_, fun _ => trivial⟩
    · unfold DdsReader.new at hreader
      split at hreader
      · cases hreader
      · rename_i hrc
        cases hreader
        exact (hl.append (replay_created rfl huses hrc) t.state).append (drops_of_insert_reader _ _ _ _ _ _) _
    · unfold DdsReader.new at he
      split at he
      · rename_i hrc
        exact hl.append (replay_failed rfl huses hrc) _
      · cases he

theorem books_unsubscribe {ε : Type} (topicName typeName : String) (sid : UInt64) (given : Multiset DdsResource) :
    Books DdsBridge.ReaderRegistry.held given (fun _ => True) (fun _ _ => True)
      (ReaderRegistry.unsubscribe topicName typeName sid : Calling _ ε Bool) := by
  intro t others _ _ hl
  unfold ReaderRegistry.unsubscribe
  simp only [wp_bind, wp_quiet, wp_get]
  cases t.state.sessionSubscriptions.lookup (sid, topicName, typeName) with
  | none => exact ⟨trivial, hl⟩
  | some readerId =>
    simp only [wp_bind, wp_quiet, wp_modify]
    cases hr : t.state.readers.lookup readerId with
    | none => exact ⟨trivial, hl⟩
    | some reader =>
      have hleave : heldIn DdsReader.resource (t.state.readers.insert readerId (reader.leave sid)) = t.state.held :=
        heldIn_replace hr rfl
      by_cases he : (reader.leave sid).subscribers.isEmpty
      · simp only [if_pos he]
        refine ⟨trivial, hl.append ?_ _⟩
        have herase := heldIn_erase (f := DdsReader.resource) (k := readerId)
          (m := t.state.readers.insert readerId (reader.leave sid))
        rw [hleave, Table.lookup_insert_eq, if_pos rfl] at herase
        rw [← herase, add_assoc]
        exact replay_dropReaders [reader.leave sid] _
      · simp only [if_neg he]
        rw [← hleave] at hl
        exact ⟨trivial, hl⟩

theorem heldIn_leaveAll (sid : UInt64) (affected : List UInt64) : ∀ readers : Table UInt64 DdsReader,
    heldIn DdsReader.resource (DdsBridge.ReaderRegistry.leaveAll sid affected readers).1 =
      heldIn DdsReader.resource readers := by
  induction affected with
  | nil => intro readers; simp [DdsBridge.ReaderRegistry.leaveAll]
  | cons readerId affected ih =>
    intro readers
    unfold DdsBridge.ReaderRegistry.leaveAll
    cases h : readers.lookup readerId with
    | none => exact ih readers
    | some reader => exact (ih _).trans (heldIn_replace h rfl)

theorem books_removeReaders {ε : Type} (sid : UInt64) (given : Multiset DdsResource) :
    Books DdsBridge.ReaderRegistry.held given (fun _ => True) (fun _ _ => True)
      (ReaderRegistry.removeSession sid : Calling _ ε Unit) := by
  intro t others _ _ hl
  refine ⟨trivial, hl.append ?_ _⟩
  have herase := heldIn_eraseAll (f := DdsReader.resource)
    (m := (DdsBridge.ReaderRegistry.leaveAll sid (t.state.affectedReaders sid) t.state.readers).1)
    (DdsBridge.ReaderRegistry.leaveAll sid (t.state.affectedReaders sid) t.state.readers).2
  rw [heldIn_leaveAll] at herase
  unfold DdsBridge.ReaderRegistry.held
  rw [← herase, add_assoc]
  exact replay_dropReaders _ _

/-! ### Writers -/

theorem books_delete (writerId : UInt32) (sid : UInt64) (given : Multiset DdsResource) :
    Books DdsBridge.WriterRegistry.held given (fun _ => True) (fun _ _ => True)
      (WriterRegistry.delete writerId sid) := by
  intro t others _ _ hl
  unfold WriterRegistry.delete DdsBridge.WriterRegistry.delete
  simp only [wp_bind, wp_quiet, wp_get, wp_ofRes, wp_modify, wp_calls]
  refine ⟨fun _ _ => ⟨trivial, hl.append ?_ _⟩, fun _ _ => hl, fun _ => trivial⟩
  have herase := heldIn_erase (f := fun entry : DdsWriter × UInt64 => entry.1.resource) (k := writerId)
    (m := t.state.writers)
  unfold DdsBridge.WriterRegistry.held
  rw [← herase, add_assoc]
  exact replay_dropWriters _ _

theorem books_removeWriters {ε : Type} (sid : UInt64) (given : Multiset DdsResource) :
    Books DdsBridge.WriterRegistry.held given (fun _ => True) (fun _ _ => True)
      (WriterRegistry.removeSession sid : Calling _ ε Unit) := by
  intro t others _ _ hl
  refine ⟨trivial, hl.append ?_ _⟩
  have herase := heldIn_eraseAll (f := fun entry : DdsWriter × UInt64 => entry.1.resource) (m := t.state.writers)
    ((t.state.sessionWriters.lookup sid).getD [])
  have hleft : (t.state.removeSession sid).writers =
      Table.eraseAll t.state.writers ((t.state.sessionWriters.lookup sid).getD []) := by
    unfold DdsBridge.WriterRegistry.removeSession
    cases t.state.sessionWriters.lookup sid with
    | none => simp [Table.eraseAll]
    | some ids => simp
  unfold DdsBridge.WriterRegistry.held
  rw [hleft, ← herase, add_assoc]
  exact replay_dropWriters _ _

/-- The replaced writer, if any, is dropped. -/
theorem drops_of_register (reg : DdsBridge.WriterRegistry) (writer : DdsWriter) (sid : UInt64)
    (others : Multiset DdsResource) :
    replay DdsCall.effect (writer.resource ::ₘ (reg.held + others))
        ((reg.writers.lookup writer.writerId).toList.map fun entry => entry.1.drop) =
      some ((reg.register writer sid).held + others) := by
  have hnew : ↑((reg.writers.lookup writer.writerId).toList.map fun entry : DdsWriter × UInt64 => entry.1.resource) +
      (reg.register writer sid).held = writer.resource ::ₘ reg.held :=
    heldIn_insert (f := fun entry : DdsWriter × UInt64 => entry.1.resource) (v := (writer, sid))
  rw [← Multiset.cons_add, ← hnew, add_assoc]
  exact replay_dropWriters _ _

/-! ## The bridge -/

theorem held_congr {s t : BridgeInner} (hp : t.participant = s.participant) (hr : t.readers = s.readers)
    (hw : t.writers = s.writers) : t.held = s.held := by
  unfold BridgeInner.held
  rw [hp, hr, hw]

theorem held_sendAll (msg : Bytes) (sids : List UInt64) (inner : BridgeInner) :
    (sids.foldl (sendTo msg) inner).held = inner.held := by
  induction sids generalizing inner with
  | nil => simp
  | cons sid sids ih =>
    have hsent : (sendTo msg inner sid).held = inner.held := by
      unfold sendTo
      cases inner.sessionSenders.lookup sid with
      | none => simp
      | some sender => exact held_congr rfl rfl rfl
    rw [List.foldl_cons, ih, hsent]

theorem held_writers (inner : BridgeInner) (others : Multiset DdsResource) : inner.held + others =
    inner.writers.held + (inner.participant.held + inner.readers.held + others) := by
  rw [BridgeInner.held, add_comm _ inner.writers.held, add_assoc]

section
variable {ε α : Type} {given : Multiset DdsResource} {P : BridgeInner → Prop}

theorem books_onParticipant {Q : α → DdsBridge.DdsParticipant → Prop} {m : Calling DdsBridge.DdsParticipant ε α}
    (hm : ∀ given, Books DdsBridge.DdsParticipant.held given (fun _ => True) Q m) :
    Books BridgeInner.held given P (fun a s => Q a s.participant) (onParticipant m) := by
  refine (hm 0).zoom (fun s => s.readers.held + s.writers.held) (fun s => ?_) (fun u s => ?_)
    (fun _ _ _ _ => Multiset.zero_le _) (fun _ _ => trivial) fun _ _ _ _ h => h
  · rw [BridgeInner.held, add_assoc]
  · rw [BridgeInner.held, add_assoc]

theorem books_onReaders {given' : Multiset DdsResource} {m : Calling DdsBridge.ReaderRegistry ε α}
    (hm : Books DdsBridge.ReaderRegistry.held given' (fun _ => True) (fun _ _ => True) m)
    (hgiven : ∀ s others, given ≤ others → P s → given' ≤ s.participant.held + s.writers.held + others) :
    Books BridgeInner.held given P (fun _ _ => True) (onReaders m) := by
  refine hm.zoom (fun s => s.participant.held + s.writers.held) (fun s => ?_) (fun u s => ?_) hgiven
    (fun _ _ => trivial) fun _ _ _ _ _ => trivial
  · rw [BridgeInner.held, add_comm s.participant.held, add_assoc]
  · rw [BridgeInner.held, add_comm s.participant.held, add_assoc]

theorem books_onWriters {m : Calling DdsBridge.WriterRegistry ε α}
    (hm : ∀ given, Books DdsBridge.WriterRegistry.held given (fun _ => True) (fun _ _ => True) m) :
    Books BridgeInner.held given P (fun _ _ => True) (onWriters m) := by
  refine (hm 0).zoom (fun s => s.participant.held + s.readers.held) (fun s => ?_) (fun u s => ?_)
    (fun _ _ _ _ => Multiset.zero_le _) (fun _ _ => trivial) fun _ _ _ _ _ => trivial
  · rw [BridgeInner.held, add_comm]
  · rw [BridgeInner.held, add_comm]

theorem books_get : Books BridgeInner.held given P (fun inner s => s = inner ∧ P s) (quiet Prog.get : Calling _ ε _) :=
  accounts_quiet fun _ hp => ⟨⟨rfl, hp⟩, rfl⟩

theorem books_require (c : Prop) [Decidable c] (e : ε) :
    Books BridgeInner.held given P (fun _ => P) (quiet (Prog.require c e)) :=
  accounts_quiet fun _ hp => by
    rw [wp_require]
    exact ⟨fun _ => ⟨hp, rfl⟩, fun _ => rfl⟩

end

/-! ### Handlers -/

/-- The writer is one of the registry. -/
def HasWriter (writer : DdsWriter) (inner : BridgeInner) : Prop := writer.resource ∈ inner.writers.held

theorem hasWriter_of_lookup {inner : BridgeInner} {writerId : UInt32} {writer : DdsWriter} {owner : UInt64}
    (h : inner.writers.writers.lookup writerId = some (writer, owner)) : HasWriter writer inner :=
  mem_heldIn (f := fun entry : DdsWriter × UInt64 => entry.1.resource) h

theorem hasWriter_of_findByTopic {inner : BridgeInner} {sid : UInt64} {topicName typeName : String} {qos : QosSet}
    {writer : DdsWriter} (h : inner.writers.findByTopic sid topicName typeName qos = some writer) :
    HasWriter writer inner := by
  unfold DdsBridge.WriterRegistry.findByTopic at h
  split at h
  · cases h
  · obtain ⟨writerId, -, hid⟩ := List.exists_of_findSome?_eq_some h
    split at hid
    · rename_i found owner hlook
      split at hid
      · cases hid
        exact hasWriter_of_lookup hlook
      · cases hid
    · cases hid

section
variable (dds : DdsReturns) (sid : UInt64) (r : UInt32) (given : Multiset DdsResource)

theorem books_parsed {α : Type} {P : BridgeInner → Prop} (x : Res ProtocolError α) :
    Books BridgeInner.held given P (fun _ => P) (quiet (parsed r x)) :=
  accounts_quiet fun _ hp => by
    rw [parsed, wp_mapErr, wp_ofRes]
    exact ⟨fun _ _ => ⟨hp, rfl⟩, fun _ _ => rfl, fun _ => trivial⟩

theorem books_getOrCreateTopic (topicName typeName : String) (isKeyed : Bool) (keys : KeyDescriptors) :
    Books BridgeInner.held given (fun _ => True) (fun topic s => HasTopic topic s.participant)
      (getOrCreateTopic dds r topicName typeName isKeyed keys) :=
  (books_onParticipant fun given => books_topic _ _ _ _ _ given).mapErr _

theorem books_createWriter (topic : Topic) (qos : QosSet) :
    Books BridgeInner.held given (fun s => HasTopic topic s.participant) (fun _ _ => True)
      (createWriter dds sid r topic qos) := by
  refine books_withQos ?_
  intro t others hg hp hl
  simp only [wp_bind, wp_quiet, wp_get, wp_calls, DdsBridge.orDdsError, wp_mapErr, wp_ofRes, wp_pure, onWriters,
    wp_zoomTraced, WriterRegistry.register, wp_modify]
  have huses : ∀ x ∈ topic.resource :: qosResources (makeQos dds.createQos qos), x ∈ t.state.held + others := by
    intro x hx
    rcases List.mem_cons.mp hx with rfl | hx
    · simp only [BridgeInner.held, Multiset.mem_add]
      exact .inl (.inl (.inl hp))
    · exact Multiset.mem_add.mpr (.inr (Multiset.mem_of_le hg (by simp [hx])))
  refine ⟨fun writer hwriter => ⟨trivial, ?_⟩, fun e he => ?_, fun _ => trivial⟩
  · unfold DdsWriter.new at hwriter
    split at hwriter
    · cases hwriter
    · rename_i hrc
      cases hwriter
      refine (hl.append (replay_created rfl huses hrc) t.state).append ?_ _
      rw [held_writers, held_writers]
      exact drops_of_register _ (createdWriter dds topic qos _) _ _
  · unfold DdsWriter.new at he
    split at he
    · rename_i hrc
      exact hl.append (replay_failed rfl huses hrc) _
    · cases he

theorem books_implicitWriter (topicName typeName : String) (qos : QosSet) (keys : KeyDescriptors) :
    Books BridgeInner.held given (fun _ => True) HasWriter
      (implicitWriter dds sid r topicName typeName qos keys) := by
  have hfound : ∀ {inner : BridgeInner} {writer : DdsWriter},
      inner.writers.findByTopic sid topicName typeName qos.normalize = some writer →
      Books BridgeInner.held given (fun s => s = inner ∧ True) HasWriter (pure writer : Calling BridgeInner Bytes _) := by
    intro inner writer h
    refine accounts_pure fun s hs => ?_
    rw [hs.1]
    exact hasWriter_of_findByTopic h
  refine Accounts.bind (books_get (P := fun _ => True)) fun inner => ?_
  by_cases hnone : inner.writers.findByTopic sid topicName typeName qos.normalize = none
  · simp only [hnone, if_true]
    refine ((books_getOrCreateTopic dds r given _ _ _ _).mono (fun _ _ => trivial) fun _ _ h => h).bind fun topic => ?_
    refine (books_createWriter dds sid r given topic qos).bind fun _ => books_get.bind fun inner => ?_
    split
    · next h => exact hfound h
    · exact accounts_quiet fun s _ => rfl
  · simp only [hnone, if_false]
    refine (books_get.mono (fun _ _ => trivial) fun _ _ h => h).bind fun inner => ?_
    split
    · next h => exact hfound h
    · exact accounts_quiet fun s _ => rfl

theorem books_executeWriteOp (writer : DdsWriter) (op : WriteOp) (sample : SampleWrapper) :
    Books BridgeInner.held given (HasWriter writer) (fun _ _ => True)
      (executeWriteOp dds r writer op sample) := by
  refine Accounts.bind (accounts_calls fun s others _ hw => replay_used rfl fun x hx => ?_) fun _ =>
    accounts_quiet fun s _ => ?_
  · rw [List.mem_singleton.mp hx]
    simp only [BridgeInner.held, Multiset.mem_add]
    exact .inl (.inr hw)
  · unfold DdsBridge.executeWriteOp DdsBridge.orDdsError
    rw [wp_mapErr, wp_ofRes]
    exact ⟨fun _ _ => ⟨trivial, rfl⟩, fun _ _ => rfl, fun _ => trivial⟩

theorem books_doWriteOp (mode : WriteMode) (op : WriteOp) :
    Books BridgeInner.held given (fun _ => True) (fun _ _ => True) (doWriteOp dds sid r mode op) := by
  have hwriter : Books BridgeInner.held given (fun _ => True) HasWriter (findWriter dds sid r mode) := by
    cases mode with
    | topicName topicName typeName qos keys data => exact books_implicitWriter dds sid r given topicName typeName qos keys
    | writerId writerId keyBytes data =>
      refine Accounts.bind (books_get (P := fun _ => True)) fun inner => accounts_quiet fun s hs => ?_
      rw [DdsBridge.orWriterError, wp_mapErr, wp_ofRes]
      refine ⟨fun writer hw => ⟨?_, rfl⟩, fun _ _ => rfl, fun _ => trivial⟩
      rw [hs.1]
      exact hasWriter_of_lookup (WriterRegistry.get_eq_ok.mp hw)
  refine hwriter.bind fun writer => (books_executeWriteOp dds r given writer op mode.sample).bind fun _ => ?_
  exact accounts_pure fun _ _ => trivial

theorem books_notification (resp : Bytes) (mode : WriteMode) :
    Books BridgeInner.held given (fun _ => True) (fun _ _ => True)
      (quiet (respWithDisposeNotification sid resp mode)) := by
  refine accounts_quiet fun s _ => ?_
  unfold respWithDisposeNotification
  rw [wp_bind, wp_get]
  cases disposedTopic s mode with
  | none => exact ⟨trivial, rfl⟩
  | some p => exact ⟨trivial, held_sendAll _ _ s⟩

theorem books_handleSubscribe (payload : Bytes) :
    Books BridgeInner.held given (fun _ => True) (fun _ _ => True) (handleSubscribe dds sid r payload) := by
  refine (books_parsed r given _).bind fun sub => (books_getOrCreateTopic dds r given _ _ _ _).bind fun topic => ?_
  refine books_withQos (Accounts.bind (Q := fun _ _ => True) ?_ fun _ => accounts_pure fun _ _ => trivial)
  refine (books_onReaders (books_subscribe _ topic _ sub.qos sid) fun s others hg htopic => ?_).mapErr _
  have htopic : {topic.resource} ≤ s.participant.held + s.writers.held :=
    Multiset.singleton_le.mpr (Multiset.mem_add.mpr (.inl htopic))
  exact add_le_add htopic (le_trans (Multiset.le_add_right _ _) hg)

theorem books_dispatch (t : MsgType) (payload : Bytes) :
    Books BridgeInner.held given (fun _ => True) (fun _ _ => True) (dispatch dds sid r t payload) := by
  cases t with
  | subscribe => exact books_handleSubscribe dds sid r given payload
  | unsubscribe =>
    refine (books_parsed r given _).bind fun unsub => Accounts.bind (Q := fun _ _ => True) ?_ fun found => ?_
    · exact books_onReaders (books_unsubscribe _ _ sid 0) fun _ _ _ _ => Multiset.zero_le _
    · exact (books_require _ _).bind fun _ => accounts_pure fun _ _ => trivial
  | write =>
    refine (books_parsed r given _).bind fun p => (books_doWriteOp dds sid r given p.mode .write).bind fun _ => ?_
    exact accounts_pure fun _ _ => trivial
  | dispose =>
    refine (books_parsed r given _).bind fun p => (books_doWriteOp dds sid r given p.mode .dispose).bind fun resp => ?_
    exact books_notification sid given resp p.mode
  | writeDispose =>
    refine (books_parsed r given _).bind fun p => (books_doWriteOp dds sid r given p.mode .writeDispose).bind fun resp => ?_
    exact books_notification sid given resp p.mode
  | createWriter =>
    refine (books_parsed r given _).bind fun cw => (books_getOrCreateTopic dds r given _ _ _ _).bind fun topic => ?_
    exact (books_createWriter dds sid r given topic cw.qos).bind fun _ => accounts_pure fun _ _ => trivial
  | deleteWriter =>
    refine (books_parsed r given _).bind fun dw => Accounts.bind (Q := fun _ _ => True) ?_ fun _ =>
      accounts_pure fun _ _ => trivial
    exact (books_onWriters fun given => books_delete dw.writerId sid given).mapErr _
  | ping => exact accounts_quiet fun _ _ => ⟨trivial, rfl⟩
  | _ => exact accounts_quiet fun _ _ => rfl

theorem books_processBinaryFrame (data : Bytes) (maxPayloadSize : Nat) :
    Books BridgeInner.held given (fun _ => True) (fun _ _ => True) (processBinaryFrame dds sid data maxPayloadSize) := by
  unfold processBinaryFrame
  cases checkFrame maxPayloadSize data with
  | ok p => exact (books_dispatch dds sid p.1.requestId given p.1.msgType p.2).recover _
  | err e => exact accounts_pure fun _ _ => trivial
  | panic => exact fun _ _ _ _ _ => trivial

theorem books_unregisterSession :
    Books BridgeInner.held given (fun _ => True) (fun _ _ => True) (unregisterSession sid) := by
  refine Accounts.bind (Q := fun _ _ => True) (accounts_quiet fun s _ => ⟨trivial, rfl⟩) fun _ => ?_
  refine (books_onWriters fun given => books_removeWriters sid given).bind fun _ => ?_
  exact books_onReaders (books_removeReaders sid 0) fun _ _ _ _ => Multiset.zero_le _

/-! ### A tick -/

theorem replay_takeCalls {reader : DdsReader} {live : Multiset DdsResource} (h : reader.resource ∈ live)
    (maxSamples available : Nat) :
    replay DdsCall.effect live (takeCalls reader maxSamples available) = some live := by
  unfold takeCalls
  induction min maxSamples (available + 1) with
  | zero => simp
  | succ n ih =>
    have hone : replay DdsCall.effect live [.take reader.handle.handle] = some live :=
      replay_used rfl fun x hx => List.mem_singleton.mp hx ▸ h
    rw [List.replicate_succ, ← List.singleton_append, replay_append, hone, Option.bind_some, ih]

theorem books_collectReaders (available : UInt64 → List TakenSample) (readerIds : List UInt64) :
    Books BridgeInner.held given (fun _ => True) (fun _ _ => True) (collectReaders available readerIds) := by
  induction readerIds with
  | nil => exact accounts_pure fun _ _ => trivial
  | cons readerId readerIds ih =>
    refine Accounts.bind (Q := fun _ _ => True) ?_ fun taken => ih.bind fun rest => accounts_pure fun _ _ => trivial
    refine Accounts.bind (books_get (P := fun _ => True)) fun inner => ?_
    cases h : inner.readers.readers.lookup readerId with
    | none => exact accounts_pure fun _ _ => trivial
    | some reader =>
      refine Accounts.bind (accounts_calls fun s others _ hs => ?_) fun _ => accounts_pure fun _ _ => trivial
      refine replay_takeCalls ?_ _ _
      rw [hs.1]
      simp only [BridgeInner.held, Multiset.mem_add]
      exact .inl (.inl (.inr (mem_heldIn h)))

end

/-! ## Runs -/

/-- The calls made so far leave what the registries hold. -/
def Balanced (t : Traced BridgeInner DdsCall) : Prop := replay DdsCall.effect 0 t.calls = some t.state.held

theorem Balanced.after {α : Type} {m : Calling BridgeInner Empty α}
    (hm : Books BridgeInner.held 0 (fun _ => True) (fun _ _ => True) m) {t : Traced BridgeInner DdsCall}
    (h : Balanced t) : Balanced (m.after t) := by
  have hl : Prog.Leaves DdsCall.effect t (t.state.held + 0) := (add_zero t.state.held).symm ▸ h
  refine after_of_wp (wp_mono (hm t 0 (Multiset.zero_le _) trivial hl) (fun _ u hu => ?_) (fun e => e.elim) id) fun _ => h
  have hleft := hu.2
  rw [add_zero] at hleft
  exact hleft

theorem Balanced.act {t : Traced BridgeInner DdsCall} (h : Balanced t) (action : Action) : Balanced (act t action) := by
  cases action with
  | tick available =>
    refine h.after ((books_get (P := fun _ => True)).bind fun inner => ?_)
    exact (books_collectReaders 0 available _).mono (fun _ _ => trivial) fun _ _ h => h
  | bridge action =>
    cases action with
    | register sid sender => exact h
    | channel sender channel => exact h
    | unregister sid => exact h.after (books_unregisterSession sid 0)
    | frame dds sid data maxPayloadSize => exact h.after (books_processBinaryFrame dds sid 0 data maxPayloadSize)

/-- A bridge with a participant and nothing else. -/
def start (handle : Int32) (config : BridgeConfig) : Traced BridgeInner DdsCall := ⟨BridgeInner.create handle config, []⟩

theorem balanced_start (handle : Int32) (config : BridgeConfig) : Balanced (start handle config) := by
  simp [Balanced, start, BridgeInner.create, BridgeInner.held, DdsBridge.DdsParticipant.held,
    DdsBridge.ReaderRegistry.held, DdsBridge.WriterRegistry.held, heldIn, Table.values, DdsBridge.ReaderRegistry.new,
    DdsBridge.WriterRegistry.new]

/-- **What the bridge has in DDS.** In every run of the bridge and its poll loop each call names only what is there,
and what is there is what the registries hold. Without the calls the run is one of the bridge. -/
theorem dds_calls_balanced {handle : Int32} {config : BridgeConfig} {tr : List (Action × Traced BridgeInner DdsCall)}
    (hrun : Runs.Run Step (start handle config) tr) :
    Runs.Always (fun t => replay DdsCall.effect 0 t.calls = some t.state.held ∧ BridgeReachable t.state)
      (start handle config) tr := by
  refine hrun.reachable.mono fun t ht => ⟨?_, handle, config, ?_⟩
  · have hbalanced : Balanced t := by
      refine ht.invariant (balanced_start handle config) fun s action u hs hstep => ?_
      rw [show u = act s action from hstep]
      exact hs.act action
    exact hbalanced
  · induction ht with
    | refl => exact .refl
    | tail _ hstep ih =>
      obtain ⟨action, rfl⟩ := hstep
      rw [act_state]
      cases action with
      | bridge action => exact ih.tail ⟨action, rfl⟩
      | tick available => exact ih

/-- A session subscribes, a tick finds nothing, and the session ends. -/
def visit : List Action :=
  [.bridge (.frame ddsSucceeds 1 durableSubscribeFrame 1024), .tick fun _ => [], .bridge (.unregister 1)]

theorem dds_calls_balanced_visit :
    let s := start 1 idleBridge.config
    let qos : DdsQos := ⟨[.durability .transientLocal]⟩
    Runs.Always (fun t => replay DdsCall.effect 0 t.calls = some t.state.held ∧ BridgeReachable t.state) s
        (Runs.along act s visit) ∧
      (visit.foldl act s).calls = [.createTopic 1, .createQos qos, .createReader 1 (some qos) 2, .deleteQos qos, .take 2,
        .deleteReader 2] :=
  ⟨dds_calls_balanced (Runs.run_along step_act _ _), by decide +kernel⟩

end Calls

end DdsBridge
