import DdsBridge.GoChannels

/-!
# When a Subscription of the Go client becomes live

`Subscribe` appends to `c.subs` after it has seen the OK, and `recvLoop` goes on with the next frame without
waiting for that. Which frames that arrive after the OK reach the channel.
-/

namespace DdsBridge.GoChannels

open GoDelivery (DataMessage channelCap)
open Client

/-! ## What a Subscription is due -/

/-- The frame at `i` is data for the topic, it arrived after the OK and before `Unsubscribe` was called. -/
structure Client.Due (s : Client) (i o : Nat) : Prop where
  made : o < s.nextSub
  afterOk : (s.sub o).okAt < i
  data : ∃ msg, s.frames[i]? = some (.data msg) ∧ msg.topicName = (s.sub o).topicName
  uncalled : ∀ n, (s.sub o).calledAt = some n → i < n

/-- `deliverData` is at work on the frame and has not come to the Subscription. -/
def RecvLoop.Waits (recv : RecvLoop) (i o : Nat) : Prop :=
  match recv with
  | .copying j _ => j = i
  | .delivering j _ targets => j = i ∧ o ∈ targets
  | .sending _ j _ sub targets => j = i ∧ o ∈ sub :: targets
  | _ => False

/-- What a Subscription is due is put into its channel, when `deliverData` comes to it. -/
def NoneLost (s : Client) : Prop :=
  ∀ i o, s.Due i o → (i, o) ∈ s.placed ∨ s.read ≤ i ∨ s.recv.Waits i o

/-- `Subscribe` appends before `deliverData` copies `c.subs` for a frame that follows the OK, and `Unsubscribe` comes
after `deliverData` has come to the Subscription. -/
def InTime (s : Client) : Action → Prop
  | .append c => ∀ topicName typeName k, s.call c = .answered topicName typeName k → ∀ i msg,
    s.frames[i]? = some (.data msg) → msg.topicName = topicName → k < i → s.read ≤ i ∨ s.recv = .copying i msg
  | .copy => ∀ i msg, s.recv = .copying i msg → ∀ o, s.Due i o → o ∈ s.subs
  | .check => ∀ i msg o targets, s.recv = .delivering i msg (o :: targets) → s.Due i o → (s.sub o).unsubscribed = false
  | .select => ∀ select i msg o targets, s.recv = .sending select i msg o targets → select ≠ .drop →
    (s.sub o).closes = 0
  | _ => True

/-! ## The invariant -/

def RecvLoop.frame : RecvLoop → Option (Nat × DataMessage)
  | .copying i msg => some (i, msg)
  | .delivering i msg _ => some (i, msg)
  | .sending _ i msg _ _ => some (i, msg)
  | _ => none

structure LiveInv (s : Client) : Prop where
  flags : FlagsInv s
  read : s.read ≤ s.frames.length
  frame : ∀ i msg, s.recv.frame = some (i, msg) → i + 1 = s.read ∧ s.frames[i]? = some (.data msg)
  nodup : s.subs.Nodup
  targets : s.recv.targets.Nodup
  wanted : ∀ i msg, s.recv.frame = some (i, msg) → ∀ o ∈ s.recv.targets,
    (s.sub o).okAt < i ∧ msg.topicName = (s.sub o).topicName
  known : ∀ o, o < s.nextSub → (s.sub o).okAt < s.read ∧ ∃ c, s.frames[(s.sub o).okAt]? = some (.ok c)
  answered : ∀ c topicName typeName k, s.call c = .answered topicName typeName k →
    k < s.read ∧ ∃ c', s.frames[k]? = some (.ok c')
  placed : ∀ i o, (i, o) ∈ s.placed → o < s.nextSub ∧ i < s.read ∧ ¬ s.recv.Waits i o
  called : ∀ o n, (s.sub o).calledAt = some n → (s.sub o).unsubscribed = true ∧ n ≤ s.frames.length
  /-- `Unsubscribe` was not called before the check. -/
  hand : ∀ select i msg o targets, s.recv = .sending select i msg o targets → ∀ n, (s.sub o).calledAt = some n → i < n
  room : ∀ i msg o targets, s.recv = .sending .retry i msg o targets → (s.sub o).ch.HasRoom
  lost : NoneLost s

theorem liveInv_new : LiveInv .new where
  flags := flagsInv_new
  read := Nat.le_refl 0
  frame i msg h := by cases h
  nodup := List.nodup_nil
  targets := List.nodup_nil
  wanted i msg h := by cases h
  known o h := by cases h
  answered c topicName typeName k h := by cases h
  placed i o h := by cases h
  called o n h := by cases h
  hand select i msg o targets h := by cases h
  room i msg o targets h := by cases h
  lost i o h := by cases h.made

section
variable {s t : Client} {action : Action}

/-- What the invariant reads of a Subscription is the same, but for the channel. -/
structure SameSub (old new : Subscription) : Prop where
  topicName : new.topicName = old.topicName
  okAt : new.okAt = old.okAt
  calledAt : new.calledAt = old.calledAt
  unsubscribed : old.unsubscribed = true → new.unsubscribed = true

theorem SameSub.refl (sub : Subscription) : SameSub sub sub := ⟨rfl, rfl, rfl, fun h => h⟩

theorem SameSub.setSub {o : Nat} {sub : Subscription} (h : SameSub (s.sub o) sub) (o' : Nat) :
    SameSub (s.sub o') ((s.setSub o sub).sub o') := by
  rw [setSub_sub]
  split
  · next he =>
    rw [he]
    exact h
  · exact .refl _

theorem SameSub.closeChannel (o o' : Nat) : SameSub (s.sub o') ((s.closeChannel o).sub o') := by
  unfold Client.closeChannel
  split
  · exact .refl _
  · refine SameSub.setSub ?_ o'
    exact ⟨rfl, rfl, rfl, fun h => h⟩

theorem closeChannel_ch (o o' : Nat) : ((s.closeChannel o).sub o').ch = (s.sub o').ch := by
  unfold Client.closeChannel
  split
  · rfl
  · rw [setSub_sub]
    split
    · next he => rw [he]
    · rfl

theorem due_congr (hframes : t.frames = s.frames) (hnext : t.nextSub = s.nextSub)
    (hsub : ∀ o, SameSub (s.sub o) (t.sub o)) {i o : Nat} : t.Due i o ↔ s.Due i o := by
  have h := hsub o
  refine ⟨fun hd => ?_, fun hd => ?_⟩
  · obtain ⟨hmade, hok, hdata, huncalled⟩ := hd
    rw [hnext] at hmade
    rw [h.okAt] at hok
    rw [hframes, h.topicName] at hdata
    rw [h.calledAt] at huncalled
    exact ⟨hmade, hok, hdata, huncalled⟩
  · refine ⟨?_, ?_, ?_, ?_⟩
    · rw [hnext]
      exact hd.made
    · rw [h.okAt]
      exact hd.afterOk
    · rw [hframes, h.topicName]
      exact hd.data
    · rw [h.calledAt]
      exact hd.uncalled

/-- A step of another goroutine that changes nothing of what the Subscriptions are due. -/
theorem LiveInv.other (hi : LiveInv s) (hflags : FlagsInv t) (hframes : t.frames = s.frames) (hread : t.read = s.read)
    (hrecv : t.recv = s.recv) (hplaced : t.placed = s.placed) (hnext : t.nextSub = s.nextSub) (hsubs : t.subs.Nodup)
    (hcall : ∀ c topicName typeName k, t.call c = .answered topicName typeName k →
      s.call c = .answered topicName typeName k)
    (hsub : ∀ o, SameSub (s.sub o) (t.sub o)) (hroom : ∀ o, (s.sub o).ch.HasRoom → (t.sub o).ch.HasRoom) :
    LiveInv t where
  flags := hflags
  read := by
    rw [hread, hframes]
    exact hi.read
  frame := by
    rw [hrecv, hread, hframes]
    exact hi.frame
  nodup := hsubs
  targets := by
    rw [hrecv]
    exact hi.targets
  wanted i msg h o ho := by
    rw [hrecv] at h ho
    rw [(hsub o).okAt, (hsub o).topicName]
    exact hi.wanted i msg h o ho
  known o ho := by
    rw [hnext] at ho
    rw [hread, hframes, (hsub o).okAt]
    exact hi.known o ho
  answered c topicName typeName k h := by
    rw [hread, hframes]
    exact hi.answered c topicName typeName k (hcall c topicName typeName k h)
  placed i o h := by
    rw [hplaced] at h
    rw [hnext, hread, hrecv]
    exact hi.placed i o h
  called o n h := by
    rw [(hsub o).calledAt] at h
    rw [hframes]
    obtain ⟨hu, hn⟩ := hi.called o n h
    exact ⟨(hsub o).unsubscribed hu, hn⟩
  hand select i msg o targets h := by
    rw [hrecv] at h
    rw [(hsub o).calledAt]
    exact hi.hand select i msg o targets h
  room i msg o targets h := by
    rw [hrecv] at h
    exact hroom o (hi.room i msg o targets h)
  lost i o h := by
    rw [hplaced, hread, hrecv]
    exact hi.lost i o ((due_congr hframes hnext hsub).mp h)

theorem RecvLoop.Waits.frame {recv : RecvLoop} {i o : Nat} (h : recv.Waits i o) :
    ∃ msg, recv.frame = some (i, msg) := by
  cases recv with
  | copying j msg =>
    cases h
    exact ⟨msg, rfl⟩
  | delivering j msg targets =>
    obtain ⟨rfl, -⟩ := h
    exact ⟨msg, rfl⟩
  | sending select j msg sub targets =>
    obtain ⟨rfl, -⟩ := h
    exact ⟨msg, rfl⟩
  | reading | done | crashed => exact h.elim

/-- What is copied from `c.subs` came before the frame. -/
theorem LiveInv.wanted_of_copy (hi : LiveInv s) {i : Nat} {msg : DataMessage} (hr : s.recv = .copying i msg) {o : Nat}
    (ho : o ∈ s.targets msg) : (s.sub o).okAt < i ∧ msg.topicName = (s.sub o).topicName := by
  obtain ⟨hmem, htopic⟩ := List.mem_filter.mp ho
  obtain ⟨hread, hdata⟩ := hi.frame i msg (by rw [hr]; rfl)
  obtain ⟨hlt, c, hok⟩ := hi.known o (hi.flags.subs o hmem)
  have hne : (s.sub o).okAt ≠ i := by
    intro he
    rw [he, hdata] at hok
    cases hok
  exact ⟨by omega, (of_decide_eq_true htopic).symm⟩

/-- A step of `recvLoop` on the frame at hand: only `recv`, the channels and `placed` change. -/
theorem LiveInv.loop (hi : LiveInv s) (hflags : FlagsInv t) (hframes : t.frames = s.frames) (hread : t.read = s.read)
    (hnext : t.nextSub = s.nextSub) (hsubs : t.subs = s.subs) (hcall : t.call = s.call)
    (hsub : ∀ o, SameSub (s.sub o) (t.sub o))
    (hframe : ∀ i msg, t.recv.frame = some (i, msg) → s.recv.frame = some (i, msg))
    (htargets : t.recv.targets.Nodup)
    (hwanted : ∀ o ∈ t.recv.targets, o ∈ s.recv.targets ∨ ∃ i msg, s.recv = .copying i msg ∧ o ∈ s.targets msg)
    (hplaced : ∀ i o, (i, o) ∈ t.placed → (i, o) ∈ s.placed ∨ o ∈ s.recv.targets ∧ s.recv.Waits i o)
    (hwaits : ∀ i o, t.recv.Waits i o → s.recv.Waits i o ∧ ((i, o) ∈ t.placed → (i, o) ∈ s.placed))
    (hhand : ∀ select i msg o targets, t.recv = .sending select i msg o targets →
      (∃ select', s.recv = .sending select' i msg o targets) ∨ (s.sub o).unsubscribed = false)
    (hroom : ∀ i msg o targets, t.recv = .sending .retry i msg o targets → (t.sub o).ch.HasRoom)
    (hlost : ∀ i o, s.Due i o → s.recv.Waits i o → (i, o) ∈ t.placed ∨ t.recv.Waits i o)
    (hkept : ∀ p ∈ s.placed, p ∈ t.placed) : LiveInv t where
  flags := hflags
  read := by
    rw [hread, hframes]
    exact hi.read
  frame i msg h := by
    rw [hread, hframes]
    exact hi.frame i msg (hframe i msg h)
  nodup := by
    rw [hsubs]
    exact hi.nodup
  targets := htargets
  wanted i msg h o ho := by
    rw [(hsub o).okAt, (hsub o).topicName]
    have hcur := hframe i msg h
    rcases hwanted o ho with ho | ⟨i', msg', hr, ho⟩
    · exact hi.wanted i msg hcur o ho
    · rw [hr] at hcur
      cases hcur
      exact hi.wanted_of_copy hr ho
  known o ho := by
    rw [hnext] at ho
    rw [hread, hframes, (hsub o).okAt]
    exact hi.known o ho
  answered c topicName typeName k h := by
    rw [hcall] at h
    rw [hread, hframes]
    exact hi.answered c topicName typeName k h
  placed i o h := by
    rw [hnext, hread]
    rcases hplaced i o h with hp | ⟨ho, hw⟩
    · obtain ⟨hlt, hread, hnot⟩ := hi.placed i o hp
      exact ⟨hlt, hread, fun hw => hnot (hwaits i o hw).1⟩
    · obtain ⟨msg, hcur⟩ := hw.frame
      have hlast := (hi.frame i msg hcur).1
      exact ⟨hi.flags.targets o ho, by omega, fun hw' => (hi.placed i o ((hwaits i o hw').2 h)).2.2 hw⟩
  called o n h := by
    rw [(hsub o).calledAt] at h
    rw [hframes]
    obtain ⟨hu, hn⟩ := hi.called o n h
    exact ⟨(hsub o).unsubscribed hu, hn⟩
  hand select i msg o targets h n hn := by
    rw [(hsub o).calledAt] at hn
    rcases hhand select i msg o targets h with ⟨select', hr⟩ | hu
    · exact hi.hand select' i msg o targets hr n hn
    · rw [(hi.called o n hn).1] at hu
      cases hu
  room := hroom
  lost i o h := by
    rw [hread]
    have hd := (due_congr hframes hnext hsub).mp h
    rcases hi.lost i o hd with hp | hr | hw
    · exact .inl (hkept _ hp)
    · exact .inr (.inl hr)
    · rcases hlost i o hd hw with hp | hw
      · exact .inl hp
      · exact .inr (.inr hw)

theorem LiveInv.readOther (hi : LiveInv s) (hr : s.recv = .reading) {f : Frame} (hf : s.frames[s.read]? = some f)
    (hd : ∀ msg, f ≠ .data msg) : LiveInv { s with read := s.read + 1 } := by
  have hlen := (List.getElem?_eq_some_iff.mp hf).1
  refine ⟨hi.flags.sameSubs rfl rfl rfl rfl (fun _ h => h) (fun _ h => .inl h), hlen, fun i msg h => ?_, hi.nodup, hi.targets,
    hi.wanted, fun o ho => ?_, fun c topicName typeName k h => ?_, fun i o h => ?_, hi.called, hi.hand, hi.room,
    fun i o h => ?_⟩
  · change s.recv.frame = _ at h
    rw [hr] at h
    cases h
  · obtain ⟨hlt, hok⟩ := hi.known o ho
    exact ⟨Nat.lt_succ_of_lt hlt, hok⟩
  · obtain ⟨hlt, hok⟩ := hi.answered c topicName typeName k h
    exact ⟨Nat.lt_succ_of_lt hlt, hok⟩
  · obtain ⟨hlt, hread, hnot⟩ := hi.placed i o h
    exact ⟨hlt, Nat.lt_succ_of_lt hread, hnot⟩
  · have hdue : s.Due i o := ⟨h.made, h.afterOk, h.data, h.uncalled⟩
    rcases hi.lost i o hdue with hp | hread | hw
    · exact .inl hp
    · refine .inr (.inl ?_)
      have hne : s.read ≠ i := by
        rintro rfl
        obtain ⟨msg, hdata, -⟩ := hdue.data
        rw [hf] at hdata
        cases hdata
        exact hd msg rfl
      change s.read + 1 ≤ i
      omega
    · exact .inr (.inr hw)

theorem LiveInv.readData (hi : LiveInv s) (hr : s.recv = .reading) {msg : DataMessage}
    (hf : s.frames[s.read]? = some (.data msg)) : LiveInv { s with recv := .copying s.read msg, read := s.read + 1 } := by
  have hlen := (List.getElem?_eq_some_iff.mp hf).1
  refine ⟨hi.flags.sameSubs rfl rfl rfl rfl (fun _ h => h) (fun _ h => by cases h), hlen, fun i msg' h => ?_, hi.nodup,
    List.nodup_nil, fun _ _ _ => nofun, fun o ho => ?_, fun c topicName typeName k h => ?_, fun i o h => ?_, hi.called,
    nofun, nofun, fun i o h => ?_⟩
  · cases h
    exact ⟨rfl, hf⟩
  · obtain ⟨hlt, hok⟩ := hi.known o ho
    exact ⟨Nat.lt_succ_of_lt hlt, hok⟩
  · obtain ⟨hlt, hok⟩ := hi.answered c topicName typeName k h
    exact ⟨Nat.lt_succ_of_lt hlt, hok⟩
  · obtain ⟨hlt, hread, -⟩ := hi.placed i o h
    exact ⟨hlt, Nat.lt_succ_of_lt hread, fun hw => Nat.ne_of_gt hread hw⟩
  · have hdue : s.Due i o := ⟨h.made, h.afterOk, h.data, h.uncalled⟩
    rcases hi.lost i o hdue with hp | hread | hw
    · exact .inl hp
    · rcases Nat.eq_or_lt_of_le hread with he | hlt
      · exact .inr (.inr he)
      · exact .inr (.inl hlt)
    · rw [hr] at hw
      exact hw.elim

theorem LiveInv.arrive (hi : LiveInv s) (f : Frame) : LiveInv { s with frames := s.frames ++ [f] } := by
  have hold : ∀ i, i < s.frames.length → (s.frames ++ [f])[i]? = s.frames[i]? := fun i h =>
    List.getElem?_append_left h
  have hkept : ∀ i x, s.frames[i]? = some x → (s.frames ++ [f])[i]? = some x := fun i x h => by
    rw [hold i (List.getElem?_eq_some_iff.mp h).1]
    exact h
  refine ⟨hi.flags.sameSubs rfl rfl rfl rfl (fun _ h => h) (fun _ h => .inl h), ?_, fun i msg h => ?_, hi.nodup, hi.targets,
    hi.wanted, fun o ho => ?_, fun c topicName typeName k h => ?_, hi.placed, fun o n h => ?_, hi.hand, hi.room,
    fun i o h => ?_⟩
  · simp only [List.length_append]
    exact Nat.le_add_right_of_le hi.read
  · obtain ⟨hread, hdata⟩ := hi.frame i msg h
    exact ⟨hread, hkept i _ hdata⟩
  · obtain ⟨hlt, c, hok⟩ := hi.known o ho
    exact ⟨hlt, c, hkept _ _ hok⟩
  · obtain ⟨hlt, c', hok⟩ := hi.answered c topicName typeName k h
    exact ⟨hlt, c', hkept _ _ hok⟩
  · obtain ⟨hu, hn⟩ := hi.called o n h
    simp only [List.length_append]
    exact ⟨hu, Nat.le_add_right_of_le hn⟩
  · by_cases hlt : i < s.frames.length
    · have hdata := h.data
      rw [show ({ s with frames := s.frames ++ [f] } : Client).frames[i]? = s.frames[i]? from hold i hlt] at hdata
      exact hi.lost i o ⟨h.made, h.afterOk, hdata, h.uncalled⟩
    · exact .inr (.inl (Nat.le_trans hi.read (Nat.le_of_not_lt hlt)))

/-- A Subscription becomes known while `recvLoop` has copied `c.subs` for none of the frames that it is due. -/
theorem LiveInv.append (hi : LiveInv s) {topicName typeName : GoCodec.GoString} {k : Nat}
    (hk : k < s.read ∧ ∃ c, s.frames[k]? = some (.ok c))
    (hok : ∀ i msg, s.frames[i]? = some (.data msg) → msg.topicName = topicName → k < i →
      s.read ≤ i ∨ s.recv = .copying i msg) : LiveInv (s.append topicName typeName k) := by
  have hold : ∀ o, o < s.nextSub → (s.append topicName typeName k).sub o = s.sub o := by
    intro o ho
    rw [append_sub, if_neg (Nat.ne_of_lt ho)]
  have hfresh : s.nextSub ∉ s.subs := fun h => Nat.lt_irrefl _ (hi.flags.subs _ h)
  refine ⟨hi.flags.append topicName typeName k, hi.read, hi.frame, ?_, hi.targets, fun i msg h o ho => ?_,
    fun o ho => ?_, hi.answered, fun i o h => ?_, fun o n h => ?_, fun select i msg o targets h n hn => ?_,
    fun i msg o targets h => ?_, fun i o h => ?_⟩
  · refine List.nodup_append.mpr ⟨hi.nodup, List.nodup_singleton _, fun a ha b hb he => ?_⟩
    rw [List.mem_singleton.mp hb] at he
    rw [he] at ha
    exact hfresh ha
  · rw [hold o (hi.flags.targets o ho)]
    exact hi.wanted i msg h o ho
  · rcases Nat.lt_succ_iff_lt_or_eq.mp ho with ho | rfl
    · rw [hold o ho]
      exact hi.known o ho
    · rw [append_sub, if_pos rfl]
      exact hk
  · obtain ⟨hlt, hrest⟩ := hi.placed i o h
    exact ⟨Nat.lt_succ_of_lt hlt, hrest⟩
  · rw [append_sub] at h ⊢
    split at h
    · cases h
    · next hne =>
      rw [if_neg hne]
      exact hi.called o n h
  · have ho := hi.flags.targets o (by
      rw [show s.recv = .sending select i msg o targets from h]
      exact List.mem_cons_self)
    rw [hold o ho] at hn
    exact hi.hand select i msg o targets h n hn
  · have ho := hi.flags.targets o (by
      rw [show s.recv = .sending .retry i msg o targets from h]
      exact List.mem_cons_self)
    rw [hold o ho]
    exact hi.room i msg o targets h
  · obtain ⟨hmade, hafter, hdata, huncalled⟩ := h
    rcases Nat.lt_succ_iff_lt_or_eq.mp hmade with ho | rfl
    · rw [hold o ho] at hafter hdata huncalled
      exact hi.lost i o ⟨ho, hafter, hdata, huncalled⟩
    · rw [append_sub, if_pos rfl] at hafter hdata
      obtain ⟨msg, hframe, htopic⟩ := hdata
      rcases hok i msg hframe htopic hafter with hread | hr
      · exact .inr (.inl hread)
      · refine .inr (.inr ?_)
        change s.recv.Waits i _
        rw [hr]
        rfl

theorem unsubscribe_sub (o o' : Nat) :
    (s.unsubscribe o).sub o' = s.sub o' ∨ o' = o ∧ ∃ n, (s.unsubscribe o).sub o' =
      { s.sub o' with unsubscribed := true, calledAt := some n } ∧
        ((s.sub o').calledAt = some n ∨ (s.sub o').calledAt = none ∧ n = s.frames.length) := by
  by_cases he : o' = o
  · subst he
    refine .inr ⟨rfl, ?_⟩
    rw [Client.unsubscribe, setSub_sub, if_pos rfl]
    cases hc : (s.sub o').calledAt with
    | none => exact ⟨s.frames.length, rfl, .inr ⟨rfl, rfl⟩⟩
    | some n => exact ⟨n, rfl, .inl rfl⟩
  · rw [Client.unsubscribe, setSub_sub, if_neg he]
    exact .inl rfl

theorem LiveInv.unsubscribe (hi : LiveInv s) (o : Nat) : LiveInv (s.unsubscribe o) := by
  have hsub : ∀ o', ((s.unsubscribe o).sub o').okAt = (s.sub o').okAt ∧
      ((s.unsubscribe o).sub o').topicName = (s.sub o').topicName ∧ ((s.unsubscribe o).sub o').ch = (s.sub o').ch := by
    intro o'
    obtain h | ⟨-, n, h, -⟩ := unsubscribe_sub (s := s) o o'
    · rw [h]
      exact ⟨rfl, rfl, rfl⟩
    · rw [h]
      exact ⟨rfl, rfl, rfl⟩
  refine ⟨hi.flags.setSub o (fun _ => rfl) (hi.flags.once o) (fun _ => rfl), hi.read, hi.frame, hi.nodup, hi.targets,
    fun i msg h o' ho => ?_, fun o' ho => ?_, hi.answered, hi.placed, fun o' n hn => ?_,
    fun select i msg o' targets h n hn => ?_, fun i msg o' targets h => ?_, fun i o' h => ?_⟩
  · rw [(hsub o').1, (hsub o').2.1]
    exact hi.wanted i msg h o' ho
  · rw [(hsub o').1]
    exact hi.known o' ho
  · obtain h | ⟨-, m, h, hm⟩ := unsubscribe_sub (s := s) o o'
    · rw [h] at hn ⊢
      exact hi.called o' n hn
    · rw [h] at hn ⊢
      cases hn
      rcases hm with hm | ⟨-, rfl⟩
      · exact ⟨rfl, (hi.called o' n hm).2⟩
      · exact ⟨rfl, Nat.le_refl _⟩
  · obtain h' | ⟨-, m, h', hm⟩ := unsubscribe_sub (s := s) o o'
    · rw [h'] at hn
      exact hi.hand select i msg o' targets h n hn
    · rw [h'] at hn
      cases hn
      rcases hm with hm | ⟨-, rfl⟩
      · exact hi.hand select i msg o' targets h n hm
      · have hcur := hi.frame i msg (by
          rw [show s.recv = .sending select i msg o' targets from h]
          rfl)
        exact (List.getElem?_eq_some_iff.mp hcur.2).1
  · rw [(hsub o').2.2]
    exact hi.room i msg o' targets h
  · obtain ⟨hmade, hafter, hdata, huncalled⟩ := h
    rw [(hsub o').1] at hafter
    rw [(hsub o').2.1] at hdata
    refine hi.lost i o' ⟨hmade, hafter, hdata, fun n hn => huncalled n ?_⟩
    obtain h | ⟨-, m, h, hm⟩ := unsubscribe_sub (s := s) o o'
    · rw [h]
      exact hn
    · rw [h]
      rcases hm with hm | ⟨hm, -⟩
      · rw [hn] at hm
        exact hm.symm
      · rw [hn] at hm
        cases hm

theorem LiveInv.idle (hi : LiveInv s) {recv : RecvLoop} (hflags : FlagsInv { s with recv }) (hs : ∀ i o, ¬ s.recv.Waits i o)
    (hframe : recv.frame = none) (htargets : recv.targets = []) : LiveInv { s with recv } := by
  have hwaits : ∀ i o, ¬ recv.Waits i o := by
    intro i o h
    obtain ⟨msg, hmsg⟩ := h.frame
    rw [hframe] at hmsg
    cases hmsg
  have hidle : ∀ select i msg o targets, recv ≠ .sending select i msg o targets := by
    rintro select i msg o targets rfl
    cases hframe
  refine hi.loop hflags rfl rfl rfl rfl rfl (fun _ => .refl _) (fun i msg h => ?_) ?_ (fun o ho => ?_) (fun _ _ h => .inl h)
    (fun i o h => absurd h (hwaits i o)) (fun select i msg o targets h => absurd h (hidle select i msg o targets))
    (fun i msg o targets h => absurd h (hidle _ i msg o targets)) (fun i o _ h => absurd h (hs i o)) (fun _ h => h)
  · change recv.frame = _ at h
    rw [hframe] at h
    cases h
  · change recv.targets.Nodup
    rw [htargets]
    exact List.nodup_nil
  · change o ∈ recv.targets at ho
    rw [htargets] at ho
    cases ho

theorem LiveInv.copy (hi : LiveInv s) {i : Nat} {msg : DataMessage} (hr : s.recv = .copying i msg)
    (hflags : FlagsInv { s with recv := .delivering i msg (s.targets msg) })
    (hok : ∀ o, s.Due i o → o ∈ s.subs) : LiveInv { s with recv := .delivering i msg (s.targets msg) } := by
  have hdata := (hi.frame i msg (by rw [hr]; rfl)).2
  refine hi.loop hflags rfl rfl rfl rfl rfl (fun _ => .refl _) (fun j msg' h => ?_) (hi.nodup.filter _)
    (fun o ho => .inr ⟨i, msg, hr, ho⟩) (fun _ _ h => .inl h) (fun j o h => ⟨?_, fun h => h⟩) nofun nofun
    (fun j o hd hw => .inr ?_) (fun _ h => h)
  · rw [hr]
    exact h
  · rw [hr]
    exact h.1
  · rw [hr] at hw
    cases hw
    obtain ⟨msg', hmsg', htopic⟩ := hd.data
    rw [hdata] at hmsg'
    cases hmsg'
    exact ⟨rfl, List.mem_filter.mpr ⟨hok o hd, decide_eq_true htopic.symm⟩⟩

/-- The check of the first target: it is at hand, or it is left out because it is due nothing. -/
theorem LiveInv.check (hi : LiveInv s) {i o : Nat} {msg : DataMessage} {targets : List Nat}
    (hr : s.recv = .delivering i msg (o :: targets)) {recv : RecvLoop} (hflags : FlagsInv { s with recv })
    (hrecv : recv = .delivering i msg targets ∧ ¬ s.Due i o ∨
      recv = .sending .send i msg o targets ∧ (s.sub o).unsubscribed = false) : LiveInv { s with recv } := by
  have htargets := hi.targets
  rw [hr] at htargets
  rcases hrecv with ⟨rfl, hnot⟩ | ⟨rfl, hu⟩
  · refine hi.loop hflags rfl rfl rfl rfl rfl (fun _ => .refl _) (fun j msg' h => by rw [hr]; exact h)
      (List.nodup_cons.mp htargets).2 (fun o' ho => .inl ?_) (fun _ _ h => .inl h) (fun j o' h => ⟨?_, fun h => h⟩) nofun nofun
      (fun j o' hd hw => .inr ?_) (fun _ h => h)
    · rw [hr]
      exact List.mem_cons_of_mem _ ho
    · rw [hr]
      exact ⟨h.1, List.mem_cons_of_mem _ h.2⟩
    · rw [hr] at hw
      obtain ⟨rfl, ho⟩ := hw
      refine ⟨rfl, (List.mem_cons.mp ho).resolve_left ?_⟩
      rintro rfl
      exact hnot hd
  · refine hi.loop hflags rfl rfl rfl rfl rfl (fun _ => .refl _) (fun j msg' h => by rw [hr]; exact h) htargets
      (fun o' ho => .inl ?_) (fun _ _ h => .inl h) (fun j o' h => ⟨?_, fun h => h⟩) (fun _ _ _ _ _ h => .inr ?_) nofun
      (fun j o' hd hw => .inr ?_) (fun _ h => h)
    · rw [hr]
      exact ho
    · rw [hr]
      exact h
    · cases h
      exact hu
    · rw [hr] at hw
      exact hw

theorem LiveInv.sent (hi : LiveInv s) {select : Select} {i o : Nat} {msg : DataMessage} {targets : List Nat}
    (hr : s.recv = .sending select i msg o targets) (ch : Chan DataMessage channelCap)
    (hflags : FlagsInv (put i o ch { s with recv := .delivering i msg targets })) :
    LiveInv (put i o ch { s with recv := .delivering i msg targets }) := by
  have htargets := hi.targets
  rw [hr] at htargets
  obtain ⟨hnew, htargets⟩ := List.nodup_cons.mp htargets
  refine hi.loop hflags rfl rfl rfl rfl rfl (SameSub.setSub ⟨rfl, rfl, rfl, fun h => h⟩)
    (fun j msg' h => by rw [hr]; exact h) htargets (fun o' ho => .inl ?_) (fun j o' h => ?_) (fun j o' h => ⟨?_, fun hp => ?_⟩)
    nofun nofun (fun j o' hd hw => ?_) (fun _ h => List.mem_cons_of_mem _ h)
  · rw [hr]
    exact List.mem_cons_of_mem _ ho
  · rcases List.mem_cons.mp h with he | h
    · cases he
      rw [hr]
      exact .inr ⟨List.mem_cons_self, rfl, List.mem_cons_self⟩
    · exact .inl h
  · rw [hr]
    exact ⟨h.1, List.mem_cons_of_mem _ h.2⟩
  · rcases List.mem_cons.mp hp with he | hp
    · cases he
      exact absurd h.2 hnew
    · exact hp
  · rw [hr] at hw
    obtain ⟨rfl, ho⟩ := hw
    rcases List.mem_cons.mp ho with rfl | ho
    · exact .inl List.mem_cons_self
    · exact .inr ⟨rfl, ho⟩

/-- From one `select` to the next, the channel having room before the last one. -/
theorem LiveInv.next (hi : LiveInv s) (next : Select) {select : Select} {i o : Nat} {msg : DataMessage}
    {targets : List Nat} (hr : s.recv = .sending select i msg o targets) (ch : Chan DataMessage channelCap)
    (hroom : next = .retry → ch.HasRoom)
    (hflags : FlagsInv (setSub o { s.sub o with ch } { s with recv := .sending next i msg o targets })) :
    LiveInv (setSub o { s.sub o with ch } { s with recv := .sending next i msg o targets }) := by
  have htargets := hi.targets
  rw [hr] at htargets
  refine hi.loop hflags rfl rfl rfl rfl rfl (SameSub.setSub ⟨rfl, rfl, rfl, fun h => h⟩)
    (fun j msg' h => by rw [hr]; exact h) htargets (fun o' ho => .inl ?_) (fun _ _ h => .inl h)
    (fun j o' h => ⟨?_, fun h => h⟩) (fun _ _ _ _ _ h => .inl ⟨select, ?_⟩) (fun _ _ o' _ h => ?_)
    (fun j o' hd hw => .inr ?_) (fun _ h => h)
  · rw [hr]
    exact ho
  · rw [hr]
    exact h
  · cases h
    exact hr
  · cases h
    rw [setSub_sub, if_pos rfl]
    exact hroom rfl
  · rw [hr] at hw
    exact hw

theorem LiveInv.setCall (hi : LiveInv s) (c : Nat) {call : Call} (hflags : FlagsInv (s.setCall c call))
    (hcall : ∀ topicName typeName k, call = .answered topicName typeName k →
      k < s.read ∧ ∃ c', s.frames[k]? = some (.ok c')) : LiveInv (s.setCall c call) := by
  refine ⟨hflags, hi.read, hi.frame, hi.nodup, hi.targets, hi.wanted, hi.known, fun c' topicName typeName k h => ?_,
    hi.placed, hi.called, hi.hand, hi.room, fun i o h => hi.lost i o ⟨h.made, h.afterOk, h.data, h.uncalled⟩⟩
  rw [setCall_call] at h
  split at h
  · exact hcall topicName typeName k h
  · exact hi.answered c' topicName typeName k h

/-- A step of `Close`, or of another goroutine that stores a flag, closes a channel or reads from one. -/
theorem LiveInv.setSubs (hi : LiveInv s) {sub : Nat → Subscription} {subs : List Nat} {close : Closing}
    (hflags : FlagsInv { s with sub, subs, close }) (hsubs : subs.Nodup) (hsub : ∀ o, SameSub (s.sub o) (sub o))
    (hroom : ∀ o, (s.sub o).ch.HasRoom → (sub o).ch.HasRoom) : LiveInv { s with sub, subs, close } :=
  hi.other hflags rfl rfl rfl rfl rfl hsubs (fun _ _ _ _ h => h) hsub hroom

theorem closeChannel_eq (o : Nat) : s.closeChannel o = { s with sub := (s.closeChannel o).sub } := by
  unfold Client.closeChannel
  split
  · rfl
  · rfl

theorem LiveInv.closeChannel (hi : LiveInv s) {o : Nat} (hu : (s.sub o).unsubscribed = true) :
    LiveInv (s.closeChannel o) := by
  have hflags := hi.flags.closeChannel hu
  rw [closeChannel_eq] at hflags ⊢
  refine hi.setSubs hflags hi.nodup (SameSub.closeChannel o) fun o' h => ?_
  rw [closeChannel_ch]
  exact h

theorem LiveInv.step (hi : LiveInv s) (h : Step s action t) (hok : InTime s action) : LiveInv t := by
  have hflags := hi.flags.step h
  have hreading : ∀ {i o : Nat}, s.recv = .reading → ¬ s.recv.Waits i o := by
    intro i o hr hw
    rw [hr] at hw
    exact hw
  cases h with
  | arrive f hr hf => exact hi.arrive f
  | @readOk c topicName typeName hr hf hc =>
    refine (hi.readOther hr hf fun _ h => by cases h).setCall c hflags fun topicName typeName k h => ?_
    cases h
    exact ⟨Nat.lt_succ_self _, c, hf⟩
  | readOther hr hf hd hc => exact hi.readOther hr hf hd
  | readData hr hf => exact hi.readData hr hf
  | copy hr hl => exact hi.copy hr hflags (hok _ _ hr)
  | @finish i msg hr =>
    refine hi.idle hflags (fun j o h => ?_) rfl rfl
    rw [hr] at h
    cases h.2
  | skip hr hu =>
    refine hi.check hr hflags (.inl ⟨rfl, fun hd => ?_⟩)
    rw [hok _ _ _ _ hr hd] at hu
    cases hu
  | load hr hu => exact hi.check hr hflags (.inr ⟨rfl, hu⟩)
  | sent hr hs ho hch => exact hi.sent hr _ hflags
  | @full i msg o targets hr ho hch =>
    have hsame : ∀ u : Client, u.setSub o (u.sub o) = u := fun u => by simp [Client.setSub]
    have hnext := hi.next .drop hr (s.sub o).ch (fun h => by cases h) (by
      rw [show Client.setSub o _ _ = _ from hsame { s with recv := .sending .drop i msg o targets }]
      exact hflags)
    rwa [show Client.setSub o _ _ = _ from hsame { s with recv := .sending .drop i msg o targets }] at hnext
  | drop hr => exact hi.next .retry hr _ (fun _ => Chan.hasRoom_dropOldest (by decide) _) hflags
  | stillFull hr ho hch => exact absurd hch (Chan.trySend_ne_none (hi.room _ _ _ _ hr) _)
  | panics hr hs ho =>
    rw [hok _ _ _ _ _ hr hs] at ho
    exact absurd ho (Nat.lt_irrefl 0)
  | recvEnds hr hf => exact hi.idle hflags (fun _ _ => hreading hr) rfl rfl
  | dial hr hw =>
    refine hi.idle hflags (fun i o h => ?_) rfl rfl
    rw [hr] at h
    exact h
  | receive o ho =>
    refine hi.setSubs hflags hi.nodup (SameSub.setSub ⟨rfl, rfl, rfl, fun h => h⟩) fun o' h => ?_
    rw [Function.update_apply]
    split
    · exact Chan.hasRoom_dropOldest (by decide) _
    · exact h
  | subscribe c topicName typeName hc => exact hi.setCall c hflags fun _ _ _ h => by cases h
  | fail c hc => exact hi.setCall c hflags fun _ _ _ h => by cases h
  | @append topicName typeName k c hc hl =>
    exact (hi.append (hi.answered c _ _ k hc) (hok topicName typeName k hc)).setCall c hflags fun _ _ _ h => by cases h
  | unsubscribe c o hc ho => exact (hi.unsubscribe o).setCall c hflags fun _ _ _ h => by cases h
  | @removeSub o c hc hl =>
    have hremove : FlagsInv { s with subs := s.subs.erase o } :=
      hi.flags.sameSubs rfl rfl rfl rfl (fun _ h => List.mem_of_mem_erase h) fun _ h => .inl h
    exact (hi.setSubs hremove (hi.nodup.erase o) (fun _ => .refl _) fun _ h => h).setCall c hflags fun _ _ _ h => by cases h
  | @closeOnce o c hc =>
    have hu := (hi.flags.calls c o (by rw [hc]; rfl)).2
    exact (hi.closeChannel hu).setCall c hflags fun _ _ _ h => by cases h
  | closeCalled hc => exact hi.setSubs hflags hi.nodup (fun _ => .refl _) fun _ h => h
  | closeLocks hc hr => exact hi.setSubs hflags hi.nodup (fun _ => .refl _) fun _ h => h
  | @closeStores o subs hc =>
    refine hi.setSubs hflags hi.nodup (SameSub.setSub ⟨rfl, rfl, rfl, fun _ => rfl⟩) fun o' h => ?_
    rw [Client.storeFlag, setSub_sub]
    split
    · next he =>
      rw [he] at h
      exact h
    · exact h
  | @closeOnces o subs hc =>
    have hclose := hi.closeChannel (hi.flags.stored o subs hc)
    exact hclose.setSubs hflags hclose.nodup (fun _ => .refl _) fun _ h => h
  | closeEnds hc => exact hi.setSubs hflags List.nodup_nil (fun _ => .refl _) fun _ h => h

/-! ## Steps that lose a frame -/

/-- A frame for which `deliverData` will not come to the Subscription any more. -/
theorem lost_of_due {i o : Nat} (hd : t.Due i o) (hplaced : (i, o) ∉ t.placed) (hread : i < t.read)
    (hwaits : ¬ t.recv.Waits i o) : ¬ NoneLost t := by
  intro h
  rcases h i o hd with hp | hr | hw
  · exact hplaced hp
  · exact absurd hr (Nat.not_le_of_lt hread)
  · exact hwaits hw

theorem LiveInv.lost_of_append (hi : LiveInv s) {c : Nat} {topicName typeName : GoCodec.GoString} {k : Nat}
    (hc : s.call c = .answered topicName typeName k) (hbad : ¬ InTime s (.append c)) :
    ¬ NoneLost (Client.setCall c .ended (s.append topicName typeName k)) := by
  simp only [InTime, Classical.not_forall, not_or, Nat.not_le] at hbad
  obtain ⟨topicName', typeName', k', hc', i, msg, hdata, htopic, hlt, hread, hcopy⟩ := hbad
  rw [hc] at hc'
  cases hc'
  refine lost_of_due (i := i) (o := s.nextSub) ⟨Nat.lt_succ_self _, ?_, ?_, ?_⟩ (fun h => ?_) hread fun hw => ?_
  · rw [setCall_sub, append_sub, if_pos rfl]
    exact hlt
  · rw [setCall_sub, append_sub, if_pos rfl]
    exact ⟨msg, hdata, htopic⟩
  · rw [setCall_sub, append_sub, if_pos rfl]
    intro n hn
    cases hn
  · exact Nat.lt_irrefl _ (hi.placed i s.nextSub h).1
  · change s.recv.Waits i s.nextSub at hw
    have hlt : s.nextSub ∉ s.recv.targets := fun h => Nat.lt_irrefl _ (hi.flags.targets _ h)
    have hframe := hi.frame i
    cases hr : s.recv with
    | copying j msg' =>
      rw [hr] at hw hcopy hframe
      cases hw
      have hmsg := (hframe msg' rfl).2
      rw [hdata] at hmsg
      cases hmsg
      exact hcopy rfl
    | delivering j msg' targets =>
      rw [hr] at hw hlt
      exact hlt hw.2
    | sending select j msg' sub targets =>
      rw [hr] at hw hlt
      exact hlt hw.2
    | reading | done | crashed =>
      rw [hr] at hw
      exact hw

theorem inTime_select {select : Select} {i o : Nat} {msg : DataMessage} {targets : List Nat}
    (hr : s.recv = .sending select i msg o targets) (hopen : select ≠ .drop → (s.sub o).closes = 0) :
    InTime s .select := by
  intro select' i' msg' o' targets' hr' hs
  rw [hr] at hr'
  cases hr'
  exact hopen hs

theorem LiveInv.lost_of_late (hi : LiveInv s) (h : Step s action t) (hbad : ¬ InTime s action) : ¬ NoneLost t := by
  have hnot : ∀ i o, s.recv.Waits i o → (i, o) ∉ s.placed := fun i o hw hp => (hi.placed i o hp).2.2 hw
  have hread : ∀ i o, s.recv.Waits i o → i < s.read := by
    intro i o hw
    obtain ⟨msg, hcur⟩ := hw.frame
    exact Nat.lt_of_succ_le (Nat.le_of_eq (hi.frame i msg hcur).1)
  cases h with
  | append c hc hl => exact hi.lost_of_append hc hbad
  | @copy i msg hr hl =>
    simp only [InTime, Classical.not_forall] at hbad
    obtain ⟨i', msg', hr', o, hd, hmem⟩ := hbad
    rw [hr] at hr'
    cases hr'
    have hw : s.recv.Waits i o := by
      rw [hr]
      rfl
    exact lost_of_due ⟨hd.made, hd.afterOk, hd.data, hd.uncalled⟩ (hnot i o hw) (hread i o hw)
      fun h => hmem (List.mem_of_mem_filter h.2)
  | @skip i msg o targets hr hu =>
    simp only [InTime, Classical.not_forall] at hbad
    obtain ⟨i', msg', o', targets', hr', hd, -⟩ := hbad
    rw [hr] at hr'
    cases hr'
    have hw : s.recv.Waits i o := by
      rw [hr]
      exact ⟨rfl, List.mem_cons_self⟩
    have htargets := hi.targets
    rw [hr] at htargets
    exact lost_of_due ⟨hd.made, hd.afterOk, hd.data, hd.uncalled⟩ (hnot i o hw) (hread i o hw)
      fun h => (List.nodup_cons.mp htargets).1 h.2
  | @load i msg o targets hr hu =>
    refine absurd (fun i' msg' o' targets' hr' _ => ?_) hbad
    rw [hr] at hr'
    cases hr'
    exact hu
  | @panics select i msg o targets hr hs ho =>
    have hw : s.recv.Waits i o := by
      rw [hr]
      exact ⟨rfl, List.mem_cons_self⟩
    have hcur : s.recv.frame = some (i, msg) := by
      rw [hr]
      rfl
    have hmem : o ∈ s.recv.targets := by
      rw [hr]
      exact List.mem_cons_self
    obtain ⟨hafter, htopic⟩ := hi.wanted i msg hcur o hmem
    exact lost_of_due ⟨hi.flags.targets o hmem, hafter, ⟨msg, (hi.frame i msg hcur).2, htopic⟩, hi.hand _ _ _ _ _ hr⟩
      (hnot i o hw) (hread i o hw) fun h => h
  | sent hr hs ho hch => exact absurd (inTime_select hr fun _ => ho) hbad
  | full hr ho hch => exact absurd (inTime_select hr fun _ => ho) hbad
  | stillFull hr ho hch => exact absurd (inTime_select hr fun _ => ho) hbad
  | drop hr => exact absurd (inTime_select hr fun h => absurd rfl h) hbad
  | _ => exact absurd trivial hbad

end

/-- **No frame is lost** along a run if and only if every step is in time. -/
theorem none_lost_iff {tr : List (Action × Client)} (hrun : Runs.Run Step .new tr) :
    Runs.Always NoneLost .new tr ↔ Runs.EachStep InTime .new tr := by
  have hkeeps : ∀ s action t, LiveInv s → Step s action t → InTime s action → LiveInv t :=
    fun _ _ _ hi h hok => hi.step h hok
  have hloses : ∀ s action t, LiveInv s → Step s action t → ¬ InTime s action → ¬ NoneLost t :=
    fun _ _ _ hi h hbad => hi.lost_of_late h hbad
  exact Runs.always_iff_eachStep hkeeps hloses (fun _ hi => hi.lost) hrun liveInv_new

/-! ### The first message of a topic -/

/-- `none_lost_iff` where the first message comes after `Subscribe` has appended. -/
theorem first_message_placed : ∃ tr p, Runs.Run Step .new tr ∧ tr.getLast? = some p ∧ p.2.placed = [(1, 0)] ∧
    Runs.Always NoneLost .new tr := by
  have hrun : ∃ tr p, Runs.Run Step .new tr ∧ tr.getLast? = some p ∧ p.2.placed = [(1, 0)] ∧
      Runs.EachStep InTime .new tr := by
    refine ⟨_, _, .cons (.subscribe 0 [0x61] [0x54] rfl) <|
      .cons (.arrive (.ok 0) nofun nofun) <|
      .cons (.arrive (.data chatterMessage) nofun nofun) <|
      .cons (.readOk rfl rfl rfl) <|
      .cons (.append 0 rfl trivial) <|
      .cons (.readData rfl rfl) <|
      .cons (.copy rfl trivial) <|
      .cons (.load rfl rfl) <|
      .cons (.sent rfl nofun rfl rfl) (.nil _), rfl, rfl, ?_⟩
    refine ⟨trivial, trivial, trivial, trivial, fun _ _ k hc i _ _ _ hlt => .inl ?_, trivial, ?_, ?_, ?_, trivial⟩
    · cases hc
      exact hlt
    · intro i msg _ o hd
      exact List.mem_singleton.mpr (Nat.lt_one_iff.mp hd.made)
    · intro i msg o targets hr _
      cases hr
      rfl
    · intro select i msg o targets hr _
      cases hr
      rfl
  obtain ⟨tr, p, hrun, hlast, hplaced, hok⟩ := hrun
  exact ⟨tr, p, hrun, hlast, hplaced, (none_lost_iff hrun).mpr hok⟩

/-- The OK and the first message have arrived, and `recvLoop` is through with both before `Subscribe` goes on. -/
theorem first_message_lost : ¬ ∀ tr, Runs.Run Step .new tr → Runs.Always NoneLost .new tr := by
  intro h
  have hrun : ∃ tr p, Runs.Run Step .new tr ∧ tr.getLast? = some p ∧ p.2.Due 1 0 ∧ p.2.placed = [] ∧ p.2.read = 2 ∧
      p.2.recv = .reading := by
    refine ⟨_, _, .cons (.subscribe 0 [0x61] [0x54] rfl) <|
      .cons (.arrive (.ok 0) nofun nofun) <|
      .cons (.arrive (.data chatterMessage) nofun nofun) <|
      .cons (.readOk rfl rfl rfl) <|
      .cons (.readData rfl rfl) <|
      .cons (.copy rfl trivial) <|
      .cons (.finish rfl) <|
      .cons (.append 0 rfl trivial) (.nil _), rfl, ?_, rfl, rfl, rfl⟩
    exact ⟨Nat.zero_lt_one, Nat.zero_lt_one, ⟨chatterMessage, rfl, rfl⟩, nofun⟩
  obtain ⟨tr, p, hrun, hlast, hd, hplaced, hread, hr⟩ := hrun
  refine lost_of_due hd ?_ ?_ ?_ ((h tr hrun).2 p (List.mem_of_getLast? hlast))
  · rw [hplaced]
    exact List.not_mem_nil
  · rw [hread]
    exact Nat.lt_succ_self 1
  · rw [hr]
    exact fun h => h

end DdsBridge.GoChannels
