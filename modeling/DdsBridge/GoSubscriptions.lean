import DdsBridge.GoAgree
import DdsBridge.Subscriptions

/-!
# Subscriptions of the Go client

`ddswsclient/client.go`: `Subscribe` and `Unsubscribe` on one connection. The client has a list of
`Subscription`s, the bridge one entry for each topic and type: an Unsubscribe takes the entry from all of
the client's Subscriptions to the topic and type.
-/

namespace DdsBridge

open BridgeInner Prog ReaderRegistry

/-! ## Names in requests -/

section

theorem prefixed_inj {s s' rest rest' : Bytes} (hs : s.length < 2 ^ 32) (hs' : s'.length < 2 ^ 32)
    (h : u32le (UInt32.ofNat s.length) ++ (s ++ rest) = u32le (UInt32.ofNat s'.length) ++ (s' ++ rest')) :
    s = s' ∧ rest = rest' := by
  obtain ⟨hlen, h⟩ := List.append_inj h (by simp)
  have hcode := congrArg (fun bs => (UInt32.ofNat (ofLE bs)).toNat) hlen
  simp only [ofLE_u32le, UInt32.toNat_ofNat'] at hcode
  exact List.append_inj h (by omega)

/-- A Go string and a Rust string behind one length prefix are the same bytes. -/
theorem prefixed_string {topic : GoCodec.GoString} {t : String} {rest rest' : Bytes} (ht : StringFits t)
    (hlen : topic.length < 2 ^ 32)
    (h : u32le (UInt32.ofNat topic.length) ++ (topic ++ rest) = writeString t ++ rest') :
    topic = utf8 t ∧ rest = rest' := by
  have hfits : (utf8 t).length < 2 ^ 32 := Nat.lt_of_le_of_lt ht (by decide)
  rw [writeString, List.append_assoc] at h
  exact prefixed_inj hlen hfits h

theorem encodeSubscribe_eq (g : GoCodec.SubscribePayload) : ∃ rest, GoCodec.encodeSubscribe g =
    u32le (UInt32.ofNat g.topicName.length) ++ (g.topicName ++
      (u32le (UInt32.ofNat g.typeName.length) ++ (g.typeName ++ rest))) := by
  refine ⟨GoCodec.encodeQos g.qos ++ (GoCodec.appendBool [] g.isKeyed ++ GoCodec.encodeKeyDescriptors g.keys), ?_⟩
  unfold GoCodec.encodeSubscribe GoCodec.encodeEndpoint GoCodec.appendString GoCodec.appendBool
  cases g.isKeyed with
  | true => simp
  | false => simp

theorem subscribe_names {g : GoCodec.SubscribePayload} {sub : SubscribePayload}
    (hlen : (GoCodec.encodeSubscribe g).length < 2 ^ 32) (h : parseSubscribe (GoCodec.encodeSubscribe g) = .ok sub) :
    g.topicName = utf8 sub.topicName ∧ g.typeName = utf8 sub.typeName := by
  obtain ⟨hwf, flag, -, hbytes⟩ := (subscribe_canonical _ sub).mp h
  obtain ⟨rest, hg⟩ := encodeSubscribe_eq g
  rw [hg] at hbytes hlen
  simp only [List.length_append] at hlen
  obtain ⟨htopic, hrest⟩ := prefixed_string hwf.1 (by omega) hbytes.symm
  exact ⟨htopic, (prefixed_string hwf.2.1 (by omega) hrest).1⟩

theorem unsubscribe_names {g : GoCodec.UnsubscribePayload} {unsub : UnsubscribePayload}
    (hlen : (GoCodec.encodeUnsubscribe g).length < 2 ^ 32)
    (h : parseUnsubscribe (GoCodec.encodeUnsubscribe g) = .ok unsub) :
    g.topicName = utf8 unsub.topicName ∧ g.typeName = utf8 unsub.typeName := by
  obtain ⟨hwf, hbytes⟩ := (unsubscribe_canonical _ unsub).mp h
  simp only [GoCodec.encodeUnsubscribe, GoCodec.appendString, serializeUnsubscribe, List.nil_append,
    List.append_assoc] at hbytes hlen
  simp only [List.length_append] at hlen
  obtain ⟨htopic, hrest⟩ := prefixed_string hwf.1 (by omega) hbytes.symm
  have hrest' : u32le (UInt32.ofNat g.typeName.length) ++ (g.typeName ++ []) = writeString unsub.typeName ++ [] := by
    rw [List.append_nil, List.append_nil, hrest]
  exact ⟨htopic, (prefixed_string hwf.2 (by omega) hrest').1⟩

end

/-! ## The client -/

namespace GoSubscriptions

/-- A `Subscription` object is known by its number. -/
structure Subscription where
  object : Nat
  topicName : GoCodec.GoString
  typeName : GoCodec.GoString
  qos : List GoCodec.QosPolicy
  isKeyed : Bool
  keys : List GoCodec.KeyField
  deriving DecidableEq, Repr

def Subscription.subscribePayload (sub : Subscription) : GoCodec.SubscribePayload :=
  ⟨sub.topicName, sub.typeName, sub.qos, sub.isKeyed, sub.keys⟩

def Subscription.unsubscribePayload (sub : Subscription) : GoCodec.UnsubscribePayload :=
  ⟨sub.topicName, sub.typeName⟩

/-- `c.subs`, all Subscriptions that `Subscribe` has returned, and the bridge. -/
structure Client where
  subs : List Subscription
  returned : List Subscription
  bridge : BridgeInner

inductive Action where
  | subscribe (sub : Subscription)
  | unsubscribe (sub : Subscription)
  | other (action : BridgeAction)

/-- The calls of the client of session `sid`, each of which succeeds, and what other sessions do. -/
inductive Step (sid : UInt64) : Client → Action → Client → Prop
  | subscribe {s bridge} (sub : Subscription) (dds : DdsReturns) (r : UInt32) (hnew : sub ∉ s.returned)
      (h : Accepted dds sid r .subscribe (GoCodec.encodeSubscribe sub.subscribePayload) s.bridge bridge) :
      Step sid s (.subscribe sub) { subs := s.subs ++ [sub], returned := sub :: s.returned, bridge }
  | unsubscribe {s bridge} (sub : Subscription) (dds : DdsReturns) (r : UInt32) (hsub : sub ∈ s.returned)
      (h : Accepted dds sid r .unsubscribe (GoCodec.encodeUnsubscribe sub.unsubscribePayload) s.bridge bridge) :
      Step sid s (.unsubscribe sub) { s with subs := s.subs.erase sub, bridge }
  | other {s} (a : UInt64) (action : BridgeAction) (ha : a ≠ sid) (hof : ActionOf a action) :
      Step sid s (.other action) { s with bridge := s.bridge.act action }

/-- The bridge has an entry for a topic and type if and only if the client has a live Subscription. -/
def Agree (sid : UInt64) (s : Client) : Prop :=
  ∀ topic type : GoCodec.GoString,
    (∃ t T, utf8 t = topic ∧ utf8 T = type ∧ HasEntry s.bridge sid t T) ↔
      ∃ sub ∈ s.subs, sub.topicName = topic ∧ sub.typeName = type

/-- Nobody unsubscribes while the client has another Subscription to the topic and type. -/
def LastOfTopic (s : Client) : Action → Prop
  | .unsubscribe sub =>
    ∀ other ∈ s.subs, other ≠ sub → ¬ (other.topicName = sub.topicName ∧ other.typeName = sub.typeName)
  | _ => True

structure AgreeInv (sid : UInt64) (s : Client) : Prop where
  agree : Agree sid s
  topics : TopicsNamed s.bridge
  nodup : s.subs.Nodup
  returned : ∀ sub ∈ s.subs, sub ∈ s.returned

section
variable {sid : UInt64} {s t : Client} {action : Action}

theorem utf8_inj {t T : String} (h : utf8 t = utf8 T) : t = T := by
  have ht := fromUtf8_utf8 t
  rw [h, fromUtf8_utf8 T] at ht
  cases ht
  rfl

theorem AgreeInv.subscribe (hi : AgreeInv sid s) {sub : Subscription} {bridge : BridgeInner} {dds : DdsReturns}
    {r : UInt32} (hnew : sub ∉ s.returned)
    (h : Accepted dds sid r .subscribe (GoCodec.encodeSubscribe sub.subscribePayload) s.bridge bridge) :
    AgreeInv sid { subs := s.subs ++ [sub], returned := sub :: s.returned, bridge } := by
  obtain ⟨msgs, hd⟩ := h.dispatch
  obtain ⟨p, hparse, hentries⟩ := handleSubscribe_entries hi.topics hd
  obtain ⟨htopic, htype⟩ := subscribe_names h.1 hparse
  refine ⟨fun topic type => ?_, ?_, ?_, ?_⟩
  · have hold := hi.agree topic type
    simp only [hentries, List.mem_append, List.mem_singleton]
    refine ⟨fun he => ?_, fun he => ?_⟩
    · obtain ⟨t, T, rfl, rfl, ⟨rfl, rfl⟩ | he⟩ := he
      · exact ⟨sub, .inr rfl, htopic, htype⟩
      · obtain ⟨y, hy, hnames⟩ := hold.mp ⟨t, T, rfl, rfl, he⟩
        exact ⟨y, .inl hy, hnames⟩
    · obtain ⟨y, hy | rfl, hnames⟩ := he
      · obtain ⟨t, T, ht, hT, he⟩ := hold.mpr ⟨y, hy, hnames⟩
        exact ⟨t, T, ht, hT, .inr he⟩
      · exact ⟨p.topicName, p.typeName, htopic.symm.trans hnames.1, htype.symm.trans hnames.2, .inl ⟨rfl, rfl⟩⟩
  · have heffect := effect_dispatch dds sid r .subscribe (GoCodec.encodeSubscribe sub.subscribePayload)
    exact hi.topics.files (heffect.ok hd).topics
  · refine List.nodup_append.mpr ⟨hi.nodup, List.nodup_singleton sub, fun a ha b hb e => ?_⟩
    rw [List.mem_singleton.mp hb] at e
    exact hnew (e ▸ hi.returned a ha)
  · intro y hy
    rcases List.mem_append.mp hy with hy | hy
    · exact List.mem_cons_of_mem _ (hi.returned y hy)
    · rw [List.mem_singleton.mp hy]
      exact List.mem_cons_self

theorem unsubscribed_entries {sub : Subscription} {s bridge : BridgeInner} {dds : DdsReturns} {r : UInt32}
    (h : Accepted dds sid r .unsubscribe (GoCodec.encodeUnsubscribe sub.unsubscribePayload) s bridge) :
    bridge.participant = s.participant ∧ ∀ t T, HasEntry bridge sid t T ↔
      ¬ (utf8 t = sub.topicName ∧ utf8 T = sub.typeName) ∧ HasEntry s sid t T := by
  obtain ⟨msgs, hd⟩ := h.dispatch
  obtain ⟨p, hparse, hpart, hentries⟩ := handleUnsubscribe_entries hd
  obtain ⟨htopic, htype⟩ := unsubscribe_names h.1 hparse
  refine ⟨hpart, fun t T => ?_⟩
  rw [hentries, show sub.topicName = _ from htopic, show sub.typeName = _ from htype]
  have hnames : utf8 t = utf8 p.topicName ∧ utf8 T = utf8 p.typeName ↔ t = p.topicName ∧ T = p.typeName :=
    ⟨fun h => ⟨utf8_inj h.1, utf8_inj h.2⟩, fun h => ⟨congrArg utf8 h.1, congrArg utf8 h.2⟩⟩
  rw [hnames]

theorem AgreeInv.unsubscribe (hi : AgreeInv sid s) {sub : Subscription} {bridge : BridgeInner} {dds : DdsReturns}
    {r : UInt32} (h : Accepted dds sid r .unsubscribe (GoCodec.encodeUnsubscribe sub.unsubscribePayload) s.bridge bridge)
    (hlast : LastOfTopic s (.unsubscribe sub)) : AgreeInv sid { s with subs := s.subs.erase sub, bridge } := by
  obtain ⟨hpart, hentries⟩ := unsubscribed_entries h
  refine ⟨fun topic type => ?_, ?_, hi.nodup.erase sub, fun y hy => hi.returned y (List.mem_of_mem_erase hy)⟩
  · have hold := hi.agree topic type
    simp only [hentries, hi.nodup.mem_erase_iff]
    refine ⟨fun he => ?_, fun he => ?_⟩
    · obtain ⟨t, T, rfl, rfl, hne, he⟩ := he
      obtain ⟨y, hy, hnames⟩ := hold.mp ⟨t, T, rfl, rfl, he⟩
      refine ⟨y, ⟨?_, hy⟩, hnames⟩
      intro e
      subst e
      exact hne ⟨hnames.1.symm, hnames.2.symm⟩
    · obtain ⟨y, ⟨hne, hy⟩, hnames⟩ := he
      obtain ⟨t, T, ht, hT, he⟩ := hold.mpr ⟨y, hy, hnames⟩
      refine ⟨t, T, ht, hT, fun hsame => hlast y hy hne ?_, he⟩
      rw [ht, hT] at hsame
      exact ⟨hnames.1.trans hsame.1, hnames.2.trans hsame.2⟩
  · intro key topic htopic
    rw [hpart] at htopic
    exact hi.topics key topic htopic

theorem AgreeInv.step (hi : AgreeInv sid s) (h : Step sid s action t) (hlast : LastOfTopic s action) :
    AgreeInv sid t := by
  cases h with
  | subscribe sub dds r hnew h => exact hi.subscribe hnew h
  | unsubscribe sub dds r hsub h => exact hi.unsubscribe h hlast
  | other a action ha hof =>
    refine ⟨fun topic type => ?_, ?_, hi.nodup, hi.returned⟩
    · simp only [hasEntry_foreign hof ha]
      exact hi.agree topic type
    · cases action with
      | frame dds sessionId data maxPayloadSize => exact hi.topics.files (effect_after _ _ _ _ _).topics
      | register | unregister | channel => exact hi.topics

theorem disagrees (h : Step sid s action t) (hlast : ¬ LastOfTopic s action) :
    ¬ Agree sid t := by
  cases h with
  | subscribe sub dds r hnew h => exact absurd trivial hlast
  | other a action ha hof => exact absurd trivial hlast
  | unsubscribe sub dds r hsub h =>
    intro hagree
    simp only [LastOfTopic, Classical.not_forall, Classical.not_not] at hlast
    obtain ⟨y, hy, hne, htopic, htype⟩ := hlast
    obtain ⟨t, T, ht, hT, he⟩ := (hagree y.topicName y.typeName).mpr
      ⟨y, (List.mem_erase_of_ne hne).mpr hy, rfl, rfl⟩
    have hgone := ((unsubscribed_entries h).2 t T).mp he
    exact hgone.1 ⟨ht.trans htopic, hT.trans htype⟩

end

/-- A client that has just connected as session `sid`. -/
structure Connected (sid : UInt64) (s : Client) : Prop where
  subs : s.subs = []
  returned : s.returned = []
  bridge : BridgeReachable s.bridge
  entries : ∀ topicName typeName, ¬ HasEntry s.bridge sid topicName typeName

theorem Connected.inv {sid : UInt64} {s : Client} (h : Connected sid s) : AgreeInv sid s where
  agree := by
    intro topic type
    rw [h.subs]
    refine iff_of_false (fun he => ?_) fun he => ?_
    · obtain ⟨t, T, -, -, he⟩ := he
      exact h.entries t T he
    · obtain ⟨sub, hsub, -⟩ := he
      cases hsub
  topics := topicsNamed_of_reachable h.bridge
  nodup := by
    rw [h.subs]
    exact List.nodup_nil
  returned := by
    rw [h.subs]
    exact List.forall_mem_nil _

theorem always_agree_iff {sid : UInt64} {s : Client} (hi : AgreeInv sid s) {tr : List (Action × Client)}
    (hrun : Runs.Run (Step sid) s tr) : Runs.Always (Agree sid) s tr ↔ Runs.EachStep LastOfTopic s tr := by
  have hkeeps : ∀ s a t, AgreeInv sid s → Step sid s a t → LastOfTopic s a → AgreeInv sid t :=
    fun _ _ _ hi h hlast => hi.step h hlast
  have hbreaks : ∀ s a t, AgreeInv sid s → Step sid s a t → ¬ LastOfTopic s a → ¬ Agree sid t :=
    fun _ _ _ _ h hlast => disagrees h hlast
  exact Runs.always_iff_eachStep hkeeps hbreaks (fun _ hi => hi.agree) hrun hi

/-- **When client and bridge agree.** They do after every call of a run if and only if no call unsubscribes
while another Subscription to the topic and type is live. -/
theorem subscriptions_agree_iff {sid : UInt64} {s : Client} (hs : Connected sid s) {tr : List (Action × Client)}
    (hrun : Runs.Run (Step sid) s tr) : Runs.Always (Agree sid) s tr ↔ Runs.EachStep LastOfTopic s tr :=
  always_agree_iff hs.inv hrun

/-! ### Two Subscriptions -/

def newClient : Client where
  subs := []
  returned := []
  bridge := idleBridge.act (.register 1 0)

/-- A Subscription to `a` with the type `T`. -/
def chatter (object : Nat) : Subscription := ⟨object, [0x61], [0x54], [], false, []⟩

theorem connected_newClient : Connected 1 newClient where
  subs := rfl
  returned := rfl
  bridge := ⟨1, _, .tail .refl ⟨.register 1 0, rfl⟩⟩
  entries topicName typeName h := by
    obtain ⟨id, h⟩ := h
    cases h

/-- A client subscribes to a topic twice and unsubscribes once. -/
theorem second_subscription_lost :
    ¬ ∀ s, Connected 1 s → ∀ tr, Runs.Run (Step 1) s tr → Runs.Always (Agree 1) s tr := by
  intro h
  have hrun : ∃ tr, Runs.Run (Step 1) newClient tr ∧ ¬ Runs.EachStep LastOfTopic newClient tr := by
    refine ⟨_, .cons (.subscribe (chatter 0) ddsSucceeds 1 (by decide) ⟨by decide, [], [], rfl⟩) <|
      .cons (.subscribe (chatter 1) ddsSucceeds 2 (by decide) ⟨by decide, [], [], rfl⟩) <|
      .cons (.unsubscribe (chatter 0) ddsSucceeds 3 (by decide) ⟨by decide, [], [], rfl⟩) (.nil _), ?_⟩
    intro hok
    exact hok.2.2.1 (chatter 1) (by decide) (by decide) ⟨rfl, rfl⟩
  obtain ⟨tr, hrun, hbad⟩ := hrun
  exact hbad ((always_agree_iff connected_newClient.inv hrun).mp (h newClient connected_newClient tr hrun))

/-- `subscriptions_agree_iff` for a Subscription that ends before the next one to the topic begins. -/
theorem agree_one_at_a_time :
    ∃ tr, Runs.Run (Step 1) newClient tr ∧ tr.length = 3 ∧ Runs.Always (Agree 1) newClient tr := by
  have hrun : ∃ tr, Runs.Run (Step 1) newClient tr ∧ tr.length = 3 ∧ Runs.EachStep LastOfTopic newClient tr := by
    refine ⟨_, .cons (.subscribe (chatter 0) ddsSucceeds 1 (by decide) ⟨by decide, [], [], rfl⟩) <|
      .cons (.unsubscribe (chatter 0) ddsSucceeds 2 (by decide) ⟨by decide, [], [], rfl⟩) <|
      .cons (.subscribe (chatter 1) ddsSucceeds 3 (by decide) ⟨by decide, [], [], rfl⟩) (.nil _), rfl, ?_⟩
    refine ⟨trivial, ?_, trivial, trivial⟩
    intro other hother hne
    exact absurd (List.mem_singleton.mp hother) hne
  obtain ⟨tr, hrun, hlen, hok⟩ := hrun
  exact ⟨tr, hrun, hlen, (subscriptions_agree_iff connected_newClient hrun).mpr hok⟩

end GoSubscriptions

end DdsBridge
