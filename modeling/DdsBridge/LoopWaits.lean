import DdsBridge.AcceptLoop

/-!
# What can hold up the accept loop

The `peek` before a connection is handed to its task waits for the first byte of the peer. Nothing else in the
accept arm waits for a peer, so the loop comes back to its `select!` exactly when no accepted peer is silent.
-/

namespace DdsBridge.AcceptLoop

/-- The steps of the accept arm; the reads among them are steps only when they do not wait. -/
def Action.own : Action → Bool
  | .peek _ | .drain _ | .respond _ | .spawn _ => true
  | _ => false

def OwnSteps (maxConnections : UInt64) : Server → Server → Prop :=
  Runs.Reachable fun s action t => action.own = true ∧ Step maxConnections s action t

/-- Inside the accept arm, and no step there is possible until a peer does something. -/
def HeldUp (maxConnections : UInt64) (s : Server) : Prop :=
  s.loop.idle = false ∧ ∀ action t, action.own = true → ¬ Step maxConnections s action t

/-- A pending connection will be accepted and a shutdown will be seen after steps of the loop alone. -/
def Answers (maxConnections : UInt64) (s : Server) : Prop :=
  s.loop ≠ .done →
    (s.pending ≠ [] → ∃ s', OwnSteps maxConnections s s' ∧
      ∃ c t, Step maxConnections s' (.reject c) t ∨ Step maxConnections s' (.accept c) t) ∧
    (s.shutdown = true → ∃ s', OwnSteps maxConnections s s' ∧ ∃ t, Step maxConnections s' .shutDown t)

/-- The connection that passes the check of the limit has sent a byte or ended. -/
def Spoken (s : Server) (action : Action) : Prop := ∀ c, action = .accept c → ¬ (s.peers c).Silent

/-- The peer that the loop reads from is not silent. -/
structure ReadyInv (s : Server) : Prop where
  peeking : ∀ c, s.loop = .peeking c → ¬ (s.peers c).Silent
  draining : ∀ c, s.loop = .draining c → ¬ (s.peers c).Silent

section
variable {maxConnections : UInt64} {s t : Server} {action : Action}

theorem readyInv_start : ReadyInv .start where
  peeking c h := by cases h
  draining c h := by cases h

theorem ReadyInv.sameLoop (hi : ReadyInv s) (hloop : t.loop = s.loop)
    (hpeers : ∀ c, ¬ (s.peers c).Silent → ¬ (t.peers c).Silent) : ReadyInv t where
  peeking c h := hpeers c (hi.peeking c (hloop ▸ h))
  draining c h := hpeers c (hi.draining c (hloop ▸ h))

/-- Data is only added for a peer, or it ends. -/
theorem ReadyInv.setPeer (hi : ReadyInv s) {c : Nat} {p : Peer} (hp : ¬ (s.peers c).Silent → ¬ p.Silent) :
    ReadyInv (s.setPeer c p) := by
  refine hi.sameLoop rfl fun c' h => ?_
  change ¬ (Function.update s.peers c p c').Silent
  by_cases heq : c' = c
  · subst heq
    rw [Function.update_self]
    exact hp h
  · rwa [Function.update_of_ne heq]

theorem step_readyInv (hi : ReadyInv s) (h : Step maxConnections s action t) (hok : Spoken s action) : ReadyInv t := by
  cases h with
  | connect => exact hi.sameLoop rfl fun _ => id
  | send c bytes ho =>
    refine hi.setPeer fun hp hsilent => hp ⟨?_, ho⟩
    exact (List.append_eq_nil_iff.mp hsilent.1).1
  | close => exact hi.setPeer fun _ hsilent => nomatch hsilent.2
  | reset => exact hi.setPeer fun _ hsilent => nomatch hsilent.2
  | signal => exact hi.sameLoop rfl fun _ => id
  | acceptFailed => exact hi
  | reject => exact hi.sameLoop rfl fun _ => id
  | accept =>
    refine ⟨fun c' hc => ?_, nofun⟩
    cases hc
    exact hok _ rfl
  | shutDown => exact ⟨nofun, nofun⟩
  | peekHealth _ hp =>
    refine ⟨nofun, fun c' hc => ?_⟩
    cases hc
    exact hp
  | peekOther => exact ⟨nofun, nofun⟩
  | drain => exact ⟨nofun, nofun⟩
  | respond => exact ⟨nofun, nofun⟩
  | spawn => exact ⟨nofun, nofun⟩
  | handshakeOk => exact hi.sameLoop rfl fun _ => id
  | handshakeFailed => exact hi.sameLoop rfl fun _ => id
  | sessionEnds => exact hi.sameLoop rfl fun _ => id

/-- Steps of the loop alone lead to its `select!`; what is pending and the signal stay. -/
def Returns (maxConnections : UInt64) (s : Server) : Prop :=
  ∃ s', OwnSteps maxConnections s s' ∧ s'.loop = .selecting ∧ s'.pending = s.pending ∧ s'.shutdown = s.shutdown

theorem Returns.step (hr : Returns maxConnections t) (ha : action.own = true) (h : Step maxConnections s action t)
    (hpending : t.pending = s.pending) (hshutdown : t.shutdown = s.shutdown) : Returns maxConnections s := by
  obtain ⟨s', hsteps, hloop, hpend, hshut⟩ := hr
  exact ⟨s', .head ⟨action, ha, h⟩ hsteps, hloop, hpend.trans hpending, hshut.trans hshutdown⟩

theorem returns_of_selecting (h : s.loop = .selecting) : Returns maxConnections s := ⟨s, .refl, h, rfl, rfl⟩

theorem returns_of_spawning {c : Nat} (h : s.loop = .spawning c) : Returns maxConnections s :=
  (returns_of_selecting rfl).step rfl (.spawn h) rfl rfl

theorem returns_of_responding {c : Nat} (h : s.loop = .responding c) : Returns maxConnections s :=
  (returns_of_selecting rfl).step rfl (.respond h) rfl rfl

theorem returns_of_draining {c : Nat} (h : s.loop = .draining c) (hp : ¬ (s.peers c).Silent) :
    Returns maxConnections s :=
  (returns_of_responding rfl).step rfl (.drain h hp) rfl rfl

theorem returns_of_peeking {c : Nat} (h : s.loop = .peeking c) (hp : ¬ (s.peers c).Silent) :
    Returns maxConnections s := by
  by_cases hh : (s.peers c).IsHealth
  · have hdrain : Returns maxConnections { s with loop := .draining c } := returns_of_draining rfl hp
    exact hdrain.step rfl (.peekHealth h hp hh) rfl rfl
  · exact (returns_of_spawning rfl).step rfl (.peekOther h hp hh) rfl rfl

theorem ReadyInv.returns (hi : ReadyInv s) (h : s.loop ≠ .done) : Returns maxConnections s := by
  cases hloop : s.loop with
  | selecting => exact returns_of_selecting hloop
  | peeking c => exact returns_of_peeking hloop (hi.peeking c hloop)
  | draining c => exact returns_of_draining hloop (hi.draining c hloop)
  | responding c => exact returns_of_responding hloop
  | spawning c => exact returns_of_spawning hloop
  | done => exact absurd hloop h

theorem ReadyInv.answers (hi : ReadyInv s) : Answers maxConnections s := by
  intro hdone
  have hreturns : Returns maxConnections s := hi.returns hdone
  obtain ⟨s', hsteps, hloop, hpending, hshutdown⟩ := hreturns
  refine ⟨fun hne => ⟨s', hsteps, ?_⟩, fun hs => ⟨s', hsteps, _, .shutDown hloop (hshutdown.trans hs)⟩⟩
  obtain ⟨c, pending, hcons⟩ := List.exists_cons_of_ne_nil hne
  by_cases hroom : s'.activeConnections < maxConnections
  · exact ⟨c, _, .inr (.accept hloop (hpending.trans hcons) hroom)⟩
  · exact ⟨c, _, .inl (.reject hloop (hpending.trans hcons) (UInt64.not_lt.mp hroom))⟩

theorem own_step (ha : action.own = true) (h : Step maxConnections s action t) :
    (∃ c, (s.loop = .peeking c ∨ s.loop = .draining c) ∧ ¬ (s.peers c).Silent) ∨
      ∃ c, s.loop = .responding c ∨ s.loop = .spawning c := by
  cases h with
  | peekHealth hl hp => exact .inl ⟨_, .inl hl, hp⟩
  | peekOther hl hp => exact .inl ⟨_, .inl hl, hp⟩
  | drain hl hp => exact .inl ⟨_, .inr hl, hp⟩
  | respond hl => exact .inr ⟨_, .inl hl⟩
  | spawn hl => exact .inr ⟨_, .inr hl⟩
  | _ => cases ha

/-- Only a read from a silent peer holds the loop up. -/
theorem heldUp_iff : HeldUp maxConnections s ↔
    ∃ c, (s.loop = .peeking c ∨ s.loop = .draining c) ∧ (s.peers c).Silent := by
  constructor
  · rintro ⟨hidle, hnone⟩
    cases hloop : s.loop with
    | selecting => rw [hloop] at hidle; cases hidle
    | peeking c =>
      refine ⟨c, .inl rfl, by_contra fun hp => ?_⟩
      by_cases hh : (s.peers c).IsHealth
      · exact hnone _ _ rfl (.peekHealth hloop hp hh)
      · exact hnone _ _ rfl (.peekOther hloop hp hh)
    | draining c => exact ⟨c, .inr rfl, by_contra fun hp => hnone _ _ rfl (.drain hloop hp)⟩
    | responding c => exact absurd (.respond hloop) (hnone _ _ rfl)
    | spawning c => exact absurd (.spawn hloop) (hnone _ _ rfl)
    | done => rw [hloop] at hidle; cases hidle
  · rintro ⟨c, hloop, hsilent⟩
    have hidle : s.loop.idle = false := by
      obtain hloop | hloop := hloop
      · rw [hloop]
        rfl
      · rw [hloop]
        rfl
    refine ⟨hidle, fun action t ha h => ?_⟩
    obtain ⟨c', hloop', hspoken⟩ | ⟨c', hloop'⟩ := own_step ha h
    · have hsame : c = c' := by
        obtain hloop | hloop := hloop
        · simpa [hloop] using hloop'
        · simpa [hloop] using hloop'
      exact hspoken (hsame ▸ hsilent)
    · obtain hloop | hloop := hloop
      · simp [hloop] at hloop'
      · simp [hloop] at hloop'

theorem ReadyInv.not_heldUp (hi : ReadyInv s) : ¬ HeldUp maxConnections s := by
  rw [heldUp_iff]
  rintro ⟨c, hloop | hloop, hsilent⟩
  · exact hi.peeking c hloop hsilent
  · exact hi.draining c hloop hsilent

theorem HeldUp.not_answers (h : HeldUp maxConnections s) (hwaiting : s.pending ≠ [] ∨ s.shutdown = true) :
    ¬ Answers maxConnections s := by
  have hstays : ∀ s', OwnSteps maxConnections s s' → s' = s := by
    intro s' hsteps
    obtain rfl | ⟨_, ⟨action, ha, hstep⟩, -⟩ := Relation.ReflTransGen.cases_head hsteps
    · rfl
    · exact absurd hstep (h.2 action _ ha)
  have hbusy : ∀ l : Loop, l.idle = true → s.loop ≠ l := by
    rintro l hl rfl
    rw [h.1] at hl
    cases hl
  have hidle : s.loop ≠ .selecting := hbusy _ rfl
  have hdone : s.loop ≠ .done := hbusy _ rfl
  intro hanswers
  obtain hwaiting | hwaiting := hwaiting
  · obtain ⟨s', hsteps, c, t, hstep | hstep⟩ := (hanswers hdone).1 hwaiting
    · rw [hstays s' hsteps] at hstep
      cases hstep with
      | reject hl => exact hidle hl
    · rw [hstays s' hsteps] at hstep
      cases hstep with
      | accept hl => exact hidle hl
  · obtain ⟨s', hsteps, t, hstep⟩ := (hanswers hdone).2 hwaiting
    rw [hstays s' hsteps] at hstep
    cases hstep with
    | shutDown hl => exact hidle hl

theorem admit_holds_up (h : Step maxConnections s action t) (hok : ¬ Spoken s action) : HeldUp maxConnections t := by
  unfold Spoken at hok
  push Not at hok
  obtain ⟨c, rfl, hsilent⟩ := hok
  cases h
  exact heldUp_iff.mpr ⟨c, .inl rfl, hsilent⟩

end

/-- In a run the loop is never held up and always answers, exactly when no connection passes the check of the
limit before its peer has sent a byte or ended. -/
theorem not_held_up_iff (maxConnections : UInt64) (tr : List (Action × Server))
    (hr : Runs.Run (Step maxConnections) .start tr) :
    Runs.Always (fun s => ¬ HeldUp maxConnections s ∧ Answers maxConnections s) .start tr ↔
      Runs.EachStep Spoken .start tr := by
  have hkeeps : ∀ s action t, ReadyInv s → Step maxConnections s action t → Spoken s action → ReadyInv t :=
    fun _ _ _ => step_readyInv
  have hbreaks : ∀ s action t, ReadyInv s → Step maxConnections s action t → ¬ Spoken s action →
      ¬ (¬ HeldUp maxConnections t ∧ Answers maxConnections t) :=
    fun _ _ _ _ h hok hp => hp.1 (admit_holds_up h hok)
  exact Runs.always_iff_eachStep hkeeps hbreaks (fun _ hi => ⟨hi.not_heldUp, hi.answers⟩) hr readyInv_start

/-- A connection that has sent its first byte before it is admitted. -/
theorem not_held_up_one_byte :
    ∃ tr, Runs.Run (Step 1) .start tr ∧ Runs.EachStep Spoken .start tr ∧
      Runs.Always (fun s => ¬ HeldUp 1 s ∧ Answers 1 s) .start tr := by
  have hsilent : ¬ Peer.Silent ⟨[71], false⟩ := fun h => nomatch h.1
  obtain ⟨tr, hrun, hok⟩ : ∃ tr, Runs.Run (Step 1) .start tr ∧ Runs.EachStep Spoken .start tr := by
    refine ⟨_, .cons .connect (.cons (.send 0 [71] rfl) (.cons (.accept rfl rfl (by decide)) (.nil _))), ?_⟩
    refine ⟨nofun, nofun, fun c hc => ?_, trivial⟩
    cases hc
    exact hsilent
  exact ⟨tr, hrun, hok, (not_held_up_iff 1 tr hrun).mpr hok⟩

/-- One idle connection is admitted; a second one waits, and the shutdown has been asked for. -/
theorem idle_connection_holds_up :
    ∃ s, Runs.Reachable (Step 64) .start s ∧ s.pending = [1] ∧ s.shutdown = true ∧
      HeldUp 64 s ∧ ¬ Answers 64 s := by
  obtain ⟨s, hr, hloop, hpeer, hpending, hshutdown⟩ : ∃ s, Runs.Reachable (Step 64) .start s ∧ s.loop = .peeking 0 ∧
      (s.peers 0).Silent ∧ s.pending = [1] ∧ s.shutdown = true :=
    ⟨_, .tail (.tail (.tail (.tail .refl ⟨.connect, .connect⟩) ⟨.connect, .connect⟩) ⟨.signal, .signal⟩)
      ⟨.accept 0, .accept rfl rfl (by decide)⟩, rfl, ⟨rfl, rfl⟩, rfl, rfl⟩
  have hheld : HeldUp 64 s := heldUp_iff.mpr ⟨0, .inl hloop, hpeer⟩
  exact ⟨s, hr, hpending, hshutdown, hheld, hheld.not_answers (.inr hshutdown)⟩

end DdsBridge.AcceptLoop
