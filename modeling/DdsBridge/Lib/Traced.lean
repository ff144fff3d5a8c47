import DdsBridge.Lib.Prog
import Mathlib.Algebra.Order.Group.Multiset

/-!
# Calls to another component

A program notes the calls it makes to another component next to its state; without the notes it is the program
it was. Each call uses, frees and makes resources of that component. Replayed from the first one on, the calls
tell which resources there are, or that one of them named a resource that is not there.
-/

structure Traced (σ κ : Type) where
  state : σ
  calls : List κ

namespace Prog

variable {σ τ κ ε ε' α β : Type}

/-- A part that makes no calls. -/
def quiet (m : Prog σ ε α) : Prog (Traced σ κ) ε α := m.zoom Traced.state fun state t => { t with state }

def calls (cs : List κ) : Prog (Traced σ κ) ε Unit := modify fun t => { t with calls := t.calls ++ cs }

def zoomTraced (part : σ → τ) (put : τ → σ → σ) (m : Prog (Traced τ κ) ε α) : Prog (Traced σ κ) ε α :=
  m.zoom (fun t => ⟨part t.state, t.calls⟩) fun u t => ⟨put u.state t.state, u.calls⟩

/-- A block that is left by a value or by an error ends with `f`. -/
def atEnd (m : Prog σ ε α) (f : σ → σ) : Prog σ ε α := fun s =>
  match m s with
  | .ok (a, s') => .ok (a, f s')
  | .err (e, s') => .err (e, f s')
  | .panic => .panic

section
variable {Q : α → σ → Prop} {E : ε → σ → Prop} {P : Prop}

@[simp] theorem wp_atEnd (m : Prog σ ε α) (f : σ → σ) (s : σ) :
    (m.atEnd f).wp Q E P s ↔ m.wp (fun a t => Q a (f t)) (fun e t => E e (f t)) P s := by
  unfold wp atEnd
  cases m s with
  | ok r => rfl
  | err r => rfl
  | panic => rfl

end

@[simp] theorem wp_quiet {Q : α → Traced σ κ → Prop} {E : ε → Traced σ κ → Prop} {P : Prop} (m : Prog σ ε α)
    (t : Traced σ κ) : (quiet m).wp Q E P t ↔
      m.wp (fun a s => Q a ⟨s, t.calls⟩) (fun e s => E e ⟨s, t.calls⟩) P t.state := by
  rw [quiet, wp_zoom]

@[simp] theorem wp_calls {Q : Unit → Traced σ κ → Prop} {E : ε → Traced σ κ → Prop} {P : Prop} (cs : List κ)
    (t : Traced σ κ) : (calls cs).wp Q E P t ↔ Q () ⟨t.state, t.calls ++ cs⟩ := Iff.rfl

@[simp] theorem wp_zoomTraced {Q : α → Traced σ κ → Prop} {E : ε → Traced σ κ → Prop} {P : Prop} (part : σ → τ)
    (put : τ → σ → σ) (m : Prog (Traced τ κ) ε α) (t : Traced σ κ) : (m.zoomTraced part put).wp Q E P t ↔
      m.wp (fun a u => Q a ⟨put u.state t.state, u.calls⟩) (fun e u => E e ⟨put u.state t.state, u.calls⟩) P
        ⟨part t.state, t.calls⟩ := by
  rw [zoomTraced, wp_zoom]

/-! ## Without the calls -/

/-- How a program came back, without its notes. -/
def forget : Res (ε × Traced σ κ) (α × Traced σ κ) → Res (ε × σ) (α × σ)
  | .ok (a, t) => .ok (a, t.state)
  | .err (e, t) => .err (e, t.state)
  | .panic => .panic

/-- With the notes left out, `m'` is `m`. -/
def Erases (m' : Prog (Traced σ κ) ε α) (m : Prog σ ε α) : Prop := ∀ t, forget (m' t) = m t.state

section Erases

variable {m' : Prog (Traced σ κ) ε α} {m : Prog σ ε α} {f' : α → Prog (Traced σ κ) ε β} {f : α → Prog σ ε β}

theorem erases_pure (a : α) : Erases (pure a : Prog (Traced σ κ) ε α) (pure a) := fun _ => by
  simp [pure_apply, forget]

theorem erases_quiet (m : Prog σ ε α) : Erases (quiet m : Prog (Traced σ κ) ε α) m := by
  intro t
  unfold quiet zoom
  cases m t.state with
  | ok r => simp [forget]
  | err r => simp [forget]
  | panic => simp [forget]

theorem Erases.bind (hm : Erases m' m) (hf : ∀ a, Erases (f' a) (f a)) : Erases (m' >>= f') (m >>= f) := by
  intro t
  have h := hm t
  rw [bind_apply, bind_apply, ← h]
  cases m' t with
  | ok r =>
    obtain ⟨a, u⟩ := r
    exact hf a u
  | err r => simp [forget]
  | panic => simp [forget]

theorem Erases.after_calls (hm : Erases m' m) (cs : List κ) : Erases (calls cs >>= fun _ => m') m := by
  intro t
  exact hm ⟨t.state, t.calls ++ cs⟩

theorem Erases.then_calls {m' : Prog (Traced σ κ) ε Unit} {m : Prog σ ε Unit} (hm : Erases m' m) (cs : List κ) :
    Erases (m' >>= fun _ => calls cs) m := by
  intro t
  have h := hm t
  rw [bind_apply, ← h]
  cases m' t with
  | ok r => simp [forget, calls, modify]
  | err r => simp [forget]
  | panic => simp [forget]

theorem Erases.after_get {f' : σ → Prog (Traced σ κ) ε α} (h : ∀ s, Erases (f' s) m) :
    Erases (quiet get >>= f') m := by
  intro t
  exact h t.state t

theorem Erases.mapErr (hm : Erases m' m) (g : ε → ε') : Erases (m'.mapErr g) (m.mapErr g) := by
  intro t
  have h := hm t
  unfold Prog.mapErr
  rw [← h]
  cases m' t with
  | ok r => simp [forget]
  | err r => simp [forget]
  | panic => simp [forget]

theorem Erases.recover (hm : Erases m' m) (g : ε → α) :
    Erases (m'.recover g : Prog (Traced σ κ) ε' α) (m.recover g) := by
  intro t
  have h := hm t
  unfold Prog.recover
  rw [← h]
  cases m' t with
  | ok r => simp [forget]
  | err r => simp [forget]
  | panic => simp [forget]

theorem Erases.zoom {u' : Prog (Traced τ κ) ε α} {u : Prog τ ε α} (h : Erases u' u) (part : σ → τ)
    (put : τ → σ → σ) : Erases (u'.zoomTraced part put) (u.zoom part put) := by
  intro t
  have hu := h ⟨part t.state, t.calls⟩
  unfold zoomTraced Prog.zoom
  rw [← hu]
  cases u' ⟨part t.state, t.calls⟩ with
  | ok r => simp [forget]
  | err r => simp [forget]
  | panic => simp [forget]

theorem Erases.atEnd (hm : Erases m' m) {g : Traced σ κ → Traced σ κ} (hg : ∀ t, (g t).state = t.state) :
    Erases (m'.atEnd g) m := by
  intro t
  have h := hm t
  unfold Prog.atEnd
  rw [← h]
  cases m' t with
  | ok r => simp [forget, hg]
  | err r => simp [forget, hg]
  | panic => simp [forget]

theorem Erases.wp (hm : Erases m' m) {Q : α → σ → Prop} {E : ε → σ → Prop} {P : Prop} {t : Traced σ κ}
    (h : m.wp Q E P t.state) : m'.wp (fun a u => Q a u.state) (fun e u => E e u.state) P t := by
  have ht := hm t
  unfold Prog.wp at h ⊢
  rw [← ht] at h
  cases hr : m' t with
  | ok r =>
    rw [hr] at h
    exact h
  | err r =>
    rw [hr] at h
    exact h
  | panic =>
    rw [hr] at h
    exact h

theorem Erases.state_after (hm : Erases m' m) (t : Traced σ κ) : (m'.after t).state = m.after t.state := by
  have h := hm t
  unfold Prog.after
  rw [← h]
  cases m' t with
  | ok r => simp [forget]
  | err r => simp [forget]
  | panic => simp [forget]

end Erases

/-! ## Resources -/

/-- What one call does to the resources there are. -/
structure Effect (ρ : Type) where
  uses : List ρ
  frees : Multiset ρ
  makes : Multiset ρ

section Resources

variable {ρ : Type} [DecidableEq ρ]

/-- None if the call names a resource that is not there. -/
def Effect.apply (live : Multiset ρ) (e : Effect ρ) : Option (Multiset ρ) :=
  if (∀ r ∈ e.uses, r ∈ live) ∧ e.frees ≤ live then some (live - e.frees + e.makes) else none

/-- The resources after the calls, if each one names only what is there. -/
def replay (effect : κ → Effect ρ) (live : Multiset ρ) (cs : List κ) : Option (Multiset ρ) :=
  cs.foldlM (fun live c => (effect c).apply live) live

variable (effect : κ → Effect ρ)

@[simp] theorem replay_nil (live : Multiset ρ) : replay effect live [] = some live := rfl

theorem replay_append (live : Multiset ρ) (cs ds : List κ) :
    replay effect live (cs ++ ds) = (replay effect live cs).bind fun live' => replay effect live' ds := by
  unfold replay
  rw [List.foldlM_append]
  rfl

theorem replay_cons (live : Multiset ρ) (c : κ) (cs : List κ) :
    replay effect live (c :: cs) = ((effect c).apply live).bind fun live' => replay effect live' cs := by
  unfold replay
  rw [List.foldlM_cons]
  rfl

variable {effect}

/-- A call that frees nothing. -/
theorem replay_make {c : κ} {live : Multiset ρ} (huses : ∀ r ∈ (effect c).uses, r ∈ live)
    (hfrees : (effect c).frees = 0) : replay effect live [c] = some (live + (effect c).makes) := by
  rw [replay_cons, Effect.apply, if_pos ⟨huses, hfrees ▸ Multiset.zero_le live⟩, hfrees]
  simp

variable {ι : Type} {c : ι → κ} {r : ι → ρ}

/-- Calls of which each makes one resource. -/
theorem replay_makes (hc : ∀ i, effect (c i) = ⟨[], 0, {r i}⟩) (is : List ι) (live : Multiset ρ) :
    replay effect live (is.map c) = some (↑(is.map r) + live) := by
  induction is generalizing live with
  | nil => simp
  | cons i is ih =>
    have hmake : (effect (c i)).apply live = some (r i ::ₘ live) := by
      rw [hc, Effect.apply, if_pos ⟨nofun, Multiset.zero_le live⟩, Multiset.sub_zero, add_comm, Multiset.singleton_add]
    rw [List.map_cons, replay_cons, hmake, Option.bind_some, ih]
    simp [← Multiset.cons_coe]

/-- Calls of which each frees one resource. -/
theorem replay_frees (hc : ∀ i, effect (c i) = ⟨[], {r i}, 0⟩) (is : List ι) (live : Multiset ρ) :
    replay effect (↑(is.map r) + live) (is.map c) = some live := by
  induction is with
  | nil => simp
  | cons i is ih =>
    have hfree : (effect (c i)).apply (r i ::ₘ ((is.map r : Multiset ρ) + live)) = some (↑(is.map r) + live) := by
      simp [Effect.apply, hc, Multiset.sub_singleton]
    rw [List.map_cons, List.map_cons, ← Multiset.cons_coe, Multiset.cons_add, replay_cons, hfree, Option.bind_some, ih]

/-! ### Programs that account for their resources -/

variable (effect) (own : σ → Multiset ρ)

/-- The calls made so far name only resources that are there, and leave `live`. -/
def Leaves (t : Traced σ κ) (live : Multiset ρ) : Prop := replay effect 0 t.calls = some live

/-- From a state in `P` whose resources are there, and besides them others with those `given`: however the program
comes back, the resources of its new state are there, and those others. -/
def Accounts (given : Multiset ρ) (P : σ → Prop) (Q : α → σ → Prop) (m : Prog (Traced σ κ) ε α) : Prop :=
  ∀ t others, given ≤ others → P t.state → Leaves effect t (own t.state + others) →
    m.wp (fun a u => Q a u.state ∧ Leaves effect u (own u.state + others))
      (fun _ u => Leaves effect u (own u.state + others)) True t

variable {effect own} {given : Multiset ρ} {P : σ → Prop} {Q : α → σ → Prop} {R : β → σ → Prop}

theorem Leaves.append {t : Traced σ κ} {live live' : Multiset ρ} (h : Leaves effect t live) {cs : List κ}
    (hcs : replay effect live cs = some live') (s : σ) : Leaves effect ⟨s, t.calls ++ cs⟩ live' := by
  unfold Leaves at h ⊢
  rw [replay_append, h, Option.bind_some, hcs]

theorem accounts_pure {a : α} (h : ∀ s, P s → Q a s) :
    Accounts effect own given P Q (pure a : Prog (Traced σ κ) ε α) :=
  fun t _ _ hp hl => ⟨h t.state hp, hl⟩

theorem Accounts.bind {m : Prog (Traced σ κ) ε α} {f : α → Prog (Traced σ κ) ε β}
    (hm : Accounts effect own given P Q m) (hf : ∀ a, Accounts effect own given (Q a) R (f a)) :
    Accounts effect own given P R (m >>= f) := by
  intro t others hg hp hl
  rw [wp_bind]
  exact wp_mono (hm t others hg hp hl) (fun a u h => hf a u others hg h.1 h.2) (fun _ _ h => h) id

theorem Accounts.mono {P' : σ → Prop} {Q' : α → σ → Prop} {m : Prog (Traced σ κ) ε α}
    (hm : Accounts effect own given P Q m) (hP : ∀ s, P' s → P s) (hQ : ∀ a s, Q a s → Q' a s) :
    Accounts effect own given P' Q' m := by
  intro t others hg hp hl
  exact wp_mono (hm t others hg (hP _ hp) hl) (fun a u h => ⟨hQ a u.state h.1, h.2⟩) (fun _ _ h => h) id

theorem Accounts.mapErr {m : Prog (Traced σ κ) ε α} (hm : Accounts effect own given P Q m) (g : ε → ε') :
    Accounts effect own given P Q (m.mapErr g) := by
  intro t others hg hp hl
  rw [wp_mapErr]
  exact hm t others hg hp hl

theorem Accounts.recover {m : Prog (Traced σ κ) ε α} (hm : Accounts effect own given P Q m) (g : ε → α) :
    Accounts effect own given P (fun _ _ => True) (m.recover g : Prog (Traced σ κ) ε' α) := by
  intro t others hg hp hl
  rw [wp_recover]
  exact wp_mono (hm t others hg hp hl) (fun _ _ h => ⟨trivial, h.2⟩) (fun _ _ h => ⟨trivial, h⟩) id

/-- A part without calls that leaves the resources alone. -/
theorem accounts_quiet {m : Prog σ ε α}
    (h : ∀ s, P s → m.wp (fun a s' => Q a s' ∧ own s' = own s) (fun _ s' => own s' = own s) True s) :
    Accounts effect own given P Q (quiet m : Prog (Traced σ κ) ε α) := by
  intro t others _ hp hl
  rw [wp_quiet]
  refine wp_mono (h t.state hp) (fun a s' hs => ⟨hs.1, ?_⟩) (fun _ s' hs => ?_) id
  · rw [hs.2]
    exact hl
  · rw [hs]
    exact hl

/-- Calls that use what is there. -/
theorem accounts_calls {cs : List κ} (h : ∀ s others, given ≤ others → P s →
      replay effect (own s + others) cs = some (own s + others)) :
    Accounts effect own given P (fun _ => P) (calls cs : Prog (Traced σ κ) ε Unit) := by
  intro t others hg hp hl
  exact ⟨hp, hl.append (h t.state others hg hp) t.state⟩

theorem Accounts.zoom {ownPart : τ → Multiset ρ} {given' : Multiset ρ} {P' : τ → Prop} {Q' : α → τ → Prop}
    {m : Prog (Traced τ κ) ε α} (hm : Accounts effect ownPart given' P' Q' m) {part : σ → τ} {put : τ → σ → σ}
    (rest : σ → Multiset ρ) (hown : ∀ s, own s = ownPart (part s) + rest s)
    (hput : ∀ u s, own (put u s) = ownPart u + rest s)
    (hgiven : ∀ s others, given ≤ others → P s → given' ≤ rest s + others) (hP : ∀ s, P s → P' (part s))
    (hQ : ∀ s, P s → ∀ a u, Q' a u → Q a (put u s)) :
    Accounts effect own given P Q (m.zoomTraced part put) := by
  intro t others hg hp hl
  rw [wp_zoomTraced]
  rw [hown, add_assoc] at hl
  refine wp_mono (hm ⟨part t.state, t.calls⟩ _ (hgiven t.state others hg hp) (hP _ hp) hl) (fun a u h => ?_)
    (fun _ u h => ?_) id
  · refine ⟨hQ _ hp a u.state h.1, ?_⟩
    rw [hput, add_assoc]
    exact h.2
  · rw [hput, add_assoc]
    exact h

/-- The calls `opening` make resources for a block, which the calls `closing` free at its end. -/
theorem Accounts.scope {m : Prog (Traced σ κ) ε α} {made : Multiset ρ} {opening closing : List κ}
    (hm : Accounts effect own (made + given) P Q m)
    (hopen : ∀ live, replay effect live opening = some (made + live))
    (hclose : ∀ live, replay effect (made + live) closing = some live) :
    Accounts effect own given P Q
      (calls opening >>= fun _ => m.atEnd fun t => { t with calls := t.calls ++ closing }) := by
  intro t others hg hp hl
  rw [wp_bind, wp_calls, wp_atEnd]
  have hswap : ∀ s, made + (own s + others) = own s + (made + others) := fun s => by
    rw [← add_assoc, add_comm made, add_assoc]
  have hinside := hm ⟨t.state, t.calls ++ opening⟩ (made + others) (by gcongr) hp
    (hswap t.state ▸ hl.append (hopen _) t.state)
  refine wp_mono hinside (fun a u h => ⟨h.1, ?_⟩) (fun _ u h => ?_) id
  · exact (hswap u.state ▸ h.2 : Leaves effect u _).append (hclose _) u.state
  · exact (hswap u.state ▸ h : Leaves effect u _).append (hclose _) u.state

end Resources

end Prog
