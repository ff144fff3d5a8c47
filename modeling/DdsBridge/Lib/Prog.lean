import Mathlib.Tactic.Common

/-!
# Calls that return, fail or panic

`Res` is what a call comes back with: a value, an error for the caller, or a panic that unwinds
through every caller. `Prog` adds a state that the call may have changed before it returned or
failed. `Prog.wp` is its predicate transformer: one postcondition for each way to come back.
-/

inductive Res (ε α : Type) where
  | ok (a : α)
  | err (e : ε)
  | panic
  deriving DecidableEq, Repr

namespace Res

variable {ε ε' α β : Type}

def bind : Res ε α → (α → Res ε β) → Res ε β
  | .ok a, f => f a
  | .err e, _ => .err e
  | .panic, _ => .panic

instance : Monad (Res ε) where
  pure := .ok
  bind := Res.bind

@[simp] theorem pure_eq (a : α) : (pure a : Res ε α) = .ok a := rfl
@[simp] theorem ok_bind (a : α) (f : α → Res ε β) : (Res.ok a >>= f) = f a := rfl
@[simp] theorem err_bind (e : ε) (f : α → Res ε β) : (Res.err e >>= f) = .err e := rfl
@[simp] theorem panic_bind (f : α → Res ε β) : (Res.panic >>= f) = .panic := rfl

instance : LawfulMonad (Res ε) := LawfulMonad.mk' _
  (fun x => by cases x <;> rfl)
  (fun _ _ => rfl)
  (fun x _ _ => by cases x <;> rfl)

/-- `Result::map_err`. -/
def mapErr (g : ε → ε') : Res ε α → Res ε' α
  | .ok a => .ok a
  | .err e => .err (g e)
  | .panic => .panic

@[simp] theorem map_eq_ok {x : Res ε α} {g : α → β} {b : β} :
    g <$> x = .ok b ↔ ∃ a, x = .ok a ∧ g a = b := by
  cases x with
  | ok a => simp [Functor.map, Res.bind]
  | err e => simp [Functor.map, Res.bind]
  | panic => simp [Functor.map, Res.bind]

theorem map_eq_err {x : Res ε α} {g : α → β} {e : ε} : g <$> x = .err e ↔ x = .err e := by
  cases x with
  | ok a => simp [Functor.map, Res.bind]
  | err e => simp [Functor.map, Res.bind]
  | panic => simp [Functor.map, Res.bind]

end Res

def Prog (σ ε α : Type) := σ → Res (ε × σ) (α × σ)

namespace Prog

variable {σ ε ε' α β : Type}

instance : Monad (Prog σ ε) where
  pure a := fun s => .ok (a, s)
  bind m f := fun s => m s >>= fun r => f r.1 r.2

theorem pure_apply (a : α) (s : σ) : (pure a : Prog σ ε α) s = .ok (a, s) := rfl

theorem bind_apply (m : Prog σ ε α) (f : α → Prog σ ε β) (s : σ) :
    (m >>= f) s = m s >>= fun r => f r.1 r.2 := rfl

instance : LawfulMonad (Prog σ ε) := LawfulMonad.mk' _
  (fun x => by
    funext s
    change (x s >>= fun r => Res.ok (r.1, r.2)) = x s
    cases x s <;> rfl)
  (fun _ _ => rfl)
  (fun x f g => by
    funext s
    simp only [bind_apply, bind_assoc])

def throw (e : ε) : Prog σ ε α := fun s => .err (e, s)

def abort : Prog σ ε α := fun _ => .panic

def get : Prog σ ε σ := fun s => .ok (s, s)

def modify (f : σ → σ) : Prog σ ε Unit := fun s => .ok ((), f s)

/-- `if !c { return Err(e) }`. -/
def require (c : Prop) [Decidable c] (e : ε) : Prog σ ε Unit :=
  if c then pure () else throw e

/-- A call that does not touch the state, with its `?`. -/
def ofRes : Res ε α → Prog σ ε α
  | .ok a => pure a
  | .err e => throw e
  | .panic => abort

/-- Run on a local state that is dropped on return. -/
def eval (m : Prog σ ε α) (s : σ) : Res ε α :=
  match m s with
  | .ok (a, _) => .ok a
  | .err (e, _) => .err e
  | .panic => .panic

/-- The state a call leaves; one that panics leaves it as it was. -/
def after (m : Prog σ ε α) (s : σ) : σ :=
  match m s with
  | .ok (_, s') => s'
  | .err (_, s') => s'
  | .panic => s

def mapErr (g : ε → ε') (m : Prog σ ε α) : Prog σ ε' α := fun s =>
  match m s with
  | .ok r => .ok r
  | .err (e, s') => .err (g e, s')
  | .panic => .panic

def zoom {τ : Type} (part : σ → τ) (put : τ → σ → σ) (m : Prog τ ε α) : Prog σ ε α := fun s =>
  match m (part s) with
  | .ok (a, t) => .ok (a, put t s)
  | .err (e, t) => .err (e, put t s)
  | .panic => .panic

/-- A call whose error becomes a value. -/
def recover (m : Prog σ ε α) (h : ε → α) : Prog σ ε' α := fun s =>
  match m s with
  | .ok r => .ok r
  | .err (e, s') => .ok (h e, s')
  | .panic => .panic

/-- `for _ in 0..n { v.push(p()?) }` -/
def times (p : Prog σ ε α) : Nat → Prog σ ε (List α)
  | 0 => pure []
  | n + 1 => do
    let a ← p
    let as ← times p n
    pure (a :: as)

/-! ## What a call that returned a value has done -/

theorem bind_eq_ok {m : Prog σ ε α} {f : α → Prog σ ε β} {s s' : σ} {b : β} :
    (m >>= f) s = .ok (b, s') ↔ ∃ a t, m s = .ok (a, t) ∧ f a t = .ok (b, s') := by
  rw [bind_apply]
  cases m s with
  | ok r => simp only [Res.ok_bind, Res.ok.injEq, Prod.ext_iff, and_assoc, exists_and_left, exists_eq_left']
  | err e => simp
  | panic => simp

theorem bind_of_ok {m : Prog σ ε α} {f : α → Prog σ ε β} {s t : σ} {a : α}
    (h : m s = .ok (a, t)) : (m >>= f) s = f a t := by
  rw [bind_apply, h]; rfl

theorem bind_of_panic {m : Prog σ ε α} {f : α → Prog σ ε β} {s : σ} (h : m s = .panic) :
    (m >>= f) s = .panic := by
  rw [bind_apply, h]; rfl

theorem pure_eq_ok {a b : α} {s s' : σ} :
    (pure a : Prog σ ε α) s = .ok (b, s') ↔ a = b ∧ s = s' := by
  simp [pure_apply]

theorem require_eq_ok {c : Prop} [Decidable c] {e : ε} {u : Unit} {s s' : σ} :
    (require c e : Prog σ ε Unit) s = .ok (u, s') ↔ c ∧ s = s' := by
  unfold require
  by_cases h : c
  · simp [h, pure_apply]
  · simp [h, throw]

theorem eval_eq_ok {m : Prog σ ε α} {s : σ} {a : α} :
    m.eval s = .ok a ↔ ∃ s', m s = .ok (a, s') := by
  unfold eval
  cases h : m s with
  | ok r => obtain ⟨b, t⟩ := r; simp
  | err r => obtain ⟨e, t⟩ := r; simp
  | panic => simp

theorem eval_eq_panic {m : Prog σ ε α} {s : σ} : m.eval s = .panic ↔ m s = .panic := by
  unfold eval
  cases h : m s with
  | ok r => simp
  | err r => simp
  | panic => simp

/-! ## Errors in another form -/

@[simp] theorem mapErr_pure (g : ε → ε') (a : α) : (pure a : Prog σ ε α).mapErr g = pure a := rfl

@[simp] theorem mapErr_throw (g : ε → ε') (e : ε) : (throw e : Prog σ ε α).mapErr g = throw (g e) := rfl

@[simp] theorem mapErr_get (g : ε → ε') : (get : Prog σ ε σ).mapErr g = get := rfl

@[simp] theorem mapErr_modify (g : ε → ε') (f : σ → σ) : (modify f : Prog σ ε Unit).mapErr g = modify f := rfl

@[simp] theorem mapErr_require (g : ε → ε') (c : Prop) [Decidable c] (e : ε) :
    (require c e : Prog σ ε Unit).mapErr g = require c (g e) := by
  unfold require
  split
  · rfl
  · rfl

@[simp] theorem mapErr_mapErr {ε'' : Type} (g : ε → ε') (h : ε' → ε'') (m : Prog σ ε α) :
    (m.mapErr g).mapErr h = m.mapErr fun e => h (g e) := by
  funext s
  unfold mapErr
  cases m s with
  | ok r => rfl
  | err r => rfl
  | panic => rfl

@[simp] theorem mapErr_bind (g : ε → ε') (m : Prog σ ε α) (f : α → Prog σ ε β) :
    (m >>= f).mapErr g = m.mapErr g >>= fun a => (f a).mapErr g := by
  funext s
  rw [bind_apply]
  unfold mapErr
  rw [bind_apply]
  cases m s with
  | ok r => rfl
  | err r => rfl
  | panic => rfl

/-! ## Weakest preconditions -/

/-- `Q` for a value, `E` for an error, `P` for a panic. -/
def wp (m : Prog σ ε α) (Q : α → σ → Prop) (E : ε → σ → Prop) (P : Prop) (s : σ) : Prop :=
  match m s with
  | .ok (a, s') => Q a s'
  | .err (e, s') => E e s'
  | .panic => P

variable {Q : α → σ → Prop} {E : ε → σ → Prop} {P : Prop} {s : σ}

@[simp] theorem wp_pure (a : α) : (pure a : Prog σ ε α).wp Q E P s ↔ Q a s := Iff.rfl
@[simp] theorem wp_throw (e : ε) : (throw e : Prog σ ε α).wp Q E P s ↔ E e s := Iff.rfl
@[simp] theorem wp_abort : (abort : Prog σ ε α).wp Q E P s ↔ P := Iff.rfl
@[simp] theorem wp_get {Q : σ → σ → Prop} : (get : Prog σ ε σ).wp Q E P s ↔ Q s s := Iff.rfl

@[simp] theorem wp_modify {Q : Unit → σ → Prop} (f : σ → σ) :
    (modify f : Prog σ ε Unit).wp Q E P s ↔ Q () (f s) := Iff.rfl

@[simp] theorem wp_bind {Q : β → σ → Prop} (m : Prog σ ε α) (f : α → Prog σ ε β) :
    (m >>= f).wp Q E P s ↔ m.wp (fun a t => (f a).wp Q E P t) E P s := by
  unfold wp
  rw [bind_apply]
  cases m s with
  | ok r => rfl
  | err r => rfl
  | panic => rfl

@[simp] theorem wp_require {Q : Unit → σ → Prop} (c : Prop) [Decidable c] (e : ε) :
    (require c e : Prog σ ε Unit).wp Q E P s ↔ (c → Q () s) ∧ (¬ c → E e s) := by
  unfold require
  by_cases h : c <;> simp [h]

theorem wp_ofRes (r : Res ε α) :
    (ofRes r).wp Q E P s ↔
      (∀ a, r = .ok a → Q a s) ∧ (∀ e, r = .err e → E e s) ∧ (r = .panic → P) := by
  cases r with
  | ok a => simp [ofRes]
  | err e => simp [ofRes]
  | panic => simp [ofRes]

@[simp] theorem wp_mapErr (g : ε' → ε) (m : Prog σ ε' α) :
    (m.mapErr g).wp Q E P s ↔ m.wp Q (fun e => E (g e)) P s := by
  unfold wp mapErr
  cases m s with
  | ok r => rfl
  | err r => rfl
  | panic => rfl

@[simp] theorem wp_zoom {τ : Type} (part : σ → τ) (put : τ → σ → σ) (m : Prog τ ε α) :
    (m.zoom part put).wp Q E P s ↔
      m.wp (fun a t => Q a (put t s)) (fun e t => E e (put t s)) P (part s) := by
  unfold wp zoom
  cases m (part s) with
  | ok r => rfl
  | err r => rfl
  | panic => rfl

@[simp] theorem wp_recover (m : Prog σ ε' α) (h : ε' → α) :
    (m.recover h : Prog σ ε α).wp Q E P s ↔ m.wp Q (fun e => Q (h e)) P s := by
  unfold wp recover
  cases m s with
  | ok r => rfl
  | err r => rfl
  | panic => rfl

theorem wp_mono {m : Prog σ ε α} {Q' : α → σ → Prop} {E' : ε → σ → Prop} {P' : Prop}
    (h : m.wp Q E P s) (hQ : ∀ a t, Q a t → Q' a t) (hE : ∀ e t, E e t → E' e t) (hP : P → P') :
    m.wp Q' E' P' s := by
  unfold wp at h ⊢
  cases hm : m s with
  | ok r => rw [hm] at h; exact hQ _ _ h
  | err r => rw [hm] at h; exact hE _ _ h
  | panic => rw [hm] at h; exact hP h

theorem wp_and {m : Prog σ ε α} {Q' : α → σ → Prop} {E' : ε → σ → Prop} (h : m.wp Q E P s) (h' : m.wp Q' E' P s) :
    m.wp (fun a t => Q a t ∧ Q' a t) (fun e t => E e t ∧ E' e t) P s := by
  unfold wp at h h' ⊢
  cases hm : m s with
  | ok r =>
    rw [hm] at h h'
    exact ⟨h, h'⟩
  | err r =>
    rw [hm] at h h'
    exact ⟨h, h'⟩
  | panic =>
    rw [hm] at h
    exact h

theorem wp_of_forall {m : Prog σ ε α} (hQ : ∀ a t, Q a t) (hE : ∀ e t, E e t) (hP : P) : m.wp Q E P s := by
  unfold wp
  cases m s with
  | ok r => exact hQ _ _
  | err r => exact hE _ _
  | panic => exact hP

/-! ## How a call came back -/

section
variable {m : Prog σ ε α} {a : α} {e : ε} {t : σ}

theorem post_of_ok (h : m.wp Q E P s) (hm : m s = .ok (a, t)) : Q a t := by
  unfold wp at h
  rw [hm] at h
  exact h

theorem post_of_err (h : m.wp Q E P s) (hm : m s = .err (e, t)) : E e t := by
  unfold wp at h
  rw [hm] at h
  exact h

theorem post_of_panic (h : m.wp Q E P s) (hm : m s = .panic) : P := by
  unfold wp at h
  rw [hm] at h
  exact h

theorem after_of_ok (hm : m s = .ok (a, t)) : m.after s = t := by
  rw [after, hm]

theorem after_of_panic (hm : m s = .panic) : m.after s = s := by
  rw [after, hm]

theorem wp_after (m : Prog σ ε α) (s : σ) : m.wp (fun _ t => t = m.after s) (fun _ t => t = m.after s) True s := by
  unfold wp after
  cases m s with
  | ok r => rfl
  | err r => rfl
  | panic => trivial

theorem after_of_wp {I : σ → Prop} (h : m.wp (fun _ => I) (fun _ => I) P s) (hP : P → I s) : I (m.after s) := by
  unfold after
  cases hm : m s with
  | ok r => exact post_of_ok h hm
  | err r => exact post_of_err h hm
  | panic => exact hP (post_of_panic h hm)

end

/-! ## What a call may do to its state -/

/-- However the call comes back, `R` holds between the state before it and the state after it. -/
def Within (R : σ → σ → Prop) (m : Prog σ ε α) : Prop :=
  ∀ s, m.wp (fun _ t => R s t) (fun _ t => R s t) True s

section Within

variable {R : σ → σ → Prop}

theorem Within.ok {m : Prog σ ε α} (h : Within R m) {a : α} {t : σ} (hm : m s = .ok (a, t)) : R s t := by
  have hwp := post_of_ok (h s) hm
  exact hwp

theorem Within.err {m : Prog σ ε α} (h : Within R m) {e : ε} {t : σ} (hm : m s = .err (e, t)) : R s t := by
  have hwp := post_of_err (h s) hm
  exact hwp

theorem Within.bind [IsTrans σ R] {m : Prog σ ε α} {f : α → Prog σ ε β} (hm : Within R m)
    (hf : ∀ a, Within R (f a)) : Within R (m >>= f) := by
  intro s
  rw [wp_bind]
  refine wp_mono (hm s) (fun a t hst => ?_) (fun _ _ h => h) id
  exact wp_mono (hf a t) (fun _ _ h => IsTrans.trans _ _ _ hst h) (fun _ _ h => IsTrans.trans _ _ _ hst h) id

/-- The relations of two calls make up the one of their sequence; an error of the first ends it. -/
theorem Within.comp {R₁ R₂ : σ → σ → Prop} {m : Prog σ ε α} {f : α → Prog σ ε β} (hm : Within R₁ m)
    (hf : ∀ a, Within R₂ (f a)) (herr : ∀ s t, R₁ s t → R s t) (h : ∀ s t u, R₁ s t → R₂ t u → R s u) :
    Within R (m >>= f) := by
  intro s
  rw [wp_bind]
  refine wp_mono (hm s) (fun a t hst => ?_) (fun _ t hst => herr s t hst) id
  exact wp_mono (hf a t) (fun _ u hu => h s t u hst hu) (fun _ u hu => h s t u hst hu) id

theorem within_pure [Std.Refl R] (a : α) : Within R (pure a : Prog σ ε α) := fun s => Std.Refl.refl s

theorem within_throw [Std.Refl R] (e : ε) : Within R (throw e : Prog σ ε α) := fun s => Std.Refl.refl s

theorem within_get [Std.Refl R] : Within R (get : Prog σ ε σ) := fun s => Std.Refl.refl s

theorem within_modify {f : σ → σ} (h : ∀ s, R s (f s)) : Within R (modify f : Prog σ ε Unit) := h

theorem within_require [Std.Refl R] (c : Prop) [Decidable c] (e : ε) :
    Within R (require c e : Prog σ ε Unit) := by
  intro s
  rw [wp_require]
  exact ⟨fun _ => Std.Refl.refl s, fun _ => Std.Refl.refl s⟩

theorem within_ofRes [Std.Refl R] (r : Res ε α) : Within R (ofRes r : Prog σ ε α) := by
  intro s
  rw [wp_ofRes]
  exact ⟨fun _ _ => Std.Refl.refl s, fun _ _ => Std.Refl.refl s, fun _ => trivial⟩

theorem Within.mapErr {m : Prog σ ε α} (hm : Within R m) (g : ε → ε') : Within R (m.mapErr g) := by
  intro s
  rw [wp_mapErr]
  exact hm s

theorem Within.recover {m : Prog σ ε α} (hm : Within R m) (h : ε → α) :
    Within R (m.recover h : Prog σ ε' α) := by
  intro s
  rw [wp_recover]
  exact hm s

theorem within_zoom {τ : Type} {part : σ → τ} {put : τ → σ → σ} (h : ∀ s t, R s (put t s)) (m : Prog τ ε α) :
    Within R (m.zoom part put) := by
  intro s
  rw [wp_zoom]
  exact wp_of_forall (fun _ t => h s t) (fun _ t => h s t) trivial

theorem Within.after [Std.Refl R] {m : Prog σ ε α} (hm : Within R m) (s : σ) : R s (m.after s) := by
  unfold Prog.after
  cases hs : m s with
  | ok r => exact hm.ok hs
  | err r => exact hm.err hs
  | panic => exact Std.Refl.refl s

end Within

/-! ## Invariant, frame, value and error -/

/-- From a state in `I` a call ends in a state in `I` that `R` relates to the first, with a value in `Q`
or an error in `E`. -/
def Spec (I : σ → Prop) (R : σ → σ → Prop) (Q : α → Prop) (E : ε → Prop) (m : Prog σ ε α) : Prop :=
  ∀ s, I s → m.wp (fun a t => I t ∧ R s t ∧ Q a) (fun e t => I t ∧ R s t ∧ E e) True s

/-- No frame. -/
def Any (_ _ : σ) : Prop := True

instance : Std.Refl (Any (σ := σ)) where
  refl _ := trivial

instance : IsTrans σ Any where
  trans _ _ _ _ _ := trivial

section Spec

variable {I : σ → Prop} {R : σ → σ → Prop} {Q : α → Prop} {E : ε → Prop} {E' : ε' → Prop}

theorem Spec.bind [IsTrans σ R] {Q' : β → Prop} {m : Prog σ ε α} {f : α → Prog σ ε β} (hm : Spec I R Q E m)
    (hf : ∀ a, Q a → Spec I R Q' E (f a)) : Spec I R Q' E (m >>= f) := by
  intro s hs
  rw [wp_bind]
  refine wp_mono (hm s hs) (fun a t h => ?_) (fun _ _ h => h) id
  refine wp_mono (hf a h.2.2 t h.1) (fun _ u hu => ?_) (fun _ u hu => ?_) id
  · exact ⟨hu.1, IsTrans.trans _ _ _ h.2.1 hu.2.1, hu.2.2⟩
  · exact ⟨hu.1, IsTrans.trans _ _ _ h.2.1 hu.2.1, hu.2.2⟩

theorem spec_pure [Std.Refl R] {a : α} (h : Q a) : Spec I R Q E (pure a : Prog σ ε α) :=
  fun s hs => ⟨hs, Std.Refl.refl s, h⟩

theorem spec_throw [Std.Refl R] {e : ε} (h : E e) : Spec I R Q E (throw e : Prog σ ε α) :=
  fun s hs => ⟨hs, Std.Refl.refl s, h⟩

theorem spec_get [Std.Refl R] : Spec I R I E (get : Prog σ ε σ) := fun s hs => ⟨hs, Std.Refl.refl s, hs⟩

theorem spec_modify {f : σ → σ} (h : ∀ s, I s → I (f s) ∧ R s (f s)) :
    Spec I R (fun _ => True) E (modify f : Prog σ ε Unit) := fun s hs => ⟨(h s hs).1, (h s hs).2, trivial⟩

theorem spec_require [Std.Refl R] {c : Prop} [Decidable c] {e : ε} (he : ¬ c → E e) :
    Spec I R (fun _ => c) E (require c e : Prog σ ε Unit) := by
  intro s hs
  rw [wp_require]
  exact ⟨fun hc => ⟨hs, Std.Refl.refl s, hc⟩, fun hc => ⟨hs, Std.Refl.refl s, he hc⟩⟩

theorem spec_ofRes [Std.Refl R] {r : Res ε α} (he : ∀ e, r = .err e → E e) :
    Spec I R (fun a => r = .ok a) E (ofRes r : Prog σ ε α) := by
  intro s hs
  rw [wp_ofRes]
  refine ⟨fun a ha => ⟨hs, Std.Refl.refl s, ha⟩, fun e h => ⟨hs, Std.Refl.refl s, he e h⟩, fun _ => trivial⟩

theorem Spec.mono {Q' : α → Prop} {E₁ : ε → Prop} {m : Prog σ ε α} (hm : Spec I R Q E m)
    (hQ : ∀ a, Q a → Q' a) (hE : ∀ e, E e → E₁ e) : Spec I R Q' E₁ m := fun s hs =>
  wp_mono (hm s hs) (fun a _ h => ⟨h.1, h.2.1, hQ a h.2.2⟩) (fun e _ h => ⟨h.1, h.2.1, hE e h.2.2⟩) id

theorem Spec.mapErr {m : Prog σ ε' α} (hm : Spec I R Q E' m) {g : ε' → ε} (hE : ∀ e, E' e → E (g e)) :
    Spec I R Q E (m.mapErr g) := by
  intro s hs
  rw [wp_mapErr]
  exact wp_mono (hm s hs) (fun _ _ h => h) (fun e _ h => ⟨h.1, h.2.1, hE e h.2.2⟩) id

theorem Spec.recover {m : Prog σ ε α} (hm : Spec I R Q E m) {g : ε → α} (hE : ∀ e, E e → Q (g e)) :
    Spec I R Q E' (m.recover g : Prog σ ε' α) := by
  intro s hs
  rw [wp_recover]
  exact wp_mono (hm s hs) (fun _ _ h => h) (fun e _ h => ⟨h.1, h.2.1, hE e h.2.2⟩) id

theorem Spec.times [Std.Refl R] [IsTrans σ R] {p : Prog σ ε α} (hp : Spec I R Q E p) :
    ∀ n, Spec I R (fun _ => True) E (p.times n)
  | 0 => spec_pure trivial
  | n + 1 => hp.bind fun _ _ => (Spec.times hp n).bind fun _ _ => spec_pure trivial

theorem Spec.after [Std.Refl R] {m : Prog σ ε α} (hm : Spec I R Q E m) {s : σ} (hs : I s) :
    I (m.after s) ∧ R s (m.after s) := by
  have h := hm s hs
  unfold wp at h
  unfold Prog.after
  cases hr : m s with
  | ok r =>
    rw [hr] at h
    exact ⟨h.1, h.2.1⟩
  | err r =>
    rw [hr] at h
    exact ⟨h.1, h.2.1⟩
  | panic => exact ⟨hs, Std.Refl.refl s⟩

theorem Spec.value {m : Prog σ ε α} (hm : Spec I R Q E m) {s t : σ} {a : α} (hs : I s) (h : m s = .ok (a, t)) :
    Q a := by
  have hwp := hm s hs
  rw [wp, h] at hwp
  exact hwp.2.2

theorem Spec.error {m : Prog σ ε α} (hm : Spec I R Q E m) {s : σ} {e : ε} (hs : I s) (h : m.eval s = .err e) :
    E e := by
  have hwp := hm s hs
  unfold eval at h
  unfold wp at hwp
  cases hr : m s with
  | ok r =>
    rw [hr] at h
    cases h
  | err r =>
    rw [hr] at h hwp
    cases h
    exact hwp.2.2
  | panic =>
    rw [hr] at h
    cases h

end Spec

end Prog
