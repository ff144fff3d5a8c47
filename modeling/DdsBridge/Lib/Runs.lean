import Mathlib.Logic.Relation

/-!
# Runs of a transition system

A run lists the actions taken with the state each one led to. Two rules: what holds at the start
and is kept by every step that meets a condition holds along every run whose steps all meet it;
and if each step that misses the condition breaks the property, the two are equivalent.
-/

namespace Runs

variable {σ α : Type}

inductive Run (step : σ → α → σ → Prop) : σ → List (α × σ) → Prop
  | nil (s : σ) : Run step s []
  | cons {s t : σ} {a : α} {tr : List (α × σ)} :
      step s a t → Run step t tr → Run step s ((a, t) :: tr)

/-- `P` in the first state and in every state the run reaches. -/
def Always (P : σ → Prop) (s : σ) (tr : List (α × σ)) : Prop := P s ∧ ∀ p ∈ tr, P p.2

/-- `ok` of every action in the state it is taken in. -/
def EachStep (ok : σ → α → Prop) : σ → List (α × σ) → Prop
  | _, [] => True
  | s, (a, t) :: tr => ok s a ∧ EachStep ok t tr

instance decidableEachStep (ok : σ → α → Prop) [∀ s a, Decidable (ok s a)] : ∀ s tr, Decidable (EachStep ok s tr)
  | _, [] => inferInstanceAs (Decidable True)
  | s, (a, t) :: tr =>
    have := decidableEachStep ok t tr
    inferInstanceAs (Decidable (ok s a ∧ EachStep ok t tr))

def Reachable (step : σ → α → σ → Prop) : σ → σ → Prop :=
  Relation.ReflTransGen fun s t => ∃ a, step s a t

/-- The run of a system that has one next state for each action. -/
def along (next : σ → α → σ) : σ → List α → List (α × σ)
  | _, [] => []
  | s, a :: as => (a, next s a) :: along next (next s a) as

variable {step : σ → α → σ → Prop}

theorem run_along {next : σ → α → σ} (h : ∀ s a, step s a (next s a)) (as : List α) :
    ∀ s, Run step s (along next s as) := by
  induction as with
  | nil => exact fun s => .nil s
  | cons a as ih => exact fun s => .cons (h s a) (ih _)

theorem Reachable.invariant {I : σ → Prop} {s₀ s : σ} (hr : Reachable step s₀ s) (h₀ : I s₀)
    (hs : ∀ s a t, I s → step s a t → I t) : I s := by
  induction hr with
  | refl => exact h₀
  | tail _ h ih =>
    obtain ⟨a, ha⟩ := h
    exact hs _ a _ ih ha

theorem Reachable.mono {step' : σ → α → σ → Prop} (h : ∀ s a t, step s a t → step' s a t) {s₀ s : σ}
    (hr : Reachable step s₀ s) : Reachable step' s₀ s := by
  induction hr with
  | refl => exact .refl
  | tail _ hst ih =>
    obtain ⟨a, ha⟩ := hst
    exact .tail ih ⟨a, h _ a _ ha⟩

theorem Always.cons {P : σ → Prop} {s t : σ} {a : α} {tr : List (α × σ)} :
    Always P s ((a, t) :: tr) ↔ P s ∧ Always P t tr := by
  simp [Always]

theorem Always.mono {P Q : σ → Prop} (h : ∀ s, P s → Q s) {s : σ} {tr : List (α × σ)}
    (hp : Always P s tr) : Always Q s tr := ⟨h _ hp.1, fun p hm => h _ (hp.2 p hm)⟩

theorem Always.and {P Q : σ → Prop} {s : σ} {tr : List (α × σ)} (hp : Always P s tr) (hq : Always Q s tr) :
    Always (fun s => P s ∧ Q s) s tr := ⟨⟨hp.1, hq.1⟩, fun p hm => ⟨hp.2 p hm, hq.2 p hm⟩⟩

theorem Run.reachable {s : σ} {tr : List (α × σ)} (hr : Run step s tr) :
    Always (Reachable step s) s tr := by
  induction hr with
  | nil s => exact ⟨.refl, fun p hp => by cases hp⟩
  | cons h _ ih =>
    refine Always.cons.mpr ⟨.refl, ih.mono fun u hu => ?_⟩
    exact Relation.ReflTransGen.head ⟨_, h⟩ hu

theorem always_of_eachStep {I : σ → Prop} {ok : σ → α → Prop}
    (hs : ∀ s a t, I s → step s a t → ok s a → I t) {s : σ} {tr : List (α × σ)}
    (hr : Run step s tr) (h₀ : I s) (hok : EachStep ok s tr) : Always I s tr := by
  induction hr with
  | nil s => exact ⟨h₀, fun p hp => by cases hp⟩
  | cons h _ ih => exact Always.cons.mpr ⟨h₀, ih (hs _ _ _ h₀ h hok.1) hok.2⟩

theorem Run.always_of_always {I P : σ → Prop} {s : σ} {tr : List (α × σ)} (hr : Run step s tr) (h₀ : I s)
    (hp : Always P s tr) (hs : ∀ s a t, I s → step s a t → P t → I t) : Always I s tr := by
  induction hr with
  | nil s => exact ⟨h₀, fun p hp => by cases hp⟩
  | cons h _ ih =>
    obtain ⟨-, htr⟩ := Always.cons.mp hp
    exact Always.cons.mpr ⟨h₀, ih (hs _ _ _ h₀ h htr.1) htr⟩

theorem eachStep_of_always {P : σ → Prop} {ok : σ → α → Prop} (h : ∀ s, P s → ∀ a, ok s a) :
    ∀ {s : σ} {tr : List (α × σ)}, Always P s tr → EachStep ok s tr
  | _, [], _ => trivial
  | s, (a, _) :: _, hp => by
    obtain ⟨hs, htr⟩ := Always.cons.mp hp
    exact ⟨h s hs a, eachStep_of_always h htr⟩

/-- What every run's steps meet, a step from a reachable state meets. -/
theorem Reachable.step_ok {ok : σ → α → Prop} {s₀ s t : σ} {a : α} (hr : Reachable step s₀ s) (hst : step s a t)
    (h : ∀ tr, Run step s₀ tr → EachStep ok s₀ tr) : ok s a := by
  induction hr using Relation.ReflTransGen.head_induction_on with
  | refl => exact (h [(a, t)] (.cons hst (.nil t))).1
  | head hfirst _ ih =>
    obtain ⟨b, hb⟩ := hfirst
    exact ih fun tr htr => (h _ (.cons hb htr)).2

theorem EachStep.imp {P : σ → Prop} {ok ok' : σ → α → Prop} {s : σ} {tr : List (α × σ)} (hp : Always P s tr)
    (h : ∀ s, P s → ∀ a, ok s a → ok' s a) (hok : EachStep ok s tr) : EachStep ok' s tr := by
  induction tr generalizing s with
  | nil => trivial
  | cons p tr ih =>
    obtain ⟨hs, htr⟩ := Always.cons.mp hp
    exact ⟨h s hs p.1 hok.1, ih htr hok.2⟩

theorem eachStep_congr {P : σ → Prop} {ok ok' : σ → α → Prop} {s : σ} {tr : List (α × σ)} (hp : Always P s tr)
    (h : ∀ s, P s → ∀ a, ok s a ↔ ok' s a) : EachStep ok s tr ↔ EachStep ok' s tr :=
  ⟨EachStep.imp hp fun s hs a => (h s hs a).mp, EachStep.imp hp fun s hs a => (h s hs a).mpr⟩

theorem always_iff_eachStep {I P : σ → Prop} {ok : σ → α → Prop}
    (hs : ∀ s a t, I s → step s a t → ok s a → I t)
    (hb : ∀ s a t, I s → step s a t → ¬ ok s a → ¬ P t) (hP : ∀ s, I s → P s)
    {s : σ} {tr : List (α × σ)} (hr : Run step s tr) (h₀ : I s) :
    Always P s tr ↔ EachStep ok s tr := by
  refine ⟨fun hp => ?_, fun hok => (always_of_eachStep hs hr h₀ hok).mono hP⟩
  induction hr with
  | nil s => trivial
  | cons h _ ih =>
    rw [Always.cons] at hp
    have hok := Classical.not_not.mp fun hn => hb _ _ _ h₀ h hn hp.2.1
    exact ⟨hok, ih (hs _ _ _ h₀ h hok) hp.2⟩

end Runs
