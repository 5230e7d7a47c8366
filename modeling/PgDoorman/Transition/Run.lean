import Mathlib

/-!
# Runs of a transition system

A system given by a partial step function `step : σ → α → Option σ`: from a state, an action
is either not enabled or leads to one next state. Concurrent code is cut into its atomic
sections, one action each, and an interleaving of tasks is a list of actions.

Two uses are made of it. A property of every reachable state is proved by an inductive
invariant (`Invariant.holds`); a property that fails is shown by a run from the initial
state, which the kernel evaluates (`exists_reachable_of_run`).

## Main definitions

* `run`: the state after a list of actions, if each is enabled in turn
* `Reachable`: the states some run reaches
* `Invariant`: a property of the initial state kept by every step

## Main results

* `Invariant.holds`: an invariant holds in every reachable state
* `run_preserves`: a property kept by the allowed steps holds along every run of them
* `exists_reachable_of_run`: a run ending in a bad state gives a reachable bad state
-/

namespace Transition

variable {σ α : Type} (step : σ → α → Option σ) (init : σ)

/-- The state after the actions of the list, each taken in turn; `none` as soon as one is
not enabled. -/
def run : σ → List α → Option σ
  | s, [] => some s
  | s, a :: as => (step s a).bind fun s' => run s' as

@[simp] theorem run_nil (s : σ) : run step s [] = some s := rfl

@[simp] theorem run_cons (s : σ) (a : α) (as : List α) :
    run step s (a :: as) = (step s a).bind fun s' => run step s' as := rfl

/-- The states the system reaches from `init`. -/
inductive Reachable : σ → Prop where
  | init : Reachable init
  | step {s s' : σ} (a : α) : Reachable s → step s a = some s' → Reachable s'

variable {step init}

/-- A run from a reachable state stays among the reachable states. -/
theorem Reachable.run {s s' : σ} {as : List α} (hs : Reachable step init s)
    (hr : run step s as = some s') : Reachable step init s' := by
  induction as generalizing s with
  | nil =>
    simp only [run_nil, Option.some.injEq] at hr
    exact hr ▸ hs
  | cons a as ih =>
    rw [run_cons] at hr
    cases ha : step s a with
    | none => simp [ha] at hr
    | some s₁ =>
      rw [ha, Option.bind_some] at hr
      exact ih (hs.step a ha) hr

/-- A property of the initial state that every enabled step keeps. -/
structure Invariant (step : σ → α → Option σ) (init : σ) (P : σ → Prop) : Prop where
  init : P init
  step : ∀ s a s', P s → step s a = some s' → P s'

/-- **An invariant holds in every reachable state.** -/
theorem Invariant.holds {P : σ → Prop} (hP : Invariant step init P) {s : σ}
    (hs : Reachable step init s) : P s := by
  induction hs with
  | init => exact hP.init
  | step a _ ha ih => exact hP.step _ a _ ih ha

/-- **A property kept by the allowed steps holds along every run of allowed actions.** For a
system whose law holds only when its environment behaves, `allowed` says which actions it may
take. -/
theorem run_preserves {P : σ → Prop} {allowed : α → Prop}
    (hstep : ∀ s a s', P s → allowed a → step s a = some s' → P s') :
    ∀ (as : List α) {s s' : σ}, P s → (∀ a ∈ as, allowed a) → run step s as = some s' → P s'
  | [], s, s', hs, _, hr => by
    simp only [run_nil, Option.some.injEq] at hr
    exact hr ▸ hs
  | a :: as, s, s', hs, has, hr => by
    rw [run_cons] at hr
    cases ha : step s a with
    | none => simp [ha] at hr
    | some s₁ =>
      rw [ha, Option.bind_some] at hr
      have hs₁ : P s₁ := hstep s a s₁ hs (has a (List.mem_cons_self ..)) ha
      exact run_preserves hstep as hs₁ (fun b hb => has b (List.mem_cons_of_mem a hb)) hr

/-- A run that ends in a state with property `p` shows a reachable state with it; with `p`
decidable, `h` is checked by evaluating the run. -/
theorem exists_reachable_of_run {p : σ → Prop} [DecidablePred p] (as : List α)
    (h : ((run step init as).map fun s => decide (p s)) = some true) :
    ∃ s, Reachable step init s ∧ p s := by
  cases hr : run step init as with
  | none => simp [hr] at h
  | some s =>
    simp only [hr, Option.map_some, Option.some.injEq, decide_eq_true_eq] at h
    exact ⟨s, Reachable.init.run hr, h⟩

end Transition
