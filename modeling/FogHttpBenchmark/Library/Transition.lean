import Mathlib

/-!
# Runs of partial steps

A system is a partial step function: `step s a` is the state after the action `a`, where
the action can be taken in `s`. `run` takes a list of actions, and `Reachable` collects
the states that are reached by actions which all meet a condition in the state they are
taken in. An invariant is proved once, with `Reachable.invariant`, from its initial state
and its preservation by each admitted step.
-/

set_option autoImplicit false

namespace FogHttpBenchmark.Library.Transition

universe u v

variable {σ : Type u} {ι : Type v}

/-- The state after a list of actions. -/
def run (step : σ → ι → Option σ) : σ → List ι → Option σ
  | s, [] => some s
  | s, a :: as => (step s a).bind fun t => run step t as

/-- The states that are reached from `init` by actions that meet `allowed` in the state
before them. -/
inductive Reachable (step : σ → ι → Option σ) (allowed : σ → ι → Prop) (init : σ) : σ → Prop
  | start : Reachable step allowed init init
  | next {s t : σ} (a : ι) : Reachable step allowed init s → allowed s a →
      step s a = some t → Reachable step allowed init t

variable {step : σ → ι → Option σ} {allowed : σ → ι → Prop} {init s t : σ}

theorem run_cons {a : ι} {as : List ι} {u : σ} (hstep : step s a = some t)
    (hrun : run step t as = some u) : run step s (a :: as) = some u := by
  rw [run, hstep]
  exact hrun

/-- A run of two parts. -/
theorem run_append {as bs : List ι} {u : σ} (hfirst : run step s as = some t)
    (hsecond : run step t bs = some u) : run step s (as ++ bs) = some u := by
  induction as generalizing s with
  | nil =>
      cases hfirst
      exact hsecond
  | cons a as ih =>
      rw [run, Option.bind_eq_some_iff] at hfirst
      obtain ⟨m, hstep, hrest⟩ := hfirst
      exact run_cons hstep (ih hrest)

/-- What holds initially and is kept by every admitted step holds in every reachable
state. -/
theorem Reachable.invariant {Inv : σ → Prop} (hinit : Inv init)
    (hstep : ∀ s a t, Inv s → allowed s a → step s a = some t → Inv t)
    (h : Reachable step allowed init s) : Inv s := by
  induction h with
  | start => exact hinit
  | next a _ hallowed htaken ih => exact hstep _ a _ ih hallowed htaken

/-- A run whose actions are all admitted ends in a reachable state. -/
theorem Reachable.of_run {as : List ι} (hs : Reachable step (fun _ _ => True) init s)
    (hrun : run step s as = some t) : Reachable step (fun _ _ => True) init t := by
  induction as generalizing s with
  | nil =>
      cases hrun
      exact hs
  | cons a as ih =>
      rw [run, Option.bind_eq_some_iff] at hrun
      obtain ⟨m, hstep, hrest⟩ := hrun
      exact ih (Reachable.next a hs trivial hstep) hrest

/-- An invariant of a state and of the actions that have led to it. -/
theorem run_invariant {Inv : List ι → σ → Prop} (hinit : Inv [] init)
    (hstep : ∀ past s a t, Inv past s → step s a = some t → Inv (past ++ [a]) t) {as : List ι}
    (hrun : run step init as = some t) : Inv as t := by
  have hall : ∀ {past : List ι} {s : σ} {as : List ι}, Inv past s → run step s as = some t →
      Inv (past ++ as) t := by
    intro past s as hpast hrun
    induction as generalizing past s with
    | nil =>
        cases hrun
        rwa [List.append_nil]
    | cons a as ih =>
        rw [run, Option.bind_eq_some_iff] at hrun
        obtain ⟨m, htaken, hrest⟩ := hrun
        have hnext := ih (hstep past s a m hpast htaken) hrest
        rwa [List.append_assoc] at hnext
  exact hall hinit hrun

end FogHttpBenchmark.Library.Transition
