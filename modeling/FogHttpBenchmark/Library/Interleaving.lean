import FogHttpBenchmark.Library.Transition

/-!
# Components that add to shared totals

A system of components of one kind. Each component has a state of its own and a partial step, and a
step also says what it adds to the totals that all components share. The components take their
steps in any order.

What a component does in a run of the system is a run of the component alone, and the totals are
the sum of what the components add on their own, whatever the order was (`run_components`).
-/

set_option autoImplicit false

namespace FogHttpBenchmark.Library.Interleaving

universe u v w x

variable {ι : Type u} {σ : Type v} {α : Type w} {μ : Type x} [DecidableEq ι]

/-- The components of a system and their totals. -/
structure Shared (ι : Type u) (σ : Type v) (μ : Type x) where
  component : ι → σ
  totals : μ

section Steps

variable [Add μ]

/-- A step of one component. -/
def step (move : σ → α → Option (σ × μ)) (system : Shared ι σ μ) (action : ι × α) :
    Option (Shared ι σ μ) :=
  (move (system.component action.1) action.2).map fun next =>
    ⟨Function.update system.component action.1 next.1, system.totals + next.2⟩

/-- A step of a component alone, with the sum of what it has added. -/
def alone (move : σ → α → Option (σ × μ)) (state : σ × μ) (action : α) : Option (σ × μ) :=
  (move state.1 action).map fun next => (next.1, state.2 + next.2)

variable {move : σ → α → Option (σ × μ)}

theorem step_eq_some {system next : Shared ι σ μ} {action : ι × α}
    (h : step move system action = some next) :
    ∃ state added, move (system.component action.1) action.2 = some (state, added) ∧
      next = ⟨Function.update system.component action.1 state, system.totals + added⟩ := by
  rw [step, Option.map_eq_some_iff] at h
  obtain ⟨⟨state, added⟩, hmove, rfl⟩ := h
  exact ⟨state, added, hmove, rfl⟩

omit [DecidableEq ι] in
theorem alone_eq_some {state next : σ × μ} {action : α} (h : alone move state action = some next) :
    ∃ added, move state.1 action = some (next.1, added) ∧ next.2 = state.2 + added := by
  rw [alone, Option.map_eq_some_iff] at h
  obtain ⟨⟨moved, added⟩, hmove, rfl⟩ := h
  exact ⟨added, hmove, rfl⟩

end Steps

/-- The actions of one component. -/
def actionsOf (i : ι) (actions : List (ι × α)) : List α :=
  actions.filterMap fun action => if action.1 = i then some action.2 else none

theorem actionsOf_append_self (past : List (ι × α)) (action : ι × α) :
    actionsOf action.1 (past ++ [action]) = actionsOf action.1 past ++ [action.2] := by
  simp [actionsOf]

theorem actionsOf_append_of_ne {i : ι} (past : List (ι × α)) {action : ι × α}
    (h : action.1 ≠ i) : actionsOf i (past ++ [action]) = actionsOf i past := by
  simp [actionsOf, h]

section Totals

variable [Fintype ι] [AddCommMonoid μ] {move : σ → α → Option (σ × μ)}

/-- Each component has run on its own, and the totals are what all of them have added. -/
structure Composed (move : σ → α → Option (σ × μ)) (init : Shared ι σ μ)
    (past : List (ι × α)) (system : Shared ι σ μ) (added : ι → μ) : Prop where
  runs : ∀ i, Transition.run (alone move) (init.component i, 0) (actionsOf i past) =
    some (system.component i, added i)
  totals : system.totals = init.totals + ∑ i, added i

theorem composed_initial (init : Shared ι σ μ) : Composed move init [] init 0 where
  runs _ := rfl
  totals := by simp

/-- The component that moves continues its own run, and the others keep theirs. -/
theorem Composed.step {init system next : Shared ι σ μ} {past : List (ι × α)} {added : ι → μ}
    {action : ι × α} (h : Composed move init past system added)
    (hstep : step move system action = some next) :
    ∃ after, Composed move init (past ++ [action]) next after := by
  obtain ⟨state, more, hmove, rfl⟩ := step_eq_some hstep
  refine ⟨Function.update added action.1 (added action.1 + more), ?_, ?_⟩
  · intro i
    by_cases hi : action.1 = i
    · subst hi
      rw [actionsOf_append_self]
      refine Transition.run_append (h.runs action.1) ?_
      simp [Transition.run, alone, hmove]
    · rw [actionsOf_append_of_ne past hi, h.runs i]
      simp [Function.update_of_ne (Ne.symm hi)]
  · have hsum : ∑ i, Function.update added action.1 (added action.1 + more) i =
        ∑ i, added i + more := by
      rw [Finset.sum_update_of_mem (Finset.mem_univ _),
        Finset.sum_eq_add_sum_sdiff_singleton_of_mem (Finset.mem_univ action.1) added]
      abel
    rw [h.totals, hsum, add_assoc]

/-- A run of the system is a run of each component alone. -/
theorem run_components {init system : Shared ι σ μ} {actions : List (ι × α)}
    (hrun : Transition.run (step move) init actions = some system) :
    ∃ added, Composed move init actions system added := by
  refine @Transition.run_invariant _ _ (Interleaving.step move) init system
    (fun past system => ∃ added, Composed move init past system added)
    ⟨0, composed_initial init⟩ ?_ actions hrun
  rintro past system action next ⟨added, hpast⟩ hstep
  exact hpast.step hstep

end Totals

end FogHttpBenchmark.Library.Interleaving
