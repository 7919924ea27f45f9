import Mathlib

/-!
# Members that share a resource

Facts about a finite family of members of which one changes at a time: what a total over the members
loses and gains, and the invariant rule for a fold whose invariant speaks of the steps taken so far.
-/

set_option autoImplicit false

namespace FogHttpBenchmark.Library.Members

universe u v w

variable {ι : Type u} {σ : Type v} {α : Type w}

/-- A total over the members, after one of them has changed. -/
theorem sum_update [Fintype ι] [DecidableEq ι] (members : ι → σ) (i : ι) (changed : σ)
    (measure : σ → ℤ) :
    ∑ j, measure (Function.update members i changed j) =
      ∑ j, measure (members j) - measure (members i) + measure changed := by
  have hmeasure : ∀ j, measure (Function.update members i changed j) =
      Function.update (fun j => measure (members j)) i (measure changed) j := fun j => by
    rw [Function.apply_update fun _ => measure]
  simp only [hmeasure]
  rw [Finset.sum_update_of_mem (Finset.mem_univ i), Finset.sdiff_singleton_eq_erase,
    ← Finset.add_sum_erase _ _ (Finset.mem_univ i)]
  ring

/-- What holds of every member still holds of every member, if it holds of the changed one. -/
theorem forall_update [DecidableEq ι] {members : ι → σ} {i : ι} {changed : σ} {p : ι → σ → Prop}
    (h : ∀ j, j ≠ i → p j (members j)) (hchanged : p i changed) :
    ∀ j, p j (Function.update members i changed j) := by
  intro j
  by_cases hj : j = i
  · subst hj
    rw [Function.update_self]
    exact hchanged
  · rw [Function.update_of_ne hj]
    exact h j hj

/-- An invariant of a state and of the steps that have led to it. -/
theorem foldl_invariant {step : σ → α → σ} {start : σ} {inv : List α → σ → Prop}
    (hstart : inv [] start) (hstep : ∀ past s a, inv past s → inv (past ++ [a]) (step s a))
    (steps : List α) : inv steps (steps.foldl step start) := by
  induction steps using List.reverseRecOn with
  | nil => exact hstart
  | append_singleton past a ih =>
      rw [List.foldl_append, List.foldl_cons, List.foldl_nil]
      exact hstep past _ a ih

end FogHttpBenchmark.Library.Members
