import Mathlib.Algebra.Order.Field.Basic

/-!
# Ratios to an optional baseline

The ratio of a value to a baseline that may be missing. A baseline that is not positive is as
good as none.
-/

set_option autoImplicit false

universe u

namespace FogHttpBenchmark.Library.Ratios

section Ratios

variable {α : Type u} [Field α] [LinearOrder α]

def ratioTo (value : α) (baseline : Option α) : Option α :=
  baseline.bind fun baseline => if baseline ≤ 0 then none else some (value / baseline)

/-- The baseline, where it is positive. -/
def usable (baseline : Option α) : Option α := baseline.filter fun baseline => 0 < baseline

theorem pos_of_usable {baseline : Option α} {b : α} (h : usable baseline = some b) : 0 < b := by
  rw [usable, Option.filter_eq_some_iff, decide_eq_true_eq] at h
  exact h.2

/-- The ratio is taken to the usable baseline. -/
theorem ratioTo_eq_map (value : α) (baseline : Option α) :
    ratioTo value baseline = (usable baseline).map fun b => value / b := by
  cases baseline with
  | none => rfl
  | some b =>
      by_cases h : b ≤ 0
      · simp [ratioTo, usable, h]
      · simp [ratioTo, usable, h, lt_of_not_ge h]

/-- Two baselines give one ratio where both are unusable, where they are equal, and where the
value is zero. -/
theorem ratioTo_eq_iff {value : α} {baseline other : Option α} :
    ratioTo value baseline = ratioTo value other ↔
      usable baseline = usable other ∨
        value = 0 ∧ (usable baseline).isSome = true ∧ (usable other).isSome = true := by
  rw [ratioTo_eq_map, ratioTo_eq_map]
  cases hb : usable baseline with
  | none => cases ho : usable other <;> simp
  | some b =>
      cases ho : usable other with
      | none => simp
      | some c =>
          have hb' := (pos_of_usable hb).ne'
          have hc' := (pos_of_usable ho).ne'
          simp only [Option.map_some, Option.some.injEq, Option.isSome_some, and_true]
          rw [div_eq_div_iff hb' hc', mul_eq_mul_left_iff, eq_comm (a := c)]

end Ratios

end FogHttpBenchmark.Library.Ratios
