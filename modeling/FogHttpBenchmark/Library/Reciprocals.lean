import Mathlib.Analysis.SpecialFunctions.Log.Basic
import FogHttpBenchmark.Library.OrderStatistics

/-!
# Medians and geometric means of reciprocals

Inverting positive numbers reverses their order, so it inverts the median of an odd number of
them, and it inverts their geometric mean.
-/

set_option autoImplicit false

namespace FogHttpBenchmark.Library.Reciprocals

open OrderStatistics

universe u

/-! ## Median -/

section Median

variable {α : Type u} [Field α] [LinearOrder α] [IsStrictOrderedRing α]

/-- The inverses of positive numbers, sorted, are the inverses of the sorted numbers backwards. -/
theorem sorted_map_inv {xs : List α} (hpos : ∀ x ∈ xs, 0 < x) :
    sorted (xs.map (·⁻¹)) = ((sorted xs).map (·⁻¹)).reverse := by
  have hperm : (sorted (xs.map (·⁻¹))).Perm ((sorted xs).map (·⁻¹)).reverse := by
    refine (sorted_perm _).trans ?_
    refine ((sorted_perm xs).map (·⁻¹)).symm.trans ?_
    exact (List.reverse_perm _).symm
  have hleft : (sorted (xs.map (·⁻¹))).Pairwise (· ≤ ·) := List.pairwise_insertionSort _ _
  have hsorted : (sorted xs).Pairwise (· ≤ ·) := List.pairwise_insertionSort _ _
  have hright : ((sorted xs).map (·⁻¹)).reverse.Pairwise (· ≤ ·) := by
    rw [List.pairwise_reverse, List.pairwise_map]
    refine hsorted.imp_of_mem ?_
    intro a b ha hb hab
    exact inv_anti₀ (hpos a (mem_sorted.1 ha)) hab
  exact List.Perm.eq_of_pairwise (fun a b _ _ => le_antisymm) hleft hright hperm

/-- The median of an odd number of inverses is the inverse of the median. -/
theorem median_map_inv {xs : List α} (hpos : ∀ x ∈ xs, 0 < x) (hodd : xs.length % 2 = 1) :
    median (xs.map (·⁻¹)) = (median xs)⁻¹ := by
  have hlength : (sorted (xs.map (·⁻¹))).length % 2 = 1 := by
    rw [length_sorted, List.length_map, hodd]
  have hlength' : (sorted xs).length % 2 = 1 := by rw [length_sorted, hodd]
  have hmiddle : (sorted xs).length / 2 < (sorted xs).length := by omega
  -- the middle of an odd list stays where it is when the list is reversed
  have hsame : (sorted xs).length - 1 - (sorted xs).length / 2 = (sorted xs).length / 2 := by omega
  rw [median, median, if_pos hlength, if_pos hlength', sorted_map_inv hpos, List.length_reverse,
    List.length_map, List.getD_eq_getElem?_getD, List.getD_eq_getElem?_getD,
    List.getElem?_reverse (by rw [List.length_map]; exact hmiddle), List.length_map, hsame,
    List.getElem?_map, List.getElem?_eq_getElem hmiddle]
  rfl

end Median

/-! ## Geometric mean -/

section GeometricMean

/-- The exponential of the mean of the logarithms. -/
noncomputable def geometricMean (xs : List ℝ) : ℝ :=
  Real.exp ((xs.map Real.log).sum / xs.length)

theorem geometricMean_map_inv (xs : List ℝ) :
    geometricMean (xs.map (·⁻¹)) = (geometricMean xs)⁻¹ := by
  have hsum : ((xs.map (·⁻¹)).map Real.log).sum = -(xs.map Real.log).sum := by
    induction xs with
    | nil => simp
    | cons x xs ih =>
        rw [List.map_cons, List.map_cons, List.sum_cons, ih, List.map_cons, List.sum_cons,
          Real.log_inv, neg_add]
  rw [geometricMean, geometricMean, hsum, List.length_map, neg_div, Real.exp_neg]

end GeometricMean

end FogHttpBenchmark.Library.Reciprocals
