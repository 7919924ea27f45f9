import Mathlib

/-!
# Order statistics of lists

The sorted list, the median, the mean and the sum of squared deviations of a list
over a linearly ordered field, with the bounds and the order that they inherit from the
elements: sorting, and with it the median, keeps lists ordered that are ordered place by
place (`median_le_median`). A list without elements has median and mean zero; the lemmas
that need an element say so.
-/

set_option autoImplicit false

namespace FogHttpBenchmark.Library.OrderStatistics

universe u

variable {α : Type u}

/-! ## Sorting -/

section Sorting

variable [LinearOrder α]

/-- The elements in ascending order. -/
def sorted (xs : List α) : List α := xs.insertionSort (· ≤ ·)

theorem sorted_perm (xs : List α) : (sorted xs).Perm xs := List.perm_insertionSort _ xs

@[simp] theorem mem_sorted {x : α} {xs : List α} : x ∈ sorted xs ↔ x ∈ xs :=
  (sorted_perm xs).mem_iff

@[simp] theorem length_sorted (xs : List α) : (sorted xs).length = xs.length :=
  (sorted_perm xs).length_eq

theorem pairwise_sorted (xs : List α) : (sorted xs).Pairwise (· ≤ ·) :=
  List.pairwise_insertionSort _ xs

/-- The head of an ascending list is inserted in front of the rest. -/
theorem orderedInsert_head {x : α} {xs : List α} (h : (x :: xs).Pairwise (· ≤ ·)) :
    xs.orderedInsert (· ≤ ·) x = x :: xs := by
  cases xs with
  | nil => rfl
  | cons y ys =>
      exact List.orderedInsert_cons_of_le _ ys ((List.pairwise_cons.1 h).1 y List.mem_cons_self)

/-- Inserting a lower element into a list that is lower place by place keeps it lower. -/
theorem forall₂_orderedInsert {xs ys : List α} (h : List.Forall₂ (· ≤ ·) xs ys)
    (hxs : xs.Pairwise (· ≤ ·)) (hys : ys.Pairwise (· ≤ ·)) {a b : α} (hab : a ≤ b) :
    List.Forall₂ (· ≤ ·) (xs.orderedInsert (· ≤ ·) a) (ys.orderedInsert (· ≤ ·) b) := by
  induction h generalizing a b with
  | nil => exact .cons hab .nil
  | @cons x y xs ys hxy hrest ih =>
      have hxs' := hxs.of_cons
      have hys' := hys.of_cons
      rw [List.orderedInsert_cons, List.orderedInsert_cons]
      by_cases hax : a ≤ x
      · rw [if_pos hax]
        by_cases hby : b ≤ y
        · rw [if_pos hby]
          exact .cons hab (.cons hxy hrest)
        · -- the head of the lower list goes the way of the element that comes after `y`
          have hxb : x ≤ b := hxy.trans (not_le.1 hby).le
          have htail := ih hxs' hys' hxb
          rw [orderedInsert_head hxs] at htail
          rw [if_neg hby]
          exact .cons (hax.trans hxy) htail
      · rw [if_neg hax]
        have hxa : x ≤ a := (not_le.1 hax).le
        by_cases hby : b ≤ y
        · have htail := ih hxs' hys' (hab.trans hby)
          rw [orderedInsert_head hys] at htail
          rw [if_pos hby]
          exact .cons (hxa.trans hab) htail
        · rw [if_neg hby]
          exact .cons hxy (ih hxs' hys' hab)

/-- A list that is lower place by place stays lower when both are sorted. -/
theorem forall₂_sorted {xs ys : List α} (h : List.Forall₂ (· ≤ ·) xs ys) :
    List.Forall₂ (· ≤ ·) (sorted xs) (sorted ys) := by
  induction h with
  | nil => exact .nil
  | @cons x y xs ys hxy _ ih =>
      exact forall₂_orderedInsert ih (pairwise_sorted xs) (pairwise_sorted ys) hxy

end Sorting

/-! ## Median -/

section Median

variable [Field α] [LinearOrder α] [IsStrictOrderedRing α]

/-- The middle element of the sorted list, or the mean of the two middle elements. -/
def median (xs : List α) : α :=
  let ys := sorted xs
  if ys.length % 2 = 1 then ys.getD (ys.length / 2) 0
  else (ys.getD (ys.length / 2 - 1) 0 + ys.getD (ys.length / 2) 0) / 2

omit [IsStrictOrderedRing α] in
private theorem getD_le_getD {xs ys : List α} (h : List.Forall₂ (· ≤ ·) xs ys) (i : ℕ) :
    xs.getD i 0 ≤ ys.getD i 0 := by
  induction h generalizing i with
  | nil => exact le_refl _
  | cons hxy _ ih =>
      cases i with
      | zero => exact hxy
      | succ i => exact ih i

/-- The median does not decrease where no element does. -/
theorem median_le_median {xs ys : List α} (h : List.Forall₂ (· ≤ ·) xs ys) :
    median xs ≤ median ys := by
  have hsorted := forall₂_sorted h
  have hlength : (sorted xs).length = (sorted ys).length := hsorted.length_eq
  rw [median, median, hlength]
  by_cases hodd : (sorted ys).length % 2 = 1
  · rw [if_pos hodd, if_pos hodd]
    exact getD_le_getD hsorted _
  · rw [if_neg hodd, if_neg hodd]
    have hsum := add_le_add (getD_le_getD hsorted ((sorted ys).length / 2 - 1))
      (getD_le_getD hsorted ((sorted ys).length / 2))
    exact div_le_div_of_nonneg_right hsum zero_le_two

end Median

/-! ## Mean and deviations -/

section Mean

variable [Field α]

/-- The arithmetic mean, 0 of no values. -/
def mean (xs : List α) : α := xs.sum / xs.length

/-- The sum of the squared deviations from the mean. -/
def squaredDeviations (xs : List α) : α := (xs.map fun x => (x - mean xs) ^ 2).sum

end Mean

end FogHttpBenchmark.Library.OrderStatistics
