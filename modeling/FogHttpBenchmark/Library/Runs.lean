import Mathlib

/-!
# Runs of a list

`List.splitBy r` cuts a list into its runs, the maximal stretches of neighbours
related by `r`. This module counts the runs of a prefix: a prefix has fewer runs than
the list exactly when it ends before the last run begins
(`length_splitBy_lt_iff_of_isPrefix`).

The last section is about texts that are read off the front: a text of marked letters ends at
the first letter that is not marked.
-/

set_option autoImplicit false

namespace FogHttpBenchmark.Library.Runs

universe u

variable {α : Type u} {r : α → α → Bool}

/-! ## The last run -/

section LastRun

/-- What stands before the last run. -/
def beforeLastRun (r : α → α → Bool) (l : List α) : List α := (l.splitBy r).dropLast.flatten

/-- The last run, empty when the list is. -/
def lastRun (r : α → α → Bool) (l : List α) : List α := (l.splitBy r).getLast?.getD []

theorem splitBy_eq_dropLast_append {l : List α} (hl : l ≠ []) :
    l.splitBy r = (l.splitBy r).dropLast ++ [lastRun r l] := by
  have hne : l.splitBy r ≠ [] := List.splitBy_ne_nil.2 hl
  rw [lastRun, List.getLast?_eq_some_getLast hne, Option.getD_some,
    List.dropLast_append_getLast hne]

theorem beforeLastRun_append_lastRun {l : List α} (hl : l ≠ []) :
    beforeLastRun r l ++ lastRun r l = l := by
  have h := congrArg List.flatten (splitBy_eq_dropLast_append (r := r) hl)
  rw [List.flatten_splitBy, List.flatten_append, List.flatten_singleton] at h
  exact h.symm

theorem lastRun_mem {l : List α} (hl : l ≠ []) : lastRun r l ∈ l.splitBy r := by
  rw [splitBy_eq_dropLast_append hl]
  exact List.mem_append_right _ (List.mem_singleton.2 rfl)

theorem lastRun_ne_nil {l : List α} (hl : l ≠ []) : lastRun r l ≠ [] :=
  List.ne_nil_of_mem_splitBy (lastRun_mem hl)

/-- The runs before the last one are the runs of what stands before it. -/
theorem splitBy_beforeLastRun (r : α → α → Bool) (l : List α) :
    (beforeLastRun r l).splitBy r = (l.splitBy r).dropLast := by
  apply List.splitBy_flatten
  · intro hmem
    exact List.nil_notMem_splitBy r l (List.dropLast_subset _ hmem)
  · intro run hrun
    exact List.isChain_of_mem_splitBy (List.dropLast_subset _ hrun)
  · exact (List.isChain_getLast_head_splitBy r l).dropLast

/-- The last run begins at two neighbours that are not related. -/
theorem rel_beforeLastRun_lastRun {l : List α} (hl : l ≠ []) :
    ∀ x ∈ (beforeLastRun r l).getLast?, ∀ y ∈ (lastRun r l).head?, r x y = false := by
  intro x hx y hy
  have hsplit := List.isChain_getLast_head_splitBy r l
  rw [splitBy_eq_dropLast_append hl] at hsplit
  rcases List.eq_nil_or_concat (l.splitBy r).dropLast with hnil | ⟨runs, run, hruns⟩
  · rw [beforeLastRun, hnil] at hx
    simp at hx
  · rw [hruns, List.concat_eq_append, List.append_assoc, List.isChain_append] at hsplit
    obtain ⟨ha, hb, hfalse⟩ := (List.isChain_cons_cons.1 hsplit.2.1).1
    have hxlast : run.getLast ha = x := by
      rw [beforeLastRun, hruns, List.concat_eq_append, List.flatten_append,
        List.flatten_singleton, List.getLast?_append_of_ne_nil _ ha,
        List.getLast?_eq_some_getLast ha] at hx
      simpa using hx
    have hyhead : (lastRun r l).head hb = y := by
      rw [List.head?_eq_some_head hb] at hy
      simpa using hy
    rwa [hxlast, hyhead] at hfalse

/-- A nonempty beginning of the last run, put after what stands before it, makes one
more run. -/
theorem length_splitBy_beforeLastRun_append {l t : List α} (hl : l ≠ []) (ht : t ≠ [])
    (hpre : t <+: lastRun r l) :
    ((beforeLastRun r l ++ t).splitBy r).length = (l.splitBy r).length := by
  have hchain : (lastRun r l).IsChain fun x y => r x y :=
    List.isChain_of_mem_splitBy (lastRun_mem hl)
  have hboundary : ∀ x ∈ (beforeLastRun r l).getLast?, ∀ y ∈ t.head?, r x y = false := by
    intro x hx y hy
    have hhead : y ∈ (lastRun r l).head? := by
      obtain ⟨s, hs⟩ := hpre
      cases t with
      | nil => exact absurd rfl ht
      | cons z t =>
          rw [← hs]
          simpa using hy
    exact rel_beforeLastRun_lastRun hl x hx y hhead
  rw [List.splitBy_append hboundary, splitBy_beforeLastRun,
    List.splitBy_of_isChain ht ( List.IsChain.prefix hchain hpre), splitBy_eq_dropLast_append hl]
  simp

/-- An element that its neighbour is related to stands in the run of its neighbour. -/
theorem length_splitBy_concat_of_rel {l : List α} {x z : α} (hz : z ∈ l.getLast?)
    (hrel : r z x = true) : ((l ++ [x]).splitBy r).length = (l.splitBy r).length := by
  have hne : l ++ [x] ≠ [] := List.append_ne_nil_of_right_ne_nil l (List.cons_ne_nil x [])
  have hparts := beforeLastRun_append_lastRun (r := r) hne
  obtain hnil | ⟨t, y, hrun⟩ := List.eq_nil_or_concat (lastRun r (l ++ [x]))
  · exact absurd hnil (lastRun_ne_nil hne)
  · rw [List.concat_eq_append] at hrun
    rw [hrun, ← List.append_assoc] at hparts
    obtain ⟨hl, hx⟩ := List.append_inj' hparts rfl
    cases hx
    have ht : t ≠ [] := by
      rintro rfl
      rw [List.append_nil] at hl
      rw [← hl] at hz
      have hfalse := rel_beforeLastRun_lastRun hne z hz x (by rw [hrun]; rfl)
      rw [hrel] at hfalse
      exact absurd hfalse Bool.noConfusion
    rw [← length_splitBy_beforeLastRun_append hne ht (hrun ▸ List.prefix_append t [x]), hl]

/-- How many runs there are does not depend on the last element, only on whether its neighbour is
related to it. -/
theorem length_splitBy_concat_congr {l : List α} {x y : α}
    (h : ∀ z ∈ l.getLast?, r z x = r z y) :
    ((l ++ [x]).splitBy r).length = ((l ++ [y]).splitBy r).length := by
  have hapart : ∀ a : α, (∀ z ∈ l.getLast?, r z a = false) →
      ((l ++ [a]).splitBy r).length = (l.splitBy r).length + 1 := by
    intro a ha
    rw [List.splitBy_append_cons [] ha, List.length_append,
      List.splitBy_of_isChain (List.cons_ne_nil a []) (List.isChain_singleton a),
      List.length_singleton]
  cases hlast : l.getLast? with
  | none => rw [hapart x (by simp [hlast]), hapart y (by simp [hlast])]
  | some z =>
      have hz := h z hlast
      cases hx : r z x with
      | true =>
          rw [length_splitBy_concat_of_rel hlast hx,
            length_splitBy_concat_of_rel hlast (hz.symm.trans hx)]
      | false =>
          have hy : r z y = false := hz.symm.trans hx
          rw [hapart x (by simp [hlast, hx]), hapart y (by simp [hlast, hy])]

end LastRun

/-! ## Runs of a prefix -/

section Prefix

theorem beforeLastRun_isPrefix {l : List α} (hl : l ≠ []) : beforeLastRun r l <+: l :=
  ⟨lastRun r l, beforeLastRun_append_lastRun hl⟩

theorem length_beforeLastRun_lt {l : List α} (hl : l ≠ []) :
    (beforeLastRun r l).length < l.length := by
  have hsum := congrArg List.length (beforeLastRun_append_lastRun (r := r) hl)
  rw [List.length_append] at hsum
  have hpos := List.length_pos_of_ne_nil (lastRun_ne_nil (r := r) hl)
  omega

/-- A prefix that reaches into the last run has as many runs as the list. -/
theorem length_splitBy_eq_of_isPrefix {q l : List α} (h : q <+: l)
    (hlong : (beforeLastRun r l).length < q.length) :
    (q.splitBy r).length = (l.splitBy r).length := by
  have hl : l ≠ [] := by
    rintro rfl
    rw [List.prefix_nil.1 h] at hlong
    exact absurd hlong (Nat.not_lt_zero _)
  obtain ⟨t, rfl⟩ := List.prefix_of_prefix_length_le (beforeLastRun_isPrefix hl) h hlong.le
  have ht : t ≠ [] := by
    rintro rfl
    rw [List.append_nil] at hlong
    exact absurd hlong (Nat.lt_irrefl _)
  apply length_splitBy_beforeLastRun_append hl ht
  obtain ⟨s, hs⟩ := h
  refine ⟨s, ?_⟩
  rw [List.append_assoc] at hs
  exact List.append_cancel_left (hs.trans (beforeLastRun_append_lastRun hl).symm)

/-- A prefix that stays before the last run has fewer runs; the induction is on the
length of the list, whose runs before the last one are a shorter list's. -/
theorem length_splitBy_lt_of_isPrefix {q l : List α} (hl : l ≠ [])
    (hshort : q <+: beforeLastRun r l) : (q.splitBy r).length < (l.splitBy r).length := by
  have hcount := congrArg List.length (splitBy_eq_dropLast_append (r := r) hl)
  rw [List.length_append, List.length_singleton] at hcount
  have hbefore := congrArg List.length (splitBy_beforeLastRun r l)
  suffices hle : (q.splitBy r).length ≤ ((beforeLastRun r l).splitBy r).length by omega
  by_cases hempty : beforeLastRun r l = []
  · rw [hempty, List.prefix_nil] at hshort
    rw [hshort, hempty]
  · by_cases hlong : (beforeLastRun r (beforeLastRun r l)).length < q.length
    · exact (length_splitBy_eq_of_isPrefix hshort hlong).le
    · have hq : q <+: beforeLastRun r (beforeLastRun r l) :=
        List.prefix_of_prefix_length_le hshort (beforeLastRun_isPrefix hempty) (not_lt.1 hlong)
      exact (length_splitBy_lt_of_isPrefix hempty hq).le
termination_by l.length
decreasing_by exact length_beforeLastRun_lt hl

/-- A prefix has fewer runs than the list exactly when it ends before the last run
begins. -/
theorem length_splitBy_lt_iff_of_isPrefix {q l : List α} (hl : l ≠ []) (h : q <+: l) :
    (q.splitBy r).length < (l.splitBy r).length ↔ q.length ≤ (beforeLastRun r l).length := by
  constructor
  · intro hlt
    by_contra hlong
    rw [length_splitBy_eq_of_isPrefix h (not_le.1 hlong)] at hlt
    exact absurd hlt (Nat.lt_irrefl _)
  · intro hle
    exact length_splitBy_lt_of_isPrefix hl
      (List.prefix_of_prefix_length_le h (beforeLastRun_isPrefix hl) hle)

theorem length_splitBy_le_of_isPrefix {q l : List α} (h : q <+: l) :
    (q.splitBy r).length ≤ (l.splitBy r).length := by
  by_cases hl : l = []
  · subst hl
    rw [List.prefix_nil.1 h]
  · by_cases hlong : (beforeLastRun r l).length < q.length
    · exact (length_splitBy_eq_of_isPrefix h hlong).le
    · exact ((length_splitBy_lt_iff_of_isPrefix hl h).2 (not_lt.1 hlong)).le

end Prefix

/-! ## Reading off the front -/

section Front

/-- A text of marked letters is read off up to the first letter that is not marked. -/
theorem token_read {mark : α → Bool} {s t x y : List α}
    (hs : ∀ a ∈ s, mark a = true) (ht : ∀ a ∈ t, mark a = true)
    (hx : ∀ a, x.head? = some a → mark a = false) (hy : ∀ a, y.head? = some a → mark a = false)
    (h : s ++ x = t ++ y) : s = t ∧ x = y := by
  have hstop : ∀ {z : List α}, (∀ a, z.head? = some a → mark a = false) →
      z.takeWhile mark = [] := by
    intro z hz
    cases z with
    | nil => rfl
    | cons a z => rw [List.takeWhile_cons, hz a rfl, if_neg Bool.false_ne_true]
  have htake := congrArg (List.takeWhile mark) h
  rw [List.takeWhile_append_of_pos hs, List.takeWhile_append_of_pos ht, hstop hx, hstop hy,
    List.append_nil, List.append_nil] at htake
  subst htake
  exact ⟨rfl, List.append_cancel_left h⟩

/-- The items of a list after the first one. -/
theorem intercalate_cons (separator first : List α) (rest : List (List α)) :
    separator.intercalate (first :: rest) = first ++ rest.flatMap (separator ++ ·) := by
  induction rest generalizing first with
  | nil => simp
  | cons second rest ih =>
      rw [List.intercalate_cons_cons, ih, List.flatMap_cons, List.append_assoc,
        List.append_assoc]

end Front

end FogHttpBenchmark.Library.Runs
