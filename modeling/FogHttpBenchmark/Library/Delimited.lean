import Mathlib.Data.List.Chain
import Mathlib.Data.List.Infix

/-!
# Lines that end with a pair of marks

Lines that end with two marks `a` and `b`, and blocks of lines that end with an empty line.
Splitting at the marks and writing the lines are inverse to each other (`splitPair_endLines`)
where no line has the marks in it (`Unbroken`). A reader that waits for the mark twice in a row
stops at the end of the block, and not before (`readUntil_block`).
-/

set_option autoImplicit false

universe u v

namespace FogHttpBenchmark.Library.Delimited

variable {α : Type u} [DecidableEq α]

/-! ## Lines -/

section Lines

/-- Nowhere in the list is `a` followed by `b`. -/
def Unbroken (a b : α) (xs : List α) : Prop := xs.IsChain fun x y => ¬ (x = a ∧ y = b)

/-- The parts between the marks, read from the left. -/
def splitPair (a b : α) : List α → List (List α)
  | [] => [[]]
  | [x] => [[x]]
  | x :: y :: rest =>
      if x = a ∧ y = b then [] :: splitPair a b rest
      else (splitPair a b (y :: rest)).modifyHead (x :: ·)

/-- The lines, each with the marks at its end. -/
def endLines (a b : α) (lines : List (List α)) : List α := lines.flatMap (· ++ [a, b])

variable {a b : α}

omit [DecidableEq α] in
theorem unbroken_of_notMem {xs : List α} (h : a ∉ xs) : Unbroken a b xs := by
  rw [Unbroken, List.isChain_iff_forall_rel_of_append_cons_cons]
  rintro x y before after rfl ⟨rfl, -⟩
  exact h (by simp)

omit [DecidableEq α] in
theorem Unbroken.part {xs ys : List α} (h : Unbroken a b ys) (hpart : xs <:+: ys) :
    Unbroken a b xs :=
  List.IsChain.infix h hpart

omit [DecidableEq α] in
theorem Unbroken.cons {x : α} {xs : List α} (hx : x ≠ a) (h : Unbroken a b xs) :
    Unbroken a b (x :: xs) :=
  List.IsChain.cons h fun _ _ hboth => hx hboth.1

omit [DecidableEq α] in
/-- What does not begin with the second mark can be put behind an unbroken list. -/
theorem Unbroken.append_cons {xs ys : List α} {y : α} (hy : y ≠ b) (hxs : Unbroken a b xs)
    (hys : Unbroken a b (y :: ys)) : Unbroken a b (xs ++ y :: ys) := by
  refine List.IsChain.append hxs hys fun x _ z hz hboth => hy ?_
  rw [List.head?_cons, Option.mem_some_iff] at hz
  rw [hz, hboth.2]

omit [DecidableEq α] in
/-- A list stays unbroken where its elements are renamed, and the marks are not confused. -/
theorem Unbroken.map {β : Type v} {f : α → β} {a' b' : β} {xs : List α} (h : Unbroken a b xs)
    (hmarks : ∀ x ∈ xs, (f x = a' → x = a) ∧ (f x = b' → x = b)) :
    Unbroken a' b' (xs.map f) := by
  rw [Unbroken, List.isChain_map]
  refine List.IsChain.imp_of_mem_imp (fun x y hx hy hxy hboth => hxy ?_) h
  exact ⟨(hmarks x hx).1 hboth.1, (hmarks y hy).2 hboth.2⟩

theorem splitPair_ne_nil (xs : List α) : splitPair a b xs ≠ [] := by
  fun_induction splitPair a b xs with
  | case1 => exact List.cons_ne_nil _ _
  | case2 => exact List.cons_ne_nil _ _
  | case3 => exact List.cons_ne_nil _ _
  | case4 x y rest _ ih => simpa using ih

/-- The first part is empty or has the head of the list at its head. -/
theorem head?_of_splitPair_cons {x : α} {xs part : List α} {parts : List (List α)}
    (h : splitPair a b (x :: xs) = part :: parts) : ∀ y ∈ part.head?, y = x := by
  cases xs with
  | nil =>
      rw [splitPair] at h
      rw [← (List.cons.inj h).1]
      exact fun y hy => (Option.some.inj hy).symm
  | cons y ys =>
      rw [splitPair] at h
      split at h
      case isTrue =>
        rw [← (List.cons.inj h).1]
        exact fun y hy => nomatch hy
      case isFalse =>
        cases hrest : splitPair a b (y :: ys) with
        | nil => exact absurd hrest (splitPair_ne_nil _)
        | cons first rest =>
            rw [hrest, List.modifyHead_cons] at h
            rw [← (List.cons.inj h).1]
            exact fun y hy => (Option.some.inj hy).symm

/-- Every part is unbroken. -/
theorem unbroken_of_mem_splitPair {xs part : List α} (h : part ∈ splitPair a b xs) :
    Unbroken a b part := by
  fun_induction splitPair a b xs generalizing part with
  | case1 =>
      rw [List.mem_singleton.1 h]
      exact .nil
  | case2 x =>
      rw [List.mem_singleton.1 h]
      exact .singleton x
  | case3 x y rest _ ih =>
      rcases List.mem_cons.1 h with rfl | h
      · exact .nil
      · exact ih h
  | case4 x y rest hxy ih =>
      cases hrest : splitPair a b (y :: rest) with
      | nil => exact absurd hrest (splitPair_ne_nil _)
      | cons first others =>
          rw [hrest, List.modifyHead_cons] at h
          rw [hrest] at ih
          rcases List.mem_cons.1 h with rfl | h
          -- the first part grows by `x`, and what follows `x` there can only be `y`
          · refine List.IsChain.cons (ih List.mem_cons_self) fun z hz hboth => hxy ?_
            rw [head?_of_splitPair_cons hrest z hz] at hboth
            exact hboth
          · exact ih (List.mem_cons_of_mem _ h)

theorem subset_of_mem_splitPair {xs part : List α} (h : part ∈ splitPair a b xs) : part ⊆ xs := by
  fun_induction splitPair a b xs generalizing part with
  | case1 =>
      rw [List.mem_singleton.1 h]
      exact List.Subset.refl _
  | case2 x =>
      rw [List.mem_singleton.1 h]
      exact List.Subset.refl _
  | case3 x y rest _ ih =>
      rcases List.mem_cons.1 h with rfl | h
      · exact List.nil_subset _
      · exact fun z hz => List.mem_cons_of_mem _ (List.mem_cons_of_mem _ (ih h hz))
  | case4 x y rest _ ih =>
      cases hrest : splitPair a b (y :: rest) with
      | nil => exact absurd hrest (splitPair_ne_nil _)
      | cons first others =>
          rw [hrest, List.modifyHead_cons] at h
          rw [hrest] at ih
          rcases List.mem_cons.1 h with rfl | h
          · exact List.cons_subset_cons _ (ih List.mem_cons_self)
          · exact fun z hz => List.mem_cons_of_mem _ (ih (List.mem_cons_of_mem _ h) hz)

/-- A line ends at its marks. -/
theorem splitPair_append (hmarks : a ≠ b) {line : List α} (h : Unbroken a b line)
    (rest : List α) : splitPair a b (line ++ a :: b :: rest) = line :: splitPair a b rest := by
  induction line with
  | nil =>
      rw [List.nil_append, splitPair, if_pos ⟨rfl, rfl⟩]
  | cons x xs ih =>
      have htail := ih (h.part (List.suffix_cons x xs).isInfix)
      cases xs with
      | nil =>
          -- the last element and the first mark are no pair of marks, since the marks differ
          rw [List.nil_append] at htail
          rw [List.cons_append, List.nil_append, splitPair, if_neg fun hboth => hmarks hboth.2,
            htail, List.modifyHead_cons]
      | cons y ys =>
          have hxy : ¬ (x = a ∧ y = b) := (List.isChain_cons_cons.1 h).1
          rw [List.cons_append] at htail
          rw [List.cons_append, List.cons_append, splitPair, if_neg hxy, htail,
            List.modifyHead_cons]

theorem splitPair_endLines (hmarks : a ≠ b) {lines : List (List α)}
    (h : ∀ line ∈ lines, Unbroken a b line) (rest : List α) :
    splitPair a b (endLines a b lines ++ rest) = lines ++ splitPair a b rest := by
  induction lines with
  | nil => rfl
  | cons line lines ih =>
      have hline := splitPair_append hmarks (h line List.mem_cons_self)
        (endLines a b lines ++ rest)
      rw [ih fun other hother => h other (List.mem_cons_of_mem _ hother)] at hline
      rw [endLines, List.flatMap_cons, ← endLines, List.append_assoc, List.append_assoc]
      exact hline

omit [DecidableEq α] in
/-- Lines with the marks between them, and the marks at the end. -/
theorem intercalate_append (line : List α) (lines : List (List α)) :
    List.intercalate [a, b] (line :: lines) ++ [a, b] = endLines a b (line :: lines) := by
  induction lines generalizing line with
  | nil => simp [endLines]
  | cons other lines ih =>
      rw [List.intercalate_cons_cons, List.append_assoc, ih]
      simp [endLines]

omit [DecidableEq α] in
theorem map_endLines {β : Type v} (f : α → β) (lines : List (List α)) :
    (endLines a b lines).map f = endLines (f a) (f b) (lines.map (List.map f)) := by
  induction lines with
  | nil => rfl
  | cons line lines ih =>
      rw [endLines, List.flatMap_cons, ← endLines, List.map_append, ih]
      simp [endLines]

end Lines

/-! ## Blocks -/

section Blocks

/-- What is read up to the end of the first mark, and what comes after it. -/
def readUntil (mark : List α) : List α → Option (List α × List α)
  | [] => none
  | x :: xs =>
      if mark.isPrefixOf (x :: xs) then some (mark, (x :: xs).drop mark.length)
      else (readUntil mark xs).map fun found => (x :: found.1, found.2)

variable {a b : α}

/-- The mark that ends a block. -/
def blockEnd (a b : α) : List α := [a, b, a, b]

theorem isPrefixOf_blockEnd {x y : α} {rest : List α}
    (h : (blockEnd a b).isPrefixOf (x :: y :: rest) = true) : x = a ∧ y = b := by
  simp only [blockEnd, List.isPrefixOf, Bool.and_eq_true, beq_iff_eq] at h
  exact ⟨h.1.symm, h.2.1.symm⟩

/-- The end of a block is not found inside of a line. -/
theorem readUntil_line (hmarks : a ≠ b) {line : List α} (h : Unbroken a b line) (rest : List α) :
    readUntil (blockEnd a b) (line ++ a :: rest) =
      (readUntil (blockEnd a b) (a :: rest)).map fun found => (line ++ found.1, found.2) := by
  induction line with
  | nil => simp
  | cons x xs ih =>
      have htail := ih (h.part (List.suffix_cons x xs).isInfix)
      have hprefix : ¬ (blockEnd a b).isPrefixOf (x :: (xs ++ a :: rest)) = true := by
        intro hfound
        cases xs with
        | nil => exact hmarks (isPrefixOf_blockEnd hfound).2
        | cons y ys => exact (List.isChain_cons_cons.1 h).1 (isPrefixOf_blockEnd hfound)
      rw [List.cons_append, readUntil, if_neg hprefix, htail, Option.map_map]
      rfl

/-- The marks at the end of a line do not end the block where they are not followed by the marks
again. -/
theorem readUntil_marks (hmarks : a ≠ b) {rest : List α} (h : ¬ [a, b].isPrefixOf rest = true) :
    readUntil (blockEnd a b) (a :: b :: rest) =
      (readUntil (blockEnd a b) rest).map fun found => (a :: b :: found.1, found.2) := by
  have hfirst : ¬ (blockEnd a b).isPrefixOf (a :: b :: rest) = true := by
    intro hfound
    simp only [blockEnd, List.isPrefixOf, beq_self_eq_true, Bool.true_and] at hfound
    exact h hfound
  have hsecond : ¬ (blockEnd a b).isPrefixOf (b :: rest) = true := by
    intro hfound
    simp only [blockEnd, List.isPrefixOf, Bool.and_eq_true, beq_iff_eq] at hfound
    exact hmarks hfound.1
  rw [readUntil, if_neg hfirst, readUntil, if_neg hsecond, Option.map_map]
  rfl

/-- A line that is not empty does not begin with the marks. -/
theorem not_isPrefixOf_line (hmarks : a ≠ b) {line : List α} (h : Unbroken a b line)
    (hline : line ≠ []) (rest : List α) : ¬ [a, b].isPrefixOf (line ++ a :: rest) = true := by
  intro hfound
  cases line with
  | nil => exact hline rfl
  | cons x xs =>
      cases xs with
      | nil =>
          simp only [List.cons_append, List.nil_append, List.isPrefixOf, Bool.and_eq_true,
            beq_iff_eq] at hfound
          exact hmarks hfound.2.1.symm
      | cons y ys =>
          simp only [List.cons_append, List.isPrefixOf, Bool.and_eq_true, beq_iff_eq] at hfound
          exact (List.isChain_cons_cons.1 h).1 ⟨hfound.1.symm, hfound.2.1.symm⟩

/-- The reader of a block whose lines after the first are not empty stops at its end. -/
theorem readUntil_block (hmarks : a ≠ b) {line : List α} {lines : List (List α)}
    (h : ∀ l ∈ line :: lines, Unbroken a b l) (hlines : ∀ l ∈ lines, l ≠ []) (rest : List α) :
    readUntil (blockEnd a b) (endLines a b (line :: lines) ++ a :: b :: rest) =
      some (endLines a b (line :: lines) ++ [a, b], rest) := by
  induction lines generalizing line with
  | nil =>
      have hline := readUntil_line hmarks (h line List.mem_cons_self) (b :: a :: b :: rest)
      rw [readUntil, if_pos (by simp [blockEnd, List.isPrefixOf])] at hline
      simpa [endLines, blockEnd] using hline
  | cons other lines ih =>
      -- the first line is read, then its marks, and the next line does not begin with the marks
      have hother := h other (List.mem_cons_of_mem _ List.mem_cons_self)
      have htail := ih (fun l hl => h l (List.mem_cons_of_mem _ hl))
        fun l hl => hlines l (List.mem_cons_of_mem _ hl)
      have hnext : ¬ [a, b].isPrefixOf (endLines a b (other :: lines) ++ a :: b :: rest) = true := by
        have hline := not_isPrefixOf_line hmarks hother (hlines other List.mem_cons_self)
          (b :: (endLines a b lines ++ a :: b :: rest))
        simpa [endLines] using hline
      have hline := readUntil_line hmarks (h line List.mem_cons_self)
        (b :: (endLines a b (other :: lines) ++ a :: b :: rest))
      rw [readUntil_marks hmarks hnext, htail] at hline
      simpa [endLines] using hline

end Blocks

end FogHttpBenchmark.Library.Delimited
