import Mathlib.Data.List.SplitBy
import Mathlib.Data.List.Infix

/-!
# Lines that end with a mark

`cut mark` cuts a list after every `mark`. Lines whose only mark is at their end are the lines of
the text that they make (`cut_lines`). Cutting commutes with an encoding in which the mark is one
symbol that no other letter has in its code (`cut_flatMap`).
-/

set_option autoImplicit false

universe u v

namespace FogHttpBenchmark.Library.Terminated

variable {α : Type u} {β : Type v} [DecidableEq α] [DecidableEq β]

/-- The lines of a list, each with the mark at its end; the last one may be without. -/
def cut (mark : α) (xs : List α) : List (List α) := xs.splitBy fun x _ => x != mark

theorem flatten_cut (mark : α) (xs : List α) : (cut mark xs).flatten = xs :=
  List.flatten_splitBy _ xs

/-- The mark stands nowhere but at the end. -/
theorem isChain_iff {mark : α} {xs : List α} :
    (xs.IsChain fun x _ => (x != mark) = true) ↔ mark ∉ xs.dropLast := by
  induction xs with
  | nil => simp
  | cons x xs ih =>
      cases xs with
      | nil => simp
      | cons y ys =>
          rw [List.isChain_cons_cons, ih, List.dropLast_cons_of_ne_nil (List.cons_ne_nil y ys),
            List.mem_cons, not_or, bne_iff_ne, ne_comm]

theorem notMem_dropLast_of_mem_cut {mark : α} {xs line : List α} (h : line ∈ cut mark xs) :
    mark ∉ line.dropLast :=
  isChain_iff.1 (List.isChain_of_mem_splitBy h)

theorem ne_nil_of_mem_cut {mark : α} {xs line : List α} (h : line ∈ cut mark xs) : line ≠ [] :=
  List.ne_nil_of_mem_splitBy h

/-- One line after the other: the mark is at the end of every line but the last. -/
theorem cut_flatten {mark : α} {lines : List (List α)} (hne : ∀ line ∈ lines, line ≠ [])
    (hinside : ∀ line ∈ lines, mark ∉ line.dropLast)
    (hends : lines.IsChain fun line _ => line.getLast? = some mark) :
    cut mark lines.flatten = lines := by
  refine List.splitBy_flatten (fun hnil => hne [] hnil rfl)
    (fun line hline => isChain_iff.2 (hinside line hline)) ?_
  refine List.IsChain.imp_of_mem_imp (fun line next hline hnext hend => ?_) hends
  refine ⟨hne line hline, hne next hnext, ?_⟩
  rw [List.getLast?_eq_some_getLast (hne line hline), Option.some.injEq] at hend
  rw [hend, bne_self_eq_false]

/-- The lines of a list satisfy what `cut_flatten` asks for. -/
theorem getLast_of_cut (mark : α) (xs : List α) :
    (cut mark xs).IsChain fun line _ => line.getLast? = some mark := by
  refine List.IsChain.imp (fun line next h => ?_)
    (List.isChain_getLast_head_splitBy (fun x _ => x != mark) xs)
  obtain ⟨hline, -, hend⟩ := h
  rw [List.getLast?_eq_some_getLast hline, bne_eq_false_iff_eq.1 hend]

theorem cut_lines {mark : α} {contents : List (List α)} (h : ∀ content ∈ contents, mark ∉ content) :
    cut mark (contents.map (· ++ [mark])).flatten = contents.map (· ++ [mark]) := by
  apply cut_flatten
  · intro line hline
    obtain ⟨content, -, rfl⟩ := List.mem_map.1 hline
    simp
  · intro line hline
    obtain ⟨content, hcontent, rfl⟩ := List.mem_map.1 hline
    rw [List.dropLast_concat]
    exact h content hcontent
  · rw [List.isChain_map]
    refine List.isChain_iff_forall_rel_of_append_cons_cons.2 fun content next before after _ => ?_
    exact List.getLast?_concat

/-! ## Encoded lines -/

section Encoded

/-- An encoding in which `mark` is the symbol `mark'`, which no other letter has in its code. -/
structure KeepsMark (write : α → List β) (mark : α) (mark' : β) : Prop where
  ne_nil : ∀ x, write x ≠ []
  write_mark : write mark = [mark']
  other : ∀ x, x ≠ mark → mark' ∉ write x

variable {write : α → List β} {mark : α} {mark' : β}

omit [DecidableEq α] [DecidableEq β] in
theorem KeepsMark.notMem_flatMap (h : KeepsMark write mark mark') {xs : List α} (hxs : mark ∉ xs) :
    mark' ∉ xs.flatMap write := by
  intro hmem
  obtain ⟨x, hx, hwrite⟩ := List.mem_flatMap.1 hmem
  exact h.other x (fun heq => hxs (heq ▸ hx)) hwrite

omit [DecidableEq α] [DecidableEq β] in
theorem KeepsMark.flatMap_ne_nil (h : KeepsMark write mark mark') {xs : List α} (hxs : xs ≠ []) :
    xs.flatMap write ≠ [] := by
  obtain ⟨x, rest, rfl⟩ := List.exists_cons_of_ne_nil hxs
  rw [List.flatMap_cons]
  exact List.append_ne_nil_of_left_ne_nil (h.ne_nil x) _

omit [DecidableEq β] in
theorem KeepsMark.notMem_dropLast (h : KeepsMark write mark mark') {line : List α}
    (hline : mark ∉ line.dropLast) : mark' ∉ (line.flatMap write).dropLast := by
  rcases List.eq_nil_or_concat line with rfl | ⟨content, x, rfl⟩
  · simp
  · rw [List.concat_eq_append, List.dropLast_concat] at hline
    rw [List.concat_eq_append, List.flatMap_append, List.flatMap_singleton,
      List.dropLast_append_of_ne_nil (h.ne_nil x), List.mem_append, not_or]
    refine ⟨h.notMem_flatMap hline, ?_⟩
    by_cases hx : x = mark
    · rw [hx, h.write_mark]
      simp
    · exact fun hmem => h.other x hx (List.dropLast_subset _ hmem)

omit [DecidableEq α] [DecidableEq β] in
theorem KeepsMark.getLast_flatMap (h : KeepsMark write mark mark') {line : List α}
    (hline : line.getLast? = some mark) : (line.flatMap write).getLast? = some mark' := by
  obtain ⟨content, rfl⟩ := List.getLast?_eq_some_iff.1 hline
  rw [List.flatMap_append, List.flatMap_singleton, h.write_mark, List.getLast?_concat]

/-- The lines of the encoded list are the encoded lines. -/
theorem KeepsMark.cut_flatMap (h : KeepsMark write mark mark') (xs : List α) :
    cut mark' (xs.flatMap write) = (cut mark xs).map fun line => line.flatMap write := by
  have hflatten :
      ((cut mark xs).map fun line => line.flatMap write).flatten = xs.flatMap write := by
    rw [← List.flatMap_def, ← List.flatMap_assoc, List.flatMap_id', flatten_cut]
  rw [← hflatten]
  apply cut_flatten
  · intro line hline
    obtain ⟨letters, hletters, rfl⟩ := List.mem_map.1 hline
    exact h.flatMap_ne_nil (ne_nil_of_mem_cut hletters)
  · intro line hline
    obtain ⟨letters, hletters, rfl⟩ := List.mem_map.1 hline
    exact h.notMem_dropLast (notMem_dropLast_of_mem_cut hletters)
  · rw [List.isChain_map]
    exact List.IsChain.imp (fun _ _ hend => h.getLast_flatMap hend) (getLast_of_cut mark xs)

end Encoded

end FogHttpBenchmark.Library.Terminated
