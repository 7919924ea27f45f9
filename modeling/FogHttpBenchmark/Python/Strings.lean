import FogHttpBenchmark.Python.Text
import Mathlib.Data.List.DropRight

/-!
# Splitting and stripping

`str.strip` and `str.split` with a separator of one character.
-/

set_option autoImplicit false

namespace FogHttpBenchmark.Python

section Strings

/-- `text.strip()`. -/
def stripText (text : String) : String :=
  String.ofList ((text.toList.dropWhile isSpace).rdropWhile isSpace)

/-- `text.split(separator)`. -/
def splitText (separator : Char) (text : String) : List String :=
  (text.toList.splitOn separator).map String.ofList

/-- Stripping leaves nothing to strip. -/
theorem stripText_stripText (text : String) : stripText (stripText text) = stripText text := by
  have hhead : ((text.toList.dropWhile isSpace).rdropWhile isSpace).dropWhile isSpace =
      (text.toList.dropWhile isSpace).rdropWhile isSpace := by
    rw [List.dropWhile_eq_self_iff]
    intro hlength
    -- What is left on the right is a prefix, so its head is the head of what it is cut from.
    obtain ⟨rest, hrest⟩ := List.rdropWhile_prefix isSpace (text.toList.dropWhile isSpace)
    have hwhole : 0 < (text.toList.dropWhile isSpace).length := by
      rw [← hrest, List.length_append]
      omega
    have hfirst := List.dropWhile_get_zero_not isSpace text.toList hwhole
    have heq : ((text.toList.dropWhile isSpace).rdropWhile isSpace)[0] =
        (text.toList.dropWhile isSpace)[0] := by
      have hbound : 0 < ((text.toList.dropWhile isSpace).rdropWhile isSpace ++ rest).length := by
        rw [hrest]
        exact hwhole
      have happend : ((text.toList.dropWhile isSpace).rdropWhile isSpace ++ rest)[0] =
          ((text.toList.dropWhile isSpace).rdropWhile isSpace)[0] := List.getElem_append_left hlength
      rw [← happend]
      exact List.getElem_of_eq hrest hbound
    rw [List.get_eq_getElem] at hfirst
    rwa [heq]
  rw [stripText, stripText, String.toList_ofList, hhead, List.rdropWhile_idempotent]

theorem splitText_of_notMem {separator : Char} {text : String} (h : separator ∉ text.toList) :
    splitText separator text = [text] := by
  rw [splitText, List.splitOn_eq_singleton h, List.map_singleton, String.ofList_toList]

private theorem notMem_of_mem_splitOn {separator : Char} {xs part : List Char}
    (h : part ∈ xs.splitOn separator) : separator ∉ part := by
  induction xs generalizing part with
  | nil =>
      rw [List.splitOn_nil, List.mem_singleton] at h
      rw [h]
      exact List.not_mem_nil
  | cons x xs ih =>
      rw [List.splitOn_cons_eq_if_modifyHead] at h
      split at h
      case isTrue =>
        rcases List.mem_cons.1 h with rfl | h
        · exact List.not_mem_nil
        · exact ih h
      case isFalse hx =>
        cases hparts : xs.splitOn separator with
        | nil => exact absurd hparts (List.splitOn_ne_nil _ _)
        | cons first rest =>
            rw [hparts] at h ih
            rcases List.mem_cons.1 h with rfl | h
            · rw [List.mem_cons, not_or]
              exact ⟨fun heq => hx (by simp [heq]), ih List.mem_cons_self⟩
            · exact ih (List.mem_cons_of_mem _ h)

/-- No part has the separator. -/
theorem notMem_of_mem_splitText {separator : Char} {text part : String}
    (h : part ∈ splitText separator text) : separator ∉ part.toList := by
  obtain ⟨chars, hchars, rfl⟩ := List.mem_map.1 h
  rw [String.toList_ofList]
  exact notMem_of_mem_splitOn hchars

/-- Stripping adds no character. -/
theorem mem_of_mem_stripText {text : String} {c : Char} (h : c ∈ (stripText text).toList) :
    c ∈ text.toList := by
  rw [stripText, String.toList_ofList] at h
  exact (List.dropWhile_sublist isSpace).subset ((List.rdropWhile_prefix _ _).subset h)

end Strings

end FogHttpBenchmark.Python
