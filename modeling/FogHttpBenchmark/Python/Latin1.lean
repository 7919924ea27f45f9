import FogHttpBenchmark.Library.Checked
import FogHttpBenchmark.Python.Strings

/-!
# Latin-1 text

The text of a network protocol: bytes decoded as Latin-1, one character for each byte, and the
text methods that the servers use on it. Every text is within Latin-1 here, so `lowerText` has
the letters of Latin-1 only.
-/

set_option autoImplicit false

namespace FogHttpBenchmark.Python

open Library

/-! ## Encoding -/

section Encoding

/-- `data.decode("latin1")`. -/
def decodeLatin1 (data : List UInt8) : String :=
  String.ofList (data.map fun byte => Char.ofNat byte.toNat)

/-- The byte of a character, within Latin-1. -/
def latin1Byte (c : Char) : UInt8 := UInt8.ofNat c.toNat

/-- The text has characters of Latin-1 only. -/
def Latin1 (chars : List Char) : Prop := ∀ c ∈ chars, c.toNat < 256

-- The instance of a bounded quantifier over a list; over all characters it would not compute.
instance (chars : List Char) : Decidable (Latin1 chars) :=
  List.decidableBAll (fun c : Char => c.toNat < 256) chars

/-- `text.encode("latin1")`. -/
def encodeLatin1 (text : String) : Py (List UInt8) :=
  if Latin1 text.toList then pure (text.toList.map latin1Byte)
  else throw (valueError "'latin-1' codec can't encode characters: ordinal not in range(256)")

theorem toNat_ofByte (byte : UInt8) : (Char.ofNat byte.toNat).toNat = byte.toNat := by
  have hlt := byte.toNat_lt
  rw [Char.toNat_ofNat, if_pos (Or.inl (by omega))]

theorem latin1_decodeLatin1 (data : List UInt8) : Latin1 (decodeLatin1 data).toList := by
  intro c hc
  rw [decodeLatin1, String.toList_ofList] at hc
  obtain ⟨byte, -, rfl⟩ := List.mem_map.1 hc
  rw [toNat_ofByte]
  exact byte.toNat_lt

theorem ofNat_latin1Byte {c : Char} (h : c.toNat < 256) :
    Char.ofNat (latin1Byte c).toNat = c := by
  rw [latin1Byte, UInt8.toNat_ofNat', Nat.mod_eq_of_lt h, Char.ofNat_toNat]

/-- Decoding restores what was encoded. -/
theorem map_ofNat_latin1Byte {chars : List Char} (h : Latin1 chars) :
    ((chars.map latin1Byte).map fun byte => Char.ofNat byte.toNat) = chars := by
  rw [List.map_map]
  exact (List.map_congr_left fun c hc => ofNat_latin1Byte (h c hc)).trans (List.map_id _)

theorem Latin1.append {xs ys : List Char} (hxs : Latin1 xs) (hys : Latin1 ys) :
    Latin1 (xs ++ ys) := by
  intro c hc
  rcases List.mem_append.1 hc with h | h
  · exact hxs c h
  · exact hys c h

theorem Latin1.subset {xs ys : List Char} (h : Latin1 ys) (hsubset : xs ⊆ ys) : Latin1 xs :=
  fun c hc => h c (hsubset hc)

end Encoding

/-! ## Lower case -/

section LowerCase

/-- A capital letter of Latin-1. -/
def isUpperLatin1 (c : Char) : Bool :=
  let n := c.toNat
  (65 ≤ n && n ≤ 90) || (192 ≤ n && n ≤ 222 && n ≠ 215)

def lowerChar (c : Char) : Char := if isUpperLatin1 c then Char.ofNat (c.toNat + 32) else c

/-- `text.lower()`. -/
def lowerText (text : String) : String := String.ofList (text.toList.map lowerChar)

theorem toNat_lowerChar (c : Char) :
    (lowerChar c).toNat = if isUpperLatin1 c then c.toNat + 32 else c.toNat := by
  rw [lowerChar]
  split
  case isTrue h =>
    simp only [isUpperLatin1, Bool.or_eq_true, Bool.and_eq_true, decide_eq_true_eq] at h
    rw [Char.toNat_ofNat, if_pos (Or.inl (by omega))]
  case isFalse => rfl

/-- A small letter is not a capital. -/
theorem isUpperLatin1_lowerChar (c : Char) : isUpperLatin1 (lowerChar c) = false := by
  have hnat := toNat_lowerChar c
  rw [Bool.eq_false_iff]
  intro h
  rw [isUpperLatin1, hnat] at h
  simp only [Bool.or_eq_true, Bool.and_eq_true, decide_eq_true_eq] at h
  split at h
  case isTrue hupper =>
    simp only [isUpperLatin1, Bool.or_eq_true, Bool.and_eq_true, decide_eq_true_eq] at hupper
    omega
  case isFalse hlower =>
    apply hlower
    simp only [isUpperLatin1, Bool.or_eq_true, Bool.and_eq_true, decide_eq_true_eq]
    exact h

theorem lowerChar_lowerChar (c : Char) : lowerChar (lowerChar c) = lowerChar c := by
  rw [lowerChar.eq_def (lowerChar c), isUpperLatin1_lowerChar]
  rfl

theorem lowerText_lowerText (text : String) : lowerText (lowerText text) = lowerText text := by
  rw [lowerText, lowerText, String.toList_ofList, List.map_map]
  congr 1
  exact List.map_congr_left fun c _ => lowerChar_lowerChar c

/-- Letters are not white space, in either case. -/
theorem isSpace_lowerChar (c : Char) : isSpace (lowerChar c) = isSpace c := by
  rw [lowerChar]
  split
  case isFalse => rfl
  case isTrue h =>
    have hnat := toNat_lowerChar c
    rw [lowerChar, if_pos h, if_pos h] at hnat
    simp only [isUpperLatin1, Bool.or_eq_true, Bool.and_eq_true, decide_eq_true_eq] at h
    rw [Bool.eq_iff_iff]
    simp only [isSpace, hnat, Bool.or_eq_true, Bool.and_eq_true, decide_eq_true_eq, beq_iff_eq]
    omega

/-- A character that is no letter comes from itself. -/
theorem eq_of_lowerChar_eq {c d : Char} (hd : d.toNat < 65) (h : lowerChar c = d) : c = d := by
  have hnat := toNat_lowerChar c
  rw [h] at hnat
  split at hnat
  case isTrue hupper =>
    simp only [isUpperLatin1, Bool.or_eq_true, Bool.and_eq_true, decide_eq_true_eq] at hupper
    omega
  case isFalse hlower =>
    rwa [lowerChar, if_neg hlower] at h

theorem Latin1.lower {chars : List Char} (h : Latin1 chars) : Latin1 (chars.map lowerChar) := by
  intro c hc
  obtain ⟨d, hd, rfl⟩ := List.mem_map.1 hc
  rw [toNat_lowerChar]
  have hlt := h d hd
  split
  case isFalse => exact hlt
  case isTrue hupper =>
    simp only [isUpperLatin1, Bool.or_eq_true, Bool.and_eq_true, decide_eq_true_eq] at hupper
    omega

/-- Stripping and changing to lower case can be done in either order. -/
theorem stripText_lowerText (text : String) :
    stripText (lowerText text) = lowerText (stripText text) := by
  have hspace : isSpace ∘ lowerChar = isSpace := funext isSpace_lowerChar
  rw [stripText, stripText, lowerText, lowerText, String.toList_ofList, String.toList_ofList,
    List.dropWhile_map, hspace]
  congr 1
  rw [List.rdropWhile, List.rdropWhile, ← List.map_reverse, List.dropWhile_map, hspace,
    List.map_reverse]

end LowerCase

/-! ## Partitions -/

section Partitions

/-- `text.partition(separator)`: what comes before the first separator and what comes after. -/
def partitionText (separator : Char) (text : String) : String × String :=
  (String.ofList (text.toList.takeWhile (· ≠ separator)),
    String.ofList ((text.toList.dropWhile (· ≠ separator)).drop 1))

/-- At most `n` splits from the left. -/
def splitMax (separator : Char) : ℕ → List Char → List (List Char)
  | 0, chars => [chars]
  | n + 1, chars =>
      if separator ∈ chars then
        chars.takeWhile (· ≠ separator) ::
          splitMax separator n ((chars.dropWhile (· ≠ separator)).drop 1)
      else [chars]

/-- `text.split(separator, maxsplit)`. -/
def splitTextMax (separator : Char) (maxsplit : ℕ) (text : String) : List String :=
  (splitMax separator maxsplit text.toList).map String.ofList

theorem takeWhile_append_cons {separator : Char} {before : List Char} (h : separator ∉ before)
    (after : List Char) :
    (before ++ separator :: after).takeWhile (· ≠ separator) = before := by
  rw [List.takeWhile_append_of_pos fun c hc => ?_]
  · simp
  · rw [decide_eq_true_eq]
    rintro rfl
    exact h hc

theorem dropWhile_append_cons {separator : Char} {before : List Char} (h : separator ∉ before)
    (after : List Char) :
    ((before ++ separator :: after).dropWhile (· ≠ separator)).drop 1 = after := by
  rw [List.dropWhile_append_of_pos fun c hc => ?_]
  · simp
  · rw [decide_eq_true_eq]
    rintro rfl
    exact h hc

theorem partitionText_append {separator : Char} {before after text : String}
    (htext : text.toList = before.toList ++ separator :: after.toList)
    (h : separator ∉ before.toList) : partitionText separator text = (before, after) := by
  rw [partitionText, htext, takeWhile_append_cons h, dropWhile_append_cons h,
    String.ofList_toList, String.ofList_toList]

theorem partitionText_of_notMem {separator : Char} {text : String}
    (h : separator ∉ text.toList) : partitionText separator text = (text, "") := by
  have hall : ∀ c ∈ text.toList, decide (c ≠ separator) = true := by
    intro c hc
    rw [decide_eq_true_eq]
    rintro rfl
    exact h hc
  rw [partitionText, List.takeWhile_eq_self_iff.2 hall, List.dropWhile_eq_nil_iff.2 hall,
    String.ofList_toList]
  rfl

theorem mem_of_mem_partitionText {separator : Char} {text : String} {c : Char}
    (h : c ∈ (partitionText separator text).1.toList ∨
      c ∈ (partitionText separator text).2.toList) : c ∈ text.toList := by
  rw [partitionText, String.toList_ofList, String.toList_ofList] at h
  rcases h with h | h
  · exact (List.takeWhile_sublist _).subset h
  · exact (List.dropWhile_sublist _).subset ((List.drop_sublist _ _).subset h)

theorem ne_of_mem_partitionText {separator : Char} {text : String} {c : Char}
    (h : c ∈ (partitionText separator text).1.toList) : c ≠ separator := by
  rw [partitionText, String.toList_ofList] at h
  simpa using List.mem_takeWhile_imp h

theorem splitMax_two {separator : Char} {first second third : List Char}
    (hfirst : separator ∉ first) (hsecond : separator ∉ second) :
    splitMax separator 2 (first ++ separator :: (second ++ separator :: third)) =
      [first, second, third] := by
  rw [splitMax, if_pos (by simp), takeWhile_append_cons hfirst, dropWhile_append_cons hfirst,
    splitMax, if_pos (by simp), takeWhile_append_cons hsecond, dropWhile_append_cons hsecond,
    splitMax]

theorem exists_of_mem {separator : Char} {chars : List Char} (h : separator ∈ chars) :
    chars = chars.takeWhile (· ≠ separator) ++
        separator :: (chars.dropWhile (· ≠ separator)).drop 1 ∧
      separator ∉ chars.takeWhile (· ≠ separator) := by
  constructor
  · induction chars with
    | nil => exact absurd h List.not_mem_nil
    | cons c chars ih =>
        by_cases hc : c = separator
        · simp [hc]
        · have hrest : separator ∈ chars := (List.mem_cons.1 h).resolve_left (Ne.symm hc)
          rw [List.takeWhile_cons_of_pos (by simpa using hc),
            List.dropWhile_cons_of_pos (by simpa using hc), List.cons_append, ← ih hrest]
  · intro hmem
    have hne := List.mem_takeWhile_imp hmem
    simp at hne

/-- What a text was that splits into three parts. -/
theorem eq_of_splitMax_two {separator : Char} {chars first second third : List Char}
    (h : splitMax separator 2 chars = [first, second, third]) :
    chars = first ++ separator :: (second ++ separator :: third) ∧ separator ∉ first ∧
      separator ∉ second := by
  rw [splitMax] at h
  split at h
  case isFalse => exact absurd (congrArg List.length h) (by simp)
  case isTrue hmem =>
    obtain ⟨hchars, hfirst⟩ := exists_of_mem hmem
    rw [splitMax] at h
    split at h
    case isFalse => exact absurd (congrArg List.length h) (by simp)
    case isTrue hrest =>
      obtain ⟨hchars', hsecond⟩ := exists_of_mem hrest
      rw [splitMax] at h
      simp only [List.cons.injEq, and_true] at h
      obtain ⟨rfl, rfl, rfl⟩ := h
      refine ⟨?_, hfirst, hsecond⟩
      rw [← hchars', ← hchars]

theorem splitTextMax_two {separator : Char} {first second third text : String}
    (htext : text.toList =
      first.toList ++ separator :: (second.toList ++ separator :: third.toList))
    (hfirst : separator ∉ first.toList) (hsecond : separator ∉ second.toList) :
    splitTextMax separator 2 text = [first, second, third] := by
  rw [splitTextMax, htext, splitMax_two hfirst hsecond]
  simp

theorem eq_of_splitTextMax_two {separator : Char} {first second third text : String}
    (h : splitTextMax separator 2 text = [first, second, third]) :
    text.toList = first.toList ++ separator :: (second.toList ++ separator :: third.toList) ∧
      separator ∉ first.toList ∧ separator ∉ second.toList := by
  have hlists := congrArg (List.map String.toList) h
  rw [splitTextMax, List.map_map] at hlists
  have hid : String.toList ∘ String.ofList = id := funext fun _ => String.toList_ofList
  rw [hid, List.map_id] at hlists
  exact eq_of_splitMax_two hlists

end Partitions

end FogHttpBenchmark.Python
