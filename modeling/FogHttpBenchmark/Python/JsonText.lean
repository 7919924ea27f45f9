import FogHttpBenchmark.Library.Groups
import FogHttpBenchmark.Python.Text

/-!
# JSON text without ambiguity

`json.dumps` with sorted keys gives two finite values one text exactly when the values are
equal up to the order of their keys (`dumps_eq_iff`).

`sortKeys` is the value with its keys in order, and `spelling` the text of a value as it
stands. A spelling can be read back whatever follows it, as long as that starts with a comma
or a closing bracket (`spelling_read`).
-/

set_option autoImplicit false

namespace FogHttpBenchmark.Python

open Library

/-! ## Reading a character -/

section ReadCharacter

/-- The value of a hexadecimal digit. -/
def hexValue (c : Char) : ℕ := if c.toNat < 58 then c.toNat - 48 else c.toNat - 87

/-- The number that hexadecimal digits write. -/
def readHex (digits : List Char) : ℕ :=
  digits.foldl (fun n c => n * 16 + hexValue c) 0

theorem hexValue_hexDigit {n : ℕ} (h : n < 16) : hexValue (hexDigit n) = n := by
  interval_cases n <;> rfl

theorem readHex_hexDigits {width : ℕ} :
    ∀ {n : ℕ}, n < 16 ^ width → readHex (hexDigits width n) = n := by
  induction width with
  | zero =>
      intro n h
      simp only [pow_zero, Nat.lt_one_iff] at h
      subst h
      rfl
  | succ width ih =>
      intro n h
      have hhigh : n / 16 < 16 ^ width := by
        rw [pow_succ] at h
        omega
      have hlow : n % 16 < 16 := Nat.mod_lt _ (by decide)
      rw [hexDigits, readHex, List.foldl_append, ← readHex, ih hhigh, List.foldl_cons,
        List.foldl_nil, hexValue_hexDigit hlow]
      omega

/-- The number of a `\uXXXX` at the start of a text. -/
def readUnicode : List Char → Option (ℕ × List Char)
  | '\\' :: 'u' :: a :: b :: c :: d :: rest => some (readHex [a, b, c, d], rest)
  | _ => none

theorem readUnicode_append {n : ℕ} (h : n < 0x10000) (rest : List Char) :
    readUnicode (jsonUnicode n ++ rest) = some (n, rest) := by
  have hdigits : hexDigits 4 n = [hexDigit (n / 16 / 16 / 16 % 16), hexDigit (n / 16 / 16 % 16),
      hexDigit (n / 16 % 16), hexDigit (n % 16)] := rfl
  have hread := @readHex_hexDigits 4 n h
  rw [hdigits] at hread
  simp only [jsonUnicode, hdigits, List.cons_append, List.nil_append, readUnicode, hread]

theorem readUnicode_of_ne {c : Char} (h : c ≠ '\\') (rest : List Char) :
    readUnicode (c :: rest) = none := by
  rw [readUnicode]
  rintro a b d e tail hcons
  exact h (List.cons.inj hcons).1

/-- The character that a letter after a backslash stands for. -/
def unescape (c : Char) : Char :=
  if c = 'n' then '\n'
  else if c = 'r' then '\r'
  else if c = 't' then '\t'
  else if c = 'f' then Char.ofNat 12
  else if c = 'b' then Char.ofNat 8
  else c

/-- The character at the start of the inside of a JSON string. -/
def readJsonChar (text : List Char) : Option (Char × List Char) :=
  match readUnicode text with
  | some (high, rest) =>
      if 0xd800 ≤ high ∧ high < 0xdc00 then
        (readUnicode rest).map fun low =>
          (Char.ofNat (0x10000 + (high - 0xd800) * 0x400 + (low.1 - 0xdc00)), low.2)
      else some (Char.ofNat high, rest)
  | none =>
      match text with
      | '\\' :: c :: rest => some (unescape c, rest)
      | c :: rest => some (c, rest)
      | [] => none

theorem readJsonChar_append (c : Char) (rest : List Char) :
    readJsonChar (jsonChar c ++ rest) = some (c, rest) := by
  have hvalid : c.toNat < 0xd800 ∨ 0xdfff < c.toNat ∧ c.toNat < 0x110000 := c.valid
  rw [jsonChar]
  split
  case isTrue hquoted =>
    rcases hquoted with rfl | rfl <;> rfl
  case isFalse hquoted =>
    rw [not_or] at hquoted
    split
    case isTrue hc => subst hc; rfl
    split
    case isTrue hc => subst hc; rfl
    split
    case isTrue hc => subst hc; rfl
    split
    case isTrue hc =>
      obtain rfl : c = Char.ofNat 12 := by rw [← hc, Char.ofNat_toNat]
      rfl
    split
    case isTrue hc =>
      obtain rfl : c = Char.ofNat 8 := by rw [← hc, Char.ofNat_toNat]
      rfl
    split
    case isTrue =>
      rw [List.cons_append, List.nil_append, readJsonChar, readUnicode_of_ne hquoted.2]
      simp [hquoted.2]
    split
    case isTrue hplane =>
      have hnot : ¬(0xd800 ≤ c.toNat ∧ c.toNat < 0xdc00) := by omega
      simp only [readJsonChar, readUnicode_append hplane, if_neg hnot, Char.ofNat_toNat]
    case isFalse hplane =>
      -- the two halves of a surrogate pair
      have hhigh : 0xd800 + (c.toNat - 0x10000) / 0x400 < 0x10000 := by omega
      have hlow : 0xdc00 + (c.toNat - 0x10000) % 0x400 < 0x10000 := by omega
      have hpair : 0xd800 ≤ 0xd800 + (c.toNat - 0x10000) / 0x400 ∧
          0xd800 + (c.toNat - 0x10000) / 0x400 < 0xdc00 := by omega
      have hnumber : 0x10000 + (0xd800 + (c.toNat - 0x10000) / 0x400 - 0xd800) * 0x400 +
          (0xdc00 + (c.toNat - 0x10000) % 0x400 - 0xdc00) = c.toNat := by omega
      simp only [readJsonChar, List.append_assoc, readUnicode_append hhigh, if_pos hpair,
        readUnicode_append hlow, Option.map_some, hnumber, Char.ofNat_toNat]

theorem jsonChar_read {c d : Char} {s t : List Char} (h : jsonChar c ++ s = jsonChar d ++ t) :
    c = d ∧ s = t := by
  have hread := congrArg readJsonChar h
  rw [readJsonChar_append, readJsonChar_append, Option.some.injEq, Prod.mk.injEq] at hread
  exact hread

/-- No character is spelled with a quote at its start. -/
theorem jsonChar_ne_quote (c : Char) (s t : List Char) : jsonChar c ++ s ≠ '"' :: t := by
  intro h
  have hquote : '"' :: t = jsonChar '"' ++ t → False := by
    intro heq
    exact absurd (List.cons.inj heq).1 (by decide)
  have hread := congrArg readJsonChar h
  rw [readJsonChar_append] at hread
  have hsame : (c, s) = ('"', t) := by
    simpa [readJsonChar, readUnicode_of_ne (show '"' ≠ '\\' by decide)] using hread
  obtain ⟨rfl, rfl⟩ := Prod.mk.inj hsame
  exact hquote h.symm

end ReadCharacter

/-! ## Tokens -/

section Tokens

/-- A quoted text can be read back whatever follows it. -/
theorem quoted_read : ∀ {s t x y : List Char},
    s.flatMap jsonChar ++ '"' :: x = t.flatMap jsonChar ++ '"' :: y → s = t ∧ x = y
  | [], [], x, y, h => ⟨rfl, (List.cons.inj h).2⟩
  | [], d :: t, x, y, h => by
      rw [List.flatMap_cons, List.append_assoc] at h
      exact absurd h.symm (jsonChar_ne_quote d _ _)
  | c :: s, [], x, y, h => by
      rw [List.flatMap_cons, List.append_assoc] at h
      exact absurd h (jsonChar_ne_quote c _ _)
  | c :: s, d :: t, x, y, h => by
      rw [List.flatMap_cons, List.flatMap_cons, List.append_assoc, List.append_assoc] at h
      obtain ⟨rfl, hrest⟩ := jsonChar_read h
      obtain ⟨rfl, hxy⟩ := quoted_read hrest
      exact ⟨rfl, hxy⟩

theorem jsonString_read {s t : String} {x y : List Char}
    (h : (jsonString s).toList ++ x = (jsonString t).toList ++ y) : s = t ∧ x = y := by
  simp only [jsonString, String.toList_ofList, List.cons_append, List.append_assoc,
    List.cons.injEq, true_and] at h
  obtain ⟨hs, hxy⟩ := quoted_read h
  exact ⟨String.toList_inj.1 hs, hxy⟩

/-- The characters that the text of a finite number is made of. -/
def isNumeric (c : Char) : Bool := c.isDigit || c = '-' || c = '+' || c = '.' || c = 'e'

theorem isDigit_or_of_mem_int {n : ℤ} {c : Char} (h : c ∈ (toString n).toList) :
    c.isDigit = true ∨ c = '-' := by
  rw [Int.toString_eq_repr] at h
  cases n with
  | ofNat n =>
      left
      rw [Int.repr, Nat.toList_repr] at h
      exact Nat.isDigit_of_mem_toDigits (by decide) (by decide) h
  | negSucc n =>
      rw [Int.repr, String.toList_append, List.mem_append, Nat.toList_repr] at h
      rcases h with h | h
      · right
        simpa using h
      · left
        exact Nat.isDigit_of_mem_toDigits (by decide) (by decide) h

theorem int_ne_nil (n : ℤ) : (toString n).toList ≠ [] := by
  rw [Int.toString_eq_repr]
  cases n with
  | ofNat n =>
      rw [Int.repr, Nat.toList_repr]
      exact Nat.toDigits_ne_nil
  | negSucc n =>
      rw [Int.repr, String.toList_append]
      exact List.append_ne_nil_of_left_ne_nil (by decide) _

end Tokens

/-! ## The order of keys -/

namespace Json

section SortKeys

mutual

/-- The value with the keys of every dictionary in order. -/
def sortKeys : Json → Json
  | arr items => arr (sortKeysItems items)
  | obj fields => obj ((sortKeysFields fields).insertionSort fun a b => a.1 ≤ b.1)
  | value => value

/-- The items with their keys in order. -/
def sortKeysItems : List Json → List Json
  | [] => []
  | item :: items => sortKeys item :: sortKeysItems items

/-- The fields with the keys of their values in order. -/
def sortKeysFields : List (String × Json) → List (String × Json)
  | [] => []
  | (key, value) :: fields => (key, sortKeys value) :: sortKeysFields fields

end

mutual

theorem isFinite_sortKeys : ∀ value : Json, isFinite (sortKeys value) = isFinite value
  | .null => by simp [sortKeys]
  | .bool _ => by simp [sortKeys]
  | .int _ => by simp [sortKeys]
  | .float _ => by simp [sortKeys]
  | .str _ => by simp [sortKeys]
  | .arr items => by
      rw [sortKeys, isFinite, isFinite, isFiniteItems_sortKeys items]
  | .obj fields => by
      rw [sortKeys, isFinite, isFinite, ← isFiniteFields_sortKeys fields, Bool.eq_iff_iff,
        isFiniteFields_iff, isFiniteFields_iff]
      have hperm := List.perm_insertionSort (fun a b : String × Json => a.1 ≤ b.1)
        (sortKeysFields fields)
      exact forall_congr' fun entry => imp_congr_left hperm.mem_iff

theorem isFiniteItems_sortKeys : ∀ items : List Json,
    isFiniteItems (sortKeysItems items) = isFiniteItems items
  | [] => rfl
  | item :: items => by
      rw [sortKeysItems, isFiniteItems, isFiniteItems, isFinite_sortKeys item,
        isFiniteItems_sortKeys items]

theorem isFiniteFields_sortKeys : ∀ fields : List (String × Json),
    isFiniteFields (sortKeysFields fields) = isFiniteFields fields
  | [] => rfl
  | (key, value) :: fields => by
      rw [sortKeysFields, isFiniteFields, isFiniteFields, isFinite_sortKeys value,
        isFiniteFields_sortKeys fields]

end

end SortKeys

end Json

/-! ## The text of a value -/

section Spelling

variable [PyRuntime]

mutual

/-- The text of a value whose keys stay where they are. -/
def spelling (separators : String × String) : Json → List Char
  | .null => ['n', 'u', 'l', 'l']
  | .bool true => ['t', 'r', 'u', 'e']
  | .bool false => ['f', 'a', 'l', 's', 'e']
  | .int n => (toString n).toList
  | .float x => (PyRuntime.floatRepr x).toList
  | .str s => (jsonString s).toList
  | .arr items => '[' :: (separators.1.toList.intercalate (itemSpellings separators items) ++ [']'])
  | .obj fields =>
      '\x7b' :: (separators.1.toList.intercalate (fieldSpellings separators fields) ++ ['\x7d'])

/-- The texts of the items. -/
def itemSpellings (separators : String × String) : List Json → List (List Char)
  | [] => []
  | item :: items => spelling separators item :: itemSpellings separators items

/-- The texts of the fields, each with its key. -/
def fieldSpellings (separators : String × String) : List (String × Json) → List (List Char)
  | [] => []
  | (key, value) :: fields =>
      ((jsonString key).toList ++ separators.2.toList ++ spelling separators value) ::
        fieldSpellings separators fields

end

theorem fieldSpellings_eq_map (separators : String × String) (fields : List (String × Json)) :
    fieldSpellings separators fields = fields.map fun entry =>
      (jsonString entry.1).toList ++ separators.2.toList ++ spelling separators entry.2 := by
  induction fields with
  | nil => rfl
  | cons entry fields ih => rw [fieldSpellings, ih, List.map_cons]

mutual

/-- `json.dumps` of a finite value is the spelling of the value with its keys in order. -/
theorem dumps_eq_spelling (separators : String × String) (allowNan : Bool) :
    ∀ {value : Json}, value.isFinite = true →
      dumps separators allowNan value =
        .ok (String.ofList (spelling separators value.sortKeys))
  | .null, _ => by rfl
  | .bool true, _ => by rfl
  | .bool false, _ => by rfl
  | .int n, _ => by
      rw [dumps, Json.sortKeys, spelling, String.ofList_toList]
      · rfl
      all_goals exact nofun
  | .float (.finite q), _ => by
      rw [dumps, Json.sortKeys, spelling, String.ofList_toList]
      · rfl
      all_goals exact nofun
  | .float .posInf, h => absurd h (by decide)
  | .float .negInf, h => absurd h (by decide)
  | .float .nan, h => absurd h (by decide)
  | .str s, _ => by
      rw [dumps, Json.sortKeys, spelling, String.ofList_toList]
      · rfl
      all_goals exact nofun
  | .arr items, h => by
      rw [Json.isFinite] at h
      rw [dumps, dumpsItems_eq_spelling separators allowNan h, Json.sortKeys, spelling,
        Checked.ok_bind, Checked.pure_eq_ok]
      apply String.toList_inj.1
      have hback : ∀ texts : List (List Char),
          (texts.map String.ofList).map String.toList = texts := by
        intro texts
        simp [List.map_map, Function.comp_def]
      -- both sides join the same texts with the same separator
      simp only [String.toList_append, String.toList_intercalate, hback, String.toList_ofList]
      rfl
  | .obj fields, h => by
      rw [Json.isFinite] at h
      rw [dumps, dumpsFields_eq_spelling separators allowNan h, Json.sortKeys, spelling,
        Checked.ok_bind, Checked.pure_eq_ok]
      apply String.toList_inj.1
      -- sorting the fields by their keys and writing them can change places
      rw [← List.map_insertionSort (fun a b : String × Json => a.1 ≤ b.1)
        (fun a b : String × String => a.1 ≤ b.1) _ _ (fun a _ b _ => Iff.rfl),
        fieldSpellings_eq_map]
      simp only [List.map_map, Function.comp_def, String.toList_append,
        String.toList_intercalate, String.toList_ofList]
      rfl

theorem dumpsItems_eq_spelling (separators : String × String) (allowNan : Bool) :
    ∀ {items : List Json}, Json.isFiniteItems items = true →
      dumpsItems separators allowNan items =
        .ok ((itemSpellings separators (Json.sortKeysItems items)).map String.ofList)
  | [], _ => rfl
  | item :: items, h => by
      rw [Json.isFiniteItems, Bool.and_eq_true] at h
      rw [dumpsItems, dumps_eq_spelling separators allowNan h.1,
        dumpsItems_eq_spelling separators allowNan h.2, Json.sortKeysItems, itemSpellings,
        List.map_cons]
      rfl

theorem dumpsFields_eq_spelling (separators : String × String) (allowNan : Bool) :
    ∀ {fields : List (String × Json)}, Json.isFiniteFields fields = true →
      dumpsFields separators allowNan fields =
        .ok ((Json.sortKeysFields fields).map fun entry => (entry.1,
          jsonString entry.1 ++ separators.2 ++ String.ofList (spelling separators entry.2)))
  | [], _ => rfl
  | (key, value) :: fields, h => by
      rw [Json.isFiniteFields, Bool.and_eq_true] at h
      rw [dumpsFields, dumps_eq_spelling separators allowNan h.1,
        dumpsFields_eq_spelling separators allowNan h.2, Json.sortKeysFields, List.map_cons]
      rfl

end

end Spelling

/-! ## Reading a value -/

section ReadValue

variable [PyRuntime]

/-- What the text of a finite float looks like: it tells the float apart from every other one,
and a point or an exponent tells it apart from an integer. -/
structure FloatTexts : Prop where
  injective : ∀ p q : ℚ,
    PyRuntime.floatRepr (.finite p) = PyRuntime.floatRepr (.finite q) → p = q
  numeric : ∀ q : ℚ, ∀ c ∈ (PyRuntime.floatRepr (.finite q)).toList, isNumeric c = true
  fractional : ∀ q : ℚ, ∃ c ∈ (PyRuntime.floatRepr (.finite q)).toList, c = '.' ∨ c = 'e'

/-- The kinds of value that the first character of a text tells apart. -/
inductive Shape where
  | null
  | trueWord
  | falseWord
  | number
  | string
  | list
  | dict
  deriving DecidableEq

/-- The kind of the value whose text starts with a character. -/
def shapeOfChar (c : Char) : Option Shape :=
  if c = 'n' then some .null
  else if c = 't' then some .trueWord
  else if c = 'f' then some .falseWord
  else if c = '"' then some .string
  else if c = '[' then some .list
  else if c = '\x7b' then some .dict
  else if isNumeric c then some .number
  else none

/-- The kind of a value. -/
def shapeOf : Json → Shape
  | .null => .null
  | .bool true => .trueWord
  | .bool false => .falseWord
  | .int _ => .number
  | .float _ => .number
  | .str _ => .string
  | .arr _ => .list
  | .obj _ => .dict

omit [PyRuntime] in
theorem eq_null_of_shape {value : Json} (h : shapeOf value = .null) : value = .null := by
  cases value with
  | null => rfl
  | bool b => cases b <;> cases h
  | _ => cases h

omit [PyRuntime] in
theorem eq_bool_of_shape {value : Json} {b : Bool} (h : shapeOf value = shapeOf (.bool b)) :
    value = .bool b := by
  cases value with
  | bool b' => cases b <;> cases b' <;> first | rfl | cases h
  | _ => cases b <;> cases h

omit [PyRuntime] in
theorem exists_str_of_shape {value : Json} (h : shapeOf value = .string) :
    ∃ s, value = .str s := by
  cases value with
  | str s => exact ⟨s, rfl⟩
  | bool b => cases b <;> cases h
  | _ => cases h

omit [PyRuntime] in
theorem exists_arr_of_shape {value : Json} (h : shapeOf value = .list) :
    ∃ items, value = .arr items := by
  cases value with
  | arr items => exact ⟨items, rfl⟩
  | bool b => cases b <;> cases h
  | _ => cases h

omit [PyRuntime] in
theorem exists_obj_of_shape {value : Json} (h : shapeOf value = .dict) :
    ∃ fields, value = .obj fields := by
  cases value with
  | obj fields => exact ⟨fields, rfl⟩
  | bool b => cases b <;> cases h
  | _ => cases h

omit [PyRuntime] in
theorem shapeOfChar_of_isNumeric {c : Char} (h : isNumeric c = true) :
    shapeOfChar c = some .number := by
  have hne : ∀ d, isNumeric d = false → c ≠ d := by
    rintro d hd rfl
    exact absurd h (by simp [hd])
  rw [shapeOfChar, if_neg (hne 'n' (by decide)), if_neg (hne 't' (by decide)),
    if_neg (hne 'f' (by decide)), if_neg (hne '"' (by decide)), if_neg (hne '[' (by decide)),
    if_neg (hne '\x7b' (by decide)), if_pos h]

omit [PyRuntime] in
theorem isNumeric_of_mem_int {n : ℤ} {c : Char} (h : c ∈ (toString n).toList) :
    isNumeric c = true := by
  rcases isDigit_or_of_mem_int h with h | h <;> simp [isNumeric, h]

/-- A spelling starts with a character of its shape. -/
theorem spelling_head (htexts : FloatTexts) (separators : String × String) {value : Json}
    (hfinite : value.isFinite = true) :
    ∃ c rest, spelling separators value = c :: rest ∧ shapeOfChar c = some (shapeOf value) := by
  cases value with
  | null => exact ⟨_, _, rfl, rfl⟩
  | bool b => cases b <;> exact ⟨_, _, rfl, rfl⟩
  | int n =>
      obtain ⟨c, rest, hcons⟩ := List.exists_cons_of_ne_nil (int_ne_nil n)
      refine ⟨c, rest, by rw [spelling, hcons], ?_⟩
      apply shapeOfChar_of_isNumeric
      apply isNumeric_of_mem_int (n := n)
      rw [hcons]
      exact List.mem_cons_self
  | float x =>
      cases x with
      | finite q =>
          obtain ⟨c', hc', -⟩ := htexts.fractional q
          obtain ⟨c, rest, hcons⟩ := List.exists_cons_of_ne_nil (List.ne_nil_of_mem hc')
          refine ⟨c, rest, by rw [spelling, hcons], ?_⟩
          apply shapeOfChar_of_isNumeric
          apply htexts.numeric q
          rw [hcons]
          exact List.mem_cons_self
      | _ => exact absurd hfinite (by decide)
  | str s =>
      refine ⟨'"', s.toList.flatMap jsonChar ++ ['"'], ?_, rfl⟩
      rw [spelling, jsonString, String.toList_ofList]
  | arr items => exact ⟨_, _, rfl, rfl⟩
  | obj fields => exact ⟨_, _, rfl, rfl⟩

/-- What may follow a value: nothing, a comma or a closing bracket. -/
def Ends (rest : List Char) : Prop :=
  ∀ c, rest.head? = some c → c = ',' ∨ c = ']' ∨ c = '\x7d'

omit [PyRuntime] in
theorem Ends.not_isNumeric {rest : List Char} (h : Ends rest) :
    ∀ c, rest.head? = some c → isNumeric c = false := by
  intro c hc
  rcases h c hc with rfl | rfl | rfl <;> decide

theorem isNumeric_of_mem_spelling (htexts : FloatTexts) {separators : String × String}
    {value : Json} (hfinite : value.isFinite = true) (hshape : shapeOf value = .number) :
    ∀ c ∈ spelling separators value, isNumeric c = true := by
  cases value with
  | int n => exact fun c hc => isNumeric_of_mem_int hc
  | float x =>
      cases x with
      | finite q => exact htexts.numeric q
      | _ => exact absurd hfinite (by decide)
  | bool b => cases b <;> exact absurd hshape (by decide)
  | _ => exact absurd hshape (by simp [shapeOf])

theorem int_ne_float (htexts : FloatTexts) (n : ℤ) (q : ℚ) :
    (toString n).toList ≠ (PyRuntime.floatRepr (.finite q)).toList := by
  intro h
  obtain ⟨c, hc, hmark⟩ := htexts.fractional q
  rw [← h] at hc
  rcases isDigit_or_of_mem_int hc with hdigit | rfl
  · rcases hmark with rfl | rfl <;> exact absurd hdigit (by decide)
  · rcases hmark with hmark | hmark <;> exact absurd hmark (by decide)

/-- Two numbers whose texts start one text are one number. -/
theorem number_read (htexts : FloatTexts) {separators : String × String} {value other : Json}
    {x y : List Char} (hvalue : value.isFinite = true) (hother : other.isFinite = true)
    (hshape : shapeOf value = .number) (hshape' : shapeOf other = .number)
    (hx : Ends x) (hy : Ends y)
    (h : spelling separators value ++ x = spelling separators other ++ y) :
    value = other ∧ x = y := by
  obtain ⟨hsame, hxy⟩ := Runs.token_read (isNumeric_of_mem_spelling htexts hvalue hshape)
    (isNumeric_of_mem_spelling htexts hother hshape') hx.not_isNumeric hy.not_isNumeric h
  refine ⟨?_, hxy⟩
  cases value with
  | int n =>
      cases other with
      | int m =>
          have hint := String.toList_inj.1 hsame
          rw [Int.toString_eq_repr, Int.toString_eq_repr, Int.repr_inj] at hint
          rw [hint]
      | float y =>
          cases y with
          | finite q => exact absurd hsame (int_ne_float htexts n q)
          | _ => exact absurd hother (by decide)
      | bool b => cases b <;> exact absurd hshape' (by decide)
      | _ => exact absurd hshape' (by simp [shapeOf])
  | float x =>
      cases x with
      | finite p =>
          cases other with
          | int m => exact absurd hsame.symm (int_ne_float htexts m p)
          | float y =>
              cases y with
              | finite q => rw [htexts.injective p q (String.toList_inj.1 hsame)]
              | _ => exact absurd hother (by decide)
          | bool b => cases b <;> exact absurd hshape' (by decide)
          | _ => exact absurd hshape' (by simp [shapeOf])
      | _ => exact absurd hvalue (by decide)
  | bool b => cases b <;> exact absurd hshape (by decide)
  | _ => exact absurd hshape (by simp [shapeOf])

variable {separators : String × String} (htexts : FloatTexts)
  (hcomma : ∃ rest, separators.1.toList = ',' :: rest)

omit [PyRuntime] in
include hcomma in
/-- After an item comes the separator or the closing bracket. -/
theorem ends_of_flatMap {texts : List (List Char)} {close : Char} {rest : List Char}
    (hclose : close = ']' ∨ close = '\x7d') :
    Ends (texts.flatMap (separators.1.toList ++ ·) ++ close :: rest) := by
  obtain ⟨tail, htail⟩ := hcomma
  cases texts with
  | nil =>
      intro c hc
      simp only [List.flatMap_nil, List.nil_append, List.head?_cons, Option.some.injEq] at hc
      subst hc
      exact .inr hclose
  | cons text texts =>
      intro c hc
      rw [List.flatMap_cons, htail] at hc
      simp only [List.cons_append, List.head?_cons, Option.some.injEq] at hc
      exact .inl hc.symm

omit [PyRuntime] in
include hcomma in
/-- A separator is not a closing bracket. -/
theorem separator_ne_close {text rest tail : List Char} {close : Char}
    (hclose : close = ']' ∨ close = '\x7d') :
    separators.1.toList ++ text ++ tail ≠ close :: rest := by
  obtain ⟨comma, hcomma⟩ := hcomma
  intro h
  rw [hcomma, List.cons_append, List.cons_append] at h
  rcases hclose with rfl | rfl <;> exact absurd (List.cons.inj h).1 (by decide)

include htexts in
theorem shape_eq_of_read {value other : Json} {x y : List Char} (hvalue : value.isFinite = true)
    (hother : other.isFinite = true)
    (h : spelling separators value ++ x = spelling separators other ++ y) :
    shapeOf other = shapeOf value := by
  obtain ⟨c, s, hs, hc⟩ := spelling_head htexts separators hvalue
  obtain ⟨d, t, ht, hd⟩ := spelling_head htexts separators hother
  rw [hs, ht, List.cons_append, List.cons_append, List.cons.injEq] at h
  rw [← h.1, hc, Option.some.injEq] at hd
  exact hd.symm

include htexts in
/-- A value does not start with a closing bracket. -/
theorem spelling_ne_close {value : Json} {x y : List Char} {close : Char}
    (hvalue : value.isFinite = true) (hclose : close = ']' ∨ close = '\x7d') :
    spelling separators value ++ x ≠ close :: y := by
  intro h
  obtain ⟨c, rest, hs, hc⟩ := spelling_head htexts separators hvalue
  rw [hs, List.cons_append, List.cons.injEq] at h
  rw [h.1] at hc
  rcases hclose with rfl | rfl <;> cases hc

omit [PyRuntime] in
theorem jsonString_ne_close {key : String} {x y : List Char} :
    (jsonString key).toList ++ x ≠ '\x7d' :: y := by
  intro h
  rw [jsonString, String.toList_ofList, List.cons_append, List.cons.injEq] at h
  exact absurd h.1 (by decide)

mutual

/-- A value can be read back from its text, whatever follows. -/
theorem spelling_read (htexts : FloatTexts) (hcomma : ∃ rest, separators.1.toList = ',' :: rest) :
    ∀ (value : Json) {other : Json} {x y : List Char},
    value.isFinite = true → other.isFinite = true → Ends x → Ends y →
      spelling separators value ++ x = spelling separators other ++ y → value = other ∧ x = y
  | .null, other, x, y, hvalue, hother, hx, hy, h => by
      obtain rfl := eq_null_of_shape (shape_eq_of_read htexts hvalue hother h)
      exact ⟨rfl, List.append_cancel_left h⟩
  | .bool b, other, x, y, hvalue, hother, hx, hy, h => by
      obtain rfl := eq_bool_of_shape (shape_eq_of_read htexts hvalue hother h)
      exact ⟨rfl, List.append_cancel_left h⟩
  | .int n, other, x, y, hvalue, hother, hx, hy, h =>
      number_read htexts hvalue hother rfl (shape_eq_of_read htexts hvalue hother h) hx hy h
  | .float q, other, x, y, hvalue, hother, hx, hy, h =>
      number_read htexts hvalue hother rfl (shape_eq_of_read htexts hvalue hother h) hx hy h
  | .str s, other, x, y, hvalue, hother, hx, hy, h => by
      obtain ⟨t, rfl⟩ := exists_str_of_shape (shape_eq_of_read htexts hvalue hother h)
      obtain ⟨rfl, hxy⟩ := jsonString_read h
      exact ⟨rfl, hxy⟩
  | .arr items, other, x, y, hvalue, hother, hx, hy, h => by
      obtain ⟨others, rfl⟩ := exists_arr_of_shape (shape_eq_of_read htexts hvalue hother h)
      rw [spelling, spelling, List.cons_append, List.cons_append, List.cons.injEq,
        List.append_assoc, List.append_assoc] at h
      rw [Json.isFinite] at hvalue hother
      obtain ⟨rfl, hxy⟩ := items_read htexts hcomma items hvalue hother h.2
      exact ⟨rfl, hxy⟩
  | .obj fields, other, x, y, hvalue, hother, hx, hy, h => by
      obtain ⟨others, rfl⟩ := exists_obj_of_shape (shape_eq_of_read htexts hvalue hother h)
      rw [spelling, spelling, List.cons_append, List.cons_append, List.cons.injEq,
        List.append_assoc, List.append_assoc] at h
      rw [Json.isFinite] at hvalue hother
      obtain ⟨rfl, hxy⟩ := fields_read htexts hcomma fields hvalue hother h.2
      exact ⟨rfl, hxy⟩

theorem items_read (htexts : FloatTexts) (hcomma : ∃ rest, separators.1.toList = ',' :: rest) :
    ∀ (items : List Json) {others : List Json} {x y : List Char},
    Json.isFiniteItems items = true → Json.isFiniteItems others = true →
      separators.1.toList.intercalate (itemSpellings separators items) ++ (']' :: x) =
        separators.1.toList.intercalate (itemSpellings separators others) ++ (']' :: y) →
      items = others ∧ x = y
  | [], [], x, y, _, _, h => ⟨rfl, (List.cons.inj h).2⟩
  | [], other :: others, x, y, _, hothers, h => by
      rw [Json.isFiniteItems, Bool.and_eq_true] at hothers
      rw [itemSpellings, itemSpellings, Runs.intercalate_cons, List.append_assoc] at h
      exact absurd h.symm (spelling_ne_close htexts hothers.1 (.inl rfl))
  | item :: items, [], x, y, hitems, _, h => by
      rw [Json.isFiniteItems, Bool.and_eq_true] at hitems
      rw [itemSpellings, itemSpellings, Runs.intercalate_cons, List.append_assoc] at h
      exact absurd h (spelling_ne_close htexts hitems.1 (.inl rfl))
  | item :: items, other :: others, x, y, hitems, hothers, h => by
      rw [Json.isFiniteItems, Bool.and_eq_true] at hitems hothers
      rw [itemSpellings, itemSpellings, Runs.intercalate_cons, Runs.intercalate_cons,
        List.append_assoc, List.append_assoc] at h
      obtain ⟨rfl, hrest⟩ := spelling_read htexts hcomma item hitems.1 hothers.1
        (ends_of_flatMap hcomma (.inl rfl)) (ends_of_flatMap hcomma (.inl rfl)) h
      obtain ⟨rfl, hxy⟩ := moreItems_read htexts hcomma items hitems.2 hothers.2 hrest
      exact ⟨rfl, hxy⟩

/-- The items after the first one, each behind a separator. -/
theorem moreItems_read (htexts : FloatTexts) (hcomma : ∃ rest, separators.1.toList = ',' :: rest) :
    ∀ (items : List Json) {others : List Json} {x y : List Char},
    Json.isFiniteItems items = true → Json.isFiniteItems others = true →
      (itemSpellings separators items).flatMap (separators.1.toList ++ ·) ++ (']' :: x) =
        (itemSpellings separators others).flatMap (separators.1.toList ++ ·) ++ (']' :: y) →
      items = others ∧ x = y
  | [], [], x, y, _, _, h => ⟨rfl, (List.cons.inj h).2⟩
  | [], other :: others, x, y, _, _, h => by
      rw [itemSpellings, itemSpellings, List.flatMap_cons, List.append_assoc] at h
      exact absurd h.symm (separator_ne_close hcomma (.inl rfl))
  | item :: items, [], x, y, _, _, h => by
      rw [itemSpellings, itemSpellings, List.flatMap_cons, List.append_assoc] at h
      exact absurd h (separator_ne_close hcomma (.inl rfl))
  | item :: items, other :: others, x, y, hitems, hothers, h => by
      rw [Json.isFiniteItems, Bool.and_eq_true] at hitems hothers
      rw [itemSpellings, itemSpellings, List.flatMap_cons, List.flatMap_cons, List.append_assoc,
        List.append_assoc, List.append_assoc, List.append_assoc] at h
      obtain ⟨rfl, hrest⟩ := spelling_read htexts hcomma item hitems.1 hothers.1
        (ends_of_flatMap hcomma (.inl rfl)) (ends_of_flatMap hcomma (.inl rfl))
        (List.append_cancel_left h)
      obtain ⟨rfl, hxy⟩ := moreItems_read htexts hcomma items hitems.2 hothers.2 hrest
      exact ⟨rfl, hxy⟩

theorem fields_read (htexts : FloatTexts) (hcomma : ∃ rest, separators.1.toList = ',' :: rest) :
    ∀ (fields : List (String × Json)) {others : List (String × Json)}
    {x y : List Char}, Json.isFiniteFields fields = true → Json.isFiniteFields others = true →
      separators.1.toList.intercalate (fieldSpellings separators fields) ++ ('\x7d' :: x) =
        separators.1.toList.intercalate (fieldSpellings separators others) ++ ('\x7d' :: y) →
      fields = others ∧ x = y
  | [], [], x, y, _, _, h => ⟨rfl, (List.cons.inj h).2⟩
  | [], (key', value') :: others, x, y, _, _, h => by
      rw [fieldSpellings, fieldSpellings, Runs.intercalate_cons, List.append_assoc,
        List.append_assoc, List.append_assoc] at h
      exact absurd h.symm jsonString_ne_close
  | (key, value) :: fields, [], x, y, _, _, h => by
      rw [fieldSpellings, fieldSpellings, Runs.intercalate_cons, List.append_assoc,
        List.append_assoc, List.append_assoc] at h
      exact absurd h jsonString_ne_close
  | (key, value) :: fields, (key', value') :: others, x, y, hfields, hothers, h => by
      rw [Json.isFiniteFields, Bool.and_eq_true] at hfields hothers
      rw [fieldSpellings, fieldSpellings, Runs.intercalate_cons, Runs.intercalate_cons] at h
      simp only [List.append_assoc] at h
      obtain ⟨rfl, hvalue⟩ := jsonString_read h
      obtain ⟨rfl, hrest⟩ := spelling_read htexts hcomma value hfields.1 hothers.1
        (ends_of_flatMap hcomma (.inr rfl)) (ends_of_flatMap hcomma (.inr rfl))
        (List.append_cancel_left hvalue)
      obtain ⟨rfl, hxy⟩ := moreFields_read htexts hcomma fields hfields.2 hothers.2 hrest
      exact ⟨rfl, hxy⟩

/-- The fields after the first one, each behind a separator. -/
theorem moreFields_read (htexts : FloatTexts) (hcomma : ∃ rest, separators.1.toList = ',' :: rest) :
    ∀ (fields : List (String × Json)) {others : List (String × Json)}
    {x y : List Char}, Json.isFiniteFields fields = true → Json.isFiniteFields others = true →
      (fieldSpellings separators fields).flatMap (separators.1.toList ++ ·) ++ ('\x7d' :: x) =
        (fieldSpellings separators others).flatMap (separators.1.toList ++ ·) ++ ('\x7d' :: y) →
      fields = others ∧ x = y
  | [], [], x, y, _, _, h => ⟨rfl, (List.cons.inj h).2⟩
  | [], (key', value') :: others, x, y, _, _, h => by
      rw [fieldSpellings, fieldSpellings, List.flatMap_cons, List.append_assoc] at h
      exact absurd h.symm (separator_ne_close hcomma (.inr rfl))
  | (key, value) :: fields, [], x, y, _, _, h => by
      rw [fieldSpellings, fieldSpellings, List.flatMap_cons, List.append_assoc] at h
      exact absurd h (separator_ne_close hcomma (.inr rfl))
  | (key, value) :: fields, (key', value') :: others, x, y, hfields, hothers, h => by
      rw [Json.isFiniteFields, Bool.and_eq_true] at hfields hothers
      rw [fieldSpellings, fieldSpellings, List.flatMap_cons, List.flatMap_cons] at h
      simp only [List.append_assoc] at h
      obtain ⟨rfl, hvalue⟩ := jsonString_read (List.append_cancel_left h)
      obtain ⟨rfl, hrest⟩ := spelling_read htexts hcomma value hfields.1 hothers.1
        (ends_of_flatMap hcomma (.inr rfl)) (ends_of_flatMap hcomma (.inr rfl))
        (List.append_cancel_left hvalue)
      obtain ⟨rfl, hxy⟩ := moreFields_read htexts hcomma fields hfields.2 hothers.2 hrest
      exact ⟨rfl, hxy⟩

end

include htexts hcomma in
/-- Finite values have one text exactly when they are equal up to the order of their keys. -/
theorem dumps_eq_iff {allowNan : Bool} {value other : Json} (hvalue : value.isFinite = true)
    (hother : other.isFinite = true) :
    dumps separators allowNan value = dumps separators allowNan other ↔
      value.sortKeys = other.sortKeys := by
  rw [dumps_eq_spelling separators allowNan hvalue, dumps_eq_spelling separators allowNan hother]
  constructor
  · intro h
    have hspelling := String.ofList_injective (Except.ok.inj h)
    have hempty : Ends [] := by
      intro c hc
      exact absurd hc (by simp)
    have hsorted : value.sortKeys.isFinite = true := by rw [Json.isFinite_sortKeys, hvalue]
    have hsorted' : other.sortKeys.isFinite = true := by rw [Json.isFinite_sortKeys, hother]
    exact (spelling_read htexts hcomma value.sortKeys hsorted hsorted' hempty hempty
      (by rw [List.append_nil, List.append_nil, hspelling])).1
  · intro h
    rw [h]

end ReadValue

/-! ## A runtime that spells floats -/

section Runtime

/-- The plain runtime with floats written as numerator, point and denominator. -/
@[reducible] def fractionRuntime : PyRuntime :=
  { plainRuntime with
    floatRepr := fun x =>
      match x with
      | .finite q => toString q.num ++ "." ++ toString (q.den : ℤ)
      | .posInf => "inf"
      | .negInf => "-inf"
      | .nan => "nan" }

theorem toList_floatRepr (q : ℚ) : (@PyRuntime.floatRepr fractionRuntime (.finite q)).toList =
    (toString q.num).toList ++ ('.' :: (toString (q.den : ℤ)).toList) := by
  have htext : @PyRuntime.floatRepr fractionRuntime (.finite q) =
      toString q.num ++ "." ++ toString (q.den : ℤ) := rfl
  rw [htext, String.toList_append, String.toList_append, List.append_assoc]
  rfl

theorem fractionRuntime_floatTexts : @FloatTexts fractionRuntime := by
  refine @FloatTexts.mk fractionRuntime ?injective ?numeric ?fractional
  case injective =>
    intro p q h
    have htexts := congrArg String.toList h
    rw [toList_floatRepr, toList_floatRepr] at htexts
    have hmark : ∀ {n : ℤ}, ∀ c ∈ (toString n).toList, (c.isDigit || c = '-') = true := by
      intro n c hc
      rcases isDigit_or_of_mem_int hc with h | h <;> simp [h]
    have hpoint : ∀ {text : List Char} (c : Char), ('.' :: text).head? = some c →
        (c.isDigit || c = '-') = false := by
      intro text c hc
      obtain rfl : '.' = c := by simpa using hc
      decide
    obtain ⟨hnum, hrest⟩ := Runs.token_read hmark hmark hpoint hpoint htexts
    have hden := (List.cons.inj hrest).2
    rw [String.toList_inj, Int.toString_eq_repr, Int.toString_eq_repr, Int.repr_inj] at hnum hden
    exact Rat.ext hnum (by exact_mod_cast hden)
  case numeric =>
    intro q c hc
    rw [toList_floatRepr, List.mem_append, List.mem_cons] at hc
    rcases hc with hc | rfl | hc
    · exact isNumeric_of_mem_int hc
    · decide
    · exact isNumeric_of_mem_int hc
  case fractional =>
    intro q
    exact ⟨'.', by rw [toList_floatRepr]; simp, .inl rfl⟩

end Runtime

end FogHttpBenchmark.Python
