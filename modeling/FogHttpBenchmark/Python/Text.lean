import FogHttpBenchmark.Library.Runs
import FogHttpBenchmark.Python.Value

/-!
# Text and conversions

How values turn into text and back: `str`, `repr`, `json.dumps`, the `.1f` format,
`str.strip`, and the conversions `int(…)`, `float(…)` and `math.isfinite(…)` with
the exceptions that they raise.

What depends on tables or algorithms of the interpreter (the shortest spelling of a
float, the printable characters, the spellings that `int` and `float` accept) is a
field of `PyRuntime`. The results hold for every runtime.
-/

set_option autoImplicit false

namespace FogHttpBenchmark.Python

open Library

/-- The parts of the interpreter that the code uses and that are not spelled out here. -/
class PyRuntime where
  /-- `repr(x)` of a float. -/
  floatRepr : PyFloat → String
  /-- `c.isprintable()`. -/
  isPrintable : Char → Bool
  /-- `int(text)`, or nothing where it raises `ValueError`. -/
  intOfText : String → Option ℤ
  /-- `float(text)`, or nothing where it raises `ValueError`. -/
  floatOfText : String → Option PyFloat
  /-- `hashlib.sha256(data).hexdigest()`. -/
  sha256 : List UInt8 → String

/-! ## Characters -/

section Characters

/-- `c.isspace()`, the characters that `str.strip` removes. -/
def isSpace (c : Char) : Bool :=
  let n := c.toNat
  (9 ≤ n && n ≤ 13) || (28 ≤ n && n ≤ 32) || n == 0x85 || n == 0xa0 || n == 0x1680 ||
    (0x2000 ≤ n && n ≤ 0x200a) || n == 0x2028 || n == 0x2029 || n == 0x202f ||
    n == 0x205f || n == 0x3000

/-- `not text.strip()`. -/
def isBlank (text : String) : Bool := text.toList.all isSpace

/-- The lower-case hexadecimal digit of a number below 16. -/
def hexDigit (n : ℕ) : Char :=
  if n < 10 then Char.ofNat (48 + n) else Char.ofNat (87 + n)

/-- `n` in `width` hexadecimal digits. -/
def hexDigits : ℕ → ℕ → List Char
  | 0, _ => []
  | width + 1, n => hexDigits width (n / 16) ++ [hexDigit (n % 16)]

/-- `type(exc).__name__`; a class name is never blank. -/
structure ExceptionName where
  name : String
  nonblank : isBlank name = false

end Characters

/-! ## Encoding -/

section Encoding

/-- `text.encode()`, the UTF-8 bytes of the text. -/
def encode (text : String) : List UInt8 := text.toList.flatMap String.utf8EncodeChar

theorem encodeChar_ne_nil (c : Char) : String.utf8EncodeChar c ≠ [] := by
  intro h
  have hlength := String.length_utf8EncodeChar c
  rw [h, List.length_nil] at hlength
  exact absurd c.utf8Size_pos (by omega)

end Encoding

/-! ## Text of values -/

section Repr

variable [PyRuntime]

/-- One character of `repr(text)` between quotes `quote`. -/
def reprChar (quote c : Char) : List Char :=
  if c = quote ∨ c = '\\' then ['\\', c]
  else if c = '\n' then ['\\', 'n']
  else if c = '\r' then ['\\', 'r']
  else if c = '\t' then ['\\', 't']
  else if PyRuntime.isPrintable c then [c]
  else if c.toNat < 0x100 then '\\' :: 'x' :: hexDigits 2 c.toNat
  else if c.toNat < 0x10000 then '\\' :: 'u' :: hexDigits 4 c.toNat
  else '\\' :: 'U' :: hexDigits 8 c.toNat

/-- `repr(text)`; the quote is `"` when the text has `'` and no `"`. -/
def reprString (text : String) : String :=
  let quote := if text.toList.contains '\'' && !text.toList.contains '"' then '"' else '\''
  String.ofList (quote :: (text.toList.flatMap (reprChar quote) ++ [quote]))

mutual

/-- `repr(value)`. -/
def reprJson : Json → String
  | .null => "None"
  | .bool true => "True"
  | .bool false => "False"
  | .int n => toString n
  | .float x => PyRuntime.floatRepr x
  | .str s => reprString s
  | .arr items => "[" ++ String.intercalate ", " (reprItems items) ++ "]"
  | .obj fields => "\x7b" ++ String.intercalate ", " (reprFields fields) ++ "\x7d"

def reprItems : List Json → List String
  | [] => []
  | item :: items => reprJson item :: reprItems items

def reprFields : List (String × Json) → List String
  | [] => []
  | (key, value) :: fields => (reprString key ++ ": " ++ reprJson value) :: reprFields fields

end

/-- `str(value)`. -/
def strJson : Json → String
  | .str s => s
  | value => reprJson value

@[simp] theorem strJson_str (s : String) : strJson (.str s) = s := rfl

@[simp] theorem strJson_int (n : ℤ) : strJson (.int n) = toString n := rfl

/-- `repr` of a tuple of texts. -/
def reprTexts : List String → String
  | [item] => "(" ++ reprString item ++ ",)"
  | items => "(" ++ String.intercalate ", " (items.map reprString) ++ ")"

end Repr

/-! ## `json.dumps` -/

section Dumps

variable [PyRuntime]

/-- `\uXXXX`. -/
def jsonUnicode (n : ℕ) : List Char := '\\' :: 'u' :: hexDigits 4 n

/-- One character of an ASCII-only JSON string. -/
def jsonChar (c : Char) : List Char :=
  if c = '"' ∨ c = '\\' then ['\\', c]
  else if c = '\n' then ['\\', 'n']
  else if c = '\r' then ['\\', 'r']
  else if c = '\t' then ['\\', 't']
  else if c.toNat = 12 then ['\\', 'f']
  else if c.toNat = 8 then ['\\', 'b']
  else if 32 ≤ c.toNat ∧ c.toNat ≤ 126 then [c]
  else if c.toNat < 0x10000 then jsonUnicode c.toNat
  else
    -- a character outside the basic plane is written as a surrogate pair
    let n := c.toNat - 0x10000
    jsonUnicode (0xd800 + n / 0x400) ++ jsonUnicode (0xdc00 + n % 0x400)

def jsonString (text : String) : String :=
  String.ofList ('"' :: (text.toList.flatMap jsonChar ++ ['"']))

/-- The text of a float in JSON; without `allow_nan` a non-finite float raises. -/
def jsonFloat (allowNan : Bool) (x : PyFloat) : Py String :=
  match x, allowNan with
  | .finite q, _ => pure (PyRuntime.floatRepr (.finite q))
  | .posInf, true => pure "Infinity"
  | .negInf, true => pure "-Infinity"
  | .nan, true => pure "NaN"
  | x, false => throw (valueError
      ("Out of range float values are not JSON compliant: " ++ PyRuntime.floatRepr x))

mutual

/-- `json.dumps(value, sort_keys=True, separators=(items, key), allow_nan=…)`. -/
def dumps (separators : String × String) (allowNan : Bool) : Json → Py String
  | .null => pure "null"
  | .bool true => pure "true"
  | .bool false => pure "false"
  | .int n => pure (toString n)
  | .float x => jsonFloat allowNan x
  | .str s => pure (jsonString s)
  | .arr items => do
      let texts ← dumpsItems separators allowNan items
      pure ("[" ++ String.intercalate separators.1 texts ++ "]")
  | .obj fields => do
      let texts ← dumpsFields separators allowNan fields
      let sorted := texts.insertionSort (fun a b => a.1 ≤ b.1)
      pure ("\x7b" ++ String.intercalate separators.1 (sorted.map Prod.snd) ++ "\x7d")

def dumpsItems (separators : String × String) (allowNan : Bool) : List Json → Py (List String)
  | [] => pure []
  | item :: items => do
      let text ← dumps separators allowNan item
      let texts ← dumpsItems separators allowNan items
      pure (text :: texts)

/-- The members of a dictionary, each with its key for the sort. -/
def dumpsFields (separators : String × String) (allowNan : Bool) :
    List (String × Json) → Py (List (String × String))
  | [] => pure []
  | (key, value) :: fields => do
      let text ← dumps separators allowNan value
      let texts ← dumpsFields separators allowNan fields
      pure ((key, jsonString key ++ separators.2 ++ text) :: texts)

end

end Dumps

/-! ## Numeric conversions -/

section Conversions

/-- The integers that convert to a finite float. The bound is the least integer
that rounds past the largest float. -/
@[irreducible] def fitsFloat (n : ℤ) : Bool := n.natAbs < 2 ^ 1024 - 2 ^ 970

/-- `float(n)` of an integer. -/
def floatOfInt (n : ℤ) : Py PyFloat :=
  if fitsFloat n then pure (.finite n)
  else throw ⟨.overflowError, "int too large to convert to float"⟩

/-- `int(x)` of a float truncates toward zero. -/
def intOfFloat : PyFloat → Py ℤ
  | .finite q => pure (q.num.tdiv q.den)
  | .posInf => throw ⟨.overflowError, "cannot convert float infinity to integer"⟩
  | .negInf => throw ⟨.overflowError, "cannot convert float infinity to integer"⟩
  | .nan => throw ⟨.valueError, "cannot convert float NaN to integer"⟩

/-- Round a nonnegative rational to the nearest integer, ties to even. -/
def roundHalfEven (q : ℚ) : ℤ :=
  let below := ⌊q⌋
  let rest := q - below
  if rest < 1 / 2 ∨ (rest = 1 / 2 ∧ below % 2 = 0) then below else below + 1

theorem roundHalfEven_mono {p q : ℚ} (h : p ≤ q) : roundHalfEven p ≤ roundHalfEven q := by
  have hbelow : ⌊p⌋ ≤ ⌊q⌋ := Int.floor_le_floor h
  rcases hbelow.lt_or_eq with hlt | heq
  · have hp : roundHalfEven p ≤ ⌊p⌋ + 1 := by
      rw [roundHalfEven]
      split_ifs <;> omega
    have hq : ⌊q⌋ ≤ roundHalfEven q := by
      rw [roundHalfEven]
      split_ifs <;> omega
    omega
  · -- one integer part: what is rounded down for `q` is rounded down for `p`
    rw [roundHalfEven, roundHalfEven, heq]
    by_cases hq : q - ⌊q⌋ < 1 / 2 ∨ q - ⌊q⌋ = 1 / 2 ∧ ⌊q⌋ % 2 = 0
    · have hp : p - ⌊q⌋ < 1 / 2 ∨ p - ⌊q⌋ = 1 / 2 ∧ ⌊q⌋ % 2 = 0 := by
        rcases hq with hq | ⟨hq, heven⟩
        · exact .inl (by linarith)
        · rcases (show p - ⌊q⌋ ≤ 1 / 2 by linarith).lt_or_eq with hp | hp
          · exact .inl hp
          · exact .inr ⟨hp, heven⟩
      rw [if_pos hp, if_pos hq]
    · rw [if_neg hq]
      split_ifs <;> omega

/-- `f"{x:.1f}"`. -/
def fixedOne : PyFloat → String
  | .finite q =>
      let tenths := roundHalfEven (|q| * 10)
      (if q < 0 then "-" else "") ++ toString (tenths / 10) ++ "." ++ toString (tenths % 10)
  | .posInf => "inf"
  | .negInf => "-inf"
  | .nan => "nan"

/-- A number for which `math.isfinite(value)`; an integer that fits no float raises. -/
def finiteNumber (value : Json) : Py (Option ℚ) :=
  match value with
  | .int n => do
      let x ← floatOfInt n
      match x with
      | .finite q => pure (some q)
      | _ => pure none
  | .float (.finite q) => pure (some q)
  | _ => pure none

theorem floatOfInt_eq_ok {n : ℤ} {x : PyFloat} :
    floatOfInt n = Except.ok x ↔ fitsFloat n = true ∧ x = .finite n := by
  rw [floatOfInt]
  by_cases h : fitsFloat n = true
  · rw [if_pos h, Checked.pure_eq_ok]
    constructor
    · rintro rfl
      exact ⟨h, rfl⟩
    · rintro ⟨-, rfl⟩
      rfl
  · rw [if_neg h]
    simp [h]

end Conversions

/-! ## A runtime -/

section Runtime

/-- A runtime for evaluations in which no float is spelled, no text is converted to a number
and nothing is hashed. -/
@[reducible] def plainRuntime : PyRuntime where
  floatRepr _ := ""
  isPrintable c := 32 ≤ c.toNat && c.toNat ≤ 126
  intOfText _ := none
  floatOfText _ := none
  sha256 _ := ""

end Runtime

end FogHttpBenchmark.Python
