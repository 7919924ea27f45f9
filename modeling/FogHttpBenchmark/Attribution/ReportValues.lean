import FogHttpBenchmark.Attribution.Fingerprint
import FogHttpBenchmark.Statistics

/-!
# Values of research reports

The lenient readers of decoded research evidence and the statistics over it. A reader replaces
a value of another type by a default; `number` raises for an integer that fits no float.
-/

set_option autoImplicit false

namespace FogHttpBenchmark.Attribution

open Library Library.Checked Python OrderStatistics

/-! ## Readers -/

section Readers

/-- `integer(value)` and `int_value(value)`; `bool` is a different type. -/
def integer (value : Json) : ℤ := value.asInt?.getD 0

@[simp] theorem integer_int (n : ℤ) : integer (.int n) = n := rfl

/-- `list_value(value)`. -/
def listValue (value : Json) : List Json := value.asList?.getD []

/-- `number(value)`. -/
def number (value : Json) : Py (Option ℚ) := finiteNumber value

/-- The numbers among the values, in their order. -/
def numbers (values : List Json) : Py (List ℚ) := do
  let found ← values.mapM number
  pure (found.filterMap id)

/-- `number(value)` of a field that is a number or null. -/
def ofNumber (value : Option ℚ) : Json := .ofOption .ofFloat value

/-- The distinct texts in ascending order, `sorted(set(texts))`. -/
def sortedTexts (texts : List String) : Json :=
  .arr ((texts.dedup.insertionSort (· ≤ ·)).map .str)

/-- `a / b` of two integers; a quotient that fits no float raises. -/
def trueDiv (a b : ℤ) : Py ℚ :=
  let quotient : ℚ := a / b
  if |quotient| < 2 ^ 1024 - 2 ^ 970 then pure quotient
  else throw ⟨.overflowError, "integer division result too large for a float"⟩

/-- `math.isclose(a, b, rel_tol=1e-12, abs_tol=1e-12)`. -/
def isClose (a b : ℚ) : Bool :=
  let tolerance : ℚ := 1 / 10 ^ 12
  |a - b| ≤ max (tolerance * max |a| |b|) tolerance

end Readers

/-! ## Statistics -/

section Statistics

/-- `LIFECYCLE_MIN_VARIATION_REPETITIONS`. -/
def minVariationRepetitions : ℕ := 3

def medianOptional (values : List (Option ℚ)) : Option ℚ :=
  let present := values.filterMap id
  if present.isEmpty then none else some (median present)

def maximumOptional (values : List (Option ℚ)) : Option ℚ := (values.filterMap id).max?

def minimumOptional (values : List (Option ℚ)) : Option ℚ := (values.filterMap id).min?

/-- `quantile(samples, key, fraction)` on the values under the key. -/
def quantile (values : List Json) (fraction : ℚ) : Py (Option ℚ) := do
  let found ← numbers values
  let present := sorted found
  let index := roundHalfEven (fraction * ((present.length : ℤ) - 1 : ℤ))
  pure (if present.isEmpty then none else present[index.toNat]?)

def cvOptional (values : List ℚ) : Option ℚ :=
  if values.length < minVariationRepetitions ∨ mean values = 0 then none
  else some (stdev values / mean values * 100)

end Statistics

end FogHttpBenchmark.Attribution
