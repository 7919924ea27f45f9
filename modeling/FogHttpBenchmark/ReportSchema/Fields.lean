import FogHttpBenchmark.Python.Text

/-!
# Field decoders

The readers of single JSON values that every check of a saved report is built
from: an object, a list of objects, a nonempty text, an integer with a minimum and
a finite number with an optional minimum. Each returns the decoded value or raises
with the path of the field.

For each reader one lemma says exactly on which values it returns and what it
returns there (`requireObject_eq_ok` and its siblings). The row checks are proved
from these lemmas alone.
-/

set_option autoImplicit false

namespace FogHttpBenchmark.ReportSchema

open Library Python

/-! ## The readers -/

section Readers

def requireObject (value : Json) (path : String) : Py JsonObject :=
  match value with
  | .obj fields => pure fields
  | _ => throw (typeError (path ++ " must be an object"))

/-- `[require_object(item, …) for index, item in enumerate(items)]`, from `index` on. -/
def requireObjects (path : String) : ℕ → List Json → Py (List JsonObject)
  | _, [] => pure []
  | index, item :: items => do
      let row ← requireObject item (path ++ "[" ++ toString index ++ "]")
      let rows ← requireObjects path (index + 1) items
      pure (row :: rows)

def requireRows (value : Json) (path : String) : Py (List JsonObject) :=
  match value with
  | .arr items => requireObjects path 0 items
  | _ => throw (typeError (path ++ " must be a list of objects"))

def requireString (value : Json) (path : String) : Py String :=
  match value with
  | .str s =>
      if isBlank s then throw (valueError (path ++ " must be a nonempty string")) else pure s
  | _ => throw (valueError (path ++ " must be a nonempty string"))

/-- `type(value) is int` leaves out `bool`. -/
def requireInteger (value : Json) (path : String) (minimum : ℤ) : Py ℤ :=
  match value with
  | .int n =>
      if n < minimum then
        throw (valueError (path ++ " must be an integer >= " ++ toString minimum))
      else pure n
  | _ => throw (valueError (path ++ " must be an integer >= " ++ toString minimum))

/-- The text that a bounded number must meet, `""` without a bound. The only bound in
use is 0.0, which `repr` and the `.1f` format spell alike. -/
def minimumText : Option ℚ → String
  | some m => " >= " ++ fixedOne (.finite m)
  | none => ""

/-- The check on a number after its conversion to a float. -/
def requireFinite (number : PyFloat) (path : String) (minimum : Option ℚ) : Py ℚ :=
  match number with
  | .finite q =>
      if minimum.any (fun m => q < m) then
        throw (valueError (path ++ " must be a finite number" ++ minimumText minimum))
      else pure q
  | _ => throw (valueError (path ++ " must be a finite number" ++ minimumText minimum))

def requireNumber (value : Json) (path : String) (minimum : Option ℚ) : Py ℚ :=
  match value with
  | .int n =>
      match floatOfInt n with
      | .ok number => requireFinite number path minimum
      | .error _ => throw (valueError (path ++ " must be a finite number"))
  | .float number => requireFinite number path minimum
  | _ => throw (typeError (path ++ " must be a finite number"))

end Readers

/-! ## When a reader returns -/

section Returns

theorem requireObject_eq_ok {value : Json} {path : String} {o : JsonObject} :
    requireObject value path = Except.ok o ↔ value = .obj o := by
  cases value with
  | obj fields => simp [requireObject]
  | _ => simp [requireObject]

theorem requireObjects_eq_ok {path : String} {items : List Json} {rows : List JsonObject} :
    ∀ {index : ℕ},
      requireObjects path index items = Except.ok rows ↔ items = rows.map Json.obj := by
  induction items generalizing rows with
  | nil =>
      intro index
      cases rows <;> simp [requireObjects]
  | cons item items ih =>
      intro index
      rw [requireObjects, Checked.bind_eq_ok]
      constructor
      · rintro ⟨row, hrow, hrest⟩
        obtain ⟨rows', hrows', hpure⟩ := Checked.bind_eq_ok.1 hrest
        rw [Checked.pure_eq_ok] at hpure
        subst hpure
        rw [requireObject_eq_ok.1 hrow, ih.1 hrows', List.map_cons]
      · intro h
        cases rows with
        | nil => simp at h
        | cons row rows =>
            rw [List.map_cons, List.cons.injEq] at h
            refine ⟨row, requireObject_eq_ok.2 h.1, ?_⟩
            exact Checked.bind_eq_ok.2 ⟨rows, ih.2 h.2, rfl⟩

/-- A list of objects decodes to its objects in order. -/
theorem requireRows_eq_ok {value : Json} {path : String} {rows : List JsonObject} :
    requireRows value path = Except.ok rows ↔ value = .arr (rows.map Json.obj) := by
  cases value with
  | arr items => simp [requireRows, requireObjects_eq_ok]
  | _ => simp [requireRows]

theorem requireString_eq_ok {value : Json} {path : String} {s : String} :
    requireString value path = Except.ok s ↔ value = .str s ∧ isBlank s = false := by
  cases value with
  | str t =>
      by_cases ht : isBlank t = true
      · simp only [requireString, ht, if_true, Checked.throw_eq_error, reduceCtorEq, Json.str.injEq,
          false_iff, not_and, Bool.not_eq_false]
        rintro rfl
        exact ht
      · have ht' : isBlank t = false := by simpa using ht
        simp only [requireString, ht', Bool.false_eq_true, if_false, Checked.pure_eq_ok,
          Json.str.injEq]
        constructor
        · rintro rfl
          exact ⟨rfl, ht'⟩
        · rintro ⟨rfl, -⟩
          rfl
  | _ => simp [requireString]

theorem requireInteger_eq_ok {value : Json} {path : String} {minimum n : ℤ} :
    requireInteger value path minimum = Except.ok n ↔ value = .int n ∧ minimum ≤ n := by
  cases value with
  | int m =>
      rw [requireInteger, Checked.ite_throw_eq_ok, Checked.pure_eq_ok, Json.int.injEq]
      constructor
      · rintro ⟨hm, rfl⟩
        exact ⟨rfl, by omega⟩
      · rintro ⟨rfl, hm⟩
        exact ⟨by omega, rfl⟩
  | _ => simp [requireInteger]

theorem requireFinite_eq_ok {number : PyFloat} {path : String} {minimum : Option ℚ} {q : ℚ} :
    requireFinite number path minimum = Except.ok q ↔
      number = .finite q ∧ ∀ m, minimum = some m → m ≤ q := by
  cases number with
  | finite r =>
      rw [requireFinite, Checked.ite_throw_eq_ok, Checked.pure_eq_ok, PyFloat.finite.injEq]
      cases minimum with
      | none => simp
      | some m =>
          simp only [Option.any_some, decide_eq_true_eq, not_lt, Option.some.injEq]
          constructor
          · rintro ⟨hm, rfl⟩
            exact ⟨rfl, fun m' h => h ▸ hm⟩
          · rintro ⟨rfl, hm⟩
            exact ⟨hm m rfl, rfl⟩
  | _ => simp [requireFinite]

/-- `value` is a number other than a `bool` and stands for the finite `q`. -/
def IsNumber (value : Json) (q : ℚ) : Prop :=
  (∃ n : ℤ, value = .int n ∧ fitsFloat n = true ∧ q = n) ∨ value = .float (.finite q)

theorem requireNumber_eq_ok {value : Json} {path : String} {minimum : Option ℚ} {q : ℚ} :
    requireNumber value path minimum = Except.ok q ↔
      IsNumber value q ∧ ∀ m, minimum = some m → m ≤ q := by
  cases value with
  | int n =>
      rw [requireNumber]
      by_cases hn : fitsFloat n = true
      · have hfloat : floatOfInt n = Except.ok (.finite n) := floatOfInt_eq_ok.2 ⟨hn, rfl⟩
        rw [hfloat]
        simp only [requireFinite_eq_ok, IsNumber, PyFloat.finite.injEq, Json.int.injEq,
          reduceCtorEq, or_false, exists_eq_left']
        constructor
        · rintro ⟨rfl, hm⟩
          exact ⟨⟨hn, rfl⟩, hm⟩
        · rintro ⟨⟨-, rfl⟩, hm⟩
          exact ⟨rfl, hm⟩
      · have hfloat : floatOfInt n =
            Except.error ⟨.overflowError, "int too large to convert to float"⟩ := by
          rw [floatOfInt, if_neg hn]
          rfl
        rw [hfloat]
        simp only [IsNumber, Checked.throw_eq_error, reduceCtorEq, Json.int.injEq, or_false,
          exists_eq_left', false_iff, not_and]
        intro h
        exact absurd h.1 hn
  | float x =>
      rw [requireNumber, requireFinite_eq_ok]
      simp [IsNumber]
  | _ => simp [requireNumber, IsNumber]

theorem IsNumber.float (q : ℚ) : IsNumber (.float (.finite q)) q := Or.inr rfl

end Returns

end FogHttpBenchmark.ReportSchema
