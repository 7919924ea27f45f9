import FogHttpBenchmark.Validity.Models

/-!
# Reading rows for validity

The lenient readers that the validity checks use on aggregate rows and metadata. Unlike
the field decoders of the report schema they replace a missing or foreign value by a
default; `int_value` and `optional_float_field` raise only where Python's own conversion
does. The reference and the label of a row name it in a reason.
-/

set_option autoImplicit false

namespace FogHttpBenchmark.Validity

open Library Library.Checked Python

/-! ## Constants -/

section Constants

/-- `HIGH_CV_WARNING_PERCENT`. -/
def highCvWarningPercent : ℚ := 50

/-- The fields by which a reason refers to a row. -/
def rowReferenceFields : List String :=
  ["mode", "client", "scenario", "case", "group", "target_scheme", "config", "lifecycle", "kind",
    "profile", "read", "consume", "concurrency", "request_limit", "client_count", "iterations"]

/-- The primary metrics, in the order in which they are looked for. -/
def primaryMetricFields : List String :=
  ["ok_req_s_median", "ok_streams_s_median", "ops_s_median", "ok_requests_total"]

/-- The coefficients of variation that a row may have. -/
def cvFields : List String :=
  ["req_s_cv_percent", "streams_s_cv_percent", "ops_s_cv_percent", "duration_s_cv_percent"]

end Constants

section Readers

variable [PyRuntime]

/-! ## Values -/

/-- `int_value(value, default=default)`. -/
def intValue (value : Json) (default : ℤ) : Py ℤ :=
  match value with
  | .bool b => pure (if b then 1 else 0)
  | .int n => pure n
  | .float x => intOfFloat x
  | .str text => pure ((PyRuntime.intOfText text).getD default)
  | _ => pure default

/-- `int_field(row, key)`: a missing value is 0. -/
def intField (row : JsonObject) (key : String) : Py ℤ := intValue (row.getOr key (.int 0)) 0

/-- The counts of a dictionary field, in its order; keys of JSON objects are texts. -/
def dictField (row : JsonObject) (key : String) : Py (List (String × ℤ)) :=
  match row.get key with
  | .obj fields => fields.mapM fun entry => do
      let count ← intValue entry.2 0
      pure (entry.1, count)
  | _ => pure []

/-- `str_field(row, key, default)`. -/
def strField (row : JsonObject) (key default : String) : String :=
  strJson (row.getOr key (.str default))

/-- `optional_float_field(row, key)`: a number, or a text that spells one. -/
def optionalFloatField (row : JsonObject) (key : String) : Py (Option PyFloat) :=
  match row.get key with
  | .bool b => pure (some (.finite (if b then 1 else 0)))
  | .int n => do
      let x ← floatOfInt n
      pure (some x)
  | .float x => pure (some x)
  | .str text => pure (PyRuntime.floatOfText text)
  | _ => pure none

/-- The first primary metric that a row has. -/
def firstPrimaryValue (row : JsonObject) : List String → Py (Option PyFloat)
  | [] => pure none
  | field :: fields => do
      let value ← optionalFloatField row field
      match value with
      | some x => pure (some x)
      | none => firstPrimaryValue row fields

/-- The number of successes, of requests or else of streams. -/
def okTotalValue (row : JsonObject) : Py (Option ℤ) :=
  if (row.get "ok_requests_total").isNone then
    if (row.get "ok_streams_total").isNone then pure none
    else some <$> intField row "ok_streams_total"
  else some <$> intField row "ok_requests_total"

/-! ## Reasons -/

/-- The fields of a row that a reason keeps. -/
def rowReference (row : JsonObject) : JsonObject :=
  rowReferenceFields.filterMap fun field => (row.lookup field).map fun value => (field, value)

/-- The texts of the reference fields that a row has and that are not `""`. -/
def labelParts (row : JsonObject) : List String :=
  rowReferenceFields.filterMap fun field =>
    match row.lookup field with
    | some (.str "") => none
    | some value => some (strJson value)
    | none => none

/-- The label of a row, or of the child that a reason is about. -/
def rowLabel (row : JsonObject) : String :=
  let parts := labelParts row
  let parts :=
    if parts.isEmpty && row.has "sequence" then
      ["child=" ++ strJson (row.get "sequence"), strField row "client" "",
        strField row "scenario" ""]
    else parts
  if parts.isEmpty then "-" else String.intercalate " / " parts

/-- A reason about a row. -/
def validityReason (status : ValidityStatus) (code message : String) (row : JsonObject) :
    ValidityReason where
  status := status
  code := code
  message := message
  rowLabel := rowLabel row
  row := row

end Readers

/-! ## Reading integers -/

section Integers

variable [PyRuntime]

@[simp] theorem intValue_int (n default : ℤ) : intValue (.int n) default = .ok n := rfl

theorem intField_of_int {row : JsonObject} {key : String} {n : ℤ} (h : row.get key = .int n) :
    intField row key = .ok n := by
  have hlookup : row.lookup key = some (.int n) := by
    have hhas : row.has key = true := JsonObject.has_of_get_ne_null (by rw [h]; exact nofun)
    rw [JsonObject.lookup_of_has hhas, h]
  rw [intField, JsonObject.getOr, hlookup]
  rfl

/-- Where an error map has integer counts, `dict_field` reads them as they stand. -/
theorem dictField_encodeCounts {row : JsonObject} {key : String} {counts : List (String × ℤ)}
    (h : row.get key = .obj (encodeCounts counts)) : dictField row key = .ok counts := by
  rw [dictField, h]
  have hcounts : (encodeCounts counts).mapM (fun entry => do
      let count ← intValue entry.2 0
      pure (entry.1, count)) = (Except.ok counts : Py (List (String × ℤ))) := by
    rw [mapM_eq_ok, encodeCounts, List.forall₂_map_left_iff]
    exact List.forall₂_same.2 fun entry _ => rfl
  exact hcounts

end Integers

end FogHttpBenchmark.Validity
