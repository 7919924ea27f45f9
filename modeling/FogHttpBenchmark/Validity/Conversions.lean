import FogHttpBenchmark.ReportSchema.Decoding
import FogHttpBenchmark.Validity.Children

/-!
# When a classification returns

The readers of the classification replace what they cannot use by a default, with one exception:
an integer beyond the range of the floats makes `float(…)` and `math.isfinite(…)` raise an
`OverflowError`, which nothing catches. On a report whose floats are finite, as the reader makes
sure of, the classification returns exactly where no such integer is converted
(`classifyReportValidity_returns_iff`).
-/

set_option autoImplicit false

namespace FogHttpBenchmark.Validity

open Library Library.Checked Python Attribution

variable [PyRuntime]

/-! ## Values -/

section Values

/-- `float(value)` does not overflow. -/
def convertible : Json → Bool
  | .int n => fitsFloat n
  | _ => true

/-- The first of the fields that has a number converts. -/
def primaryConvertible (row : JsonObject) : List String → Bool
  | [] => true
  | field :: fields =>
      match row.get field with
      | .bool _ => true
      | .int n => fitsFloat n
      | .float _ => true
      | .str text => (PyRuntime.floatOfText text).isSome || primaryConvertible row fields
      | _ => primaryConvertible row fields

/-- The numbers up to the first one that is missing or negative convert. -/
def numbersConvertible (value : JsonObject) : List String → Bool
  | [] => true
  | field :: fields =>
      match value.get field with
      | .int n => fitsFloat n && (n < 0 || numbersConvertible value fields)
      | .float (.finite q) => q < 0 || numbersConvertible value fields
      | _ => true

theorem intValue_returns {value : Json} (h : value.isFinite = true) (default : ℤ) :
    Returns (intValue value default) := by
  cases value with
  | float x =>
      cases x with
      | finite q => exact ⟨_, rfl⟩
      | _ => exact nomatch h
  | _ => exact ⟨_, rfl⟩

/-- A finite row has a value for every count. -/
theorem intField_returns {row : JsonObject} (h : (Json.obj row).isFinite = true) (key : String) :
    Returns (intField row key) :=
  intValue_returns (Json.isFinite_getOr h key rfl) 0

theorem dictField_returns {row : JsonObject} (h : (Json.obj row).isFinite = true) (key : String) :
    Returns (dictField row key) := by
  have hvalue := Json.isFinite_get h key
  rw [dictField]
  cases hget : row.get key with
  | obj fields =>
      rw [hget, Json.isFinite, Json.isFiniteFields_iff] at hvalue
      apply returns_mapM.2
      intro entry hentry
      exact (returns_bind_of_forall fun count => returns_pure _).2
        (intValue_returns (hvalue entry hentry) 0)
  | _ => exact returns_pure _

omit [PyRuntime] in
/-- An integer is converted exactly if it is not too large. -/
theorem floatOfInt_returns {n : ℤ} : Returns (floatOfInt n) ↔ fitsFloat n = true := by
  rw [floatOfInt]
  split
  case isTrue h => simp [h]
  case isFalse h => simp [h]

/-- A number is read exactly if it can be converted. -/
theorem optionalFloatField_returns {row : JsonObject} {key : String} :
    Returns (optionalFloatField row key) ↔ convertible (row.get key) = true := by
  rw [optionalFloatField]
  cases row.get key with
  | int n =>
      show Returns (floatOfInt n >>= fun x => pure (some x)) ↔ _
      rw [returns_bind_of_forall fun x => returns_pure _, floatOfInt_returns, convertible]
  | _ => simp [convertible]

/-- The primary value is read exactly if the fields up to the first that is there can be converted.
-/
theorem firstPrimaryValue_returns {row : JsonObject} {fields : List String} :
    Returns (firstPrimaryValue row fields) ↔ primaryConvertible row fields = true := by
  induction fields with
  | nil => simp [firstPrimaryValue, primaryConvertible]
  | cons field fields ih =>
      rw [firstPrimaryValue, primaryConvertible, optionalFloatField]
      cases row.get field with
      | int n =>
          by_cases hn : fitsFloat n = true
          · simp [floatOfInt, hn]
          · simp [floatOfInt, hn]
      | str text =>
          cases htext : PyRuntime.floatOfText text with
          | none => simpa [htext] using ih
          | some x => simp [htext]
      | null => simpa using ih
      | arr items => simpa using ih
      | obj fields' => simpa using ih
      | bool b => simp
      | float x => simp

omit [PyRuntime] in
theorem positiveNumber_returns {value : Json} (allowZero : Bool) :
    Returns (positiveNumber value allowZero) ↔ convertible value = true := by
  rw [positiveNumber, returns_bind_of_forall fun number => returns_pure _]
  cases value with
  | int n =>
      by_cases hn : fitsFloat n = true
      · simp [finiteNumber, floatOfInt, convertible, hn]
      · simp [finiteNumber, floatOfInt, convertible, hn]
  | float x => cases x <;> simp [finiteNumber, convertible]
  | _ => simp [finiteNumber, convertible]

omit [PyRuntime] in
/-- Numbers are looked for up to the first one that is missing. -/
theorem anyNumberMissing_returns {value : JsonObject} {fields : List String} :
    Returns (anyNumberMissing value fields) ↔ numbersConvertible value fields = true := by
  induction fields with
  | nil => simp [anyNumberMissing, numbersConvertible]
  | cons field fields ih =>
      rw [anyNumberMissing, numbersConvertible, positiveNumber]
      cases value.get field with
      | int n =>
          by_cases hn : fitsFloat n = true
          · by_cases hneg : n < 0
            · simp [finiteNumber, floatOfInt, hn, hneg, Option.filter]
            · have hnonneg : (0 : ℤ) ≤ n := by omega
              simpa [finiteNumber, floatOfInt, hn, hneg, Option.filter, hnonneg] using ih
          · simp [finiteNumber, floatOfInt, hn]
      | float x =>
          cases x with
          | finite q =>
              by_cases hneg : q < 0
              · simp [finiteNumber, hneg, Option.filter]
              · have hnonneg : 0 ≤ q := not_lt.1 hneg
                simpa [finiteNumber, hneg, Option.filter, hnonneg] using ih
          | _ => simp [finiteNumber]
      | _ => simp [finiteNumber]

end Values

/-! ## Rows -/

section Rows

/-- What the classification of a row converts to a float: its primary value and its
variations. -/
def rowConvertible (suite : Option Suite) (row : JsonObject) : Bool :=
  (resourceExpectedPressureRow suite row || primaryConvertible row primaryMetricFields) &&
    cvFields.all fun field => convertible (row.get field)

/-- The proxy checks convert nothing. -/
theorem proxySpecificReasons_returns (suite : Option Suite) {row : JsonObject}
    (h : (Json.obj row).isFinite = true) : Returns (proxySpecificReasons suite row) := by
  rw [proxySpecificReasons]
  split
  case isTrue => exact returns_pure _
  case isFalse =>
    obtain ⟨errorTypes, herrors⟩ := dictField_returns h "error_types"
    obtain ⟨okRequests, hok⟩ := intField_returns h "ok_requests_total"
    obtain ⟨measuredHttp, hhttp⟩ := intField_returns h "measured_proxy_http_requests_max"
    obtain ⟨measuredConnect, hconnect⟩ := intField_returns h "measured_proxy_connect_requests_max"
    obtain ⟨totalHttp, hhttp'⟩ := intField_returns h "total_proxy_http_requests_max"
    obtain ⟨totalConnect, hconnect'⟩ := intField_returns h "total_proxy_connect_requests_max"
    simp only [herrors, hok, hhttp, hconnect, hhttp', hconnect', ok_bind, returns_pure]

theorem unexplainedErrorCount_returns (suite : Option Suite) {row : JsonObject}
    (h : (Json.obj row).isFinite = true) (errorsTotal : ℤ) (errorField : ErrorField) :
    Returns (unexplainedErrorCount suite row errorsTotal errorField) := by
  obtain ⟨errorTypes, herrors⟩ := dictField_returns h errorField.name
  obtain ⟨total, htotal⟩ := intField_returns h errorField.totalField
  have hunexpected : Returns (unexpectedErrorCount suite row errorsTotal errorField) := by
    rw [unexpectedErrorCount]
    split
    case isTrue => exact returns_pure _
    case isFalse =>
      split
      case isTrue => exact returns_pure _
      case isFalse =>
        rw [herrors, ok_bind]
        split
        case isTrue => exact returns_pure _
        case isFalse => exact returns_pure _
  obtain ⟨unexpected, hunexpected⟩ := hunexpected
  rw [unexplainedErrorCount, hunexpected, ok_bind]
  split
  case isFalse => exact returns_pure _
  case isTrue =>
    rw [compatibilityExpectedErrorCount, herrors, ok_bind, htotal, ok_bind]
    split
    case isTrue => exact returns_pure _
    case isFalse => exact returns_pure _

theorem compatibilityFailureReasons_returns (suite : Option Suite) {row : JsonObject}
    (h : (Json.obj row).isFinite = true) : Returns (compatibilityFailureReasons suite row) := by
  have hobserved : Returns (failureFields.mapM (observedFailure suite row)) := by
    apply returns_mapM.2
    intro pair _
    obtain ⟨errorTypes, herrors⟩ := dictField_returns h pair.2.name
    rw [observedFailure]
    split
    case isFalse => exact returns_pure _
    case isTrue =>
      rw [herrors, ok_bind]
      split
      case isTrue => exact returns_pure _
      case isFalse => exact returns_pure _
  obtain ⟨observed, hobserved⟩ := hobserved
  rw [compatibilityFailureReasons, hobserved, ok_bind]
  dsimp only
  split
  case isTrue => exact returns_pure _
  case isFalse => exact returns_pure _

/-- The error checks convert nothing. -/
theorem errorReasons_returns (suite : Option Suite) {row : JsonObject}
    (h : (Json.obj row).isFinite = true) : Returns (errorReasons suite row) := by
  obtain ⟨errorsTotal, herrors⟩ := intField_returns h "errors_total"
  obtain ⟨warmupTotal, hwarmup⟩ := intField_returns h "warmup_errors_total"
  obtain ⟨unexpected, hunexpected⟩ :=
    unexplainedErrorCount_returns suite h errorsTotal .errorTypes
  obtain ⟨unexpectedWarmup, hunexpectedWarmup⟩ :=
    unexplainedErrorCount_returns suite h warmupTotal .warmupErrorTypes
  obtain ⟨compatibility, hcompatibility⟩ := compatibilityFailureReasons_returns suite h
  have hreported : Returns (reportsMeasuredErrors row unexpected) := by
    obtain ⟨errorTypes, hmap⟩ := dictField_returns h "error_types"
    rw [reportsMeasuredErrors]
    split
    case isFalse => exact returns_pure _
    case isTrue =>
      rw [hasProxyBypassErrors, hmap]
      exact returns_pure _
  obtain ⟨reported, hreported⟩ := hreported
  simp only [errorReasons, herrors, hwarmup, hunexpected, hreported, hunexpectedWarmup,
    hcompatibility, ok_bind, returns_pure]

/-- The check of the primary metric converts it, where the row is checked at all. -/
theorem zeroPrimaryMetricReasons_returns {suite : Option Suite} {row : JsonObject}
    (h : (Json.obj row).isFinite = true) :
    Returns (zeroPrimaryMetricReasons suite row) ↔
      (resourceExpectedPressureRow suite row || primaryConvertible row primaryMetricFields) =
        true := by
  rw [zeroPrimaryMetricReasons]
  split
  case isTrue hpressure => simp [hpressure]
  case isFalse hpressure =>
    rw [Bool.not_eq_true] at hpressure
    rw [hpressure, Bool.false_or, ← firstPrimaryValue_returns]
    obtain ⟨errorsTotal, herrors⟩ := intField_returns h "errors_total"
    have hok : Returns (okTotalValue row) := by
      obtain ⟨requests, hrequests⟩ := intField_returns h "ok_requests_total"
      obtain ⟨streams, hstreams⟩ := intField_returns h "ok_streams_total"
      rw [okTotalValue]
      split
      case isTrue =>
        split
        case isTrue => exact returns_pure _
        case isFalse => exact ⟨_, by rw [hstreams]; rfl⟩
      case isFalse => exact ⟨_, by rw [hrequests]; rfl⟩
    obtain ⟨okTotal, hok⟩ := hok
    apply returns_bind_of_forall
    intro primaryValue
    split
    case isTrue => exact returns_pure _
    case isFalse =>
      rw [herrors, ok_bind, hok, ok_bind]
      split
      case isTrue => exact returns_pure _
      case isFalse => exact returns_pure _

/-- Every coefficient of variation is converted. -/
theorem variationReasons_returns {row : JsonObject} :
    Returns (variationReasons row) ↔
      (cvFields.all fun field => convertible (row.get field)) = true := by
  rw [variationReasons, returns_bind_of_forall fun reasons => returns_pure _, returns_mapM,
    List.all_eq_true]
  refine forall₂_congr fun field _ => ?_
  rw [← optionalFloatField_returns, variationReason]
  apply returns_bind_of_forall
  intro value
  cases value with
  | none => exact returns_pure _
  | some cv =>
      show Returns (if variationAccepted cv then _ else _)
      split
      case isTrue => exact returns_pure _
      case isFalse => exact returns_pure _

/-- The classification of a row with finite floats returns exactly where what it converts to a
float fits. -/
theorem rowReasons_returns {suite : Option Suite} {row : JsonObject}
    (h : (Json.obj row).isFinite = true) :
    Returns (rowReasons suite row) ↔ rowConvertible suite row = true := by
  obtain ⟨proxy, hproxy⟩ := proxySpecificReasons_returns suite h
  obtain ⟨errors, herrors⟩ := errorReasons_returns suite h
  have hrecovery : Returns (resourceRecoveryReasons suite row) := by
    obtain ⟨failures, hfailures⟩ := intField_returns h "recovery_failures"
    rw [resourceRecoveryReasons]
    split
    case isTrue => exact returns_pure _
    case isFalse =>
      rw [hfailures, ok_bind]
      split
      case isTrue => exact returns_pure _
      case isFalse => exact returns_pure _
  obtain ⟨recovery, hrecovery⟩ := hrecovery
  rw [rowReasons, hproxy, ok_bind, herrors, ok_bind, hrecovery, rowConvertible,
    Bool.and_eq_true, ← zeroPrimaryMetricReasons_returns h, ← variationReasons_returns]
  constructor
  · intro hreturns
    obtain ⟨zero, hzero, hreturns⟩ := returns_bind.1 hreturns
    obtain ⟨variation, hvariation, -⟩ := returns_bind.1 hreturns
    exact ⟨⟨zero, hzero⟩, ⟨variation, hvariation⟩⟩
  · rintro ⟨⟨zero, hzero⟩, ⟨variation, hvariation⟩⟩
    rw [hzero, ok_bind, hvariation]
    exact returns_pure _

end Rows

/-! ## Fingerprints -/

section Fingerprints

mutual

/-- A finite value has a JSON text, also where non-finite numbers are refused. -/
theorem dumps_returns (separators : String × String) (allowNan : Bool) :
    ∀ {value : Json}, value.isFinite = true → Returns (dumps separators allowNan value)
  | .null, _ => returns_pure _
  | .bool true, _ => returns_pure _
  | .bool false, _ => returns_pure _
  | .int _, _ => returns_pure _
  | .float (.finite _), _ => returns_pure _
  | .float .posInf, h => nomatch h
  | .float .negInf, h => nomatch h
  | .float .nan, h => nomatch h
  | .str _, _ => returns_pure _
  | .arr items, h => by
      obtain ⟨texts, htexts⟩ := dumpsItems_returns separators allowNan h
      rw [dumps, htexts]
      exact returns_pure _
  | .obj fields, h => by
      obtain ⟨texts, htexts⟩ := dumpsFields_returns separators allowNan h
      rw [dumps, htexts]
      exact returns_pure _

theorem dumpsItems_returns (separators : String × String) (allowNan : Bool) :
    ∀ {items : List Json}, Json.isFiniteItems items = true →
      Returns (dumpsItems separators allowNan items)
  | [], _ => returns_pure _
  | item :: items, h => by
      rw [Json.isFiniteItems, Bool.and_eq_true] at h
      obtain ⟨text, htext⟩ := dumps_returns separators allowNan h.1
      obtain ⟨texts, htexts⟩ := dumpsItems_returns separators allowNan h.2
      rw [dumpsItems, htext, ok_bind, htexts]
      exact returns_pure _

theorem dumpsFields_returns (separators : String × String) (allowNan : Bool) :
    ∀ {fields : List (String × Json)}, Json.isFiniteFields fields = true →
      Returns (dumpsFields separators allowNan fields)
  | [], _ => returns_pure _
  | (key, value) :: fields, h => by
      rw [Json.isFiniteFields, Bool.and_eq_true] at h
      obtain ⟨text, htext⟩ := dumps_returns separators allowNan h.1
      obtain ⟨texts, htexts⟩ := dumpsFields_returns separators allowNan h.2
      rw [dumpsFields, htext, ok_bind, htexts]
      exact returns_pure _

end

/-- Finite conditions have a canonical text. -/
theorem conditionFingerprint_returns {conditions : JsonObject}
    (h : (Json.obj conditions).isFinite = true) : Returns (conditionFingerprint conditions) := by
  obtain ⟨encoded, hencoded⟩ := dumps_returns (",", ":") false h
  rw [conditionFingerprint, hencoded]
  exact returns_pure _

omit [PyRuntime] in
theorem isFinite_objectValue {value : Json} (h : value.isFinite = true) :
    (Json.obj (objectValue value)).isFinite = true := by
  cases value with
  | obj fields => exact h
  | _ => rfl

/-- The fingerprint of finite conditions is computed. -/
theorem fingerprintReasons_returns {value : JsonObject} (h : (Json.obj value).isFinite = true) :
    Returns (fingerprintReasons value) := by
  apply (returns_bind_of_forall fun valid => returns_pure _).2
  have hconditions := Json.isFinite_get h "conditions"
  rw [fingerprintValid]
  cases hget : value.get "conditions" with
  | obj conditions =>
      rw [hget] at hconditions
      obtain ⟨fingerprint, hfingerprint⟩ := conditionFingerprint_returns hconditions
      simp only [Json.asObject?, hfingerprint, returns_pure]
  | _ => exact returns_pure _

theorem harnessFingerprint_returns {metadata : JsonObject}
    (h : (Json.obj metadata).isFinite = true) : Returns (harnessFingerprint metadata) := by
  have hmanifest := Json.isFinite_get
    (isFinite_objectValue (Json.isFinite_get
      (isFinite_objectValue (Json.isFinite_get h "research_provenance")) "manifest")) "harness"
  rw [harnessFingerprint]
  cases hharness : (objectValue ((objectValue (metadata.get "research_provenance")).get
      "manifest")).get "harness" with
  | obj harness =>
      rw [hharness] at hmanifest
      simp only [Json.asObject?]
      have hfiles := Json.isFinite_get hmanifest "files_sha256"
      cases hget : JsonObject.get harness "files_sha256" with
      | obj files =>
          rw [hget] at hfiles
          simp only
          split
          case isFalse => exact returns_pure _
          case isTrue =>
            obtain ⟨filesDigest, hdigest⟩ := conditionFingerprint_returns hfiles
            have hparts : (Json.obj [("sha", JsonObject.get harness "sha"),
                ("diff_sha256", JsonObject.get harness "diff_sha256"),
                ("files_sha256_sha256", .str filesDigest)]).isFinite = true := by
              simp [Json.isFinite, Json.isFiniteFields, Json.isFinite_get hmanifest]
            obtain ⟨digest, hdigest'⟩ := conditionFingerprint_returns hparts
            rw [hdigest, ok_bind, hdigest', ok_bind]
            exact returns_pure _
      | _ => exact returns_pure _
  | _ => simp [Json.asObject?]

end Fingerprints

/-! ## Reports -/

section Reports

/-- The evidence about the process of a role converts, where it is complete. -/
def cpuConvertible (row : JsonObject) (role : String) : Bool :=
  let observed := objectValue ((objectValue (row.get "cpu")).get role)
  !(JsonObject.get observed "complete").isTrue || numbersConvertible observed cpuFields

/-- The replay of a row converts, where it is complete. -/
def overheadConvertible (row : JsonObject) : Bool :=
  let overhead := objectValue (row.get "overhead")
  !((JsonObject.get overhead "complete").isTrue &&
    (JsonObject.get overhead "distribution_complete").isTrue) ||
      numbersConvertible overhead overheadFields

/-- What the classification of an async-bytes row converts besides: its rate, the variation of the
rate, and the numbers of its complete resource evidence. -/
def attributionConvertible (row : JsonObject) : Bool :=
  convertible (row.get "verified_bytes_s_median") &&
    convertible (row.get "verified_bytes_s_cv_percent") && cpuConvertible row "client" &&
    cpuConvertible row "server" && overheadConvertible row

/-- No number of the report that its classification converts to a float is beyond the range of
the floats. -/
def reportConvertible (suite : Option Suite) (metadata : JsonObject) (rows : List JsonObject) :
    Bool :=
  rows.all fun row => rowConvertible suite row &&
    (!usesStreamingProfile metadata rows .asyncBytes || attributionConvertible row)

theorem childReason_returns {child : JsonObject} (h : (Json.obj child).isFinite = true)
    (code message : String) : Returns (childReason child code message) := by
  obtain ⟨sequence, hsequence⟩ := intField_returns h "sequence"
  obtain ⟨returncode, hreturncode⟩ := intField_returns h "returncode"
  simp only [childReason, childReference, hsequence, hreturncode, ok_bind, pure_bind, returns_pure]

/-- The check of the children converts nothing. -/
theorem childProcessReasons_returns {metadata : JsonObject}
    (h : (Json.obj metadata).isFinite = true) : Returns (childProcessReasons metadata) := by
  apply (returns_bind_of_forall fun reasons => returns_pure _).2
  apply returns_mapM.2
  intro child hchild
  have hfinite : (Json.obj child).isFinite = true := by
    obtain ⟨isolation, items, hisolation, hitems, hmem⟩ := mem_isolationChildren.1 hchild
    have hfields := Json.isFinite_get h "isolation"
    rw [hisolation] at hfields
    have hlist := Json.isFinite_get hfields "children"
    rw [hitems, Json.isFinite, Json.isFiniteItems_iff] at hlist
    exact hlist _ hmem
  obtain ⟨returncode, hreturncode⟩ := intField_returns hfinite "returncode"
  rw [childReasons, hreturncode, ok_bind]
  split
  case isFalse => exact childReason_returns hfinite _ _
  case isTrue =>
    rw [childProvenanceReasons]
    split
    case isFalse => exact returns_pure _
    case isTrue =>
      split
      case h_2 => exact childReason_returns hfinite _ _
      case h_1 =>
        split
        case isTrue => exact childReason_returns hfinite _ _
        case isFalse => exact returns_pure _

theorem controlReasons_returns {controls : JsonObject} (h : (Json.obj controls).isFinite = true)
    (case reference : JsonObject) (name : String) (cancel : Bool) :
    Returns (controlReasons case reference controls name cancel) := by
  have hcontrol := Json.isFinite_get h name
  rw [controlReasons]
  cases hget : controls.get name with
  | obj fields =>
      rw [hget] at hcontrol
      obtain ⟨aborts, haborts⟩ := intField_returns hcontrol "expected_aborts"
      simp only [Json.asObject?]
      split
      case isFalse => exact returns_pure _
      case isTrue =>
        rw [haborts]
        exact returns_pure _
  | _ => exact returns_pure _

/-- The check of the lifecycle cases converts nothing. -/
theorem planCaseReasons_returns {lifecycle : JsonObject}
    (h : (Json.obj lifecycle).isFinite = true) : Returns (planCaseReasons lifecycle) := by
  apply (returns_bind_of_forall fun reasons => returns_pure _).2
  apply returns_mapM.2
  intro item hitem
  have hfinite : item.isFinite = true := by
    have hcases := Json.isFinite_get h "cases"
    cases hget : lifecycle.get "cases" with
    | arr items =>
        rw [hget, Json.isFinite, Json.isFiniteItems_iff] at hcases
        rw [hget] at hitem
        exact hcases item hitem
    | _ =>
        rw [hget] at hitem
        exact absurd hitem List.not_mem_nil
  cases item with
  | obj case =>
      have hcontrols := Json.isFinite_get hfinite "controls"
      simp only [Json.asObject?, caseReasons]
      cases hget : JsonObject.get case "controls" with
      | obj controls =>
          rw [hget] at hcontrols
          apply (returns_bind_of_forall fun outcomes => returns_pure _).2
          apply returns_mapM.2
          intro control _
          exact controlReasons_returns hcontrols case (rowReference case) control.1 control.2
      | _ => exact returns_pure _
  | _ => exact returns_pure _

/-- The lifecycle checks of the rows convert nothing that the row checks do not convert, too. -/
theorem aggregateReasons_returns {suite : Option Suite} {rows : List JsonObject}
    (hfinite : ∀ row ∈ rows, (Json.obj row).isFinite = true)
    (h : ∀ row ∈ rows, rowConvertible suite row = true) : Returns (aggregateReasons rows) := by
  have hvariation : ∀ (row : JsonObject) (field : String), convertible (row.get field) = true →
      Returns (highVariationReason row field) := by
    intro row field hconvertible
    obtain ⟨value, hvalue⟩ := optionalFloatField_returns.2 hconvertible
    rw [highVariationReason, hvalue, ok_bind]
    cases value with
    | none => exact returns_pure _
    | some variation =>
        show Returns (if _ then _ else _)
        split
        case isTrue => exact returns_pure _
        case isFalse => exact returns_pure _
  apply (returns_bind_of_forall fun reasons => returns_pure _).2
  apply returns_mapM.2
  intro row hrow
  have hfields := h row hrow
  rw [rowConvertible, Bool.and_eq_true, List.all_eq_true] at hfields
  obtain ⟨samples, hsamples⟩ := intField_returns (hfinite row hrow) "variation_sample_count"
  obtain ⟨streams, hstreams⟩ :=
    hvariation row "streams_s_cv_percent" (hfields.2 _ (by simp [cvFields]))
  obtain ⟨duration, hduration⟩ :=
    hvariation row "duration_s_cv_percent" (hfields.2 _ (by simp [cvFields]))
  rw [aggregateRowReasons, hsamples, ok_bind]
  split
  case isTrue => exact returns_pure _
  case isFalse =>
    rw [hstreams, ok_bind, hduration]
    exact returns_pure _

omit [PyRuntime] in
/-- Numbers that are only read where the evidence is complete. -/
theorem numbersComplete_returns {c : Prop} [Decidable c] {value : JsonObject}
    {fields : List String} {f : Bool → Py (List ValidityReason)}
    (hf : ∀ missing, Returns (f missing)) :
    Returns (if c then anyNumberMissing value fields >>= f else pure true >>= f) ↔
      ¬ c ∨ numbersConvertible value fields = true := by
  by_cases hc : c
  · rw [if_pos hc, returns_bind_of_forall hf, anyNumberMissing_returns]
    simp [hc]
  · rw [if_neg hc, pure_bind]
    simp [hc, hf true]

/-- The processor values are converted where the evidence is said to be complete. -/
theorem cpuReasons_returns {row : JsonObject} {role : String} :
    Returns (cpuReasons row role) ↔ cpuConvertible row role = true := by
  refine (numbersComplete_returns fun missing => returns_pure _).trans ?_
  rw [cpuConvertible, Bool.or_eq_true, Bool.not_eq_true', Bool.not_eq_true]

/-- The evidence of both roles and of the replay is converted. -/
theorem resourceEvidenceReasons_returns {row : JsonObject} :
    Returns (resourceEvidenceReasons row) ↔
      cpuConvertible row "client" = true ∧ cpuConvertible row "server" = true ∧
        overheadConvertible row = true := by
  rw [← cpuReasons_returns, ← cpuReasons_returns, resourceEvidenceReasons]
  have hoverhead : ∀ client server, Returns (do
      let missing ←
        if ((objectValue (row.get "overhead")).get "complete").isTrue &&
            ((objectValue (row.get "overhead")).get "distribution_complete").isTrue then
          anyNumberMissing (objectValue (row.get "overhead")) overheadFields
        else pure true
      pure (client ++ server ++ reasonIf missing .needsRerun "attribution_overhead_incomplete"
        "Bounded replay did not qualify hashing/scalar overhead on the complete observed distribution."
        row) : Py (List ValidityReason)) ↔ overheadConvertible row = true := by
    intro client server
    refine (numbersComplete_returns fun missing => returns_pure _).trans ?_
    rw [overheadConvertible, Bool.or_eq_true, Bool.not_eq_true', Bool.not_eq_true]
  constructor
  · intro hreturns
    obtain ⟨client, hclient, hreturns⟩ := returns_bind.1 hreturns
    obtain ⟨server, hserver, hreturns⟩ := returns_bind.1 hreturns
    exact ⟨⟨client, hclient⟩, ⟨server, hserver⟩, (hoverhead client server).1 hreturns⟩
  · rintro ⟨⟨client, hclient⟩, ⟨server, hserver⟩, hconvertible⟩
    rw [hclient, ok_bind, hserver, ok_bind]
    exact (hoverhead client server).2 hconvertible

/-- The check of a row of the async-bytes profile converts its evidence. -/
theorem attributionRowReasons_returns {row : JsonObject} (h : (Json.obj row).isFinite = true) :
    Returns (attributionRowReasons row) ↔ attributionConvertible row = true := by
  obtain ⟨fingerprint, hfingerprint⟩ := fingerprintReasons_returns h
  rw [attributionRowReasons, hfingerprint, ok_bind]
  simp only [attributionConvertible, Bool.and_eq_true, and_assoc]
  rw [← resourceEvidenceReasons_returns, ← positiveNumber_returns false,
    ← positiveNumber_returns true]
  constructor
  · intro hreturns
    obtain ⟨primary, hprimary, hreturns⟩ := returns_bind.1 hreturns
    obtain ⟨variation, hvariation, hreturns⟩ := returns_bind.1 hreturns
    obtain ⟨resources, hresources, -⟩ := returns_bind.1 hreturns
    exact ⟨⟨primary, hprimary⟩, ⟨variation, hvariation⟩, ⟨resources, hresources⟩⟩
  · rintro ⟨⟨primary, hprimary⟩, ⟨variation, hvariation⟩, ⟨resources, hresources⟩⟩
    simp only [hprimary, hvariation, hresources, ok_bind, returns_pure]

/-- The check of an async-bytes report converts the evidence of its rows. -/
theorem attributionReportReasons_returns {suite : Option Suite} {metadata : JsonObject}
    {rows : List JsonObject} (hmetadata : (Json.obj metadata).isFinite = true)
    (hrows : ∀ row ∈ rows, (Json.obj row).isFinite = true)
    (h : ∀ row ∈ rows, rowConvertible suite row = true) :
    Returns (attributionReportReasons metadata rows) ↔
      ∀ row ∈ rows, (!usesStreamingProfile metadata rows .asyncBytes ||
        attributionConvertible row) = true := by
  rw [attributionReportReasons]
  split
  case isFalse huses => simp [huses]
  case isTrue huses =>
    obtain ⟨fingerprint, hfingerprint⟩ := fingerprintReasons_returns hmetadata
    obtain ⟨plan, hplan⟩ :=
      planCaseReasons_returns (isFinite_objectValue (Json.isFinite_get hmetadata "lifecycle"))
    obtain ⟨aggregates, haggregates⟩ := aggregateReasons_returns hrows h
    obtain ⟨harness, hharness⟩ := harnessFingerprint_returns hmetadata
    rw [hfingerprint, ok_bind]
    simp only [hplan, haggregates, hharness, ok_bind]
    rw [returns_bind_of_forall fun perRow => returns_pure _, returns_mapM]
    refine forall₂_congr fun row hrow => ?_
    rw [attributionRowReasons_returns (hrows row hrow), huses, Bool.not_true, Bool.false_or]

/-- The check of a lifecycle report converts nothing that its rows have not. -/
theorem lifecycleReportReasons_returns {suite : Option Suite} {metadata : JsonObject}
    {rows : List JsonObject} (hmetadata : (Json.obj metadata).isFinite = true)
    (hrows : ∀ row ∈ rows, (Json.obj row).isFinite = true)
    (h : ∀ row ∈ rows, rowConvertible suite row = true) :
    Returns (lifecycleReportReasons metadata rows) := by
  have hlifecycle := Json.isFinite_get hmetadata "lifecycle"
  rw [lifecycleReportReasons]
  split
  case isFalse => exact returns_pure _
  case isTrue =>
    cases hget : metadata.get "lifecycle" with
    | obj lifecycle =>
        rw [hget] at hlifecycle
        obtain ⟨plan, hplan⟩ := planCaseReasons_returns hlifecycle
        obtain ⟨aggregates, haggregates⟩ := aggregateReasons_returns hrows h
        simp only [Json.asObject?, hplan, haggregates, ok_bind, returns_pure]
    | _ => exact returns_pure _

/-- The classification of a report with finite floats returns exactly where no integer that it
converts is beyond the range of the floats. -/
theorem classifyReportValidity_returns_iff {suite : Option Suite} {metadata : JsonObject}
    {rows : List JsonObject} (hmetadata : (Json.obj metadata).isFinite = true)
    (hrows : ∀ row ∈ rows, (Json.obj row).isFinite = true) :
    Returns (classifyReportValidity suite rows metadata) ↔
      reportConvertible suite metadata rows = true := by
  have hperRow : Returns (rows.mapM (rowReasons suite)) ↔
      ∀ row ∈ rows, rowConvertible suite row = true := by
    rw [returns_mapM]
    exact forall₂_congr fun row hrow => rowReasons_returns (hrows row hrow)
  obtain ⟨children, hchildren⟩ := childProcessReasons_returns hmetadata
  simp only [reportConvertible, List.all_eq_true, Bool.and_eq_true, forall_and]
  constructor
  · intro hreturns
    obtain ⟨ofMetadata, hofMetadata, hreturns⟩ := returns_bind.1 hreturns
    obtain ⟨ofRows, hofRows, -⟩ := returns_bind.1 hreturns
    have hconvertible := hperRow.1 ⟨ofRows, hofRows⟩
    rw [metadataReasons, hchildren, ok_bind, bind_eq_ok] at hofMetadata
    obtain ⟨attribution, hattribution, -⟩ := hofMetadata
    exact ⟨hconvertible,
      (attributionReportReasons_returns hmetadata hrows hconvertible).1 ⟨_, hattribution⟩⟩
  · rintro ⟨hconvertible, hattributed⟩
    obtain ⟨attribution, hattribution⟩ :=
      (attributionReportReasons_returns hmetadata hrows hconvertible).2 hattributed
    obtain ⟨lifecycle, hlifecycle⟩ := lifecycleReportReasons_returns hmetadata hrows hconvertible
    obtain ⟨ofRows, hofRows⟩ := hperRow.2 hconvertible
    rw [classifyReportValidity, metadataReasons, hchildren, ok_bind, hattribution, ok_bind,
      hlifecycle, ok_bind, pure_bind, hofRows]
    exact returns_pure _

end Reports

end FogHttpBenchmark.Validity
