import FogHttpBenchmark.ReportSchema.Models
import FogHttpBenchmark.Validity.Helpers

/-!
# Reasons of aggregate rows

The checks that a classification makes on each aggregate row: the proxy usage guard, measured
and warm-up errors, known incompatibilities, zero throughput, variation and the recovery of
resource scenarios. A suite is `none` where a report names none of the known ones.
-/

set_option autoImplicit false

namespace FogHttpBenchmark.Validity

open Library Library.Checked Python

variable [PyRuntime]

/-! ## Proxy usage -/

section Proxy

/-- `sorted(PROXY_BYPASS_ERROR_TYPES)`. -/
def proxyBypassErrorTypes : List String := ["proxy_connect_bypass", "proxy_http_bypass"]

/-- The row names an error of the proxy guard, with any count. -/
def hasProxyBypassErrors (row : JsonObject) : Py Bool := do
  let errorTypes ← dictField row "error_types"
  pure (proxyBypassErrorTypes.any fun name => Dict.contains errorTypes name)

/-- A cold client connects while it is measured, any other one may have connected before. -/
def connectCounterValue (row : JsonObject) (measuredConnect totalConnect : ℤ) : ℤ :=
  if strField row "lifecycle" "" = "cold-client" then measuredConnect else totalConnect

/-- The requests of a row succeeded although the proxy counted none of its scheme. -/
def missingProxyCounterReasons (row : JsonObject) (targetScheme : String)
    (measuredHttp measuredConnect totalConnect : ℤ) : List ValidityReason :=
  if targetScheme = "http" ∧ measuredHttp ≤ 0 then
    [validityReason .invalid "missing_proxy_http_counter"
      "HTTP proxy scenario completed successful requests without measured proxy HTTP counters."
      (rowReference row)]
  else if targetScheme = "https" ∧ connectCounterValue row measuredConnect totalConnect ≤ 0 then
    [validityReason .invalid "missing_proxy_connect_counter"
      "HTTPS proxy scenario completed successful requests without measured CONNECT counters."
      (rowReference row)]
  else []

/-- The reasons of a proxy-connect row: guard errors, credentials at the upstream, missing counters.
-/
def proxySpecificReasons (suite : Option Suite) (row : JsonObject) : Py (List ValidityReason) :=
  if suite ≠ some .proxyConnect then pure []
  else do
    let errorTypes ← dictField row "error_types"
    let bypassErrors := proxyBypassErrorTypes.filter fun name => Dict.contains errorTypes name
    let guard :=
      if bypassErrors.isEmpty then []
      else
        [validityReason .invalid "proxy_usage_guard_failed"
          ("Proxy usage guard errors were recorded: " ++ String.intercalate ", " bypassErrors ++ ".")
          (rowReference row)]
    let config := strField row "config" ""
    let targetScheme := strField row "target_scheme" ""
    let okRequests ← intField row "ok_requests_total"
    let measuredHttp ← intField row "measured_proxy_http_requests_max"
    let measuredConnect ← intField row "measured_proxy_connect_requests_max"
    let totalHttp ← intField row "total_proxy_http_requests_max"
    let totalConnect ← intField row "total_proxy_connect_requests_max"
    let leak :=
      if config = "direct" ∧
          (0 < measuredHttp ∨ 0 < measuredConnect ∨ 0 < totalHttp ∨ 0 < totalConnect) then
        [validityReason .invalid "direct_proxy_counter_leak"
          "Direct proxy baseline recorded proxy counters." (rowReference row)]
      else []
    let missing :=
      if (config = "explicit" ∨ config = "trust-env") ∧ 0 < okRequests then
        missingProxyCounterReasons row targetScheme measuredHttp measuredConnect totalConnect
      else []
    pure (guard ++ leak ++ missing)

end Proxy

/-! ## Known incompatibilities -/

section Compatibility

/-- The two error maps of a row. -/
inductive ErrorField where
  | errorTypes
  | warmupErrorTypes
  deriving DecidableEq

/-- The field of the map. -/
def ErrorField.name : ErrorField → String
  | errorTypes => "error_types"
  | warmupErrorTypes => "warmup_error_types"

/-- The field of the number of errors that the map explains. -/
def ErrorField.totalField : ErrorField → String
  | errorTypes => "errors_total"
  | warmupErrorTypes => "warmup_errors_total"

/-- A failure of one client that is known and does not count against it. -/
structure CompatibilityFailure where
  suite : Suite
  client : String
  cases : List String
  errorTypes : List String
  message : String
  modes : Option (List String) := none
  caseField : String := "scenario"
  errorFields : List ErrorField := [.errorTypes, .warmupErrorTypes]

/-- The failure is one of the suite, the client, the mode and the case of a row. -/
def CompatibilityFailure.matchesRow (failure : CompatibilityFailure) (suite : Option Suite)
    (row : JsonObject) (errorField : ErrorField) : Bool :=
  if suite ≠ some failure.suite ∨ errorField ∉ failure.errorFields then false
  else if strField row "client" "" ≠ failure.client then false
  else if failure.modes.any fun modes => strField row "mode" "" ∉ modes then false
  else strField row failure.caseField "" ∈ failure.cases

/-- `EXPECTED_COMPATIBILITY_FAILURES`. -/
def expectedCompatibilityFailures : List CompatibilityFailure :=
  [ { suite := .compressedResponse
      client := "aiohttp"
      cases := ["multi-gzip-deflate-64k"]
      errorTypes := ["check_failed"]
      message :=
        "aiohttp decodes the multi-encoding response differently from this suite contract." },
    { suite := .compressedResponse
      client := "zapros"
      cases := ["br-64k"]
      errorTypes := ["ConnectionError", "ImportError"]
      message :=
        "zapros std handler has known brotli compatibility failures in this benchmark case." },
    { suite := .compressedResponse
      client := "zapros"
      cases := ["multi-gzip-deflate-64k"]
      errorTypes := ["ConnectionError", "DecodingError"]
      message :=
        "zapros std handler has known multi-encoding compatibility failures in this " ++
          "benchmark case." },
    { suite := .compressedResponse
      client := "zapros-pyreqwest"
      cases := ["br-64k"]
      errorTypes := ["ImportError"]
      message :=
        "zapros[pyreqwest] has known brotli compatibility failures in this benchmark case." },
    { suite := .compressedResponse
      client := "zapros-pyreqwest"
      cases := ["multi-gzip-deflate-64k"]
      errorTypes := ["DecodingError"]
      message :=
        "zapros[pyreqwest] has known multi-encoding compatibility failures in this " ++
          "benchmark case." },
    { suite := .compressedResponse
      client := "zapros-pyreqwest"
      cases := ["gzip-json-small", "gzip-64k", "deflate-64k", "gzip-high-ratio-1m"]
      errorTypes := ["RuntimeError"]
      message :=
        "zapros[pyreqwest] sync warmup intermittently reports RuntimeError in compressed cases."
      modes := some ["sync"]
      errorFields := [.warmupErrorTypes] },
    { suite := .responseStreaming
      client := "aiohttp"
      cases := ["long-line-1m"]
      errorTypes := ["LineTooLong"]
      message := "aiohttp line reader rejects this intentionally long-line streaming case."
      modes := some ["async"]
      caseField := "case" },
    { suite := .requests
      client := "zapros-pyreqwest"
      cases :=
        ["json-small", "json-decode-small", "bytes-64k", "post-json-echo", "post-echo-64k",
          "redirect-get-302", "redirect-head-302", "redirect-post-303", "redirect-post-307",
          "delay-20ms", "pool-contention-20ms"]
      errorTypes := ["RuntimeError"]
      message :=
        "zapros[pyreqwest] sync warmup intermittently reports RuntimeError in request cases."
      modes := some ["sync"]
      errorFields := [.warmupErrorTypes] } ]

/-- The error names that the known failures of a row explain. -/
def compatibilityErrorTypes (suite : Option Suite) (row : JsonObject) (errorField : ErrorField) :
    List String :=
  (expectedCompatibilityFailures.filter fun failure =>
    failure.matchesRow suite row errorField).flatMap CompatibilityFailure.errorTypes

/-- The counts of the types that `names` has. -/
def countOf (names : List String) (errorTypes : List (String × ℤ)) : ℤ :=
  Dict.total (errorTypes.filter fun entry => entry.1 ∈ names)

/-- A count is negative, or the counts do not add up to the total. -/
def countsUnusable (errorTypes : List (String × ℤ)) (total : ℤ) : Bool :=
  errorTypes.any (fun entry => entry.2 < 0) || Dict.total errorTypes ≠ total

/-- The number of errors that known failures explain, if the map adds up to its total. -/
def compatibilityExpectedErrorCount (suite : Option Suite) (row : JsonObject)
    (errorField : ErrorField) : Py ℤ := do
  let errorTypes ← dictField row errorField.name
  let total ← intField row errorField.totalField
  if countsUnusable errorTypes total then pure 0
  else pure (countOf (compatibilityErrorTypes suite row errorField) errorTypes)

/-- The message of a failure that shows in this field of the row: it matches, and one of its
error types has a positive count. -/
def observedFailure (suite : Option Suite) (row : JsonObject)
    (pair : CompatibilityFailure × ErrorField) : Py (Option String) :=
  if pair.1.matchesRow suite row pair.2 then do
    let errorTypes ← dictField row pair.2.name
    if errorTypes.any fun entry => 0 < entry.2 && entry.1 ∈ pair.1.errorTypes then
      pure (some pair.1.message)
    else pure none
  else pure none

/-- Each failure of the table with each of its error fields. -/
def failureFields : List (CompatibilityFailure × ErrorField) :=
  expectedCompatibilityFailures.flatMap fun failure =>
    failure.errorFields.map fun errorField => (failure, errorField)

/-- A warning with the known failures that a row shows. -/
def compatibilityFailureReasons (suite : Option Suite) (row : JsonObject) :
    Py (List ValidityReason) := do
  let observed ← failureFields.mapM (observedFailure suite row)
  let messages := (observed.filterMap id).dedup
  if messages.isEmpty then pure []
  else
    pure [validityReason .warning "expected_compatibility_failure"
      (String.intercalate " " (messages.insertionSort (· ≤ ·)) ++
        " Affected rows are diagnostic only; performance comparison is blocked.")
      (rowReference row)]

end Compatibility

/-! ## Resource scenarios -/

section Resource

/-- `EXPECTED_RESOURCE_ERRORS`. -/
def expectedResourceErrors : List (String × List String) :=
  [("aggregate-buffered-budget", ["ResponseBodyBudgetExceededError"]),
    ("pending-queue-full", ["PoolTimeout"]),
    ("pool-timeout-recovery", ["PoolTimeout"]),
    ("response-body-limit", ["ResponseBodyTooLargeError"])]

/-- The pressure errors that are expected in the scenario of a row. -/
def expectedPressureTypes (row : JsonObject) : List String :=
  (expectedResourceErrors.lookup (strField row "scenario" "")).getD []

/-- The errors of a row that its suite does not provoke. -/
def unexpectedErrorCount (suite : Option Suite) (row : JsonObject) (errorsTotal : ℤ)
    (errorField : ErrorField) : Py ℤ :=
  if errorsTotal ≤ 0 then pure 0
  else if suite ≠ some .resourceBackpressure then pure errorsTotal
  else do
    let errorTypes ← dictField row errorField.name
    if countsUnusable errorTypes errorsTotal then pure errorsTotal
    else pure (max 0 (errorsTotal - countOf (expectedPressureTypes row) errorTypes))

/-- A resource scenario whose requests are meant to be refused. -/
def resourceExpectedPressureRow (suite : Option Suite) (row : JsonObject) : Bool :=
  suite = some .resourceBackpressure &&
    Dict.contains expectedResourceErrors (strField row "scenario" "")

/-- Clients that did not recover from the pressure. -/
def resourceRecoveryReasons (suite : Option Suite) (row : JsonObject) :
    Py (List ValidityReason) :=
  if suite ≠ some .resourceBackpressure then pure []
  else do
    let failures ← intField row "recovery_failures"
    if failures ≤ 0 then pure []
    else
      pure [validityReason .needsRerun "resource_recovery_failed"
        ("Resource recovery health check failed in " ++ toString failures ++ " repeats.")
        (rowReference row)]

end Resource

/-! ## Errors, throughput and variation -/

section Generic

/-- The errors of one field that neither the suite nor the table of incompatibilities
expects. -/
def unexplainedErrorCount (suite : Option Suite) (row : JsonObject) (errorsTotal : ℤ)
    (errorField : ErrorField) : Py ℤ := do
  let unexpected ← unexpectedErrorCount suite row errorsTotal errorField
  if 0 < unexpected then do
    let expected ← compatibilityExpectedErrorCount suite row errorField
    pure (max 0 (unexpected - expected))
  else pure unexpected

/-- `unexpected_errors > 0 and not has_proxy_bypass_errors(row)`. -/
def reportsMeasuredErrors (row : JsonObject) (unexpectedErrors : ℤ) : Py Bool :=
  if 0 < unexpectedErrors then do
    let bypass ← hasProxyBypassErrors row
    pure (!bypass)
  else pure false

/-- The reasons for measured and unmeasured errors that nothing explains. -/
def errorReasons (suite : Option Suite) (row : JsonObject) : Py (List ValidityReason) := do
  let errorsTotal ← intField row "errors_total"
  let warmupErrorsTotal ← intField row "warmup_errors_total"
  let unexpectedErrors ← unexplainedErrorCount suite row errorsTotal .errorTypes
  let reported ← reportsMeasuredErrors row unexpectedErrors
  let measured :=
    if reported then
      [validityReason .needsRerun "unexpected_measured_errors"
        ("Measured run recorded " ++ toString unexpectedErrors ++ " unexpected errors.")
        (rowReference row)]
    else []
  let unexpectedWarmupErrors ← unexplainedErrorCount suite row warmupErrorsTotal .warmupErrorTypes
  let warmup :=
    if 0 < unexpectedWarmupErrors then
      [validityReason .needsRerun "unexpected_warmup_errors"
        ("Warmup recorded " ++ toString unexpectedWarmupErrors ++ " unexpected errors.")
        (rowReference row)]
    else []
  let compatibility ← compatibilityFailureReasons suite row
  pure (measured ++ warmup ++ compatibility)

/-- The primary metric is there but not positive, and the row counts errors or successes. -/
def zeroPrimaryMetricReasons (suite : Option Suite) (row : JsonObject) :
    Py (List ValidityReason) :=
  if resourceExpectedPressureRow suite row then pure []
  else do
    let primaryValue ← firstPrimaryValue row primaryMetricFields
    if primaryValue.all fun value => PyFloat.lt (.finite 0) value then pure []
    else do
      let errorsTotal ← intField row "errors_total"
      let okTotal ← okTotalValue row
      if errorsTotal ≤ 0 ∧ okTotal = none then pure []
      else
        pure [validityReason .needsRerun "zero_success_throughput"
          "Primary success throughput is zero for a measured row." (rowReference row)]

/-- `value <= HIGH_CV_WARNING_PERCENT`. -/
def variationAccepted (value : PyFloat) : Bool :=
  value.lt (.finite highCvWarningPercent) || value.pyEq (.finite highCvWarningPercent)

/-- A warning that a value varies more than is accepted. -/
def variationReason (row : JsonObject) (field : String) : Py (List ValidityReason) := do
  let value ← optionalFloatField row field
  match value with
  | some cv =>
      if variationAccepted cv then pure []
      else
        pure [validityReason .warning "high_variation"
          (field ++ " is " ++ fixedOne cv ++ "%, above " ++
            fixedOne (.finite highCvWarningPercent) ++ "%.")
          (rowReference row)]
  | none => pure []

/-- The warnings of all coefficients of variation of a row. -/
def variationReasons (row : JsonObject) : Py (List ValidityReason) := do
  let reasons ← cvFields.mapM (variationReason row)
  pure reasons.flatten

end Generic

/-! ## Rows -/

/-- `row_reasons(suite, row)`, in the order of its checks. -/
def rowReasons (suite : Option Suite) (row : JsonObject) : Py (List ValidityReason) := do
  let proxy ← proxySpecificReasons suite row
  let errors ← errorReasons suite row
  let zero ← zeroPrimaryMetricReasons suite row
  let variation ← variationReasons row
  let recovery ← resourceRecoveryReasons suite row
  pure (proxy ++ errors ++ zero ++ variation ++ recovery)

end FogHttpBenchmark.Validity
