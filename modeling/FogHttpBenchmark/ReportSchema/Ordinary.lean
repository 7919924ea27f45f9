import FogHttpBenchmark.ReportSchema.Fields
import FogHttpBenchmark.ReportSchema.Models

/-!
# Ordinary rows

The checks on the aggregate rows and the run rows of an ordinary report: identity
fields, counts and error bounds, error maps, and the fields that a row may carry.

The checks on counts and errors have one lemma each that says when they return, in
terms of the row alone: `validateErrorMap_eq_ok`, `validateRun_eq_ok` and
`validateAggregate_eq_ok`.
-/

set_option autoImplicit false

namespace FogHttpBenchmark.ReportSchema

open Library Library.Checked Python

/-! ## Tables -/

section Tables

/-- `IDENTITY_FIELDS` of the row checks. -/
def identityFields : Suite → List String
  | .requests => ["scenario"]
  | .compressedResponse => ["scenario"]
  | .clientCreation => ["scenario"]
  | .resourceBackpressure => ["scenario"]
  | .oneUpstream => ["case", "group", "profile"]
  | .requestBuilder => ["case", "group", "kind", "profile"]
  | .responseStreaming => ["case", "read", "consume"]
  | .proxyConnect => ["case", "group", "target_scheme", "config", "lifecycle"]

/-- `AGGREGATE_PRIMARY_FIELDS`. -/
def aggregatePrimaryField : Suite → String
  | .requests => "ok_req_s_median"
  | .compressedResponse => "ok_req_s_median"
  | .clientCreation => "ops_s_median"
  | .resourceBackpressure => "ok_requests_total"
  | .oneUpstream => "ok_req_s_median"
  | .requestBuilder => "ops_s_median"
  | .responseStreaming => "ok_streams_s_median"
  | .proxyConnect => "ok_req_s_median"

/-- `RUN_PRIMARY_FIELDS`. -/
def runPrimaryField : Suite → String
  | .requests => "ok_requests_per_second"
  | .compressedResponse => "ok_requests_per_second"
  | .clientCreation => "operations_per_second"
  | .resourceBackpressure => "ok_requests"
  | .oneUpstream => "ok_requests_per_second"
  | .requestBuilder => "operations_per_second"
  | .responseStreaming => "ok_streams_per_second"
  | .proxyConnect => "ok_requests_per_second"

/-- `IDENTITY_CHOICES`, each set in sorted order. -/
def identityChoices : String → Option (List String)
  | "mode" => some ["async", "sync"]
  | "read" => some ["bytes", "lines", "text"]
  | "consume" => some ["all", "first-chunk", "first-line"]
  | "kind" => some ["build", "send-prepared"]
  | "target_scheme" => some ["http", "https"]
  | "config" => some ["direct", "explicit", "trust-env"]
  | "lifecycle" => some ["cold-client", "reused-client"]
  | _ => none

/-- `MAX_ERROR_RATE_PERCENT`. -/
def maxErrorRatePercent : ℚ := 100

/-- `SUCCESS_COUNTS`. -/
def successCount : Suite → Option String
  | .resourceBackpressure => some "ok_requests_total"
  | .oneUpstream => some "ok_requests_total"
  | .proxyConnect => some "ok_requests_total"
  | .responseStreaming => some "ok_streams_total"
  | _ => none

/-- `NUMERIC_FIELDS`. -/
def numericFields : List String :=
  ["req_s_median", "req_s_cv_percent", "ops_s_cv_percent", "streams_s_median",
    "streams_s_cv_percent", "duration_ms_median", "duration_s_median", "duration_s_cv_percent",
    "mb_s_median", "lines_s_median", "p50_ms_median", "p95_ms_median", "p99_ms_median",
    "duration_s", "requests_per_second", "streams_per_second", "mb_per_second",
    "lines_per_second", "p50_ms", "p90_ms", "p95_ms", "p99_ms", "min_ms", "max_ms",
    "process_cpu_s", "pool_timeout_s"]

/-- `NULLABLE_NUMERIC_FIELDS`. -/
def nullableNumericFields : List String :=
  ["first_chunk_p50_ms_median", "first_chunk_p95_ms_median", "first_chunk_p50_ms",
    "first_chunk_p95_ms", "close_p50_ms_median", "close_p95_ms_median", "close_p50_ms",
    "close_p95_ms", "baseline_ratio", "direct_ratio", "rss_mb_max", "peak_rss_mb"]

/-- `COUNT_FIELDS`. -/
def countFields : List String :=
  ["ok_requests_total", "ok_streams_total", "ok_requests", "ok_streams", "bytes_read_total",
    "chunks_read_total", "text_chars_read_total", "lines_read_total",
    "verified_eof_bytes_total", "verified_eof_chunks_total", "recovery_failures",
    "measured_proxy_http_requests_max", "measured_proxy_connect_requests_max",
    "total_proxy_http_requests_max", "total_proxy_connect_requests_max",
    "proxy_authorization_headers_max", "warmup"]

/-- `NULLABLE_COUNT_FIELDS`. -/
def nullableCountFields : List String :=
  ["threads_max", "fds_max", "peak_threads", "peak_fds", "max_buffered_response_bytes",
    "max_response_body_size", "peak_active_requests_max", "peak_pending_requests_max",
    "peak_buffered_response_bytes_max", "peak_active_requests", "peak_pending_requests",
    "peak_buffered_response_bytes", "final_failed_requests_max", "final_pool_timeouts_max",
    "final_buffered_response_bytes_max", "final_buffered_response_budget_rejections_max",
    "final_active_requests_max", "final_response_body_closed_max",
    "final_response_body_reuse_eligible_max", "final_response_body_aborted_max",
    "final_connections_opened_max", "final_connections_reused_max",
    "final_connections_closed_max", "final_connections_aborted_max",
    "final_idle_connections_max"]

/-- `SIGNED_NUMERIC_FIELDS`. -/
def signedNumericFields : List String :=
  ["peak_rss_delta_mb_max", "end_rss_delta_mb_max", "peak_rss_delta_mb", "end_rss_delta_mb"]

/-- `SIGNED_COUNT_FIELDS`. -/
def signedCountFields : List String :=
  ["peak_threads_delta_max", "end_threads_delta_max", "peak_fds_delta_max",
    "end_fds_delta_max", "peak_threads_delta", "end_threads_delta", "peak_fds_delta",
    "end_fds_delta"]

/-- The dictionaries of counts that a row may carry. -/
def nestedCountFields : List String := ["client_stats", "measured_proxy", "total_proxy"]

end Tables

/-! ## Identity fields -/

section Identity

/-- A field of the identity is a text, and one of its choices where it has some. -/
def validateIdentityField (row : JsonObject) (path field : String) : Py Unit := do
  let value ← requireString (row.get field) (path ++ "." ++ field)
  match identityChoices field with
  | none => pure ()
  | some choices =>
      raiseIf (!choices.contains value) (valueError
        (path ++ "." ++ field ++ " must be one of " ++ String.intercalate ", " choices))

/-- The counts that say how much work a row stands for. -/
def validateWorkload (suite : Suite) (row : JsonObject) (path : String) : Py Unit :=
  if suite.isOperation then do
    let _ ← requireInteger (row.get "iterations") (path ++ ".iterations") 1
    if suite = .clientCreation then
      let _ ← requireInteger (row.get "client_count") (path ++ ".client_count") 1
      pure ()
    else pure ()
  else do
    let _ ← requireInteger (row.get "concurrency") (path ++ ".concurrency") 1
    let _ ← requireInteger (row.get "request_limit") (path ++ ".request_limit") 0
    pure ()

/-- A limit that must be present, as an integer or as null. -/
def validateLimit (row : JsonObject) (path field : String) : Py Unit := do
  raiseIf (!row.has field)
    (valueError (path ++ "." ++ field ++ " is required (integer or null)"))
  if (row.get field).isNone then pure ()
  else
    let _ ← requireInteger (row.get field) (path ++ "." ++ field) 0
    pure ()

/-- The limits that a resource-backpressure row was measured under. -/
def validateResourceLimits (suite : Suite) (row : JsonObject) (path : String) : Py Unit :=
  if suite = .resourceBackpressure then do
    let _ ← requireInteger (row.get "max_pending_requests") (path ++ ".max_pending_requests") 0
    forM ["per_origin_request_limit", "max_buffered_response_bytes"] (validateLimit row path)
  else pure ()

/-- The fields that tell rows apart: mode, client and scenario, workload and limits. -/
def validateIdentity (suite : Suite) (row : JsonObject) (path : String) : Py Unit := do
  forM ("mode" :: "client" :: identityFields suite) (validateIdentityField row path)
  validateWorkload suite row path
  validateResourceLimits suite row path

/-- `value` is an integer of at least `minimum`. -/
def IsCount (value : Json) (minimum : ℤ) : Prop := ∃ n, value = .int n ∧ minimum ≤ n

/-- `value` is a finite nonnegative number. -/
def IsNonnegative (value : Json) : Prop := ∃ q, IsNumber value q ∧ 0 ≤ q

/-- The identity field is a nonempty text, and one of its choices if it has any. -/
def IdentityFieldOk (row : JsonObject) (field : String) : Prop :=
  ∃ s, row.get field = .str s ∧ isBlank s = false ∧
    ∀ choices, identityChoices field = some choices → s ∈ choices

/-- The workload of the row passes its check. -/
def WorkloadOk (suite : Suite) (row : JsonObject) : Prop :=
  if suite.isOperation then
    IsCount (row.get "iterations") 1 ∧
      (suite = .clientCreation → IsCount (row.get "client_count") 1)
  else IsCount (row.get "concurrency") 1 ∧ IsCount (row.get "request_limit") 0

/-- The limit field is present, and a nonnegative integer or null. -/
def LimitOk (row : JsonObject) (field : String) : Prop :=
  row.has field = true ∧ (row.get field ≠ .null → IsCount (row.get field) 0)

/-- The limits of the row pass their check. -/
def ResourceLimitsOk (suite : Suite) (row : JsonObject) : Prop :=
  suite = .resourceBackpressure →
    IsCount (row.get "max_pending_requests") 0 ∧
      LimitOk row "per_origin_request_limit" ∧ LimitOk row "max_buffered_response_bytes"

theorem validateIdentityField_eq_ok {row : JsonObject} {path field : String} :
    validateIdentityField row path field = Except.ok () ↔ IdentityFieldOk row field := by
  rw [validateIdentityField, bind_eq_ok]
  constructor
  · rintro ⟨s, hs, hchoices⟩
    obtain ⟨hvalue, hblank⟩ := requireString_eq_ok.1 hs
    refine ⟨s, hvalue, hblank, ?_⟩
    intro choices h
    rw [h] at hchoices
    have hmem := raiseIf_eq_ok.1 hchoices
    simpa using hmem
  · rintro ⟨s, hvalue, hblank, hchoices⟩
    refine ⟨s, requireString_eq_ok.2 ⟨hvalue, hblank⟩, ?_⟩
    cases h : identityChoices field with
    | none => rfl
    | some choices =>
        have hmem := hchoices choices h
        exact raiseIf_eq_ok.2 (by simpa using hmem)

/-- Reading an integer and dropping it asks that the field be a count. -/
theorem bind_requireCount_eq_ok {value : Json} {path : String} {minimum : ℤ} {rest : Py Unit} :
    (requireInteger value path minimum >>= fun _ => rest) = Except.ok () ↔
      IsCount value minimum ∧ rest = Except.ok () := by
  rw [bind_eq_ok]
  constructor
  · rintro ⟨n, hn, hrest⟩
    exact ⟨⟨n, requireInteger_eq_ok.1 hn⟩, hrest⟩
  · rintro ⟨⟨n, hn⟩, hrest⟩
    exact ⟨n, requireInteger_eq_ok.2 hn, hrest⟩

theorem bind_requireNonnegative_eq_ok {value : Json} {path : String} {rest : Py Unit} :
    (requireNumber value path (some 0) >>= fun _ => rest) = Except.ok () ↔
      IsNonnegative value ∧ rest = Except.ok () := by
  rw [bind_eq_ok]
  constructor
  · rintro ⟨q, hq, hrest⟩
    obtain ⟨hnumber, hmin⟩ := requireNumber_eq_ok.1 hq
    exact ⟨⟨q, hnumber, hmin 0 rfl⟩, hrest⟩
  · rintro ⟨⟨q, hnumber, hq⟩, hrest⟩
    refine ⟨q, requireNumber_eq_ok.2 ⟨hnumber, ?_⟩, hrest⟩
    rintro m h
    cases h
    exact hq

/-- When the check of the workload returns. -/
theorem validateWorkload_eq_ok {suite : Suite} {row : JsonObject} {path : String} :
    validateWorkload suite row path = Except.ok () ↔ WorkloadOk suite row := by
  cases suite <;>
    simp only [validateWorkload, WorkloadOk, Suite.isOperation, Bool.false_eq_true, if_false,
      if_true, reduceCtorEq, false_implies, true_implies, and_true, bind_requireCount_eq_ok,
      pure_eq_ok]

theorem validateLimit_eq_ok {row : JsonObject} {path field : String} :
    validateLimit row path field = Except.ok () ↔ LimitOk row field := by
  rw [validateLimit, seq_eq_ok, raiseIf_eq_ok, LimitOk, Bool.not_eq_false']
  refine and_congr_right fun _ => ?_
  by_cases hnull : row.get field = .null
  · simp [hnull, Json.isNone]
  · have hsome : (row.get field).isNone = false := by
      rw [← Bool.not_eq_true, Json.isNone_iff]
      exact hnull
    simp only [hsome, Bool.false_eq_true, if_false]
    rw [bind_requireCount_eq_ok]
    exact ⟨fun h _ => h.1, fun h => ⟨h hnull, rfl⟩⟩

/-- When the check of the limits returns. -/
theorem validateResourceLimits_eq_ok {suite : Suite} {row : JsonObject} {path : String} :
    validateResourceLimits suite row path = Except.ok () ↔ ResourceLimitsOk suite row := by
  rw [validateResourceLimits, ResourceLimitsOk]
  by_cases hsuite : suite = .resourceBackpressure
  · rw [if_pos hsuite, bind_requireCount_eq_ok, forM_eq_ok]
    simp [hsuite, validateLimit_eq_ok]
  · rw [if_neg hsuite]
    exact ⟨fun _ h => absurd h hsuite, fun _ => rfl⟩

/-- The identity check returns exactly when every identity field, the workload and
the limits of the suite are in order. -/
theorem validateIdentity_eq_ok {suite : Suite} {row : JsonObject} {path : String} :
    validateIdentity suite row path = Except.ok () ↔
      (∀ field ∈ "mode" :: "client" :: identityFields suite, IdentityFieldOk row field) ∧
        WorkloadOk suite row ∧ ResourceLimitsOk suite row := by
  simp only [validateIdentity, seq_eq_ok, forM_eq_ok, validateIdentityField_eq_ok,
    validateWorkload_eq_ok, validateResourceLimits_eq_ok]

end Identity

/-! ## Error counts -/

section Errors

/-- There are no more errors than there can be. -/
def validateErrorBound (errors limit : ℤ) (path : String) : Py Unit :=
  raiseIf (limit < errors) (valueError
    (path ++ " must not exceed allowed error count (" ++ toString limit ++ ")"))

/-- The scenarios of the client-creation suite that the limits name. -/
def createFirstRequestScenario : String := "create-first-request"
/-- The scenario that builds its request before the loop. -/
def reusedRequestScenario : String := "reused-request"

/-- The scenario that keeps its clients open until all are created. -/
def manyClientsScenario : String := "many-clients-open-close"

/-- `operation_error_limit`: how many errors the iterations of one run can record. -/
def operationErrorLimit (suite : Suite) (row : JsonObject) (path : String) : Py ℤ := do
  let iterations ← requireInteger (row.get "iterations") (path ++ ".iterations") 1
  if suite = .clientCreation then
    raiseIf (!row.has "scenario") ⟨.keyError, "'scenario'"⟩
    let scenario := row.get "scenario"
    if scenario.pyEq (.str createFirstRequestScenario) then
      -- a failed response check, resource snapshot and close can each record an event
      pure (iterations * 3)
    else if scenario.pyEq (.str reusedRequestScenario) then
      -- every response check can fail before one snapshot and one cleanup failure
      pure (iterations + 2)
    else if scenario.pyEq (.str manyClientsScenario) then
      let clients ← requireInteger (row.get "client_count") (path ++ ".client_count") 1
      if iterations ≠ clients then
        throw (valueError (path ++ ".iterations must equal client_count for " ++
          manyClientsScenario))
      else pure (clients + 1)
    else pure iterations
  else pure iterations

/-- The loop of `validate_error_map`: names are nonempty, counts nonnegative; the
result is the sum of the counts. -/
def errorMapCount (path : String) : List (String × Json) → ℤ → Py ℤ
  | [], count => pure count
  | (name, value) :: errors, count => do
      let _ ← requireString (.str name) (path ++ " key")
      let value ← requireInteger value (path ++ "." ++ name) 0
      errorMapCount path errors (count + value)

/-- The counts of an error map add up to the total that the row declares. -/
def validateErrorMap (row : JsonObject) (field totalField path : String) : Py Unit :=
  if row.has field then do
    let errors ← requireObject (row.get field) (path ++ "." ++ field)
    let total ← requireInteger (row.get totalField) (path ++ "." ++ totalField) 0
    let count ← errorMapCount (path ++ "." ++ field) errors 0
    raiseIf (count ≠ total) (valueError
      (path ++ "." ++ field ++ " counts must sum to " ++ totalField))
  else pure ()

/-- Each error has a nonempty name and a nonnegative count. -/
def ErrorCounts (counts : List (String × ℤ)) : Prop :=
  Dict.Each (fun name n => isBlank name = false ∧ 0 ≤ n) counts

/-- An error map, where there is one, holds counts that sum to the total. -/
def ErrorMapOk (row : JsonObject) (field totalField : String) : Prop :=
  row.has field = true →
    ∃ counts, row.get field = .obj (encodeCounts counts) ∧ ErrorCounts counts ∧
      row.get totalField = .int (Dict.total counts)

theorem validateErrorBound_eq_ok {errors limit : ℤ} {path : String} :
    validateErrorBound errors limit path = Except.ok () ↔ errors ≤ limit := by
  rw [validateErrorBound, raiseIf_eq_ok, decide_eq_false_iff_not, not_lt]

/-- An error map is counted exactly if it has names and counts. -/
theorem errorMapCount_eq_ok {path : String} {errors : List (String × Json)} {result : ℤ} :
    ∀ {count : ℤ}, errorMapCount path errors count = Except.ok result ↔
      ∃ counts, errors = encodeCounts counts ∧ ErrorCounts counts ∧
        result = count + Dict.total counts := by
  induction errors with
  | nil =>
      intro count
      rw [errorMapCount, pure_eq_ok]
      constructor
      · rintro rfl
        exact ⟨[], rfl, Dict.each_nil _, by simp⟩
      · rintro ⟨counts, hcounts, -, hresult⟩
        cases counts with
        | nil => simpa using hresult.symm
        | cons entry counts => simp [encodeCounts] at hcounts
  | cons head errors ih =>
      obtain ⟨name, value⟩ := head
      intro count
      simp only [errorMapCount, bind_eq_ok, requireString_eq_ok, requireInteger_eq_ok]
      -- an entry is a name and a count; what follows it is counted from there
      constructor
      · rintro ⟨s, ⟨hs, hblank⟩, n, ⟨hvalue, hn⟩, hrest⟩
        obtain ⟨counts, rfl, heach, rfl⟩ := ih.1 hrest
        rw [Json.str.injEq] at hs
        subst hs hvalue
        refine ⟨(name, n) :: counts, rfl, ?_, ?_⟩
        · intro k m hmem
          rcases List.mem_cons.1 hmem with heq | htail
          · cases heq
            exact ⟨hblank, hn⟩
          · exact heach k m htail
        · rw [Dict.total_cons]
          omega
      · rintro ⟨counts, hcounts, heach, hresult⟩
        cases counts with
        | nil => simp [encodeCounts] at hcounts
        | cons entry counts =>
            obtain ⟨k, n⟩ := entry
            simp only [encodeCounts, List.map_cons, List.cons.injEq, Prod.mk.injEq] at hcounts
            obtain ⟨⟨rfl, rfl⟩, htail⟩ := hcounts
            have hhead := heach name n List.mem_cons_self
            refine ⟨name, ⟨rfl, hhead.1⟩, n, ⟨rfl, hhead.2⟩, ?_⟩
            refine ih.2 ⟨counts, htail, ?_, ?_⟩
            · exact fun k m hmem => heach k m (List.mem_cons_of_mem _ hmem)
            · rw [hresult, Dict.total_cons]
              omega

theorem total_nonneg_of_errorCounts {counts : List (String × ℤ)} (h : ErrorCounts counts) :
    0 ≤ Dict.total counts :=
  Dict.total_nonneg fun k n hmem => (h k n hmem).2

/-- The error-map check returns exactly when the map is absent or holds counts of
nonempty names that sum to the total field. -/
theorem validateErrorMap_eq_ok {row : JsonObject} {field totalField path : String} :
    validateErrorMap row field totalField path = Except.ok () ↔
      ErrorMapOk row field totalField := by
  rw [validateErrorMap, ErrorMapOk]
  by_cases hhas : row.has field = true
  · rw [if_pos hhas]
    simp only [bind_eq_ok, requireObject_eq_ok, requireInteger_eq_ok, errorMapCount_eq_ok,
      raiseIf_eq_ok, hhas, true_implies, ne_eq, decide_not, Bool.not_eq_false',
      decide_eq_true_eq, zero_add]
    constructor
    · rintro ⟨errors, hfield, total, ⟨htotal, -⟩, count, ⟨counts, rfl, heach, rfl⟩, rfl⟩
      exact ⟨counts, hfield, heach, htotal⟩
    · rintro ⟨counts, hfield, heach, htotal⟩
      exact ⟨_, hfield, _, ⟨htotal, total_nonneg_of_errorCounts heach⟩, _,
        ⟨counts, rfl, heach, rfl⟩, rfl⟩
  · rw [if_neg hhas, pure_eq_ok]
    exact ⟨fun _ h => absurd h hhas, fun _ => rfl⟩

/-- Outside client creation an operation may fail once an iteration. -/
theorem operationErrorLimit_eq_ok {suite : Suite} {row : JsonObject} {path : String} {limit : ℤ}
    (hsuite : suite ≠ .clientCreation) :
    operationErrorLimit suite row path = Except.ok limit ↔
      row.get "iterations" = .int limit ∧ 1 ≤ limit := by
  simp only [operationErrorLimit, if_neg hsuite, bind_eq_ok, requireInteger_eq_ok, pure_eq_ok]
  constructor
  · rintro ⟨n, hn, rfl⟩
    exact hn
  · intro h
    exact ⟨limit, h, rfl⟩

end Errors

/-! ## Aggregate and run rows -/

section Rows

/-- The primary metric is a count in the resource suite and a number in the others. -/
def validatePrimary (suite : Suite) (row : JsonObject) (path field : String) : Py Unit :=
  if suite = .resourceBackpressure then do
    let _ ← requireInteger (row.get field) (path ++ "." ++ field) 0
    pure ()
  else do
    let _ ← requireNumber (row.get field) (path ++ "." ++ field) (some 0)
    pure ()

/-- Successes and errors add up to the requests of all repeats. -/
def validateAggregateSuccesses (suite : Suite) (row : JsonObject) (path : String)
    (repeats errors requests : ℤ) : Py Unit :=
  match successCount suite with
  | none => pure ()
  | some field => do
      let successes ← requireInteger (row.get field) (path ++ "." ++ field) 0
      raiseIf (successes + errors ≠ requests * repeats) (valueError
        (path ++ "." ++ field ++ " + errors_total must equal requests * repeats"))

/-- The errors of all repeats are bounded by the operations, or account for the requests together
with the successes. -/
def validateAggregateErrors (suite : Suite) (row : JsonObject) (path : String)
    (repeats errors : ℤ) : Py Unit :=
  if suite.isOperation then do
    let limit ← operationErrorLimit suite row path
    validateErrorBound errors (limit * repeats) (path ++ ".errors_total")
  else do
    let requests ← requireInteger (row.get "requests") (path ++ ".requests") 1
    let _ ← requireInteger (row.get "warmup_errors_total") (path ++ ".warmup_errors_total") 0
    validateErrorBound errors (requests * repeats) (path ++ ".errors_total")
    validateAggregateSuccesses suite row path repeats errors requests

/-- The counts and the primary value of an aggregate row. -/
def validateAggregate (suite : Suite) (row : JsonObject) (path : String) : Py Unit := do
  let repeats ← requireInteger (row.get "repeats") (path ++ ".repeats") 1
  let errors ← requireInteger (row.get "errors_total") (path ++ ".errors_total") 0
  validatePrimary suite row path (aggregatePrimaryField suite)
  validateAggregateErrors suite row path repeats errors
  validateErrorMap row "error_types" "errors_total" path
  validateErrorMap row "warmup_error_types" "warmup_errors_total" path

/-- `"ok_streams" if suite == "response-streaming" else "ok_requests"`. -/
def runSuccessField (suite : Suite) : String :=
  if suite = .responseStreaming then "ok_streams" else "ok_requests"

/-- The most errors that a run may record; outside the operation suites the
successes make up the rest of the requests. -/
def runErrorLimit (suite : Suite) (row : JsonObject) (path : String) (errors : ℤ) : Py ℤ :=
  if suite.isOperation then operationErrorLimit suite row path
  else do
    let limit ← requireInteger (row.get "requests") (path ++ ".requests") 1
    let _ ← requireInteger (row.get "warmup_errors") (path ++ ".warmup_errors") 0
    let field := runSuccessField suite
    let successes ← requireInteger (row.get field) (path ++ "." ++ field) 0
    if successes + errors ≠ limit then
      throw (valueError (path ++ "." ++ field ++ " + errors must equal requests"))
    else pure limit

/-- The counts and the primary value of a run row. -/
def validateRun (suite : Suite) (row : JsonObject) (path : String) : Py Unit := do
  let _ ← requireInteger (row.get "repeat") (path ++ ".repeat") 0
  let _ ← requireNumber (row.get "duration_s") (path ++ ".duration_s") (some 0)
  let errors ← requireInteger (row.get "errors") (path ++ ".errors") 0
  validatePrimary suite row path (runPrimaryField suite)
  let limit ← runErrorLimit suite row path errors
  validateErrorBound errors limit (path ++ ".errors")
  validateErrorMap row "error_types" "errors" path
  validateErrorMap row "warmup_error_types" "warmup_errors" path

/-- The primary value of the row passes its check. -/
def PrimaryOk (suite : Suite) (row : JsonObject) (field : String) : Prop :=
  if suite = .resourceBackpressure then IsCount (row.get field) 0
  else IsNonnegative (row.get field)

/-- When the check of the primary value returns. -/
theorem validatePrimary_eq_ok {suite : Suite} {row : JsonObject} {path field : String} :
    validatePrimary suite row path field = Except.ok () ↔ PrimaryOk suite row field := by
  rw [validatePrimary, PrimaryOk]
  by_cases hsuite : suite = .resourceBackpressure
  · rw [if_pos hsuite, if_pos hsuite, bind_requireCount_eq_ok, pure_eq_ok]
    exact and_iff_left rfl
  · rw [if_neg hsuite, if_neg hsuite, bind_requireNonnegative_eq_ok, pure_eq_ok]
    exact and_iff_left rfl

/-- The success total, where the suite has one, makes up the rest of the requests. -/
def SuccessesOk (suite : Suite) (row : JsonObject) (repeats errors requests : ℤ) : Prop :=
  ∀ field, successCount suite = some field →
    ∃ successes, row.get field = .int successes ∧ 0 ≤ successes ∧
      successes + errors = requests * repeats

/-- When the check of the successes returns. -/
theorem validateAggregateSuccesses_eq_ok {suite : Suite} {row : JsonObject} {path : String}
    {repeats errors requests : ℤ} :
    validateAggregateSuccesses suite row path repeats errors requests = Except.ok () ↔
      SuccessesOk suite row repeats errors requests := by
  rw [validateAggregateSuccesses, SuccessesOk]
  cases hfield : successCount suite with
  | none => simp
  | some field =>
      simp only [bind_eq_ok, requireInteger_eq_ok, raiseIf_eq_ok, Option.some.injEq,
        forall_eq', ne_eq, decide_not, Bool.not_eq_false', decide_eq_true_eq, and_assoc]

/-- The error total of an aggregate row is within the bound of its suite. -/
def AggregateErrorsOk (suite : Suite) (row : JsonObject) (path : String)
    (repeats errors : ℤ) : Prop :=
  if suite.isOperation then
    ∃ limit, operationErrorLimit suite row path = Except.ok limit ∧ errors ≤ limit * repeats
  else
    ∃ requests, row.get "requests" = .int requests ∧ 1 ≤ requests ∧
      IsCount (row.get "warmup_errors_total") 0 ∧ errors ≤ requests * repeats ∧
      SuccessesOk suite row repeats errors requests

/-- When the check of the errors returns. -/
theorem validateAggregateErrors_eq_ok {suite : Suite} {row : JsonObject} {path : String}
    {repeats errors : ℤ} :
    validateAggregateErrors suite row path repeats errors = Except.ok () ↔
      AggregateErrorsOk suite row path repeats errors := by
  rw [validateAggregateErrors, AggregateErrorsOk]
  by_cases hoperation : suite.isOperation = true
  · rw [if_pos hoperation, if_pos hoperation]
    simp only [bind_eq_ok, validateErrorBound_eq_ok]
  · rw [if_neg hoperation, if_neg hoperation]
    simp only [@bind_eq_ok PyError ℤ Unit, requireInteger_eq_ok, seq_eq_ok,
      validateErrorBound_eq_ok, validateAggregateSuccesses_eq_ok]
    constructor
    · rintro ⟨requests, ⟨hvalue, hmin⟩, warmup, hwarmup, hrest⟩
      exact ⟨requests, hvalue, hmin, ⟨warmup, hwarmup⟩, hrest⟩
    · rintro ⟨requests, hvalue, hmin, ⟨warmup, hwarmup⟩, hrest⟩
      exact ⟨requests, ⟨hvalue, hmin⟩, warmup, hwarmup, hrest⟩

/-- The aggregate check returns exactly when repeats, errors, primary metric, error
bound and error maps are in order. -/
theorem validateAggregate_eq_ok {suite : Suite} {row : JsonObject} {path : String} :
    validateAggregate suite row path = Except.ok () ↔
      ∃ repeats errors, (row.get "repeats" = .int repeats ∧ 1 ≤ repeats) ∧
        (row.get "errors_total" = .int errors ∧ 0 ≤ errors) ∧
        PrimaryOk suite row (aggregatePrimaryField suite) ∧
        AggregateErrorsOk suite row path repeats errors ∧
        ErrorMapOk row "error_types" "errors_total" ∧
        ErrorMapOk row "warmup_error_types" "warmup_errors_total" := by
  simp only [validateAggregate, @bind_eq_ok PyError ℤ Unit,
    requireInteger_eq_ok, seq_eq_ok, validatePrimary_eq_ok, validateAggregateErrors_eq_ok,
    validateErrorMap_eq_ok]
  constructor
  · rintro ⟨repeats, hrepeats, errors, herrors, hrest⟩
    exact ⟨repeats, errors, hrepeats, herrors, hrest⟩
  · rintro ⟨repeats, errors, hrepeats, herrors, hrest⟩
    exact ⟨repeats, hrepeats, errors, herrors, hrest⟩

/-- Outside the operation suites the limit is the number of requests, and the
successes and errors of the run make it up. -/
theorem runErrorLimit_eq_ok {suite : Suite} {row : JsonObject} {path : String}
    {errors limit : ℤ} (hsuite : suite.isOperation = false) :
    runErrorLimit suite row path errors = Except.ok limit ↔
      (row.get "requests" = .int limit ∧ 1 ≤ limit) ∧ IsCount (row.get "warmup_errors") 0 ∧
        ∃ successes, row.get (runSuccessField suite) = .int successes ∧ 0 ≤ successes ∧
          successes + errors = limit := by
  have hnot : ¬ suite.isOperation = true := by simp [hsuite]
  rw [runErrorLimit, if_neg hnot]
  simp only [bind_eq_ok, requireInteger_eq_ok, ite_throw_eq_ok, pure_eq_ok, ne_eq, not_not,
    IsCount]
  constructor
  · rintro ⟨n, hn, w, hw, s, hs, hsum, rfl⟩
    exact ⟨hn, ⟨w, hw⟩, s, hs.1, hs.2, hsum⟩
  · rintro ⟨hn, ⟨w, hw⟩, s, hs, hs0, hsum⟩
    exact ⟨limit, hn, w, hw, s, ⟨hs, hs0⟩, hsum, rfl⟩

/-- The run check returns exactly when the run's counts, primary metric, error bound
and error maps are in order. -/
theorem validateRun_eq_ok {suite : Suite} {row : JsonObject} {path : String} :
    validateRun suite row path = Except.ok () ↔
      IsCount (row.get "repeat") 0 ∧ IsNonnegative (row.get "duration_s") ∧
        ∃ errors, (row.get "errors" = .int errors ∧ 0 ≤ errors) ∧
          PrimaryOk suite row (runPrimaryField suite) ∧
          (∃ limit, runErrorLimit suite row path errors = Except.ok limit ∧ errors ≤ limit) ∧
          ErrorMapOk row "error_types" "errors" ∧
          ErrorMapOk row "warmup_error_types" "warmup_errors" := by
  rw [validateRun, bind_requireCount_eq_ok, bind_requireNonnegative_eq_ok]
  refine and_congr_right fun _ => and_congr_right fun _ => ?_
  simp only [@bind_eq_ok PyError ℤ Unit, requireInteger_eq_ok, seq_eq_ok, validatePrimary_eq_ok,
    validateErrorBound_eq_ok, validateErrorMap_eq_ok]
  constructor
  · rintro ⟨errors, herrors, hprimary, limit, hlimit, hbound, hmaps⟩
    exact ⟨errors, herrors, hprimary, ⟨limit, hlimit, hbound⟩, hmaps⟩
  · rintro ⟨errors, herrors, hprimary, ⟨limit, hlimit, hbound⟩, hmaps⟩
    exact ⟨errors, herrors, hprimary, limit, hlimit, hbound, hmaps⟩

end Rows

/-! ## Optional fields -/

section Optional

/-- `if field in row: require_number(row[field], …)`. -/
def validateNumber (row : JsonObject) (path field : String) : Py Unit :=
  if row.has field then do
    let _ ← requireNumber (row.get field) (path ++ "." ++ field) (some 0)
    pure ()
  else pure ()

/-- The same for a field that may be null; `minimum` is absent for signed fields. -/
def validateNullableNumber (minimum : Option ℚ) (row : JsonObject) (path field : String) :
    Py Unit :=
  if row.has field && !(row.get field).isNone then do
    let _ ← requireNumber (row.get field) (path ++ "." ++ field) minimum
    pure ()
  else pure ()

/-- The numbers that a row may have, by what each of them may be. -/
def validateOptionalNumbers (row : JsonObject) (path : String) : Py Unit := do
  forM numericFields (validateNumber row path)
  forM nullableNumericFields (validateNullableNumber (some 0) row path)
  forM signedNumericFields (validateNullableNumber none row path)

/-- A count that a row may have, but not as null. -/
def validateCount (row : JsonObject) (path field : String) : Py Unit :=
  if row.has field then do
    let _ ← requireInteger (row.get field) (path ++ "." ++ field) 0
    pure ()
  else pure ()

/-- A count that may be null. -/
def validateNullableCount (row : JsonObject) (path field : String) : Py Unit :=
  if row.has field && !(row.get field).isNone then do
    let _ ← requireInteger (row.get field) (path ++ "." ++ field) 0
    pure ()
  else pure ()

/-- An integer of either sign that may be null. -/
def validateSignedCount (row : JsonObject) (path field : String) : Py Unit :=
  if row.has field && !(row.get field).isNone then
    raiseIf (row.get field).asInt?.isNone
      (valueError (path ++ "." ++ field ++ " must be an integer or null"))
  else pure ()

/-- The counts that a row may have, by what each of them may be. -/
def validateOptionalCounts (row : JsonObject) (path : String) : Py Unit := do
  forM countFields (validateCount row path)
  forM nullableCountFields (validateNullableCount row path)
  forM signedCountFields (validateSignedCount row path)

/-- The rate is a percentage. -/
def validateErrorRate (row : JsonObject) (path : String) : Py Unit :=
  if row.has "error_rate_percent" then do
    let rate ← requireNumber (row.get "error_rate_percent") (path ++ ".error_rate_percent")
      (some 0)
    raiseIf (maxErrorRatePercent < rate)
      (valueError (path ++ ".error_rate_percent must be <= 100"))
  else pure ()

/-- An object of counts that may be null. -/
def validateNestedCount (row : JsonObject) (path field : String) : Py Unit :=
  if row.has field && !(row.get field).isNone then do
    let counts ← requireObject (row.get field) (path ++ "." ++ field)
    forM counts fun entry => do
      let _ ← requireInteger entry.2 (path ++ "." ++ field ++ "." ++ entry.1) 0
      pure ()
  else pure ()

/-- The objects of counts that a row may have. -/
def validateNestedCounts (row : JsonObject) (path : String) : Py Unit :=
  forM nestedCountFields (validateNestedCount row path)

/-- Everything else that a row may carry. -/
def validateOptionalFields (row : JsonObject) (path : String) : Py Unit := do
  validateOptionalNumbers row path
  validateOptionalCounts row path
  validateErrorRate row path
  validateNestedCounts row path

end Optional

/-! ## Reports -/

section Reports

/-- The path of a run row in the errors. -/
def runPath (index : ℕ) : String := "runs[" ++ toString index ++ "]"

/-- All checks on one aggregate row. -/
def validateAggregateRow (suite : Suite) (row : JsonObject) (path : String) : Py Unit := do
  validateIdentity suite row path
  validateAggregate suite row path
  validateOptionalFields row path

/-- All checks on one run row. -/
def validateRunRow (suite : Suite) (row : JsonObject) (path : String) : Py Unit := do
  validateIdentity suite row path
  validateRun suite row path
  validateOptionalFields row path

/-- The aggregate rows are checked first, then the run rows. -/
def validateOrdinaryRows (suite : Suite) (aggregates runs : List JsonObject) : Py Unit := do
  forIndexed aggregates fun index row =>
    validateAggregateRow suite row ("aggregate[" ++ toString index ++ "]")
  forIndexed runs fun index row => validateRunRow suite row (runPath index)

end Reports

end FogHttpBenchmark.ReportSchema
