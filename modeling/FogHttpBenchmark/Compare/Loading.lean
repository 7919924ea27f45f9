import FogHttpBenchmark.Compare.Models

/-!
# Loading reports for comparison

`load_benchmark_report`: an admitted report with a row of comparable values for each aggregate
row, and the validity that is read from it.
-/

set_option autoImplicit false

namespace FogHttpBenchmark.Compare

open Library Library.Checked Python ReportSchema Validity Isolation

variable [PyRuntime]

/-! ## Fields -/

section Fields

/-- `str_field(row, key, default)`, with a default or without one. -/
def strField (row : JsonObject) (key : String) (default : Option String) : Py String :=
  match row.has key, default with
  | false, some text => pure text
  | _, _ => requireString (row.get key) key

/-- A count of the row. -/
def intField (row : JsonObject) (key : String) : Py ℤ := requireInteger (row.get key) key 0

/-- A count of the row, or null. -/
def optionalIntField (row : JsonObject) (key : String) : Py (Option ℤ) :=
  if (row.get key).isNone then pure none else some <$> intField row key

/-- A nonnegative number of the row. -/
def floatField (row : JsonObject) (key : String) : Py ℚ := requireNumber (row.get key) key (some 0)

/-- A nonnegative number of the row, or null. -/
def optionalFloatField (row : JsonObject) (key : String) : Py (Option ℚ) :=
  if (row.get key).isNone then pure none else some <$> floatField row key

/-- A resource value may be negative. -/
def resourceFloatField (row : JsonObject) (key : String) : Py (Option ℚ) :=
  if (row.get key).isNone then pure none else some <$> requireNumber (row.get key) key none

/-- A resource counter, which may be written as a float. -/
def resourceIntField (row : JsonObject) (key : String) : Py (Option ℤ) :=
  match row.get key with
  | .null => pure none
  | .int n => pure (some n)
  | value => do
      let number ← requireNumber value key none
      if number.den = 1 then pure (some number.num)
      else throw (valueError (key ++ " must be an integer or null"))

/-- `object_field(value, key)`. -/
def objectField (value : JsonObject) (key : String) : JsonObject :=
  (value.get key).asObject?.getD []

end Fields

/-! ## Rows -/

section Rows

/-- The texts that name a row. -/
structure RowNames where
  label : String
  mode : String
  client : String
  scenario : String

/-- The fields of a row that depend on its suite: the primary value, the warm-up errors with the
error rate, where the suite has them, and the resource values. -/
structure RowValues where
  primaryValue : Py (Option ℚ)
  countsWarmup : Bool
  rssMb : Py (Option ℚ)
  threads : Py (Option ℤ)
  fds : Py (Option ℤ)

/-- The row builder that the suites share. -/
def buildRow (suite : Suite) (row : JsonObject) (names : Py RowNames) (values : RowValues) :
    Py BenchmarkRow := do
  let identity ← aggregateIdentity suite row
  let names ← names
  let primaryValue ← values.primaryValue
  let p95Ms ← optionalFloatField row "p95_ms_median"
  let p99Ms ← optionalFloatField row "p99_ms_median"
  let errorsTotal ← intField row "errors_total"
  -- rows of a suite without a warm-up have none
  let warmupErrorsTotal ← if values.countsWarmup then intField row "warmup_errors_total" else pure 0
  let errorRatePercent ←
    if values.countsWarmup then optionalFloatField row "error_rate_percent" else pure none
  let rssMb ← values.rssMb
  let threads ← values.threads
  let fds ← values.fds
  pure {
    identity := identity
    group := comparisonGroup identity
    label := names.label
    mode := names.mode
    client := names.client
    scenario := names.scenario
    primaryValue := primaryValue
    p95Ms := p95Ms
    p99Ms := p99Ms
    errorsTotal := errorsTotal
    warmupErrorsTotal := warmupErrorsTotal
    errorRatePercent := errorRatePercent
    rssMb := rssMb
    threads := threads
    fds := fds
    resourceCoverage := []
    resourceUnavailableReasons := [] }

/-- The maxima of an ordinary row. -/
def ordinaryValues (row : JsonObject) (primary : String) (countsWarmup : Bool) : RowValues where
  primaryValue := some <$> floatField row primary
  countsWarmup := countsWarmup
  rssMb := resourceFloatField row "rss_mb_max"
  threads := resourceIntField row "threads_max"
  fds := resourceIntField row "fds_max"

/-- The rows of the two request suites. -/
def requestRow (suite : Suite) (row : JsonObject) : Py BenchmarkRow :=
  buildRow suite row
    (do
      let mode ← strField row "mode" none
      let client ← strField row "client" none
      let scenario ← strField row "scenario" none
      let concurrency ← intField row "concurrency"
      let requestLimit ← intField row "request_limit"
      pure ⟨s!"{mode} / {client} / {scenario} / conc={concurrency} / limit={requestLimit}", mode,
        client, scenario⟩)
    (ordinaryValues row "ok_req_s_median" true)

/-- The rows of the client-creation suite. -/
def clientCreationRow (row : JsonObject) : Py BenchmarkRow :=
  buildRow .clientCreation row
    (do
      let mode ← strField row "mode" none
      let client ← strField row "client" none
      let scenario ← strField row "scenario" none
      let clientCount ← intField row "client_count"
      let iterations ← intField row "iterations"
      pure ⟨s!"{mode} / {client} / {scenario} / clients={clientCount} / iters={iterations}", mode,
        client, scenario⟩)
    { primaryValue := some <$> floatField row "ops_s_median"
      countsWarmup := false
      rssMb := resourceFloatField row "peak_rss_delta_mb_max"
      threads := resourceIntField row "peak_threads_delta_max"
      fds := resourceIntField row "peak_fds_delta_max" }

/-- The rows of the resource-backpressure suite. -/
def resourceRow (row : JsonObject) : Py BenchmarkRow :=
  buildRow .resourceBackpressure row
    (do
      let mode ← strField row "mode" none
      let client ← strField row "client" (some "foghttp")
      let scenario ← strField row "scenario" none
      let concurrency ← intField row "concurrency"
      let requestLimit ← intField row "request_limit"
      let originLimit ← optionalIntField row "per_origin_request_limit"
      let pendingLimit ← intField row "max_pending_requests"
      let originLabel := (originLimit.map toString).getD "-"
      pure ⟨s!"{mode} / {client} / {scenario} / conc={concurrency} / active={requestLimit} " ++
        s!"/ origin={originLabel} / pending={pendingLimit}", mode, client, scenario⟩)
    (ordinaryValues row "ok_requests_total" true)

/-- The rows of the one-upstream suite. -/
def oneUpstreamRow (row : JsonObject) : Py BenchmarkRow :=
  buildRow .oneUpstream row
    (do
      let mode ← strField row "mode" none
      let client ← strField row "client" none
      let case ← strField row "case" none
      let group ← strField row "group" none
      let profile ← strField row "profile" none
      let concurrency ← intField row "concurrency"
      pure ⟨s!"{mode} / {client} / {group} / {case} / {profile} / conc={concurrency}", mode, client,
        case⟩)
    (ordinaryValues row "ok_req_s_median" true)

/-- The rows of the request-builder suite. -/
def requestBuilderRow (row : JsonObject) : Py BenchmarkRow :=
  buildRow .requestBuilder row
    (do
      let mode ← strField row "mode" none
      let client ← strField row "client" none
      let case ← strField row "case" none
      let group ← strField row "group" none
      let kind ← strField row "kind" none
      let profile ← strField row "profile" none
      pure ⟨s!"{mode} / {client} / {kind} / {group} / {case} / {profile}", mode, client, case⟩)
    (ordinaryValues row "ops_s_median" false)

/-- The resources of the client process of a research row. -/
def clientResources (row : JsonObject) : JsonObject :=
  objectField (objectField row "resources") "client"

/-- The values of a streaming row; a research row has its resources per process, and may lack its
primary value. -/
def streamingValues (row : JsonObject) : RowValues :=
  match declaredResearchProfile (row.get "profile") with
  | none => ordinaryValues row "ok_streams_s_median" true
  | some profile =>
      { primaryValue := optionalFloatField row
          (if profile = .asyncBytes then "verified_bytes_s_median" else "ok_streams_s_median")
        countsWarmup := true
        rssMb := do
          let bytes ← resourceFloatField (clientResources row) "sampled_peak_rss_bytes_max"
          pure (bytes.map fun bytes => bytes / 1024 / 1024)
        threads := resourceIntField (clientResources row) "sampled_peak_threads_max"
        fds := resourceIntField (clientResources row) "sampled_peak_fds_max" }

/-- The rows of the response-streaming suite. -/
def responseStreamingRow (row : JsonObject) : Py BenchmarkRow :=
  buildRow .responseStreaming row
    (do
      let mode ← strField row "mode" none
      let client ← strField row "client" none
      let case ← strField row "case" none
      let read ← strField row "read" (some "bytes")
      let consume ← strField row "consume" none
      let concurrency ← intField row "concurrency"
      let requestLimit ← intField row "request_limit"
      requireHashable (row.get "profile")
      pure ⟨s!"{mode} / {client} / {case} / {read} / {consume} / conc={concurrency} " ++
        s!"/ limit={requestLimit}", mode, client, case⟩)
    (streamingValues row)

/-- The rows of the proxy-connect suite. -/
def proxyConnectRow (row : JsonObject) : Py BenchmarkRow :=
  buildRow .proxyConnect row
    (do
      let mode ← strField row "mode" none
      let client ← strField row "client" none
      let case ← strField row "case" none
      let targetScheme ← strField row "target_scheme" none
      let config ← strField row "config" none
      let lifecycle ← strField row "lifecycle" none
      let concurrency ← intField row "concurrency"
      let requestLimit ← intField row "request_limit"
      pure ⟨s!"{mode} / {client} / {case} / {targetScheme} / {config} / {lifecycle} " ++
        s!"/ conc={concurrency} / limit={requestLimit}", mode, client, case⟩)
    (ordinaryValues row "ok_req_s_median" true)

/-- The row builder of a suite. -/
def rowBuilder : Suite → JsonObject → Py BenchmarkRow
  | .clientCreation => clientCreationRow
  | .resourceBackpressure => resourceRow
  | .oneUpstream => oneUpstreamRow
  | .requestBuilder => requestBuilderRow
  | .responseStreaming => responseStreamingRow
  | .proxyConnect => proxyConnectRow
  | .requests => requestRow .requests
  | .compressedResponse => requestRow .compressedResponse

/-- The resource metrics of a research row with the outputs that they are missing from. -/
def unavailableMetrics : List (String × String) :=
  [("rss_bytes", "sampled_peak_rss_bytes_max"), ("threads", "sampled_peak_threads_max"),
    ("fds", "sampled_peak_fds_max")]

/-- The reasons that the resources of a research row give for missing metrics. -/
def withUnavailable (resources : JsonObject) (unavailable : List (String × List String)) :
    List (String × List String) :=
  unavailableMetrics.foldl
    (fun known metric =>
      match textsOf ((objectField resources "unavailable").get metric.1) with
      | some reasons => Dict.set metric.2 reasons known
      | none => known)
    unavailable

/-- `benchmark_row(suite, row)`, with the resources of a research row taken from its client. -/
def benchmarkRow (suite : Suite) (row : JsonObject) : Py BenchmarkRow := do
  let benchmark ← rowBuilder suite row
  let research := suite = .responseStreaming &&
    (declaredResearchProfile (row.get "profile")).isSome
  let resources := if research then clientResources row else row
  let coverage ← resourceCoverageField resources "row"
  let observed := coverage.map fun entry => (entry.1, entry.2.unavailableReasons)
  let unavailable := if research then withUnavailable resources observed else observed
  pure { benchmark with
    resourceCoverage := coverage
    resourceUnavailableReasons := unavailable }

end Rows

/-! ## Reports -/

section Reports

/-- The package versions of a report, as texts. -/
def packageVersions (metadata : JsonObject) : List (String × String) :=
  (objectField metadata "package_versions").map fun entry => (entry.1, strJson entry.2)

/-- What `load_benchmark_report` makes of a decoded report. -/
def reportOf (path : String) (report : DecodedReport) : Py BenchmarkReport := do
  let rows ← report.aggregateRows.mapM (benchmarkRow report.suite)
  let validity ← validitySummaryFromMetadata report.metadata (some report.suite)
    report.aggregateRows
  let timestamp ← strField report.metadata "timestamp" (some "-")
  pure {
    path := path
    suite := report.suite
    timestamp := timestamp
    packageVersions := packageVersions report.metadata
    rows := rows
    aggregateRows := report.aggregateRows
    metadata := report.metadata
    validity := validity
    runRows := report.runRows }

/-- `load_benchmark_report(path)`. -/
def loadBenchmarkReport (files : ReportFiles) (path : String) : Py BenchmarkReport := do
  let report ← loadReport files path none
  reportOf path report

/-- The validity of a loaded report is read from its metadata and rows. -/
theorem validity_of_loaded {files : ReportFiles} {path : String} {report : BenchmarkReport}
    (h : loadBenchmarkReport files path = .ok report) :
    validitySummaryFromMetadata report.metadata (some report.suite) report.aggregateRows =
      .ok report.validity := by
  simp only [loadBenchmarkReport, reportOf, bind_eq_ok, pure_eq_ok] at h
  obtain ⟨loaded, -, rows, -, validity, hvalidity, timestamp, -, rfl⟩ := h
  exact hvalidity

end Reports

end FogHttpBenchmark.Compare
