import FogHttpBenchmark.ReportSchema.Identity

/-!
# Resource coverage

The check of `resource_coverage`, which says for each resource metric of an aggregate row in
how many of its repeats the metric was observed. Against the runs of a report the number of
observations is counted again.
-/

set_option autoImplicit false

namespace FogHttpBenchmark.ReportSchema

open Library Library.Checked Python

/-! ## Coverage -/

section Coverage

/-- How many of the expected observations of a metric there are, and why the others are missing. -/
structure ResourceMetricCoverage where
  available : ℤ
  expected : ℤ
  unavailableReasons : List String
  deriving DecidableEq

/-- `ResourceCoverage`. -/
abbrev ResourceCoverage := List (String × ResourceMetricCoverage)

/-- The aggregate metrics that are taken from a field of the runs. -/
def rawResourceFields : List (String × String) :=
  [("rss_mb_max", "peak_rss_mb"), ("threads_max", "peak_threads"), ("fds_max", "peak_fds"),
    ("peak_active_requests_max", "peak_active_requests"),
    ("peak_pending_requests_max", "peak_pending_requests"),
    ("peak_buffered_response_bytes_max", "peak_buffered_response_bytes"),
    ("peak_rss_delta_mb_max", "peak_rss_delta_mb"),
    ("peak_threads_delta_max", "peak_threads_delta"), ("peak_fds_delta_max", "peak_fds_delta"),
    ("end_rss_delta_mb_max", "end_rss_delta_mb"), ("end_threads_delta_max", "end_threads_delta"),
    ("end_fds_delta_max", "end_fds_delta")]

/-- The aggregate metrics that are taken from the client statistics of the runs. -/
def clientStatFields : List (String × String) :=
  [("final_failed_requests_max", "failed_requests"),
    ("final_buffered_response_bytes_max", "buffered_response_bytes"),
    ("final_buffered_response_budget_rejections_max", "buffered_response_budget_rejections"),
    ("final_active_requests_max", "active_requests"),
    ("final_response_body_closed_max", "response_body_closed"),
    ("final_response_body_reuse_eligible_max", "response_body_reuse_eligible"),
    ("final_response_body_aborted_max", "response_body_aborted"),
    ("final_connections_opened_max", "connections_opened"),
    ("final_connections_reused_max", "connections_reused"),
    ("final_connections_closed_max", "connections_closed"),
    ("final_connections_aborted_max", "connections_aborted"),
    ("final_idle_connections_max", "idle_connections"),
    ("final_pool_timeouts_max", "pool_acquire_timeouts")]

/-- A list of texts. -/
def textsOf (value : Json) : Option (List String) :=
  value.asList?.bind fun items => items.mapM Json.asString?

/-- The coverage of one metric, as a row declares it. -/
def metricCoverage (observation : Json) (path : String) : Py ResourceMetricCoverage := do
  let record ← requireObject observation path
  let available ← requireInteger (record.get "available") (path ++ ".available") 0
  let expected ← requireInteger (record.get "expected") (path ++ ".expected") 0
  raiseIf (expected < available) (valueError (path ++ " requires 0 <= available <= expected"))
  match textsOf (record.get "unavailable_reasons") with
  | some reasons => pure ⟨available, expected, reasons⟩
  | none => throw (valueError (path ++ ".unavailable_reasons must be a list of strings"))

/-- The coverage of a row, empty where none is declared. -/
def resourceCoverageField (row : JsonObject) (path : String) : Py ResourceCoverage :=
  if row.has "resource_coverage" then do
    let value ← requireObject (row.get "resource_coverage") (path ++ ".resource_coverage")
    value.mapM fun entry => do
      let _ ← requireString (.str entry.1) (path ++ ".resource_coverage metric")
      let coverage ← metricCoverage entry.2 (path ++ ".resource_coverage." ++ entry.1)
      pure (entry.1, coverage)
  else pure []

/-- A metric of the coverage is in the row, and is null exactly where it was never observed. -/
def validateMetric (row : JsonObject) (path : String)
    (entry : String × ResourceMetricCoverage) : Py Unit := do
  raiseIf (!row.has entry.1)
    (valueError (path ++ "." ++ entry.1 ++
      " is required by its resource_coverage observation"))
  raiseIf ((row.get entry.1).isNone != decide (entry.2.available = 0))
    (valueError (path ++ "." ++ entry.1 ++ " disagrees with resource_coverage.available"))

/-- The coverage of a row agrees with its values; the current schema needs one. -/
def validateResourceCoverage (row : JsonObject) (path : String) (current : Bool) :
    Py ResourceCoverage := do
  raiseIf (current && !row.has "resource_coverage")
    (valueError (path ++ ".resource_coverage is required by resource_metric_schema_version=2"))
  let coverage ← resourceCoverageField row path
  forM coverage (validateMetric row path)
  pure coverage

end Coverage

/-! ## Observations -/

section Observations

/-- `run.get(field) is not None`. -/
def observesField (field : String) (run : JsonObject) : Py Bool :=
  pure (!(run.get field).isNone)

/-- The client statistics of the run have the field. -/
def observesStat (field : String) (run : JsonObject) : Py Bool :=
  if (run.get "client_stats").isNone then pure false
  else do
    let stats ← requireObject (run.get "client_stats") "run.client_stats"
    pure (!(stats.get field).isNone)

/-- How a run shows that it observed a metric; other metrics are not counted. -/
def observes (metric : String) : Option (JsonObject → Py Bool) :=
  match rawResourceFields.lookup metric with
  | some field => some (observesField field)
  | none => (clientStatFields.lookup metric).map observesStat

/-- As many runs have observed a metric as its coverage says. -/
def validateMetricObservations (runs : List JsonObject) (path : String)
    (entry : String × ResourceMetricCoverage) : Py Unit :=
  match observes entry.1 with
  | none => pure ()
  | some observed => do
      let available ← runs.mapM observed
      let count := available.countP fun seen => seen
      raiseIf (entry.2.available ≠ count)
        (valueError (path ++ ".resource_coverage." ++ entry.1 ++
          ".available must match recorded observations (" ++ toString count ++ ")"))

/-- The runs have observed every metric as often as its coverage says. -/
def validateResourceObservations (coverage : ResourceCoverage) (runs : List JsonObject)
    (path : String) : Py Unit :=
  forM coverage (validateMetricObservations runs path)

variable [PyRuntime]

/-- The runs with their identities. -/
def identifiedRuns (suite : Suite) (runs : List JsonObject) :
    Py (List (List String × JsonObject)) :=
  runs.mapM fun run => do
    let identity ← aggregateIdentity suite run
    pure (identity, run)

/-- The runs of one identity. -/
def matchingRuns (identified : List (List String × JsonObject)) (identity : List String) :
    List JsonObject :=
  (identified.filter fun entry => entry.1 = identity).map Prod.snd

/-- The coverage of a row is that of its runs. -/
def validateRowCoverage (suite : Suite) (identified : List (List String × JsonObject))
    (current : Bool) (row : JsonObject) (path : String) : Py Unit := do
  let coverage ← validateResourceCoverage row path current
  if coverage.isEmpty then pure ()
  else do
    let repeats ← requireInteger (row.get "repeats") (path ++ ".repeats") 1
    forM coverage fun entry => raiseIf (entry.2.expected ≠ repeats)
      (valueError (path ++ ".resource_coverage." ++ entry.1 ++
        ".expected must match repeats (" ++ toString repeats ++ ")"))
    if identified.isEmpty then pure ()
    else do
      let identity ← aggregateIdentity suite row
      let observations := matchingRuns identified identity
      raiseIf ((observations.length : ℤ) ≠ repeats)
        (valueError (path ++ ".resource_coverage requires " ++ toString repeats ++
          " matching run records, got " ++ toString observations.length))
      validateResourceObservations coverage observations path

/-- The coverage of each row is that of its runs. -/
def validateOrdinaryResourceCoverage (suite : Suite) (aggregates runs : List JsonObject)
    (current : Bool) : Py Unit := do
  let identified ← identifiedRuns suite runs
  forIndexed aggregates fun index row =>
    validateRowCoverage suite identified current row (aggregatePath index)

end Observations

end FogHttpBenchmark.ReportSchema
