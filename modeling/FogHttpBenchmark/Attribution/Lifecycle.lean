import FogHttpBenchmark.Attribution.ReportValues

/-!
# Aggregation of fresh repetitions

`aggregate_lifecycle_results`: the results of the fresh processes are grouped by mode, client,
case and concurrency, and each group becomes one row with its totals, medians, latencies,
resources and phases.
-/

set_option autoImplicit false

namespace FogHttpBenchmark.Attribution

open Library Library.Checked Python

variable [PyRuntime]

/-! ## Parts of a result -/

section Parts

/-- `object_value(result.get("client_report"))`. -/
def clientReport (result : JsonObject) : JsonObject := objectValue (result.get "client_report")

/-- `object_value(result.get("case"))`. -/
def resultCase (result : JsonObject) : JsonObject := objectValue (result.get "case")

/-- The batches of a child. -/
def batchesOf (child : JsonObject) : List JsonObject := objectList (child.get "batches")

/-- The samples of a batch. -/
def samplesOf (batch : JsonObject) : List JsonObject := objectList (batch.get "samples")

/-- The values of one field. -/
def column (rows : List JsonObject) (key : String) : List Json := rows.map fun row => row.get key

/-- The numbers of one field, and `none` for what is no number. -/
def numberColumn (rows : List JsonObject) (key : String) : Py (List (Option ℚ)) :=
  (column rows key).mapM number

/-- The sum of the integers of one field. -/
def integerTotal (rows : List JsonObject) (key : String) : ℤ :=
  ((column rows key).map integer).sum

/-- The median of a column, of the values that are there. -/
def medianOf (rows : List JsonObject) (key : String) : Py Json := do
  let values ← numberColumn rows key
  pure (ofNumber (medianOptional values))

/-- The least value of a column. -/
def minimumOf (rows : List JsonObject) (key : String) : Py Json := do
  let values ← numberColumn rows key
  pure (ofNumber (minimumOptional values))

/-- The greatest value of a column. -/
def maximumOf (rows : List JsonObject) (key : String) : Py Json := do
  let values ← numberColumn rows key
  pure (ofNumber (maximumOptional values))

/-- A quantile of values as a report has it. -/
def quantileOf (values : List Json) (fraction : ℚ) : Py Json := do
  let value ← quantile values fraction
  pure (ofNumber value)

end Parts

/-! ## Repetitions -/

section Repetitions

/-- The duration of a repetition, if all its batches have one. -/
def repeatDuration (child : JsonObject) : Py (Option ℚ) := do
  let durations ← numberColumn (batchesOf child) "duration_s"
  pure (if durations.isEmpty || durations.any Option.isNone then none
    else some (durations.filterMap id).sum)

/-- The successful streams of a repetition for each second, if it took any time. -/
def repeatRate (child : JsonObject) : Py (Option ℚ) := do
  let duration ← repeatDuration child
  pure ((duration.filter fun seconds => 0 < seconds).map fun seconds =>
    integerTotal (batchesOf child) "ok_streams" / seconds)

/-- The median over the repetitions of one quantile of their latencies. -/
def repeatLatencyMedian (children : List JsonObject) (fraction : ℚ) : Py Json := do
  let latencies ← children.mapM fun child =>
    quantile (column ((batchesOf child).flatMap samplesOf) "duration_ms") fraction
  pure (ofNumber (medianOptional latencies))

end Repetitions

/-! ## Resources and phases -/

section Resources

/-- The resources that are sampled. -/
def metricNames : List String := ["rss_bytes", "threads", "fds"]

/-- The processor times that are sampled. -/
def cpuNames : List String := ["user_s", "system_s"]

/-- The reasons of the items that have no number for a metric. -/
def unavailability (items : List JsonObject) (metric : String) : Py Json := do
  let missing ← items.filterMapM fun item => do
    let value ← number (item.get metric)
    let reason := (objectValue (item.get "unavailable")).get metric
    pure (if value.isSome then none
      else some (if reason.truthy then strJson reason else "No observation for this metric."))
  pure (sortedTexts missing)

/-- Why a metric is missing in some of the items, for each metric. -/
def aggregateUnavailability (items : List JsonObject) (metrics : List String) : Py Json := do
  let reasons ← metrics.mapM fun metric => do
    let texts ← unavailability items metric
    pure (metric, texts)
  pure (.obj reasons)

/-- The sampled peaks of a result for one role. -/
def sampledPeak (result : JsonObject) (role : String) : JsonObject :=
  objectValue ((objectValue ((objectValue (result.get "resources")).get "sampled_peaks")).get role)

/-- The reasons that the samples of a role give for a missing metric. -/
def observedReasons (result : JsonObject) (role metric : String) : List String :=
  (objectList ((objectValue (result.get "resources")).get "samples")).filterMap fun sample =>
    let reason := (objectValue (sample.get "unavailable")).get metric
    if (sample.get "role").pyEq (.str role) && !reason.isNone then some (strJson reason) else none

/-- Why a result has no sample of a metric, for the results without one. -/
def resourceUnavailableReasons (results : List JsonObject) (role metric : String) : Py Json := do
  let reasons ← results.mapM fun result => do
    let value ← number ((sampledPeak result role).get metric)
    let observed := observedReasons result role metric
    pure (if value.isSome then []
      else if observed.isEmpty then
        ["No available parent-owned sample for this metric in this repetition."]
      else observed)
  pure (sortedTexts reasons.flatten)

/-- The resources of one role over all repetitions. -/
def aggregateResources (results children : List JsonObject) (role : String) : Py Json := do
  let peaks := results.map fun result => sampledPeak result role
  let lifetime :=
    if role = "client" then
      column (children.flatMap fun child => objectList (child.get "phases"))
        "lifetime_high_water_rss_bytes"
    else []
  let lifetimes ← lifetime.mapM number
  let rss ← maximumOf peaks "rss_bytes"
  let threads ← maximumOf peaks "threads"
  let fds ← maximumOf peaks "fds"
  let reasons ← metricNames.mapM fun metric => do
    let texts ← resourceUnavailableReasons results role metric
    pure (metric, texts)
  pure (.obj
    [("scope", .str "one PID per fresh repetition"), ("rss_unit", .str "bytes"),
      ("sampled_peak_rss_bytes_max", rss), ("sampled_peak_threads_max", threads),
      ("sampled_peak_fds_max", fds),
      ("lifetime_high_water_rss_bytes_max", ofNumber (maximumOptional lifetimes)),
      ("lifetime_high_water_unavailable_reason",
        if role = "client" && lifetimes.any Option.isSome then .null
        else .str "No worker lifetime high-water observation for this role."),
      ("unavailable", .obj reasons)])

/-- The groups in ascending order of their keys. -/
def sortedGroups {α : Type} (groups : List (List String × α)) : List (List String × α) :=
  groups.insertionSort fun a b => a.1 ≤ b.1

/-- The CPU deltas between two phases, by role and phases. -/
def cpuDeltas (results : List JsonObject) : List (List String × List JsonObject) :=
  sortedGroups (Dict.groupBy
    (fun delta => [strJson (JsonObject.get delta "role"),
      strJson (JsonObject.get delta "from_phase"),
      strJson (JsonObject.get delta "to_phase")])
    (results.flatMap fun result =>
      objectList ((objectValue (result.get "resources")).get "cpu_phase_deltas")))

/-- The resource samples of the phases, by role and phase. -/
def phaseSamples (results : List JsonObject) : List (List String × List JsonObject) :=
  let samples := results.flatMap fun result =>
    (objectList ((objectValue (result.get "resources")).get "phases")).flatMap fun phase =>
      (["client", "server"].map fun role =>
        ([role, strJson (phase.get "phase")], objectValue (phase.get role))).filter
          fun sample => !sample.2.isEmpty
  sortedGroups ((Dict.groupBy Prod.fst samples).map fun group =>
    (group.1, group.2.map Prod.snd))

/-- The processor times between two phases over all repetitions. -/
def cpuPhaseDelta (key : List String) (items : List JsonObject) : Py Json := do
  let user ← medianOf items "user_s"
  let system ← medianOf items "system_s"
  let unavailable ← aggregateUnavailability items cpuNames
  pure (.obj
    [("role", .str (key.getD 0 "")), ("from_phase", .str (key.getD 1 "")),
      ("to_phase", .str (key.getD 2 "")), ("user_s_median", user), ("system_s_median", system),
      ("unavailable", unavailable)])

/-- The resources in a phase over all repetitions. -/
def phaseResource (key : List String) (items : List JsonObject) : Py Json := do
  let medians ← metricNames.mapM fun metric => do
    let value ← medianOf items metric
    pure (metric ++ "_median", value)
  let unavailable ← aggregateUnavailability items metricNames
  pure (.obj ([("role", .str (key.getD 0 "")), ("phase", .str (key.getD 1 ""))] ++ medians ++
    [("unavailable", unavailable)]))

end Resources

/-! ## Rows -/

section Rows

/-- What the results of a cell have in common. -/
structure CellKey where
  mode : String
  client : String
  case : String
  concurrency : ℤ
  deriving DecidableEq

/-- The cell that a result belongs to. -/
def cellKey (result : JsonObject) : CellKey where
  mode := strJson ((resultCase result).getOr "mode" (.str ""))
  client := strJson ((resultCase result).getOr "client" (.str ""))
  case := strJson ((resultCase result).getOr "case" (.str ""))
  concurrency := integer ((resultCase result).get "concurrency")

/-- The order of the keys as tuples. -/
def CellKey.le (a b : CellKey) : Bool :=
  if [a.mode, a.client, a.case] = [b.mode, b.client, b.case] then a.concurrency ≤ b.concurrency
  else [a.mode, a.client, a.case] ≤ [b.mode, b.client, b.case]

/-- `child.get("status") == "ok" and not result.get("failure")`. -/
def repeatSucceeded (result : JsonObject) : Bool :=
  ((clientReport result).get "status").pyEq (.str "ok") && !(result.get "failure").truthy

/-- The aborts of the held-tail controls that succeeded. -/
def expectedAborts (controls : List JsonObject) : ℤ :=
  ((controls.map fun control => objectValue (control.get "held_tail")).filterMap fun held =>
    if (held.get "status").pyEq (.str "ok") then some (integer (held.get "expected_aborts"))
    else none).sum

/-- The row of a cell. -/
def aggregateCase (key : CellKey) (results : List JsonObject) : Py JsonObject := do
  let children := results.map clientReport
  let batches := children.flatMap batchesOf
  let samples := batches.flatMap samplesOf
  let repeatRates ← children.mapM repeatRate
  let repeatDurations ← children.mapM repeatDuration
  -- repeats without a rate or a duration are left out of the medians
  let rates := repeatRates.filterMap id
  let durations := repeatDurations.filterMap id
  let errors := (children.map fun child => (objectList (child.get "errors")).length).sum
  let warmupErrors := (children.map fun child =>
    (objectList ((objectValue (child.get "warmup")).get "errors")).length).sum
  let controls := children.map fun child => objectValue (child.get "controls")
  let configuration := (children.head?.map fun child => child.get "config").getD .null
  let p50 ← repeatLatencyMedian children (50 / 100)
  let p95 ← repeatLatencyMedian children (95 / 100)
  let p99 ← repeatLatencyMedian children (99 / 100)
  let firstItem ← quantileOf (column samples "first_item_ms") (95 / 100)
  let closeReturn ← quantileOf (column samples "close_return_ms") (95 / 100)
  let firstChunkMin ← minimumOf samples "first_chunk_bytes"
  let firstChunkMax ← maximumOf samples "first_chunk_bytes"
  -- the latencies of all recoveries together, not one quantile for each repeat
  let recovery ← quantileOf (controls.flatMap fun control =>
    listValue ((objectValue (control.get "recovery")).get "latencies_ms")) (95 / 100)
  let construction ← medianOf children "client_construction_ms"
  let close ← medianOf children "client_close_ms"
  let clientResources ← aggregateResources results children "client"
  let serverResources ← aggregateResources results children "server"
  let deltas ← (cpuDeltas results).mapM fun group => cpuPhaseDelta group.1 group.2
  let phases ← (phaseSamples results).mapM fun group => phaseResource group.1 group.2
  pure
    [("profile", .str "lifecycle"), ("measurement_scope", .str "separate-client-server-pids-v1"),
      ("configuration", .obj (objectValue configuration)),
      ("configurations_match", .bool (!children.isEmpty &&
        children.all fun child => (child.get "config").pyEq configuration)),
      ("mode", .str key.mode), ("client", .str key.client), ("case", .str key.case),
      ("read", .str "bytes"),
      ("consume", .str (if key.case = "stream-1m" then "all" else "first-chunk")),
      ("concurrency", .int key.concurrency), ("request_limit", .int key.concurrency),
      ("repeats", .int results.length),
      ("successful_repeats", .int (results.countP repeatSucceeded)),
      ("batch_count", .int batches.length),
      ("ok_streams_total", .int (integerTotal batches "ok_streams")),
      ("bytes_read_total", .int (integerTotal batches "bytes_read_total")),
      ("expected_aborts_total", .int (expectedAborts controls)), ("errors_total", .int errors),
      ("warmup_errors_total", .int warmupErrors),
      ("failed_cases", .int (results.countP fun result => !repeatSucceeded result)),
      ("ok_streams_s_median", ofNumber (medianOptional (rates.map some))),
      ("streams_s_cv_percent", ofNumber (cvOptional rates)),
      ("duration_s_cv_percent", ofNumber (cvOptional durations)),
      ("variation_sample_count", .int rates.length), ("variation_limit_percent", .ofFloat 10),
      ("p50_ms_median", p50), ("p95_ms_median", p95), ("p99_ms_median", p99),
      ("first_item_p95_ms", firstItem), ("close_return_p95_ms", closeReturn),
      ("first_chunk_bytes_min", firstChunkMin), ("first_chunk_bytes_max", firstChunkMax),
      ("recovery_p95_ms", recovery), ("client_construction_ms_median", construction),
      ("client_close_ms_median", close),
      ("resources", .obj [("client", clientResources), ("server", serverResources)]),
      ("cpu_phase_deltas", .arr deltas), ("phase_resources", .arr phases)]

/-- One row for each cell, in the order of the cells. -/
def aggregateLifecycleResults (results : List JsonObject) : Py (List JsonObject) :=
  let grouped := (Dict.groupBy cellKey results).insertionSort fun a b => a.1.le b.1
  grouped.mapM fun group => aggregateCase group.1 group.2

end Rows

end FogHttpBenchmark.Attribution
