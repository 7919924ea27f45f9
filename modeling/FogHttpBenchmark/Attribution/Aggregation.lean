import FogHttpBenchmark.Attribution.Window
import FogHttpBenchmark.ReportSchema.Decoding

/-!
# Aggregation of attribution results

`aggregate_attribution_results`: the rows of the fresh repetitions with the totals, rates and
completeness flags of their evidence. The flags summarise checks of each stream, each batch
and each result; the verified bytes are checked for the whole cell only.
-/

set_option autoImplicit false

namespace FogHttpBenchmark.Attribution

open Library Library.Checked Python

variable [PyRuntime]

/-! ## Payload -/

section Payload

/-- The largest body of a case. -/
def maxBodyBytes : ℤ := 1048576

/-- `BYTE_PATTERN`. -/
def bytePattern : List UInt8 := (List.range 256).map UInt8.ofNat

/-- `DIGEST_BLOCK`. -/
def digestBlock : List UInt8 := (List.replicate 256 bytePattern).flatten

/-- The digest of a body of the given size, which repeats one block. -/
def streamingBytesSha256 (size : ℕ) : String :=
  PyRuntime.sha256 ((List.replicate (size / digestBlock.length) digestBlock).flatten ++
    digestBlock.take (size % digestBlock.length))

end Payload

/-! ## Streams -/

section Streams

/-- `latency_matches(sample)`. -/
def latencyMatches (sample : JsonObject) : Py Bool := do
  let duration ← number (sample.get "duration_ms")
  let first ← number (sample.get "first_item_ms")
  let close ← number (sample.get "close_return_ms")
  pure (match duration, first, close with
    | some duration, some first, some close =>
        0 < duration && 0 ≤ first && first ≤ duration && 0 ≤ close && close ≤ duration
    | _, _, _ => false)

/-- The size and the count of a bin, where both are positive. -/
def positiveBin (item : JsonObject) : Bool :=
  0 < integer (item.get "size_bytes") && 0 < integer (item.get "count")

/-- The histogram of a sample is not empty and adds up to its chunks and to the body. -/
def histogramMatches (sample : JsonObject) (body : ℤ) : Bool :=
  let bins := objectList ((objectValue (sample.get "distribution")).get "histogram")
  !bins.isEmpty && bins.all positiveBin &&
    (Json.int (integerTotal bins "count")).pyEq (sample.get "chunks_read") &&
    (bins.map fun item => integer (item.get "size_bytes") * integer (item.get "count")).sum = body

/-- `sample.get("http_version") in {"HTTP/1.1", "1.1"}`. -/
def httpVersionMatches (sample : JsonObject) : Py Bool := do
  let version := sample.get "http_version"
  ReportSchema.requireHashable version
  pure (version.pyEq (.str "HTTP/1.1") || version.pyEq (.str "1.1"))

/-- The framing of a stream that ended well. -/
def framingMatches (sample : JsonObject) (body : ℤ) : Bool :=
  (sample.get "status").pyEq (.str "ok") && (sample.get "eof").isTrue &&
    (sample.get "status_code").pyEq (.int 200) &&
    (sample.get "content_length").pyEq (.str (toString body)) &&
    (sample.get "content_encoding").isNone && (sample.get "transfer_encoding").isNone

/-- The content of a stream, its digest and its verified bytes. -/
def contentMatches (sample : JsonObject) (body : ℤ) (expected : String) : Bool :=
  let distribution := objectValue (sample.get "distribution")
  (sample.get "sha256").pyEq (.str expected) && (sample.get "bytes_read").pyEq (.int body) &&
    (sample.get "verified_success_bytes").pyEq (.int body) &&
    (distribution.get "complete").isTrue &&
    (distribution.get "observed_count").pyEq (sample.get "chunks_read") &&
    (sample.get "delivery_samples").asList?.isSome && (sample.get "clock").truthy

/-- The evidence of one stream. -/
def streamComplete (body : ℤ) (expected : String) (globalDistribution : Bool)
    (sample : JsonObject) : Py Bool :=
  andAlso (framingMatches sample body) do
    let version ← httpVersionMatches sample
    andAlso (version && contentMatches sample body expected) do
      let resolution ← number (sample.get "clock_resolution_s")
      andAlso (resolution.any fun q => 0 < q)
        (andAlso (globalDistribution || histogramMatches sample body) (latencyMatches sample))

/-- Every sample of a batch has evidence of a whole body within the caps. -/
def sampleEvidenceComplete (samples : List JsonObject) (configuration : JsonObject)
    (globalDistribution : Bool) : Py Bool :=
  match (configuration.get "body_bytes").asInt? with
  | none => pure false
  | some body =>
      andAlso (0 < body && body ≤ maxBodyBytes && !samples.isEmpty)
        (allChecked
          (streamComplete body (streamingBytesSha256 body.toNat) globalDistribution) samples)

end Streams

/-! ## Batches -/

section Batches

/-- `object_value(configuration.get("attribution")).get("minimum_duration_s")`. -/
def minimumDuration (configuration : JsonObject) : Json :=
  (objectValue (configuration.get "attribution")).get "minimum_duration_s"

/-- The samples of a batch have their evidence, and so has the batch in a window. -/
def batchEvidenceComplete (batch configuration : JsonObject) : Py Bool := do
  let window := (minimumDuration configuration).truthy
  let samples ← sampleEvidenceComplete (samplesOf batch) configuration window
  andAlso samples
    (if window then windowDistributionMatches batch configuration else pure true)

/-- `list(range(1, count + 1))`. -/
def numbersFromOne (count : ℤ) : Json :=
  .arr ((List.range count.toNat).map fun i : ℕ => .int ((i : ℤ) + 1))

/-- A batch has one successful sample for each of its requests, in their order. -/
def batchWorkloadMatches (batch : JsonObject) (rounds concurrency : ℤ) : Bool :=
  let requests := rounds * concurrency
  let samples := samplesOf batch
  (batch.get "rounds").pyEq (.int rounds) &&
    (batch.get "requests").pyEq (.int requests) && samples.length = requests &&
    (Json.arr (column samples "stream")).pyEq (numbersFromOne requests) &&
    !(batch.get "errors").truthy && (batch.get "ok_streams").pyEq (.int requests)

/-- The processor was probed right before and right after the load. -/
def cpuBoundaryMatches (cpu : JsonObject) (loadStart loadFinish : ℤ) : Bool :=
  let before := objectValue (cpu.get "before")
  let after := objectValue (cpu.get "after")
  match (before.get "probe_started_ns").asInt?, (before.get "probe_finished_ns").asInt?,
      (after.get "probe_started_ns").asInt?, (after.get "probe_finished_ns").asInt? with
  | some startBefore, some endBefore, some startAfter, some endAfter =>
      0 ≤ startBefore && startBefore ≤ endBefore && endBefore ≤ loadStart &&
        loadStart < loadFinish && loadFinish ≤ startAfter && startAfter ≤ endAfter &&
        (before.get "pid").pyEq (cpu.get "pid") && (cpu.get "pid").pyEq (after.get "pid") &&
        (cpu.get "load_boundary_overhang_ns").asInt? =
          some (loadStart - startBefore + endAfter - loadFinish)
  | _, _, _, _ => false

/-- The processor evidence of a batch for one role. -/
def batchCpu (batch : JsonObject) (role : String) : JsonObject :=
  objectValue ((objectValue (batch.get "cpu")).get role)

/-- The duration of a batch is that between its times, and its probes surround it. -/
def batchTimingMatches (batch : JsonObject) : Py Bool := do
  let timing := objectValue (batch.get "timing")
  let duration ← number (batch.get "duration_s")
  match (timing.get "load_started_ns").asInt?, (timing.get "load_finished_ns").asInt?,
      duration with
  | some start, some finish, some duration =>
      andAlso (0 ≤ start && start < finish) do
        let seconds ← trueDiv (finish - start) 1000000000
        pure (isClose duration seconds &&
          (timing.get "digest_finalize_duration_ns").asInt?.any (fun n => 0 ≤ n) &&
          (timing.get "clock").truthy &&
          (timing.get "verified_only_after_finalization").isTrue &&
          ["client", "server"].all fun role =>
            cpuBoundaryMatches (batchCpu batch role) start finish)
  | _, _, _ => pure false

end Batches

/-! ## Results -/

section Results

/-- Every probe of a batch was taken of the process that was started for its role. -/
def batchCpuIdentity (result : JsonObject) : Bool :=
  let batches := batchesOf (clientReport result)
  !batches.isEmpty && batches.all fun batch => ["client", "server"].all fun role =>
    ((batchCpu batch role).get "pid").pyEq (result.get (role ++ "_pid"))

/-- The workload of one measured batch. -/
def measuredBatchMatches (configuration : JsonObject) (rounds concurrency : ℤ)
    (batch : JsonObject) : Py Bool := do
  let workload ←
    if (minimumDuration configuration).truthy then do
      let window ← windowWorkloadMatches batch configuration concurrency
      pure (window &&
        batchWorkloadMatches batch (integer (batch.get "rounds")) concurrency)
    else pure (batchWorkloadMatches batch rounds concurrency)
  andAlso workload (batchTimingMatches batch)

/-- The batches of a child, its warmup included, are those that its configuration declares. -/
def declaredWorkloadMatches (result : JsonObject) : Py Bool :=
  let child := clientReport result
  let configuration := objectValue (child.get "config")
  let batches := batchesOf child
  let warmupBatch := objectValue (child.get "warmup")
  match (configuration.get "batches").asInt?, (configuration.get "rounds_per_batch").asInt?,
      ((resultCase result).get "concurrency").asInt?,
      (configuration.get "warmup_rounds").asInt? with
  | some count, some rounds, some concurrency, some warmup =>
      andAlso
        (0 < count && 0 < rounds && 0 < concurrency && 0 ≤ warmup && batches.length = count &&
          (Json.arr (column batches "batch")).pyEq (numbersFromOne count)) do
        let measured ← allChecked (measuredBatchMatches configuration rounds concurrency) batches
        andAlso (measured && batchWorkloadMatches warmupBatch warmup concurrency)
          (if warmup = 0 then pure true
            else sampleEvidenceComplete (samplesOf warmupBatch) configuration false)
  | _, _, _, _ => pure false

/-- The collector has three generations. -/
def gcThresholdCount : ℕ := 3

/-- The collector of a child was configured as its environment says. -/
def gcEvidenceMatches (child environment : JsonObject) : Bool :=
  let actual := objectValue (child.get "gc_configuration")
  let enabled := actual.get "enabled"
  (Json.obj actual).pyEq (environment.get "gc") && (enabled.isTrue || enabled.isFalse) &&
    (actual.get "threshold").asList?.any (fun thresholds =>
      thresholds.length = gcThresholdCount &&
        thresholds.all fun value => value.asInt?.any fun n => 0 ≤ n) &&
    (actual.get "automatic_policy_changed").isFalse

/-- `value is None or value <= 0`. -/
def missingOrNonpositive (value : Option ℚ) : Bool := value.all fun q => q ≤ 0

/-- The verified bytes of a repetition for each second of its batches. -/
def repeatVerifiedRate (child : JsonObject) : Py (Option ℚ) := do
  let batches := batchesOf child
  let durations ← numberColumn batches "duration_s"
  let bytes := column batches "verified_success_bytes"
  pure (if batches.isEmpty || durations.any missingOrNonpositive ||
      bytes.any (fun value => !value.asInt?.any fun n => 0 ≤ n) then none
    else some ((bytes.map integer).sum / (durations.filterMap id).sum))

end Results

/-! ## Costs -/

section Costs

/-- The processor times that a probe reads. -/
def cpuCounters : List String := ["user_s", "system_s", "total_s"]

/-- The processor times and the quotients that are made of them. -/
def cpuKeys : List String :=
  cpuCounters ++ ["cpu_seconds_per_verified_byte", "cpu_seconds_per_wall_second"]

/-- The counters of one observation are numbers. -/
def countersComplete (item : JsonObject) : Py Bool :=
  allChecked (fun key => nonnegativeNumber (item.get key)) cpuCounters

/-- The sum of the numbers, where all of them are there. -/
def completeSum (values : List (Option ℚ)) : Option ℚ :=
  if values.isEmpty || values.any Option.isNone then none else some (values.filterMap id).sum

/-- The CPU seconds of one repetition, in the order of `cpuKeys`. -/
def cpuSummary (batches observations : List JsonObject) : Py (List (Option ℚ)) := do
  let counters ← cpuCounters.mapM fun key => do
    let values ← numberColumn observations key
    pure (completeSum values)
  let durations ← numberColumn batches "duration_s"
  let verified := integerTotal batches "verified_success_bytes"
  let wall := (durations.map fun duration => duration.getD 0).sum
  let total := counters.getLast?.getD none
  pure (counters ++
    [total.bind fun q => if 0 < verified then some (q / verified) else none,
      total.bind fun q => if 0 < wall then some (q / wall) else none])

/-- Whether a repetition has its CPU evidence, its summary, and its reasons for what is
missing. -/
def cpuRepeat (role : String) (child : JsonObject) :
    Py (Bool × List (Option ℚ) × List String) := do
  let batches := batchesOf child
  let observations := batches.map fun batch => batchCpu batch role
  let counted ← allChecked countersComplete observations
  let reasons := (column observations "unavailable_reason").filter Json.truthy
  let summary ← cpuSummary batches observations
  pure (!observations.isEmpty && counted && reasons.isEmpty, summary, reasons.map strJson)

/-- The processor evidence of all repetitions for one role. -/
def aggregateCpu (children : List JsonObject) (role : String) : Py Json := do
  let repeats ← children.mapM (cpuRepeat role)
  let medians := cpuKeys.zipIdx.map fun key =>
    (key.1 ++ "_median",
      ofNumber (medianOptional (repeats.map fun entry => entry.2.1.getD key.2 none)))
  pure (.obj ([("complete", .bool (!children.isEmpty && repeats.all Prod.fst))] ++ medians ++
    [("unavailable", sortedTexts (repeats.flatMap fun entry => entry.2.2)),
      ("scope", .str ("Per-PID CPU counters bracketing load plus retained boundary probe " ++
        "overhang; user+system may exceed wall time with multicore work"))]))

/-- A replay that succeeded, without a reason, and has its durations. -/
def overheadComplete (item : JsonObject) : Py Bool :=
  andAlso ((item.get "status").pyEq (.str "ok") && !(item.get "reason").truthy)
    (allChecked (fun key => nonnegativeNumber (item.get key)) replayKeys)

/-- The replay evidence of all batches. -/
def aggregateOverhead (batches : List JsonObject) : Py Json := do
  let observations := batches.map fun batch => objectValue (batch.get "overhead")
  let complete ← allChecked overheadComplete observations
  let medians ← replayKeys.mapM fun key => do
    let value ← medianOf observations key
    pure (key ++ "_median", value)
  let reasons := (column observations "reason").filter Json.truthy
  pure (.obj ([("complete", .bool (!observations.isEmpty && complete)),
      ("distribution_complete", .bool (!observations.isEmpty &&
        observations.all fun item => (item.get "distribution_complete").isTrue))] ++ medians ++
    [("reasons", sortedTexts (reasons.map strJson)),
      ("scope", .str ("separate bounded in-memory replay over observed chunk sizes; " ++
        "no subtraction from primary metrics"))]))

end Costs

/-! ## Rows -/

section Rows

/-- The keys that a result and its row share. -/
def cellFields : List String := ["mode", "client", "case", "concurrency"]

/-- A case and a row belong to one cell. -/
def sameCell (case row : JsonObject) : Bool :=
  cellFields.all fun key => (case.get key).pyEq (row.get key)

/-- The results of the cell of a row. -/
def cellResults (results : List JsonObject) (row : JsonObject) : List JsonObject :=
  results.filter fun result => sameCell (resultCase result) row

/-- The fresh repetitions of the cell. -/
def cellChildren (results : List JsonObject) (row : JsonObject) : List JsonObject :=
  (cellResults results row).map clientReport

/-- The measured batches of the cell. -/
def cellBatches (results : List JsonObject) (row : JsonObject) : List JsonObject :=
  (cellChildren results row).flatMap batchesOf

/-- `object_value(object_value(conditions.get("configuration")).get("attribution"))`. -/
def declaredAttribution (conditions : JsonObject) : JsonObject :=
  objectValue ((objectValue (conditions.get "configuration")).get "attribution")

/-- The conditions of a row: FogHTTP reads with its own iterator. -/
def rowConditions (conditions row : JsonObject) : JsonObject :=
  let requested := (declaredAttribution conditions).get "requested_client_read_bytes"
  let fogHttp := (row.get "client").pyEq (.str "foghttp")
  Dict.set "requested_client_read_bytes" (if fogHttp then .null else requested)
    (Dict.set "read_policy"
      (.str (if !fogHttp && !requested.isNone then "public-iterator-requested-size"
        else "native-public-iterator")) conditions)

/-- The number of streams that the configuration of a row declares. -/
def expectedStreams (row : JsonObject) (batches : List JsonObject) (repeats : ℕ) : ℤ :=
  let configuration := objectValue (row.get "configuration")
  if (minimumDuration configuration).truthy then integerTotal batches "requests"
  else integer (configuration.get "batches") * integer (configuration.get "rounds_per_batch") *
    integer (row.get "concurrency") * repeats

/-- The sample was credited. -/
def streamOk (sample : JsonObject) : Bool := (sample.get "status").pyEq (.str "ok")

/-- The fields of an attribution row that count its evidence. -/
def evidenceFields (row : JsonObject) (batches : List JsonObject) (repeats : ℕ)
    (evidence workload : Bool) : JsonObject :=
  let samples := batches.flatMap samplesOf
  let configuration := objectValue (row.get "configuration")
  [("verified_bytes_total", .int (integerTotal batches "verified_success_bytes")),
    ("total_observed_bytes", .int (integerTotal batches "total_observed_bytes")),
    ("failed_observed_bytes", .int (integerTotal batches "failed_observed_bytes")),
    ("integrity_failures_total", .int (samples.countP fun sample => !streamOk sample)),
    ("complete_streams_total",
      .int (samples.countP fun sample => streamOk sample && (sample.get "eof").isTrue)),
    ("expected_streams_total", .int (expectedStreams row batches repeats)),
    ("stream_samples_total", .int samples.length),
    ("delivered_chunks_total", .int (integerTotal samples "chunks_read")),
    ("stream_measurement_evidence_complete", .bool (evidence && !batches.isEmpty)),
    ("declared_workload_complete", .bool workload),
    ("duration_window_complete", .bool (!(minimumDuration configuration).truthy ||
      batches.all fun batch =>
        ((objectValue (batch.get "window")).get "target_reached").isTrue)),
    ("server_health_complete", .bool (!batches.isEmpty && batches.all fun batch =>
      ((objectValue (batch.get "server_health")).get "status").pyEq (.str "ok")))]

/-- The fields that carry the conditions and the fixed scopes of a row. -/
def conditionFields (ownConditions : JsonObject) (fingerprint : String)
    (attribution : JsonObject) : JsonObject :=
  [("profile", .str "async-bytes"), ("schema_version", .int attributionSchemaVersion),
    ("policy_version", .str attributionPolicyVersion), ("conditions", .obj ownConditions),
    ("condition_fingerprint", .str fingerprint),
    ("primary_metric", .str "verified_bytes_s_median"),
    ("timing_scope", .str "load-only-incremental-sha256-v1"),
    ("throughput_scope", .str "verified-eof-v2"),
    ("gap_sampling_rule", .str ("first bounded public chunk observations per stream; " ++
      "excludes first delivery")),
    ("instrumentation", attribution.get "instrumentation"),
    ("profiler_label", attribution.get "profiler_label")]

/-- The measured rates, chunk sizes, gaps, costs and durations of a row. -/
def measuredFields (children batches : List JsonObject) (rates : List ℚ) : Py JsonObject := do
  let samples := batches.flatMap samplesOf
  let distributions := samples.map fun sample => objectValue (sample.get "distribution")
  let gaps := samples.flatMap fun sample => listValue (sample.get "gap_samples_ms")
  let chunkMin ← minimumOf distributions "min_bytes"
  let chunkMax ← maximumOf distributions "max_bytes"
  let gapP95 ← quantileOf gaps (95 / 100)
  let clientCpu ← aggregateCpu children "client"
  let serverCpu ← aggregateCpu children "server"
  let overhead ← aggregateOverhead batches
  let durations ← numberColumn batches "duration_s"
  let seconds := durations.map fun duration => some (duration.getD 0)
  pure
    [("verified_bytes_s_median", ofNumber (medianOptional (rates.map some))),
      ("verified_bytes_s_cv_percent", ofNumber (cvOptional rates)),
      ("variation_sample_count", .int rates.length), ("chunk_bytes_min", chunkMin),
      ("chunk_bytes_max", chunkMax), ("gap_p95_ms", gapP95),
      ("gap_sample_count", .int gaps.length),
      ("cpu", .obj [("client", clientCpu), ("server", serverCpu)]), ("overhead", overhead),
      ("load_duration_s_min", ofNumber (minimumOptional seconds)),
      ("load_duration_s_max", ofNumber (maximumOptional seconds))]

/-- The flags about processes and the interpreter. -/
def identityFields (selected : List JsonObject) (conditions : JsonObject)
    (batches : List JsonObject) : JsonObject :=
  [("cpu_pid_identity_valid", .bool (selected.all batchCpuIdentity)),
    ("gc_configuration_matches", .bool ((selected.map clientReport).all fun child =>
      gcEvidenceMatches child (objectValue (conditions.get "environment"))))] ++
    if ((declaredAttribution conditions).get "profiler").pyEq (.str "cprofile") then
      [("python_profile_thread_scope_qualified", .bool (batches.all fun batch =>
        ((objectValue (batch.get "python_profile")).get "attribution_qualification").pyEq
          (.str "qualified-thread-scope")))]
    else []

/-- The row of a cell with its attribution fields. -/
def attributionRow (results : List JsonObject) (conditions row : JsonObject) :
    Py JsonObject := do
  let selected := cellResults results row
  let children := cellChildren results row
  let batches := cellBatches results row
  let rates ← children.mapM repeatVerifiedRate
  let ownConditions := rowConditions conditions row
  let fingerprint ← conditionFingerprint ownConditions
  let measured ← measuredFields children batches (rates.filterMap id)
  let evidence ← allChecked (fun batch =>
    batchEvidenceComplete batch (objectValue (row.get "configuration"))) batches
  let workload ← allChecked declaredWorkloadMatches selected
  pure (Dict.update row
    (conditionFields ownConditions fingerprint (declaredAttribution conditions) ++
      evidenceFields row batches selected.length evidence workload ++ measured ++
      identityFields selected conditions batches))

/-- The rows of a report: those of the lifecycle profile with the evidence of this one. -/
def aggregateAttributionResults (results : List JsonObject) (conditions : JsonObject) :
    Py (List JsonObject) := do
  let rows ← aggregateLifecycleResults results
  rows.mapM (attributionRow results conditions)

end Rows

end FogHttpBenchmark.Attribution
