import FogHttpBenchmark.Attribution.Lifecycle

/-!
# Checks of timed windows

What a timed batch has to show: a workload within the declared bounds that stops for the
declared reason, and a histogram of the whole window that agrees with the totals of the batch,
with the bounds of every stream and with the replayed segments.
-/

set_option autoImplicit false

namespace FogHttpBenchmark.Attribution

open Library Library.Checked Python

/-! ## Bounds -/

section Bounds

/-- `MIN_WINDOW_STREAMS`. -/
def minWindowStreams : ℤ := 20

/-- `MAX_WINDOW_STREAMS`. -/
def maxWindowStreams : ℤ := 2048

/-- `MAX_WINDOW_DURATION_S`. -/
def maxWindowDurationS : ℚ := 5

/-- `MAX_HISTOGRAM_BINS`. -/
def maxHistogramBins : ℤ := 1024

/-- `MAX_REPLAY_SEGMENTS`. -/
def maxReplaySegments : ℕ := 64

end Bounds

/-! ## Histograms -/

section Histograms

/-- A histogram: the number of chunks of each size. -/
abbrev Histogram := List (ℤ × ℤ)

/-- The sizes of all chunks added up. -/
def histogramBytes (histogram : Histogram) : ℤ := (histogram.map fun bin => bin.1 * bin.2).sum

/-- One bin, or nothing where it is malformed or its size is known already. -/
def readBin (result : Histogram) (item : JsonObject) : Option Histogram :=
  match (item.get "size_bytes").asInt?, (item.get "count").asInt? with
  | some size, some count =>
      if size ≤ 0 || count ≤ 0 || Dict.contains result size then none
      else some (Dict.set size count result)
  | _, _ => none

/-- The histogram with the bins of the items, unless one of them is no bin. -/
def readBins (result : Histogram) : List JsonObject → Option Histogram
  | [] => some result
  | item :: items => (readBin result item).bind fun next => readBins next items

/-- `_histogram(value)`. -/
def readHistogram (value : Json) : Option Histogram :=
  match value with
  | .arr items =>
      let bins := items.filterMap Json.asObject?
      if bins.isEmpty || bins.length ≠ items.length then none else readBins [] bins
  | _ => none

/-- `d == e` of two histograms with distinct sizes. -/
def sameHistogram (d e : Histogram) : Bool :=
  d.length = e.length && d.all fun bin => e.lookup bin.1 = some bin.2

end Histograms

variable [PyRuntime]

/-! ## Workload -/

section Workload

/-- The declared bounds hold, and the batch records them. -/
def windowBoundsMatch (batch window : JsonObject) (target : ℚ)
    (limit rounds minimumRounds concurrency : ℤ) : Bool :=
  1 ≤ target && target ≤ maxWindowDurationS &&
    minWindowStreams ≤ limit && limit ≤ maxWindowStreams &&
    minimumRounds ≤ rounds && rounds ≤ limit / concurrency &&
    (window.get "minimum_duration_s").pyEq (.ofFloat target) &&
    (window.get "minimum_rounds").pyEq (.int minimumRounds) &&
    (window.get "max_streams").pyEq (.int limit) &&
    (batch.get "requests").pyEq (.int (rounds * concurrency))

/-- The window records whether it reached its target, and stopped for that reason. -/
def windowStopMatches (window : JsonObject) (duration target : ℚ)
    (limit rounds concurrency : ℤ) : Bool :=
  if target ≤ duration then
    (window.get "target_reached").isTrue &&
      (window.get "stop_reason").pyEq (.str "duration-reached")
  else
    (window.get "target_reached").isFalse &&
      (window.get "stop_reason").pyEq (.str "stream-limit") && rounds = limit / concurrency

/-- The window keeps its bounds, and it stopped for the reason that it gives. -/
def windowWorkloadMatches (batch configuration : JsonObject) (concurrency : ℤ) : Py Bool := do
  let declared := objectValue (configuration.get "attribution")
  let window := objectValue (batch.get "window")
  let duration ← number (batch.get "duration_s")
  let target ← number (declared.get "minimum_duration_s")
  match duration, target, (batch.get "rounds").asInt?,
      (configuration.get "rounds_per_batch").asInt?, (declared.get "max_window_streams").asInt? with
  | some duration, some target, some rounds, some minimumRounds, some limit =>
      pure (windowBoundsMatch batch window target limit rounds minimumRounds concurrency &&
        windowStopMatches window duration target limit rounds concurrency)
  | _, _, _, _, _ => pure false

end Workload

/-! ## Replay -/

section Replay

/-- The times that a replay measures. -/
def replayKeys : List String := ["scalar_only_s", "sha256_only_s", "combined_s"]

/-- `duration is not None and duration >= 0`. -/
def nonnegativeNumber (value : Json) : Py Bool := do
  let found ← number value
  pure (found.any fun q => 0 ≤ q)

/-- One segment counts its own bins, stays within the limits and has its durations. -/
def segmentMatches (segment config : JsonObject) (bins : Histogram) : Py Bool :=
  andAlso
    ((segment.get "replay_bytes").pyEq (.int (histogramBytes bins)) &&
      (segment.get "replay_chunks").pyEq (.int (Dict.total bins)) &&
      histogramBytes bins ≤ integer (config.get "replay_max_bytes") &&
      Dict.total bins ≤ integer (config.get "replay_max_chunks"))
    (allChecked (fun key => nonnegativeNumber (segment.get key)) replayKeys)

/-- The bins of all segments together, or nothing where a segment does not match. -/
def combineSegments (config : JsonObject) (combined : Histogram) :
    List JsonObject → Py (Option Histogram)
  | [] => pure (some combined)
  | segment :: segments =>
      match readHistogram (segment.get "histogram") with
      | none => pure none
      | some bins => do
          let holds ← segmentMatches segment config bins
          if holds then combineSegments config (Dict.mergeCounts combined bins) segments
          else pure none

/-- The total of a replay is the sum over its segments. -/
def replayTotalMatches (replay : JsonObject) (segments : List JsonObject) (key : String) :
    Py Bool := do
  let total ← number (replay.get key)
  match total with
  | none => pure false
  | some total => do
      let parts ← numberColumn segments key
      pure (isClose total (parts.map fun part => part.getD 0).sum)

/-- The segments of a replay are within the caps and cover the histogram. -/
def replayMatches (replay : JsonObject) (histogram : Histogram) (config : JsonObject) :
    Py Bool := do
  let segments := objectList (replay.get "segments")
  if segments.isEmpty || maxReplaySegments < segments.length then pure false
  else do
    let combined ← combineSegments config [] segments
    match combined with
    | none => pure false
    | some combined =>
        andAlso
          (sameHistogram combined histogram &&
            (replay.get "replay_bytes").pyEq (.int (histogramBytes histogram)) &&
            (replay.get "replay_chunks").pyEq (.int (Dict.total histogram)))
          (allChecked (replayTotalMatches replay segments) replayKeys)

end Replay

/-! ## Distribution -/

section Distribution

/-- A body of this size can be cut into the chunks that a sample reports. -/
def streamChunkBoundsMatch (sample : JsonObject) (body : ℤ) : Bool :=
  let distribution := objectValue (sample.get "distribution")
  match (sample.get "chunks_read").asInt?, (distribution.get "min_bytes").asInt?,
      (distribution.get "max_bytes").asInt? with
  | some chunks, some minimum, some maximum =>
      1 ≤ chunks && chunks ≤ body && 1 ≤ minimum && minimum ≤ maximum && maximum ≤ body &&
        minimum * chunks ≤ body && body ≤ maximum * chunks
  | _, _, _ => false

/-- `value in histogram`; a list or a dictionary cannot be looked up. -/
def inHistogram (value : Json) (histogram : Histogram) : Py Bool :=
  match value with
  | .arr _ => throw (typeError "unhashable type: 'list'")
  | .obj _ => throw (typeError "unhashable type: 'dict'")
  | value => pure (histogram.any fun bin => value.pyEq (.int bin.1))

/-- A stream of a window leaves its histogram to the batch and stays within its bounds. -/
def windowSampleMatches (histogram : Histogram) (body : ℤ) (sample : JsonObject) : Py Bool :=
  let distribution := objectValue (sample.get "distribution")
  andAlso
    ((distribution.get "scope").pyEq (.str "batch-global") &&
      (distribution.get "histogram").pyEq (.arr []))
    (do
      let minimum ← inHistogram (distribution.get "min_bytes") histogram
      andAlso minimum do
        let maximum ← inHistogram (distribution.get "max_bytes") histogram
        pure (maximum && streamChunkBoundsMatch sample body))

/-- The declared part of the distribution. -/
def windowHistogramMatches (distribution : JsonObject) (histogram : Histogram) (body cap : ℤ) :
    Bool :=
  1 ≤ cap && cap ≤ maxHistogramBins && histogram.length ≤ cap &&
    (histogram.all fun bin => bin.1 ≤ body) &&
    (distribution.get "complete").isTrue &&
    (distribution.get "scope").pyEq (.str "batch-global") &&
    (distribution.get "bins_cap").pyEq (.int cap)

/-- The histogram counts every chunk and byte of the batch. -/
def windowTotalsMatch (batch distribution : JsonObject) (samples : List JsonObject)
    (histogram : Histogram) (body : ℤ) : Bool :=
  let chunks := Dict.total histogram
  let observed := histogramBytes histogram
  chunks = integerTotal samples "chunks_read" && observed = body * samples.length &&
    (distribution.get "observed_count").pyEq (.int chunks) &&
    (distribution.get "observed_bytes").pyEq (.int observed) &&
    (batch.get "chunks_read_total").pyEq (.int chunks) &&
    (batch.get "total_observed_bytes").pyEq (.int observed)

/-- The histogram of a window adds up to the chunks and bodies of all its samples. -/
def windowDistributionMatches (batch configuration : JsonObject) : Py Bool :=
  let distribution := objectValue ((objectValue (batch.get "window")).get "global_histogram")
  let attribution := objectValue (configuration.get "attribution")
  let samples := samplesOf batch
  match (configuration.get "body_bytes").asInt?, readHistogram (distribution.get "histogram"),
      (attribution.get "histogram_bins_cap").asInt? with
  | some body, some histogram, some cap =>
      andAlso
        (windowHistogramMatches distribution histogram body cap && !samples.isEmpty &&
          windowTotalsMatch batch distribution samples histogram body)
        (do
          let streams ← allChecked (windowSampleMatches histogram body) samples
          andAlso streams
            (replayMatches (objectValue (batch.get "overhead")) histogram attribution))
  | _, _, _ => pure false

end Distribution

end FogHttpBenchmark.Attribution
