import FogHttpBenchmark.Library.Groups
import FogHttpBenchmark.Load.Models
import FogHttpBenchmark.ResourceMetrics
import FogHttpBenchmark.Statistics
import Mathlib.Data.Prod.Lex
import Mathlib.Data.String.Basic

/-!
# Runs and aggregate rows of the request suite

A run sorts the latencies of its measured load and reports percentiles of them; the runs of one
measurement become one aggregate row, with a median over the runs for each percentile.

`percentiles_ordered`: the percentiles of a run ascend to its maximum, and the medians of an
aggregate row, each taken over the runs on its own, keep the order.
-/

set_option autoImplicit false

namespace FogHttpBenchmark.Requests

open Library OrderStatistics Groups Python ReportSchema Load

/-! ## Runs -/

section Runs

/-- The result of one repetition of one scenario. -/
structure RunResult where
  client : String
  mode : String
  scenario : String
  concurrency : ℤ
  requestLimit : ℤ
  requests : ℤ
  repeatIndex : ℤ
  durationS : ℚ
  requestsPerSecond : ℚ
  okRequestsPerSecond : ℚ
  okRequests : ℤ
  p50Ms : ℚ
  p90Ms : ℚ
  p95Ms : ℚ
  p99Ms : ℚ
  minMs : ℚ
  maxMs : ℚ
  errors : ℤ
  warmupErrors : ℤ
  errorTypes : List (String × ℤ)
  warmupErrorTypes : List (String × ℤ)
  processCpuS : ℚ
  peakRssMb : Option ℚ
  peakThreads : Option ℤ
  peakFds : Option ℤ
  clientStats : Option (List (String × ℤ))

/-- What a run is given and what it measures: the results of the warmup and of the measured
load, the time and CPU time between the two clock reads, the peaks of the sampler and the
statistics of the client. -/
structure RequestRun where
  client : String
  mode : String
  scenario : String
  scenarioRequestLimit : Option ℤ
  concurrency : ℤ
  requests : ℤ
  repeatIndex : ℤ
  warmupResult : LoadResult
  loadResult : LoadResult
  duration : ℚ
  cpu : ℚ
  peakRssMb : Option ℚ
  peakThreads : Option ℤ
  peakFds : Option ℤ
  clientStats : Option (List (String × ℤ))

/-- `scenario.request_limit or concurrency`. -/
def RequestRun.requestLimit (run : RequestRun) : ℤ :=
  match run.scenarioRequestLimit with
  | some limit => if limit = 0 then run.concurrency else limit
  | none => run.concurrency

/-- The measured latencies in ascending order. -/
def RequestRun.latencies (run : RequestRun) : List ℚ := sorted run.loadResult.latenciesMs

/-- The result of a run whose loads and measurements have ended. -/
def runOnce (run : RequestRun) : RunResult :=
  let latencies := run.latencies
  let okRequests := run.requests - run.loadResult.errors
  { client := run.client
    mode := run.mode
    scenario := run.scenario
    concurrency := run.concurrency
    requestLimit := run.requestLimit
    requests := run.requests
    repeatIndex := run.repeatIndex
    durationS := run.duration
    requestsPerSecond := rate run.requests run.duration
    okRequestsPerSecond := rate okRequests run.duration
    okRequests := okRequests
    p50Ms := percentile latencies 50
    p90Ms := percentile latencies 90
    p95Ms := percentile latencies 95
    p99Ms := percentile latencies 99
    -- the latencies are sorted
    minMs := latencies.headD 0
    maxMs := latencies.getLastD 0
    errors := run.loadResult.errors
    warmupErrors := run.warmupResult.errors
    errorTypes := run.loadResult.errorTypes
    warmupErrorTypes := run.warmupResult.errorTypes
    processCpuS := run.cpu
    peakRssMb := run.peakRssMb
    peakThreads := run.peakThreads
    peakFds := run.peakFds
    clientStats := run.clientStats }

/-- The percentiles of a result ascend and end at its maximum. -/
structure PercentilesAscend (result : RunResult) : Prop where
  p50_le_p90 : result.p50Ms ≤ result.p90Ms
  p90_le_p95 : result.p90Ms ≤ result.p95Ms
  p95_le_p99 : result.p95Ms ≤ result.p99Ms
  p99_le_max : result.p99Ms ≤ result.maxMs

theorem percentilesAscend_runOnce (run : RequestRun) : PercentilesAscend (runOnce run) where
  p50_le_p90 := percentile_mono (pairwise_sorted _) (by norm_num)
  p90_le_p95 := percentile_mono (pairwise_sorted _) (by norm_num)
  p95_le_p99 := percentile_mono (pairwise_sorted _) (by norm_num)
  p99_le_max := percentile_le_last (pairwise_sorted _) _

/-- What a result reports of its latencies: four of them, and the greatest. -/
structure PercentilesAmong (latencies : List ℚ) (result : RunResult) : Prop where
  p50_mem : result.p50Ms ∈ latencies
  p90_mem : result.p90Ms ∈ latencies
  p95_mem : result.p95Ms ∈ latencies
  p99_mem : result.p99Ms ∈ latencies
  max_mem : result.maxMs ∈ latencies
  le_max : ∀ latency ∈ latencies, latency ≤ result.maxMs

theorem latencies_ne_nil {run : RequestRun} (h : run.loadResult.latenciesMs ≠ []) :
    run.latencies ≠ [] := by
  intro hempty
  have hlength := length_sorted run.loadResult.latenciesMs
  rw [RequestRun.latencies] at hempty
  rw [hempty, List.length_nil] at hlength
  exact h (List.length_eq_zero_iff.1 hlength.symm)

/-- Every percentage of a run with a latency gives one of its latencies. -/
theorem percentile_mem_latencies {run : RequestRun} (h : run.loadResult.latenciesMs ≠ [])
    (pct : ℚ) : percentile run.latencies pct ∈ run.loadResult.latenciesMs :=
  mem_sorted.1 (percentile_mem (latencies_ne_nil h) pct)

/-- Every percentile that a run with a latency reports is one of its latencies. -/
theorem percentilesAmong_runOnce {run : RequestRun} (h : run.loadResult.latenciesMs ≠ []) :
    PercentilesAmong run.loadResult.latenciesMs (runOnce run) := by
  have hlatencies := latencies_ne_nil h
  have hmax : (runOnce run).maxMs = run.latencies.getLast hlatencies := by
    show run.latencies.getLastD 0 = _
    rw [List.getLastD_eq_getLast?, List.getLast?_eq_getLast_of_ne_nil hlatencies, Option.getD_some]
  refine ⟨?_, ?_, ?_, ?_, ?_, ?_⟩
  · exact percentile_mem_latencies h 50
  · exact percentile_mem_latencies h 90
  · exact percentile_mem_latencies h 95
  · exact percentile_mem_latencies h 99
  · rw [hmax]
    exact mem_sorted.1 (List.getLast_mem hlatencies)
  · intro latency hlatency
    rw [hmax]
    exact (pairwise_sorted run.loadResult.latenciesMs).rel_getLast (mem_sorted.2 hlatency)

end Runs

/-! ## Aggregation -/

section Aggregation

/-- The row of all repetitions of one scenario and client. -/
structure RequestAggregateRow where
  mode : String
  client : String
  scenario : String
  concurrency : ℤ
  requestLimit : ℤ
  requests : ℤ
  repeats : ℤ
  reqSMedian : ℚ
  okReqSMedian : ℚ
  reqSCvPercent : ℚ
  p50MsMedian : ℚ
  p95MsMedian : ℚ
  p99MsMedian : ℚ
  rssMbMax : Option ℚ
  threadsMax : Option ℤ
  fdsMax : Option ℤ
  errorsTotal : ℤ
  warmupErrorsTotal : ℤ
  errorTypes : List (String × ℤ)
  warmupErrorTypes : List (String × ℤ)
  errorRatePercent : ℚ
  resourceCoverage : ResourceCoverage

/-- What the runs of one measurement share. -/
structure AggregateKey where
  mode : String
  client : String
  scenario : String
  concurrency : ℤ
  requestLimit : ℤ
  deriving DecidableEq

/-- The fields that the repetitions of a row share. -/
def aggregateKey (result : RunResult) : AggregateKey where
  mode := result.mode
  client := result.client
  scenario := result.scenario
  concurrency := result.concurrency
  requestLimit := result.requestLimit

/-- The keys are compared field by field. -/
def AggregateKey.rank (key : AggregateKey) : String ×ₗ String ×ₗ String ×ₗ ℤ ×ₗ ℤ :=
  toLex (key.mode, toLex (key.client, toLex (key.scenario,
    toLex (key.concurrency, key.requestLimit))))

/-- The row of the repetitions with one key. -/
def buildAggregateRow (key : AggregateKey) (items : List RunResult) : RequestAggregateRow :=
  let requestsTotal := (items.map RunResult.requests).sum
  let errorsTotal := (items.map RunResult.errors).sum
  { mode := key.mode
    client := key.client
    scenario := key.scenario
    concurrency := key.concurrency
    requestLimit := key.requestLimit
    requests := (items.head?.map RunResult.requests).getD 0
    repeats := items.length
    reqSMedian := median (items.map RunResult.requestsPerSecond)
    okReqSMedian := median (items.map RunResult.okRequestsPerSecond)
    reqSCvPercent := coefficientOfVariation (items.map RunResult.requestsPerSecond)
    p50MsMedian := median (items.map RunResult.p50Ms)
    p95MsMedian := median (items.map RunResult.p95Ms)
    p99MsMedian := median (items.map RunResult.p99Ms)
    rssMbMax := optionalResourceMax (items.map RunResult.peakRssMb)
    threadsMax := optionalResourceMax (items.map RunResult.peakThreads)
    fdsMax := optionalResourceMax (items.map RunResult.peakFds)
    errorsTotal := errorsTotal
    warmupErrorsTotal := (items.map RunResult.warmupErrors).sum
    errorTypes := mergeErrorTypes (items.map RunResult.errorTypes)
    warmupErrorTypes := mergeErrorTypes (items.map RunResult.warmupErrorTypes)
    errorRatePercent := if requestsTotal = 0 then 0 else (errorsTotal : ℚ) / requestsTotal * 100
    resourceCoverage :=
      [("rss_mb_max", metricCoverage (items.map RunResult.peakRssMb)),
        ("threads_max", metricCoverage (items.map RunResult.peakThreads)),
        ("fds_max", metricCoverage (items.map RunResult.peakFds))] }

/-- The rows of a report, made of the results of all repetitions. -/
def aggregateResults (results : List RunResult) : List RequestAggregateRow :=
  (sortedGroups aggregateKey AggregateKey.rank results).map fun group =>
    buildAggregateRow group.1 group.2

/-- The medians of a row ascend. -/
structure MediansAscend (row : RequestAggregateRow) : Prop where
  p50_le_p95 : row.p50MsMedian ≤ row.p95MsMedian
  p95_le_p99 : row.p95MsMedian ≤ row.p99MsMedian

/-- The fields that a row shares with its runs. -/
def RequestAggregateRow.key (row : RequestAggregateRow) : AggregateKey where
  mode := row.mode
  client := row.client
  scenario := row.scenario
  concurrency := row.concurrency
  requestLimit := row.requestLimit

/-- The medians of a row are those of the results, each percentile on its own. -/
structure MediansOf (results : List RunResult) (row : RequestAggregateRow) : Prop where
  p50_eq : row.p50MsMedian = median (results.map RunResult.p50Ms)
  p95_eq : row.p95MsMedian = median (results.map RunResult.p95Ms)
  p99_eq : row.p99MsMedian = median (results.map RunResult.p99Ms)

/-- A row has the medians of the results with its key. -/
theorem mediansOf_aggregateResults {results : List RunResult} {row : RequestAggregateRow}
    (h : row ∈ aggregateResults results) :
    MediansOf (results.filter fun result => aggregateKey result = row.key) row := by
  obtain ⟨⟨key, items⟩, hgroup, rfl⟩ := List.mem_map.1 h
  have hitems : items = results.filter fun result => aggregateKey result = key :=
    Dict.group_eq_filter (mem_sortedGroups.1 hgroup)
  have hkey : (buildAggregateRow key items).key = key := rfl
  rw [hkey, ← hitems]
  exact ⟨rfl, rfl, rfl⟩

/-- A statistic that is lower in every result has the lower median. -/
theorem median_map_le {items : List RunResult} {f g : RunResult → ℚ}
    (h : ∀ item ∈ items, f item ≤ g item) : median (items.map f) ≤ median (items.map g) := by
  apply median_le_median
  rw [List.forall₂_map_left_iff, List.forall₂_map_right_iff, List.forall₂_same]
  exact h

theorem mediansAscend_buildAggregateRow {items : List RunResult}
    (h : ∀ item ∈ items, PercentilesAscend item) (key : AggregateKey) :
    MediansAscend (buildAggregateRow key items) where
  p50_le_p95 := median_map_le fun item hitem =>
    (h item hitem).p50_le_p90.trans (h item hitem).p90_le_p95
  p95_le_p99 := median_map_le fun item hitem => (h item hitem).p95_le_p99

/-- Every result has the row of its measurement. -/
theorem exists_row {results : List RunResult} {result : RunResult} (h : result ∈ results) :
    ∃ row ∈ aggregateResults results, row.mode = result.mode ∧ row.client = result.client ∧
      row.scenario = result.scenario ∧ row.concurrency = result.concurrency ∧
      row.requestLimit = result.requestLimit := by
  have hgroup : _ ∈ sortedGroups aggregateKey AggregateKey.rank results :=
    mem_sortedGroups.2 (mem_groupBy_of_mem h)
  exact ⟨_, List.mem_map_of_mem hgroup, rfl, rfl, rfl, rfl, rfl⟩

/-- The percentiles of every run ascend to its maximum and, where a latency was measured, are
among its latencies; every run has an aggregate row. The medians of every row are those of the
runs of its measurement, and ascend. -/
theorem percentiles_ordered (runs : List RequestRun) :
    (∀ run ∈ runs, PercentilesAscend (runOnce run) ∧
      (run.loadResult.latenciesMs ≠ [] →
        PercentilesAmong run.loadResult.latenciesMs (runOnce run) ∧
        ∀ pct, percentile run.latencies pct ∈ run.loadResult.latenciesMs) ∧
      ∃ row ∈ aggregateResults (runs.map runOnce), row.mode = run.mode ∧
        row.client = run.client ∧ row.scenario = run.scenario ∧
        row.concurrency = run.concurrency ∧ row.requestLimit = run.requestLimit) ∧
      ∀ row ∈ aggregateResults (runs.map runOnce), MediansAscend row ∧
        MediansOf ((runs.map runOnce).filter fun result => aggregateKey result = row.key) row := by
  constructor
  · intro run hrun
    refine ⟨percentilesAscend_runOnce run, ?_, exists_row (List.mem_map_of_mem hrun)⟩
    intro hlatencies
    exact ⟨percentilesAmong_runOnce hlatencies, percentile_mem_latencies hlatencies⟩
  · intro row hrow
    refine ⟨?_, mediansOf_aggregateResults hrow⟩
    obtain ⟨⟨key, items⟩, hgroup, rfl⟩ := List.mem_map.1 hrow
    apply mediansAscend_buildAggregateRow
    intro item hitem
    obtain ⟨run, -, rfl⟩ := List.mem_map.1 (Dict.mem_of_mem_group (mem_sortedGroups.1 hgroup) hitem)
    exact percentilesAscend_runOnce run

end Aggregation

end FogHttpBenchmark.Requests
