import FogHttpBenchmark.Library.Groups
import FogHttpBenchmark.Library.Ratios
import FogHttpBenchmark.ResourceMetrics
import FogHttpBenchmark.Statistics
import Mathlib.Data.Prod.Lex
import Mathlib.Data.String.Basic

/-!
# Aggregate rows of the one-upstream suite

The repeats of one measurement become one aggregate row. The ratio of a row is taken, when the
rows are aggregated, to the last direct row of its mode, client, group and concurrency.

`baselines_iff` says when the rows that children aggregate case by case have the ratios of one
process: the direct baseline of every measurement has to be measured in its own case.
-/

set_option autoImplicit false

namespace FogHttpBenchmark.OneUpstream

open Library OrderStatistics Groups Ratios Python ReportSchema

/-! ## Results and rows -/

section Rows

/-- The result of one repetition of one case. -/
structure OneUpstreamResult where
  client : String
  mode : String
  case : String
  group : String
  profile : String
  concurrency : ℤ
  requestLimit : ℤ
  requests : ℤ
  repeatIndex : ℤ
  durationS : ℚ
  requestsPerSecond : ℚ
  okRequestsPerSecond : ℚ
  okRequests : ℤ
  p50Ms : ℚ
  p95Ms : ℚ
  p99Ms : ℚ
  errors : ℤ
  warmupErrors : ℤ
  errorTypes : List (String × ℤ)
  warmupErrorTypes : List (String × ℤ)
  peakRssMb : Option ℚ
  peakThreads : Option ℤ
  peakFds : Option ℤ
  clientStats : Option (List (String × ℤ))

/-- The row of all repetitions of one case and client. -/
structure OneUpstreamAggregateRow where
  mode : String
  client : String
  case : String
  group : String
  profile : String
  concurrency : ℤ
  requestLimit : ℤ
  requests : ℤ
  repeats : ℤ
  okRequestsTotal : ℤ
  errorsTotal : ℤ
  warmupErrorsTotal : ℤ
  warmupErrorTypes : List (String × ℤ)
  errorRatePercent : ℚ
  okReqSMedian : ℚ
  reqSMedian : ℚ
  reqSCvPercent : ℚ
  baselineRatio : Option ℚ
  p50MsMedian : ℚ
  p95MsMedian : ℚ
  p99MsMedian : ℚ
  rssMbMax : Option ℚ
  threadsMax : Option ℤ
  fdsMax : Option ℤ
  errorTypes : List (String × ℤ)
  resourceCoverage : ResourceCoverage

/-- `asdict(row)`, the aggregate row of a saved report. -/
def OneUpstreamAggregateRow.row (row : OneUpstreamAggregateRow) : JsonObject :=
  [("mode", .str row.mode), ("client", .str row.client), ("case", .str row.case),
    ("group", .str row.group), ("profile", .str row.profile),
    ("concurrency", .int row.concurrency), ("request_limit", .int row.requestLimit),
    ("requests", .int row.requests), ("repeats", .int row.repeats),
    ("ok_requests_total", .int row.okRequestsTotal), ("errors_total", .int row.errorsTotal),
    ("warmup_errors_total", .int row.warmupErrorsTotal),
    ("warmup_error_types", .obj (encodeCounts row.warmupErrorTypes)),
    ("error_rate_percent", .ofFloat row.errorRatePercent),
    ("ok_req_s_median", .ofFloat row.okReqSMedian), ("req_s_median", .ofFloat row.reqSMedian),
    ("req_s_cv_percent", .ofFloat row.reqSCvPercent),
    ("baseline_ratio", .ofOption .ofFloat row.baselineRatio),
    ("p50_ms_median", .ofFloat row.p50MsMedian), ("p95_ms_median", .ofFloat row.p95MsMedian),
    ("p99_ms_median", .ofFloat row.p99MsMedian),
    ("rss_mb_max", .ofOption .ofFloat row.rssMbMax),
    ("threads_max", .ofOption .int row.threadsMax), ("fds_max", .ofOption .int row.fdsMax),
    ("error_types", .obj (encodeCounts row.errorTypes)),
    ("resource_coverage", .obj (resourceCoverageRow row.resourceCoverage))]

end Rows

/-! ## Aggregation -/

section Aggregation

/-- What the repeats of one measurement share. -/
structure AggregateKey where
  mode : String
  client : String
  case : String
  group : String
  profile : String
  concurrency : ℤ
  requestLimit : ℤ
  deriving DecidableEq

/-- The fields that the repetitions of a row share. -/
def aggregateKey (result : OneUpstreamResult) : AggregateKey where
  mode := result.mode
  client := result.client
  case := result.case
  group := result.group
  profile := result.profile
  concurrency := result.concurrency
  requestLimit := result.requestLimit

/-- The place of a profile in the order of the rows. -/
def profileOrder (profile : String) : ℤ :=
  if profile = "direct" then 0
  else if profile = "base-url" then 1
  else if profile = "defaults" then 2
  else if profile = "prepared" then 3
  else 99

/-- The sort key, compared field by field. -/
abbrev SortKey : Type := String ×ₗ String ×ₗ String ×ₗ ℤ ×ₗ ℤ ×ₗ String ×ₗ ℤ

/-- The order of the rows of a report. -/
def aggregateSortKey (key : AggregateKey) : SortKey :=
  toLex (key.mode, toLex (key.client, toLex (key.group, toLex (key.concurrency,
    toLex (profileOrder key.profile, toLex (key.case, key.requestLimit))))))

/-- The repeats of every measurement, in the order of the sort key. -/
def measurements (results : List OneUpstreamResult) :
    List (AggregateKey × List OneUpstreamResult) :=
  sortedGroups aggregateKey aggregateSortKey results

/-- The rate that the ratios of a row are taken of. -/
def medianRate (items : List OneUpstreamResult) : ℚ :=
  median (items.map OneUpstreamResult.okRequestsPerSecond)

/-- The row of the repetitions with one key. -/
def buildAggregateRow (key : AggregateKey) (items : List OneUpstreamResult) :
    OneUpstreamAggregateRow :=
  let requestsTotal := (items.map OneUpstreamResult.requests).sum
  let errorsTotal := (items.map OneUpstreamResult.errors).sum
  { mode := key.mode
    client := key.client
    case := key.case
    group := key.group
    profile := key.profile
    concurrency := key.concurrency
    requestLimit := key.requestLimit
    requests := (items.head?.map OneUpstreamResult.requests).getD 0
    repeats := items.length
    okRequestsTotal := (items.map OneUpstreamResult.okRequests).sum
    errorsTotal := errorsTotal
    warmupErrorsTotal := (items.map OneUpstreamResult.warmupErrors).sum
    warmupErrorTypes := mergeErrorTypes (items.map OneUpstreamResult.warmupErrorTypes)
    errorRatePercent := if requestsTotal = 0 then 0 else (errorsTotal : ℚ) / requestsTotal * 100
    okReqSMedian := medianRate items
    reqSMedian := median (items.map OneUpstreamResult.requestsPerSecond)
    reqSCvPercent := coefficientOfVariation (items.map OneUpstreamResult.requestsPerSecond)
    baselineRatio := none
    p50MsMedian := median (items.map OneUpstreamResult.p50Ms)
    p95MsMedian := median (items.map OneUpstreamResult.p95Ms)
    p99MsMedian := median (items.map OneUpstreamResult.p99Ms)
    rssMbMax := optionalResourceMax (items.map OneUpstreamResult.peakRssMb)
    threadsMax := optionalResourceMax (items.map OneUpstreamResult.peakThreads)
    fdsMax := optionalResourceMax (items.map OneUpstreamResult.peakFds)
    errorTypes := mergeErrorTypes (items.map OneUpstreamResult.errorTypes)
    resourceCoverage :=
      [("rss_mb_max", metricCoverage (items.map OneUpstreamResult.peakRssMb)),
        ("threads_max", metricCoverage (items.map OneUpstreamResult.peakThreads)),
        ("fds_max", metricCoverage (items.map OneUpstreamResult.peakFds))] }

/-- The ratio to the baseline, if there is a positive one. -/
def baselineRatio (value : ℚ) (baseline : Option ℚ) : Option ℚ := ratioTo value baseline

/-- Mode, client, group and concurrency. -/
abbrev BaselineKey := String × String × String × ℤ

/-- The rows with which a row shares its baseline. -/
def OneUpstreamAggregateRow.baselineKey (row : OneUpstreamAggregateRow) : BaselineKey :=
  (row.mode, row.client, row.group, row.concurrency)

/-- Every row with its ratio to the direct profile. -/
def rowsWithBaselineRatios (rows : List OneUpstreamAggregateRow) :
    List OneUpstreamAggregateRow :=
  let baselines := Dict.ofPairs ((rows.filter fun row => row.profile = "direct").map fun row =>
    (row.baselineKey, row.okReqSMedian))
  rows.map fun row => { row with
    baselineRatio := baselineRatio row.okReqSMedian (Dict.get? baselines row.baselineKey) }

/-- The rows of a report, made of the results of all repetitions. -/
def aggregateOneUpstreamResults (results : List OneUpstreamResult) :
    List OneUpstreamAggregateRow :=
  rowsWithBaselineRatios ((measurements results).map fun group =>
    buildAggregateRow group.1 group.2)

end Aggregation

/-! ## Baselines -/

section Baselines

/-- The repeats of one measurement under their key. -/
abbrev Measurement := AggregateKey × List OneUpstreamResult

/-- The baseline that the row with this key has. -/
def AggregateKey.baselineKey (key : AggregateKey) : BaselineKey :=
  (key.mode, key.client, key.group, key.concurrency)

/-- The rate of the last direct measurement with the baseline key. -/
def directRate (measured : List Measurement) (key : BaselineKey) : Option ℚ :=
  (lastOf (fun group => group.1.baselineKey) key
    (measured.filter fun group => group.1.profile = "direct")).map fun group => medianRate group.2

/-- The row of a measurement, with its ratio to the baseline among the measurements. -/
def finishedRow (measured : List Measurement) (group : Measurement) : OneUpstreamAggregateRow :=
  { buildAggregateRow group.1 group.2 with
    baselineRatio := ratioTo (medianRate group.2) (directRate measured group.1.baselineKey) }

theorem aggregate_eq_map (results : List OneUpstreamResult) :
    aggregateOneUpstreamResults results =
      (measurements results).map (finishedRow (measurements results)) := by
  have hlookup : ∀ key : BaselineKey,
      Dict.get? (Dict.ofPairs ((((measurements results).map fun group =>
        buildAggregateRow group.1 group.2).filter fun row => row.profile = "direct").map fun row =>
          (row.baselineKey, row.okReqSMedian))) key =
        directRate (measurements results) key := by
    intro key
    refine (Dict.lookup_ofPairs _ key).trans ?_
    simp only [List.filter_map, List.getLast?_map, Option.map_map]
    rfl
  rw [aggregateOneUpstreamResults, rowsWithBaselineRatios, List.map_map]
  refine List.map_congr_left fun group _ => ?_
  simp only [Function.comp_apply, hlookup]
  rfl

/-- The client and the case that a child of the isolation plan measures. -/
abbrev Cell := String × String

/-- The child that a result comes from, where each child measures one client and case. -/
def resultCell (result : OneUpstreamResult) : Cell := (result.client, result.case)

/-- The child that the results with a key come from. -/
def keyCell (key : AggregateKey) : Cell := (key.client, key.case)

/-- The rows of the reports of the children, one after the other. -/
def childRows (results : List OneUpstreamResult) (cells : List Cell) : List JsonObject :=
  cells.flatMap fun cell =>
    (aggregateOneUpstreamResults (results.filter fun result => resultCell result = cell)).map
      OneUpstreamAggregateRow.row

/-- Every measurement finds in its own case the baseline that it has in the whole run. -/
def BaselinesAtHome (results : List OneUpstreamResult) : Prop :=
  ∀ group ∈ measurements results,
    let own := results.filter fun result => resultCell result = keyCell group.1
    let home := usable (directRate (measurements own) group.1.baselineKey)
    let whole := usable (directRate (measurements results) group.1.baselineKey)
    home = whole ∨ medianRate group.2 = 0 ∧ home.isSome = true ∧ whole.isSome = true

/-- The fields of a row that identify it. -/
def rowKey (row : JsonObject) : List Json :=
  [row.get "mode", row.get "client", row.get "case", row.get "group", row.get "profile",
    row.get "concurrency", row.get "request_limit"]

theorem rowKey_injective {key other : AggregateKey}
    (h : rowKey (buildAggregateRow key []).row = rowKey (buildAggregateRow other []).row) :
    key = other := by
  obtain ⟨mode, client, case, group, profile, concurrency, limit⟩ := key
  obtain ⟨mode', client', case', group', profile', concurrency', limit'⟩ := other
  have hfields : [Json.str mode, .str client, .str case, .str group, .str profile,
      .int concurrency, .int limit] = [Json.str mode', .str client', .str case', .str group',
      .str profile', .int concurrency', .int limit'] := h
  simp only [List.cons.injEq, Json.str.injEq, Json.int.injEq, and_true] at hfields
  obtain ⟨rfl, rfl, rfl, rfl, rfl, rfl, rfl⟩ := hfields
  rfl

/-- Two finished rows of one measurement are equal where their ratios are. -/
theorem finishedRow_eq_iff {measured others : List Measurement} {group : Measurement} :
    (finishedRow measured group).row = (finishedRow others group).row ↔
      ratioTo (medianRate group.2) (directRate measured group.1.baselineKey) =
        ratioTo (medianRate group.2) (directRate others group.1.baselineKey) := by
  constructor
  · intro h
    have hratio : Json.ofOption .ofFloat (finishedRow measured group).baselineRatio =
        .ofOption .ofFloat (finishedRow others group).baselineRatio :=
      congrArg (fun row : JsonObject => row.get "baseline_ratio") h
    rwa [finishedRow, finishedRow, Json.ofOption_ofFloat_inj] at hratio
  · intro h
    rw [finishedRow, finishedRow, h]

/-- The children report the rows of the whole run exactly where every measurement has its
baseline at home. -/
theorem baselines_iff {results : List OneUpstreamResult} {cells : List Cell}
    (hcells : cells.Nodup) (hcover : ∀ result ∈ results, resultCell result ∈ cells) :
    (childRows results cells).Perm
        ((aggregateOneUpstreamResults results).map OneUpstreamAggregateRow.row) ↔
      BaselinesAtHome results := by
  have hrows : childRows results cells = cells.flatMap fun cell =>
      (measurements (results.filter fun result => keyCell (aggregateKey result) = cell)).map
        fun group => (finishedRow (measurements
          (results.filter fun result => keyCell (aggregateKey result) = cell)) group).row := by
    refine List.flatMap_congr fun cell _ => ?_
    rw [aggregate_eq_map, List.map_map]
    rfl
  rw [hrows, aggregate_eq_map, List.map_map]
  refine (sortedGroups_cells_perm_iff aggregateKey aggregateSortKey
    (fun measured group => (finishedRow measured group).row) rowKey hcells (fun _ _ => rfl)
    (fun _ _ => rowKey_injective) hcover).trans ?_
  refine forall₂_congr fun group _ => ?_
  simp only [finishedRow_eq_iff, ratioTo_eq_iff]
  rfl

end Baselines

end FogHttpBenchmark.OneUpstream
