import FogHttpBenchmark.Library.Groups
import FogHttpBenchmark.Library.Ratios
import FogHttpBenchmark.RequestBuilder.Models
import FogHttpBenchmark.ResourceMetrics
import FogHttpBenchmark.Statistics
import Mathlib.Data.Prod.Lex
import Mathlib.Data.String.Basic

/-!
# Aggregate rows of the request-builder suite

The repeats of one measurement become one aggregate row. A row of a build case has the ratio to
the last build row of the case `absolute-url` with its mode and client.

`baselines_iff` says when the rows that children aggregate case by case have the ratios of one
process.
-/

set_option autoImplicit false

namespace FogHttpBenchmark.RequestBuilder

open Library OrderStatistics Groups Ratios Python ReportSchema

/-! ## Aggregation -/

section Aggregation

/-- The row of all repetitions of one case and client. -/
structure RequestBuilderAggregateRow where
  mode : String
  client : String
  case : String
  group : String
  kind : String
  profile : String
  iterations : ℤ
  repeats : ℤ
  durationMsMedian : ℚ
  opsSMedian : ℚ
  opsSCvPercent : ℚ
  baselineRatio : Option ℚ
  p50MsMedian : ℚ
  p95MsMedian : ℚ
  p99MsMedian : ℚ
  rssMbMax : Option ℚ
  threadsMax : Option ℤ
  fdsMax : Option ℤ
  errorsTotal : ℤ
  errorTypes : List (String × ℤ)
  resourceCoverage : ResourceCoverage

/-- `asdict(row)`, the aggregate row of a saved report. -/
def RequestBuilderAggregateRow.row (row : RequestBuilderAggregateRow) : JsonObject :=
  [("mode", .str row.mode), ("client", .str row.client), ("case", .str row.case),
    ("group", .str row.group), ("kind", .str row.kind), ("profile", .str row.profile),
    ("iterations", .int row.iterations), ("repeats", .int row.repeats),
    ("duration_ms_median", .ofFloat row.durationMsMedian),
    ("ops_s_median", .ofFloat row.opsSMedian), ("ops_s_cv_percent", .ofFloat row.opsSCvPercent),
    ("baseline_ratio", .ofOption .ofFloat row.baselineRatio),
    ("p50_ms_median", .ofFloat row.p50MsMedian), ("p95_ms_median", .ofFloat row.p95MsMedian),
    ("p99_ms_median", .ofFloat row.p99MsMedian),
    ("rss_mb_max", .ofOption .ofFloat row.rssMbMax),
    ("threads_max", .ofOption .int row.threadsMax), ("fds_max", .ofOption .int row.fdsMax),
    ("errors_total", .int row.errorsTotal), ("error_types", .obj (encodeCounts row.errorTypes)),
    ("resource_coverage", .obj (resourceCoverageRow row.resourceCoverage))]

/-- What the repeats of one measurement share. -/
structure AggregateKey where
  mode : String
  client : String
  case : String
  group : String
  kind : String
  profile : String
  iterations : ℤ
  deriving DecidableEq

/-- The fields that the repetitions of a row share. -/
def aggregateKey (result : RequestBuilderResult) : AggregateKey where
  mode := result.mode
  client := result.client
  case := result.case
  group := result.group
  kind := result.kind
  profile := result.profile
  iterations := result.iterations

/-- The place of a kind in the order of the rows. -/
def kindOrder (kind : String) : ℤ :=
  if kind = "build" then 0 else if kind = "send-prepared" then 1 else 99

/-- The sort key, compared field by field. -/
abbrev SortKey : Type := String ×ₗ String ×ₗ ℤ ×ₗ String ×ₗ String ×ₗ ℤ

/-- The order of the rows of a report. -/
def aggregateSortKey (key : AggregateKey) : SortKey :=
  toLex (key.mode, toLex (key.client, toLex (kindOrder key.kind,
    toLex (key.group, toLex (key.case, key.iterations)))))

/-- The repeats of every measurement, in the order of the sort key. -/
def measurements (results : List RequestBuilderResult) :
    List (AggregateKey × List RequestBuilderResult) :=
  sortedGroups aggregateKey aggregateSortKey results

/-- The rate that the ratios of a row are taken of. -/
def medianRate (items : List RequestBuilderResult) : ℚ :=
  median (items.map RequestBuilderResult.operationsPerSecond)

/-- The row of the repetitions with one key. -/
def buildAggregateRow (key : AggregateKey) (items : List RequestBuilderResult) :
    RequestBuilderAggregateRow where
  mode := key.mode
  client := key.client
  case := key.case
  group := key.group
  kind := key.kind
  profile := key.profile
  iterations := key.iterations
  repeats := items.length
  durationMsMedian := median (items.map fun item => item.durationS * 1000)
  opsSMedian := medianRate items
  opsSCvPercent := coefficientOfVariation (items.map RequestBuilderResult.operationsPerSecond)
  baselineRatio := none
  p50MsMedian := median (items.map RequestBuilderResult.p50Ms)
  p95MsMedian := median (items.map RequestBuilderResult.p95Ms)
  p99MsMedian := median (items.map RequestBuilderResult.p99Ms)
  rssMbMax := optionalResourceMax (items.map RequestBuilderResult.peakRssMb)
  threadsMax := optionalResourceMax (items.map RequestBuilderResult.peakThreads)
  fdsMax := optionalResourceMax (items.map RequestBuilderResult.peakFds)
  errorsTotal := (items.map RequestBuilderResult.errors).sum
  errorTypes := mergeErrorTypes (items.map RequestBuilderResult.errorTypes)
  resourceCoverage :=
    [("rss_mb_max", metricCoverage (items.map RequestBuilderResult.peakRssMb)),
      ("threads_max", metricCoverage (items.map RequestBuilderResult.peakThreads)),
      ("fds_max", metricCoverage (items.map RequestBuilderResult.peakFds))]

/-- The ratio to the baseline, if there is a positive one. -/
def baselineRatio (value : ℚ) (baseline : Option ℚ) : Option ℚ := ratioTo value baseline

/-- Mode and client. -/
abbrev BaselineKey := String × String

/-- Every row with its ratio to the build of an absolute URL. -/
def rowsWithBaselineRatios (rows : List RequestBuilderAggregateRow) :
    List RequestBuilderAggregateRow :=
  let baselines : List (BaselineKey × ℚ) := Dict.ofPairs ((rows.filter fun row =>
    row.kind = "build" && row.case = "absolute-url").map fun row =>
      ((row.mode, row.client), row.opsSMedian))
  rows.map fun row => { row with
    baselineRatio :=
      if row.kind = "build" then
        baselineRatio row.opsSMedian (Dict.get? baselines (row.mode, row.client))
      else none }

/-- The rows of a report, made of the results of all repetitions. -/
def aggregateRequestBuilderResults (results : List RequestBuilderResult) :
    List RequestBuilderAggregateRow :=
  rowsWithBaselineRatios ((measurements results).map fun group =>
    buildAggregateRow group.1 group.2)

end Aggregation

/-! ## Baselines -/

section Baselines

/-- The repeats of one measurement under their key. -/
abbrev Measurement := AggregateKey × List RequestBuilderResult

/-- The baseline that the row with this key has. -/
def AggregateKey.baselineKey (key : AggregateKey) : BaselineKey := (key.mode, key.client)

/-- The rate of the last measurement of an absolute URL with the baseline key. -/
def absoluteRate (measured : List Measurement) (key : BaselineKey) : Option ℚ :=
  (lastOf (fun group => group.1.baselineKey) key (measured.filter fun group =>
    group.1.kind = "build" && group.1.case = "absolute-url")).map fun group => medianRate group.2

/-- The row of a measurement, with its ratio to the baseline among the measurements. -/
def finishedRow (measured : List Measurement) (group : Measurement) :
    RequestBuilderAggregateRow :=
  { buildAggregateRow group.1 group.2 with
    baselineRatio :=
      if group.1.kind = "build" then
        ratioTo (medianRate group.2) (absoluteRate measured group.1.baselineKey)
      else none }

theorem aggregate_eq_map (results : List RequestBuilderResult) :
    aggregateRequestBuilderResults results =
      (measurements results).map (finishedRow (measurements results)) := by
  have hlookup : ∀ key : BaselineKey,
      Dict.get? (Dict.ofPairs ((((measurements results).map fun group =>
        buildAggregateRow group.1 group.2).filter fun row =>
          row.kind = "build" && row.case = "absolute-url").map fun row =>
            ((row.mode, row.client), row.opsSMedian))) key =
        absoluteRate (measurements results) key := by
    intro key
    refine (Dict.lookup_ofPairs _ key).trans ?_
    simp only [List.filter_map, List.getLast?_map, Option.map_map]
    rfl
  rw [aggregateRequestBuilderResults, rowsWithBaselineRatios, List.map_map]
  refine List.map_congr_left fun group _ => ?_
  simp only [Function.comp_apply, hlookup]
  rfl

/-- The client and the case that a child of the isolation plan measures. -/
abbrev Cell := String × String

/-- The child that a result comes from, where each child measures one client and case. -/
def resultCell (result : RequestBuilderResult) : Cell := (result.client, result.case)

/-- The child that the results with a key come from. -/
def keyCell (key : AggregateKey) : Cell := (key.client, key.case)

/-- The rows of the reports of the children, one after the other. -/
def childRows (results : List RequestBuilderResult) (cells : List Cell) : List JsonObject :=
  cells.flatMap fun cell =>
    (aggregateRequestBuilderResults (results.filter fun result => resultCell result = cell)).map
      RequestBuilderAggregateRow.row

/-- Every measurement of a build case finds in its own case the baseline that it has in the
whole run. -/
def BaselinesAtHome (results : List RequestBuilderResult) : Prop :=
  ∀ group ∈ measurements results, group.1.kind = "build" →
    let own := results.filter fun result => resultCell result = keyCell group.1
    let home := usable (absoluteRate (measurements own) group.1.baselineKey)
    let whole := usable (absoluteRate (measurements results) group.1.baselineKey)
    home = whole ∨ medianRate group.2 = 0 ∧ home.isSome = true ∧ whole.isSome = true

/-- The fields of a row that identify it. -/
def rowKey (row : JsonObject) : List Json :=
  [row.get "mode", row.get "client", row.get "case", row.get "group", row.get "kind",
    row.get "profile", row.get "iterations"]

theorem rowKey_injective {key other : AggregateKey}
    (h : rowKey (buildAggregateRow key []).row = rowKey (buildAggregateRow other []).row) :
    key = other := by
  obtain ⟨mode, client, case, group, kind, profile, iterations⟩ := key
  obtain ⟨mode', client', case', group', kind', profile', iterations'⟩ := other
  have hfields : [Json.str mode, .str client, .str case, .str group, .str kind, .str profile,
      .int iterations] = [Json.str mode', .str client', .str case', .str group', .str kind',
      .str profile', .int iterations'] := h
  simp only [List.cons.injEq, Json.str.injEq, Json.int.injEq, and_true] at hfields
  obtain ⟨rfl, rfl, rfl, rfl, rfl, rfl, rfl⟩ := hfields
  rfl

/-- Two finished rows of one measurement are equal where it is no build case or their ratios
are equal. -/
theorem finishedRow_eq_iff {measured others : List Measurement} {group : Measurement} :
    (finishedRow measured group).row = (finishedRow others group).row ↔
      (group.1.kind = "build" →
        ratioTo (medianRate group.2) (absoluteRate measured group.1.baselineKey) =
          ratioTo (medianRate group.2) (absoluteRate others group.1.baselineKey)) := by
  constructor
  · intro h hbuild
    have hratio : Json.ofOption .ofFloat (finishedRow measured group).baselineRatio =
        .ofOption .ofFloat (finishedRow others group).baselineRatio :=
      congrArg (fun row : JsonObject => row.get "baseline_ratio") h
    rwa [finishedRow, finishedRow, Json.ofOption_ofFloat_inj, if_pos hbuild, if_pos hbuild] at hratio
  · intro h
    rw [finishedRow, finishedRow]
    by_cases hbuild : group.1.kind = "build"
    · rw [if_pos hbuild, if_pos hbuild, h hbuild]
    · rw [if_neg hbuild, if_neg hbuild]

/-- The children report the rows of the whole run exactly where every measurement of a build
case has its baseline at home. -/
theorem baselines_iff {results : List RequestBuilderResult} {cells : List Cell}
    (hcells : cells.Nodup) (hcover : ∀ result ∈ results, resultCell result ∈ cells) :
    (childRows results cells).Perm
        ((aggregateRequestBuilderResults results).map RequestBuilderAggregateRow.row) ↔
      BaselinesAtHome results := by
  have hrows : childRows results cells = cells.flatMap fun cell =>
      (measurements (results.filter fun result => keyCell (aggregateKey result) = cell)).map
        fun group => (finishedRow (measurements
          (results.filter fun result => keyCell (aggregateKey result) = cell)) group).row := by
    refine List.flatMap_congr fun cell _ => ?_
    rw [aggregate_eq_map, List.map_map]
    rfl
  rw [hrows, aggregate_eq_map, List.map_map]
  refine (sortedGroups_cells_perm_iff aggregateKey aggregateSortKey
    (fun measured group => (finishedRow measured group).row) rowKey hcells (fun _ _ => rfl)
    (fun _ _ => rowKey_injective) hcover).trans ?_
  refine forall₂_congr fun group _ => ?_
  simp only [finishedRow_eq_iff, ratioTo_eq_iff]
  rfl

end Baselines

end FogHttpBenchmark.RequestBuilder
