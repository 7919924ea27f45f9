import FogHttpBenchmark.Attribution.Fingerprint
import FogHttpBenchmark.Compare.Loading
import FogHttpBenchmark.Statistics

/-!
# Comparing two reports

`compare_reports`: the rows of the focus client in both reports side by side, and the win tables
of the clients where both reports permit them.
-/

set_option autoImplicit false

namespace FogHttpBenchmark.Compare

open Library Library.Checked Python ReportSchema Validity Isolation MeasurementTiming Attribution

/-! ## Numbers -/

section Numbers

/-- `safe_ratio(new_value, old_value)`: infinite over nothing, and 1 of nothing to nothing. -/
def safeRatio (newValue oldValue : ℚ) : PyFloat :=
  if oldValue ≤ 0 then if 0 < newValue then .posInf else .finite 1
  else .finite (newValue / oldValue)

/-- The ratio of two values of which either may be missing. -/
def optionalRatio (newValue oldValue : Option ℚ) : Option PyFloat :=
  match newValue, oldValue with
  | some newValue, some oldValue => some (safeRatio newValue oldValue)
  | _, _ => none

/-- `[value for value in values if math.isfinite(value)]`. -/
def finiteValues (values : List PyFloat) : List ℚ :=
  values.filterMap fun value =>
    match value with
    | .finite q => some q
    | _ => none

/-- The geometric mean of the positive finite values; `expMeanLog` is the exponential of the
mean of the logarithms, in whatever numbers it is computed. -/
def geomean {R : Type} (expMeanLog : List ℚ → R) (values : List PyFloat) : Option R :=
  let present := (finiteValues values).filter fun value => 0 < value
  if present.isEmpty then none else some (expMeanLog present)

/-- The median of the finite ratios, if there are any. -/
def medianRatio (values : List PyFloat) : Option ℚ :=
  let present := finiteValues values
  if present.isEmpty then none else some (OrderStatistics.median present)

/-- The mean of the ranks, if there are any. -/
def meanRank (ranks : List ℚ) : Option ℚ :=
  if ranks.isEmpty then none else some (OrderStatistics.mean ranks)

/-- `max_optional` and `max_optional_int`. -/
def maxOptional {α : Type} [Max α] (values : List (Option α)) : Option α :=
  (values.filterMap id).max?

/-- `values[:n]`, which leaves out the last `-n` values where `n` is negative. -/
def firstValues {α : Type} (values : List α) (n : ℤ) : List α :=
  if 0 ≤ n then values.take n.toNat else values.take (values.length - (-n).toNat)

end Numbers

variable [PyRuntime]

/-! ## Rows -/

section Rows

/-- The loop of `validate_unique_identities`. -/
def validateUniqueIdentities (source : ℕ → String) :
    ℕ → List (List String × String) → List (List String) → Py Unit
  | _, _, [] => pure ()
  | index, seen, identity :: rest =>
      match Dict.get? seen identity with
      | some first => throw (valueError ("Duplicate aggregate identity " ++ reprTexts identity ++
          " at " ++ first ++ " and " ++ source index))
      | none =>
          validateUniqueIdentities source (index + 1) (Dict.set identity (source index) seen) rest

/-- The rows of a report in the order of their identities, which must differ. -/
def canonicalRows (report : BenchmarkReport) : Py (List BenchmarkRow) := do
  validateUniqueIdentities (fun index => report.path ++ ":" ++ aggregatePath index) 0 []
    (report.rows.map BenchmarkRow.identity)
  pure (report.rows.insertionSort fun a b => a.identity ≤ b.identity)

/-- The rows of the focus client that have a primary value. -/
def focusRowsByIdentity (report : BenchmarkReport) (focusClient : String) :
    Py (List (List String × BenchmarkRow)) := do
  let rows ← canonicalRows report
  pure ((rows.filter fun row => row.client = focusClient && row.primaryValue.isSome).map
    fun row => (row.identity, row))

/-- `compare_row`: both rows must have a primary value. -/
def compareRow (oldRow newRow : BenchmarkRow) : Py RowComparison :=
  match oldRow.primaryValue, newRow.primaryValue with
  | some oldPrimary, some newPrimary => pure {
      row := newRow
      oldPrimary := oldPrimary
      newPrimary := newPrimary
      primaryRatio := safeRatio newPrimary oldPrimary
      oldP95Ms := oldRow.p95Ms
      newP95Ms := newRow.p95Ms
      p95Ratio := optionalRatio newRow.p95Ms oldRow.p95Ms
      oldP99Ms := oldRow.p99Ms
      newP99Ms := newRow.p99Ms
      p99Ratio := optionalRatio newRow.p99Ms oldRow.p99Ms
      oldErrorsTotal := oldRow.errorsTotal
      newErrorsTotal := newRow.errorsTotal
      oldErrorRatePercent := oldRow.errorRatePercent
      newErrorRatePercent := newRow.errorRatePercent }
  | _, _ => throw (valueError "Missing primary measurements cannot be compared")

/-- The identities that both reports have for the focus client, sorted. -/
def sharedRows (oldRows newRows : List (List String × BenchmarkRow)) :
    List (BenchmarkRow × BenchmarkRow) :=
  ((Dict.keys oldRows).insertionSort (· ≤ ·)).filterMap fun key =>
    match Dict.get? oldRows key, Dict.get? newRows key with
    | some oldRow, some newRow => some (oldRow, newRow)
    | _, _ => none

/-- `len(set(left) - set(right))`. -/
def unmatchedRows (left right : List (List String × BenchmarkRow)) : ℕ :=
  (Dict.keys left).countP fun key => !Dict.contains right key

/-- The rows with errors, in the order in which they are shown. -/
def errorRows (report : BenchmarkReport) : Py (List ErrorRow) := do
  let rows ← canonicalRows report
  let failed := rows.filter fun row => row.errorsTotal ≠ 0 || row.warmupErrorsTotal ≠ 0
  let errors := failed.map fun row => (⟨row.label, row.mode, row.client, row.scenario,
    row.errorsTotal, row.warmupErrorsTotal, row.errorRatePercent⟩ : ErrorRow)
  pure (errors.insertionSort fun a b =>
    [a.mode, a.client, a.scenario, a.label] ≤ [b.mode, b.client, b.scenario, b.label])

end Rows

/-! ## Summaries -/

section Summaries

variable {R : Type} (expMeanLog : List ℚ → R)

/-- The summary of some of the compared rows under one name. -/
def summarizeSegment (name : String) (comparisons : List RowComparison) : SegmentSummary R where
  name := name
  rows := comparisons.length
  primaryGeomeanRatio := geomean expMeanLog (comparisons.map RowComparison.primaryRatio)
  primaryMedianRatio := medianRatio (comparisons.map RowComparison.primaryRatio)
  p95GeomeanRatio := geomean expMeanLog (comparisons.filterMap RowComparison.p95Ratio)
  p99GeomeanRatio := geomean expMeanLog (comparisons.filterMap RowComparison.p99Ratio)

/-- One summary for each name that a row has, in the order of the names. -/
def summarizeBy (segmentName : RowComparison → String) (comparisons : List RowComparison) :
    List (SegmentSummary R) :=
  ((Dict.groupBy segmentName comparisons).insertionSort fun a b => a.1 ≤ b.1).map
    fun group => summarizeSegment expMeanLog group.1 group.2

/-- The scope of the resource measurement that a report declares. -/
def measurementScope (report : BenchmarkReport) : String :=
  strJson (report.metadata.getOr "measurement_scope" (.str "legacy-unspecified"))

/-- The peaks of each report, where both were measured in one scope. -/
def resourceSummary (oldRows newRows : List BenchmarkRow) (oldReport newReport : BenchmarkReport) :
    ResourceSummary :=
  let oldScope := measurementScope oldReport
  let newScope := measurementScope newReport
  let comparable : Bool := oldScope = newScope
  let shown {α : Type} (value : Option α) : Option α := if comparable then value else none
  { oldRssMbMax := shown (maxOptional (oldRows.map BenchmarkRow.rssMb))
    newRssMbMax := shown (maxOptional (newRows.map BenchmarkRow.rssMb))
    oldThreadsMax := shown (maxOptional (oldRows.map BenchmarkRow.threads))
    newThreadsMax := shown (maxOptional (newRows.map BenchmarkRow.threads))
    oldFdsMax := shown (maxOptional (oldRows.map BenchmarkRow.fds))
    newFdsMax := shown (maxOptional (newRows.map BenchmarkRow.fds))
    oldErrorsTotal := (oldRows.map BenchmarkRow.errorsTotal).sum
    newErrorsTotal := (newRows.map BenchmarkRow.errorsTotal).sum
    comparable := comparable
    oldMeasurementScope := oldScope
    newMeasurementScope := newScope
    incomparableReason :=
      if comparable then none
      else some ("Process resource measurement scopes differ; RSS, fd and thread values are " ++
        "incomparable.") }

/-- The coverage of an old and a new row of one identity. -/
def resourceCoverageComparison (rows : BenchmarkRow × BenchmarkRow) :
    ResourceCoverageComparison where
  label := rows.2.label
  old := rows.1.resourceCoverage
  new := rows.2.resourceCoverage
  oldUnavailableReasons := rows.1.resourceUnavailableReasons
  newUnavailableReasons := rows.2.resourceUnavailableReasons

end Summaries

/-! ## Win tables -/

section Wins

/-- How often the focus client wins in one report, with its ranks and distances. -/
structure WinsSnapshot where
  wins : ℕ := 0
  groups : ℕ := 0
  ratiosToWinner : List PyFloat := []
  ranks : List ℚ := []

/-- A group of rows with the same workload: does the focus client win it, how close is it to the
winner, and which rank does it have? -/
def countGroup (focusClient : String) (snapshot : WinsSnapshot) (rows : List BenchmarkRow) :
    WinsSnapshot :=
  match rows.find? fun row => row.client = focusClient with
  | none => snapshot
  | some focusRow =>
      let measured := rows.filterMap fun row => row.primaryValue.map fun value => (row, value)
      let ranked := measured.insertionSort fun a b => b.2 ≤ a.2
      match ranked, focusRow.primaryValue with
      | winner :: _, some focusPrimary =>
          { wins := snapshot.wins + if winner.1.client = focusClient then 1 else 0
            groups := snapshot.groups + 1
            ratiosToWinner := snapshot.ratiosToWinner ++ [safeRatio focusPrimary winner.2]
            ranks := snapshot.ranks ++
              [((ranked.findIdx fun row => row.1.client = focusClient) + 1 : ℚ)] }
      | _, _ => snapshot

/-- `wins_for_report`: none for the suites and profiles that rank no clients. -/
def winsForReport (report : BenchmarkReport) (focusClient : String) : Py (Option WinsSnapshot) := do
  let rows ← canonicalRows report
  if report.suite = .resourceBackpressure ||
      usesStreamingProfile report.metadata report.aggregateRows .lifecycle ||
      usesStreamingProfile report.metadata report.aggregateRows .asyncBytes then pure none
  else pure (some (((Dict.groupBy BenchmarkRow.group rows).map Prod.snd).foldl
    (countGroup focusClient) {}))

/-- The wins of two reports, if both have them. -/
def compareWins {R : Type} (expMeanLog : List ℚ → R) (oldReport newReport : BenchmarkReport)
    (focusClient : String) : Py (Option (WinsComparison R)) := do
  let old ← winsForReport oldReport focusClient
  let new ← winsForReport newReport focusClient
  match old, new with
  | some old, some new => pure (some {
      oldWins := old.wins
      newWins := new.wins
      comparableGroups := min old.groups new.groups
      oldGeomeanToWinner := geomean expMeanLog old.ratiosToWinner
      newGeomeanToWinner := geomean expMeanLog new.ratiosToWinner
      oldAverageRank := meanRank old.ranks
      newAverageRank := meanRank new.ranks })
  | _, _ => pure none

end Wins

/-! ## The comparison -/

section Comparison

/-- `foghttp_source(report)`. -/
def foghttpSource (report : BenchmarkReport) : Json :=
  let manifest := objectField (objectField report.metadata "research_provenance") "manifest"
  JsonObject.get (objectField manifest "source") "sha"

/-- The one comparison axis that may be named. -/
def foghttpSourceAxis : String := "foghttp-source"

/-- The harness and, unless it is what is compared, the source of two async-bytes reports agree. -/
def validateHarness (oldReport newReport : BenchmarkReport) (comparisonAxis : Option String) :
    Py Unit := do
  let oldHarness ← harnessFingerprint oldReport.metadata
  let newHarness ← harnessFingerprint newReport.metadata
  raiseIf (oldHarness ≠ newHarness) (valueError
    "Benchmark harness identities differ; this comparison requires the same measured harness")
  raiseIf (!(foghttpSource oldReport).pyEq (foghttpSource newReport) &&
      comparisonAxis ≠ some foghttpSourceAxis)
    (valueError
      "FogHTTP source revisions differ; explicitly select comparison_axis='foghttp-source'")

/-- Two reports can be compared only within one suite and along a known axis. -/
def validateComparableReports (oldReport newReport : BenchmarkReport)
    (comparisonAxis : Option String) : Py Unit := do
  raiseIf (oldReport.suite ≠ newReport.suite)
    (valueError ("Reports must use the same benchmark suite: old=" ++ oldReport.suite.name ++
      ", new=" ++ newReport.suite.name))
  raiseIf (comparisonAxis.any fun axis => axis ≠ foghttpSourceAxis)
    (valueError "The supported explicit comparison axis is foghttp-source")
  if [oldReport, newReport].any fun report =>
      usesStreamingProfile report.metadata report.aggregateRows .asyncBytes then
    validateHarness oldReport newReport comparisonAxis
  validateTimingCompatibility oldReport.suite oldReport.metadata oldReport.aggregateRows
    oldReport.runRows newReport.metadata newReport.aggregateRows newReport.runRows

/-- One of the reports may not be compared. -/
def blocksStrongConclusions (oldReport newReport : BenchmarkReport) : Bool :=
  !oldReport.validity.canCompare || !newReport.validity.canCompare

/-- `None if blocks_strong_conclusions(…) else compare_wins(…)`. -/
def permittedWins {R : Type} (expMeanLog : List ℚ → R) (oldReport newReport : BenchmarkReport)
    (focusClient : String) : Py (Option (WinsComparison R)) :=
  if blocksStrongConclusions oldReport newReport then pure none
  else compareWins expMeanLog oldReport newReport focusClient

/-- The text of a reason in the result of a comparison. -/
def reasonSummary (reason : ValidityReason) : String :=
  reason.status.name ++ ":" ++ reason.code ++ ":" ++ reason.rowLabel

/-- What the comparison says about the validities of the two reports. -/
def comparisonValidity (oldReport newReport : BenchmarkReport) : ComparisonValidity where
  oldStatus := oldReport.validity.status
  newStatus := newReport.validity.status
  blocksStrongConclusions := blocksStrongConclusions oldReport newReport
  oldReasonCount := oldReport.validity.reasonCount
  newReasonCount := newReport.validity.reasonCount
  oldReasons := oldReport.validity.reasons.map reasonSummary
  newReasons := newReport.validity.reasons.map reasonSummary

/-- What the comparison says about the origin of the two reports. -/
def comparisonMetadata (oldReport newReport : BenchmarkReport) (focusClient : String)
    (comparisonAxis : Option String) : ComparisonMetadata where
  oldPath := oldReport.path
  newPath := newReport.path
  suite := newReport.suite
  focusClient := focusClient
  oldTimestamp := oldReport.timestamp
  newTimestamp := newReport.timestamp
  oldFocusVersion := (Dict.get? oldReport.packageVersions focusClient).getD "-"
  newFocusVersion := (Dict.get? newReport.packageVersions focusClient).getD "-"
  comparisonAxis := comparisonAxis

/-- `compare_reports`: the reports are checked, their shared rows compared, and the result
summarized. -/
def compareReports {R : Type} (expMeanLog : List ℚ → R) (oldReport newReport : BenchmarkReport)
    (focusClient : String) (topN : ℤ) (comparisonAxis : Option String) :
    Py (ComparisonResult R) := do
  validateComparableReports oldReport newReport comparisonAxis
  let oldRows ← focusRowsByIdentity oldReport focusClient
  let newRows ← focusRowsByIdentity newReport focusClient
  let shared := sharedRows oldRows newRows
  raiseIf shared.isEmpty
    (valueError ("No comparable rows found for focus client " ++ reprString focusClient))
  let comparisons ← shared.mapM fun rows => compareRow rows.1 rows.2
  let wins ← permittedWins expMeanLog oldReport newReport focusClient
  let newErrorRows ← errorRows newReport
  let slower (a b : RowComparison) : Prop := PyFloat.lt a.primaryRatio b.primaryRatio = true
  pure {
    metadata := comparisonMetadata oldReport newReport focusClient comparisonAxis
    validity := comparisonValidity oldReport newReport
    overall := summarizeSegment expMeanLog "overall" comparisons
    byMode := summarizeBy expMeanLog (fun item => item.row.mode) comparisons
    byScenario := summarizeBy expMeanLog (fun item => item.row.scenario) comparisons
    wins := wins
    -- `sorted` is stable, also with `reverse=True`
    topImprovements := firstValues (comparisons.insertionSort fun a b => ¬ slower a b) topN
    topRegressions := firstValues (comparisons.insertionSort fun a b => ¬ slower b a) topN
    newErrorRows := newErrorRows
    resourceSummary := resourceSummary (oldRows.map Prod.snd) (newRows.map Prod.snd) oldReport
      newReport
    unmatchedOldRows := unmatchedRows oldRows newRows
    unmatchedNewRows := unmatchedRows newRows oldRows
    resourceCoverage := shared.map resourceCoverageComparison }

end Comparison

end FogHttpBenchmark.Compare
