import FogHttpBenchmark.Isolation.Models
import FogHttpBenchmark.Validity.Classification

/-!
# Comparisons

The rows and reports that a comparison reads, and the result that it builds from two reports. A
result ranks the clients only in its win table, `wins`.
-/

set_option autoImplicit false

namespace FogHttpBenchmark.Compare

open Library Python ReportSchema Validity

/-! ## Loaded reports -/

section Loaded

/-- An aggregate row as the comparison reads it: its identity, the group in which it is ranked, and
its numbers, of which any may be missing. -/
structure BenchmarkRow where
  identity : List String
  group : List String
  label : String
  mode : String
  client : String
  scenario : String
  primaryValue : Option ℚ
  p95Ms : Option ℚ
  p99Ms : Option ℚ
  errorsTotal : ℤ
  warmupErrorsTotal : ℤ
  errorRatePercent : Option ℚ
  rssMb : Option ℚ
  threads : Option ℤ
  fds : Option ℤ
  resourceCoverage : ResourceCoverage
  resourceUnavailableReasons : List (String × List String)

/-- A loaded report, with its rows both as the comparison reads them and as the file has them. -/
structure BenchmarkReport where
  path : String
  suite : Suite
  timestamp : String
  packageVersions : List (String × String)
  rows : List BenchmarkRow
  aggregateRows : List JsonObject
  metadata : JsonObject
  validity : ValiditySummary
  runRows : List JsonObject

end Loaded

/-! ## Results -/

section Results

/-- What the result of a comparison says about the two reports and the axis. -/
structure ComparisonMetadata where
  oldPath : String
  newPath : String
  suite : Suite
  focusClient : String
  oldTimestamp : String
  newTimestamp : String
  oldFocusVersion : String
  newFocusVersion : String
  comparisonAxis : Option String

/-- The validities of the two reports, and whether they forbid strong conclusions. -/
structure ComparisonValidity where
  oldStatus : ValidityStatus
  newStatus : ValidityStatus
  blocksStrongConclusions : Bool
  oldReasonCount : ℕ
  newReasonCount : ℕ
  oldReasons : List String
  newReasons : List String

/-- The ratios of the rows of a segment, summarised. Every other statistic is rational; geometric
means are numbers of a type `R` of their own. -/
structure SegmentSummary (R : Type) where
  name : String
  rows : ℕ
  primaryGeomeanRatio : Option R
  primaryMedianRatio : Option ℚ
  p95GeomeanRatio : Option R
  p99GeomeanRatio : Option R

/-- The old and the new values of one row, and the ratios of those that both reports have. -/
structure RowComparison where
  row : BenchmarkRow
  oldPrimary : ℚ
  newPrimary : ℚ
  primaryRatio : PyFloat
  oldP95Ms : Option ℚ
  newP95Ms : Option ℚ
  p95Ratio : Option PyFloat
  oldP99Ms : Option ℚ
  newP99Ms : Option ℚ
  p99Ratio : Option PyFloat
  oldErrorsTotal : ℤ
  newErrorsTotal : ℤ
  oldErrorRatePercent : Option ℚ
  newErrorRatePercent : Option ℚ

/-- A row of which some request failed, measured or not. -/
structure ErrorRow where
  label : String
  mode : String
  client : String
  scenario : String
  errorsTotal : ℤ
  warmupErrorsTotal : ℤ
  errorRatePercent : Option ℚ

/-- How often the focus client is the fastest of its group, in both reports. -/
structure WinsComparison (R : Type) where
  oldWins : ℕ
  newWins : ℕ
  comparableGroups : ℕ
  oldGeomeanToWinner : Option R
  newGeomeanToWinner : Option R
  oldAverageRank : Option ℚ
  newAverageRank : Option ℚ

/-- The peaks of the two reports, which are shown only where they were measured in one scope. -/
structure ResourceSummary where
  oldRssMbMax : Option ℚ
  newRssMbMax : Option ℚ
  oldThreadsMax : Option ℤ
  newThreadsMax : Option ℤ
  oldFdsMax : Option ℤ
  newFdsMax : Option ℤ
  oldErrorsTotal : ℤ
  newErrorsTotal : ℤ
  comparable : Bool
  oldMeasurementScope : String
  newMeasurementScope : String
  incomparableReason : Option String

/-- How far the resources of a row were observed in each report. -/
structure ResourceCoverageComparison where
  label : String
  old : ResourceCoverage
  new : ResourceCoverage
  oldUnavailableReasons : List (String × List String)
  newUnavailableReasons : List (String × List String)

/-- The result of `compare_reports`. -/
structure ComparisonResult (R : Type) where
  metadata : ComparisonMetadata
  validity : ComparisonValidity
  overall : SegmentSummary R
  byMode : List (SegmentSummary R)
  byScenario : List (SegmentSummary R)
  wins : Option (WinsComparison R)
  topImprovements : List RowComparison
  topRegressions : List RowComparison
  newErrorRows : List ErrorRow
  resourceSummary : ResourceSummary
  unmatchedOldRows : ℕ
  unmatchedNewRows : ℕ
  resourceCoverage : List ResourceCoverageComparison

end Results

end FogHttpBenchmark.Compare
