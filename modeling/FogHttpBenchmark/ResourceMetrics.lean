import FogHttpBenchmark.ReportSchema.Resources

/-!
# Resource metrics

The aggregation of optional resource measurements: the maximum of those that were observed, and
the coverage, which counts them.
-/

set_option autoImplicit false

namespace FogHttpBenchmark

open Python ReportSchema

/-! ## Aggregation -/

section Aggregation

variable {α : Type} [LinearOrder α]

/-- The greatest of the observed values, if one was observed. -/
def optionalResourceMax (values : List (Option α)) : Option α := (values.filterMap id).max?

/-- How many of the values were observed. -/
def metricCoverage {α : Type} (values : List (Option α)) : ResourceMetricCoverage :=
  let available := (values.filterMap id).length
  { available := available
    expected := values.length
    unavailableReasons := if available < values.length then ["reason-not-recorded"] else [] }

/-- The coverage of a metric as JSON. -/
def coverageRow (coverage : ResourceMetricCoverage) : JsonObject :=
  [("available", .int coverage.available), ("expected", .int coverage.expected),
    ("unavailable_reasons", .arr (coverage.unavailableReasons.map .str))]

/-- `asdict` of a coverage. -/
def resourceCoverageRow (coverage : ResourceCoverage) : JsonObject :=
  coverage.map fun entry => (entry.1, .obj (coverageRow entry.2))

end Aggregation

end FogHttpBenchmark
