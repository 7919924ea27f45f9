import FogHttpBenchmark.Python.Value

/-!
# Request-builder cases and results

The dimensions of a request-builder case and the result of one run with its JSON row.
-/

set_option autoImplicit false

namespace FogHttpBenchmark.RequestBuilder

open Python

/-- `BuilderKind`. -/
inductive BuilderKind where
  | build
  | sendPrepared
  deriving DecidableEq, Repr

def BuilderKind.text : BuilderKind → String
  | build => "build"
  | sendPrepared => "send-prepared"

/-- The fields of a case that its runs and results carry. -/
structure RequestBuilderCase where
  name : String
  group : String
  kind : BuilderKind
  profile : String
  deriving DecidableEq, Repr

structure RequestBuilderStats where
  latenciesMs : List ℚ
  errors : ℤ
  errorTypes : List (String × ℤ)

structure RequestBuilderResult where
  client : String
  mode : String
  case : String
  group : String
  kind : String
  profile : String
  iterations : ℤ
  repeatIndex : ℤ
  durationS : ℚ
  operationsPerSecond : ℚ
  p50Ms : ℚ
  p95Ms : ℚ
  p99Ms : ℚ
  errors : ℤ
  errorTypes : List (String × ℤ)
  peakRssMb : Option ℚ
  peakThreads : Option ℤ
  peakFds : Option ℤ

/-- `asdict(result)`, the run row of a saved report. -/
def RequestBuilderResult.row (result : RequestBuilderResult) : JsonObject :=
  [("client", .str result.client), ("mode", .str result.mode), ("case", .str result.case),
    ("group", .str result.group), ("kind", .str result.kind),
    ("profile", .str result.profile), ("iterations", .int result.iterations),
    ("repeat", .int result.repeatIndex), ("duration_s", .ofFloat result.durationS),
    ("operations_per_second", .ofFloat result.operationsPerSecond),
    ("p50_ms", .ofFloat result.p50Ms), ("p95_ms", .ofFloat result.p95Ms),
    ("p99_ms", .ofFloat result.p99Ms), ("errors", .int result.errors),
    ("error_types", .obj (encodeCounts result.errorTypes)),
    ("peak_rss_mb", .ofOption .ofFloat result.peakRssMb),
    ("peak_threads", .ofOption .int result.peakThreads),
    ("peak_fds", .ofOption .int result.peakFds)]

end FogHttpBenchmark.RequestBuilder
