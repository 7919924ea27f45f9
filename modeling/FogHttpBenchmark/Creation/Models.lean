import FogHttpBenchmark.Load.Models
import FogHttpBenchmark.ReportSchema.Ordinary
import FogHttpBenchmark.Statistics

/-!
# Client creation

The scenarios of the client-creation suite, the calls that its operations make with the outcome
of each, the samples of an operation and the result that a run builds from them.
-/

set_option autoImplicit false

namespace FogHttpBenchmark.Creation

open Library Python Load

/-! ## Calls -/

section Calls

/-- The resources of the process at one time, where they could be read. -/
structure ResourceSnapshot where
  rssMb : Option ℚ
  threads : Option ℤ
  fds : Option ℤ

/-- What a client's `close()` returns: nothing to wait for, or an awaitable with its outcome. -/
inductive CloseResult where
  | done
  | awaitable (outcome : Except ExceptionName Unit)

/-- The outcome of each call that an operation makes, by the kind of call and its number. -/
structure Calls where
  factory : ℕ → Except ExceptionName Unit
  request : ℕ → Except ExceptionName ResponseOutcome
  /-- An exception that the check of a response raises. -/
  checkRaises : ℕ → Option ExceptionName
  snapshot : ℕ → Except ExceptionName ResourceSnapshot
  close : ℕ → Except ExceptionName CloseResult
  /-- `time.perf_counter_ns()`. -/
  clockNs : ℕ → ℤ

/-- `await close_async_client(client)`. -/
def closeAsyncClient : Except ExceptionName CloseResult → Except ExceptionName Unit
  | .error exc => .error exc
  | .ok .done => .ok ()
  | .ok (.awaitable outcome) => outcome

/-- `TypeError("sync creation benchmark received async close")`. -/
def asyncCloseError : ExceptionName := ⟨"TypeError", by decide⟩

/-- `close_sync_client(client)`. -/
def closeSyncClient : Except ExceptionName CloseResult → Except ExceptionName Unit
  | .error exc => .error exc
  | .ok .done => .ok ()
  | .ok (.awaitable _) => .error asyncCloseError

end Calls

/-! ## Scenarios -/

section Scenarios

/-- The scenarios of the client-creation suite. -/
inductive CreationScenario where
  | createClose
  | createFirstRequest
  | reusedRequest
  | manyClients
  deriving DecidableEq, Repr

/-- The scenario that only creates and closes clients. -/
def createCloseScenario : String := "create-close"

/-- The name of the scenario in a report. -/
def CreationScenario.name : CreationScenario → String
  | createClose => createCloseScenario
  | createFirstRequest => ReportSchema.createFirstRequestScenario
  | reusedRequest => ReportSchema.reusedRequestScenario
  | manyClients => ReportSchema.manyClientsScenario

/-- The two modes of a client. -/
inductive ClientMode where
  | async
  | sync
  deriving DecidableEq, Repr

/-- The name of the mode in a report. -/
def ClientMode.name : ClientMode → String
  | async => "async"
  | sync => "sync"

end Scenarios

/-! ## Samples and results -/

section Results

/-- What the operations of a scenario have measured. -/
structure CreationSamples where
  latenciesMs : List ℚ
  closeLatenciesMs : List ℚ
  loadResult : LoadResult
  peakSnapshot : Option ResourceSnapshot

/-- What a measurement knows besides the samples of its operation; the snapshots before and
after the operation can fail as well. -/
structure Measurement where
  client : String
  repeatIndex : ℤ
  durationS : ℚ
  start : Except ExceptionName ResourceSnapshot
  stop : Except ExceptionName ResourceSnapshot

/-- The client count and the iterations that a run of the scenario reports. -/
def reportedCounts (iterations clientCount : ℕ) : CreationScenario → ℤ × ℤ
  | .manyClients => (clientCount, clientCount)
  | _ => (1, iterations)

/-- The result of one repetition of one scenario. -/
structure ClientCreationResult where
  client : String
  mode : String
  scenario : String
  clientCount : ℤ
  iterations : ℤ
  repeatIndex : ℤ
  durationS : ℚ
  operationsPerSecond : ℚ
  p50Ms : ℚ
  p90Ms : ℚ
  p95Ms : ℚ
  p99Ms : ℚ
  minMs : ℚ
  maxMs : ℚ
  closeP50Ms : Option ℚ
  closeP95Ms : Option ℚ
  errors : ℤ
  errorTypes : List (String × ℤ)
  peakRssDeltaMb : Option ℚ
  endRssDeltaMb : Option ℚ
  peakThreadsDelta : Option ℤ
  endThreadsDelta : Option ℤ
  peakFdsDelta : Option ℤ
  endFdsDelta : Option ℤ

/-- `resource_delta` and `resource_int_delta`. -/
def resourceDelta {α : Type} [Sub α] (after before : Option α) : Option α :=
  match after, before with
  | some after, some before => some (after - before)
  | _, _ => none

/-- The percentile of latencies, absent where there are none. -/
def optionalPercentile (values : List ℚ) (pct : ℚ) : Option ℚ :=
  if values.isEmpty then none else some (percentile values pct)

/-- The result made of the samples, with the peak after the run where none was taken. -/
def clientCreationResult (mode : ClientMode) (scenario : CreationScenario)
    (counts : ℤ × ℤ) (run : Measurement) (start stop : ResourceSnapshot)
    (samples : CreationSamples) : ClientCreationResult :=
  let latencies := samples.latenciesMs.insertionSort (· ≤ ·)
  let closeLatencies := samples.closeLatenciesMs.insertionSort (· ≤ ·)
  let peak := samples.peakSnapshot.getD stop
  { client := run.client
    mode := mode.name
    scenario := scenario.name
    clientCount := counts.1
    iterations := counts.2
    repeatIndex := run.repeatIndex
    durationS := run.durationS
    operationsPerSecond := rate counts.2 run.durationS
    p50Ms := percentile latencies 50
    p90Ms := percentile latencies 90
    p95Ms := percentile latencies 95
    p99Ms := percentile latencies 99
    minMs := latencies.head?.getD 0
    maxMs := latencies.getLast?.getD 0
    closeP50Ms := optionalPercentile closeLatencies 50
    closeP95Ms := optionalPercentile closeLatencies 95
    errors := samples.loadResult.errors
    errorTypes := samples.loadResult.errorTypes
    peakRssDeltaMb := resourceDelta peak.rssMb start.rssMb
    endRssDeltaMb := resourceDelta stop.rssMb start.rssMb
    peakThreadsDelta := resourceDelta peak.threads start.threads
    endThreadsDelta := resourceDelta stop.threads start.threads
    peakFdsDelta := resourceDelta peak.fds start.fds
    endFdsDelta := resourceDelta stop.fds start.fds }

/-- `asdict(result)`. -/
def ClientCreationResult.row (result : ClientCreationResult) : JsonObject :=
  [("client", .str result.client), ("mode", .str result.mode), ("scenario", .str result.scenario),
    ("client_count", .int result.clientCount), ("iterations", .int result.iterations),
    ("repeat", .int result.repeatIndex), ("duration_s", .ofFloat result.durationS),
    ("operations_per_second", .ofFloat result.operationsPerSecond),
    ("p50_ms", .ofFloat result.p50Ms), ("p90_ms", .ofFloat result.p90Ms),
    ("p95_ms", .ofFloat result.p95Ms), ("p99_ms", .ofFloat result.p99Ms),
    ("min_ms", .ofFloat result.minMs), ("max_ms", .ofFloat result.maxMs),
    ("close_p50_ms", .ofOption .ofFloat result.closeP50Ms),
    ("close_p95_ms", .ofOption .ofFloat result.closeP95Ms), ("errors", .int result.errors),
    ("error_types", .obj (encodeCounts result.errorTypes)),
    ("peak_rss_delta_mb", .ofOption .ofFloat result.peakRssDeltaMb),
    ("end_rss_delta_mb", .ofOption .ofFloat result.endRssDeltaMb),
    ("peak_threads_delta", .ofOption .int result.peakThreadsDelta),
    ("end_threads_delta", .ofOption .int result.endThreadsDelta),
    ("peak_fds_delta", .ofOption .int result.peakFdsDelta),
    ("end_fds_delta", .ofOption .int result.endFdsDelta)]

end Results

end FogHttpBenchmark.Creation
