import FogHttpBenchmark.Creation.Models
import FogHttpBenchmark.Library.Blocks

/-!
# Operations of the client-creation suite

The four operations as blocks over their local variables. Each source operation exists twice, for
async and for sync clients; the two differ in the function that closes a client, which is a
parameter here. The state also records the numbers of the calls made so far and, for each client
that the factory returned, the attempts to close it.
-/

set_option autoImplicit false

namespace FogHttpBenchmark.Creation

open Library Python Load

/-! ## Local variables -/

section Variables

/-- The number of calls of each kind that were made. -/
structure CallCounts where
  factory : ℕ := 0
  request : ℕ := 0
  check : ℕ := 0
  snapshot : ℕ := 0
  close : ℕ := 0
  clock : ℕ := 0

/-- A client is named by the number of the factory call that returned it. -/
structure Locals where
  latenciesMs : List ℚ := []
  closeLatenciesMs : List ℚ := []
  errors : List (String × ℤ) := []
  peakSnapshot : Option ResourceSnapshot := none
  client : Option ℕ := none
  clients : List ℕ := []
  counts : CallCounts := {}
  /-- The clients that the factory returned, in order. -/
  opened : List ℕ := []
  /-- The clients on which `close` was attempted, in order. -/
  closeAttempts : List ℕ := []

/-- A part of an operation. -/
abbrev Step (α : Type) := Block ExceptionName Locals α

end Variables

/-! ## Calls -/

section Primitives

variable (calls : Calls) (closer : Except ExceptionName CloseResult → Except ExceptionName Unit)

/-- `time.perf_counter_ns()`. -/
def perfCounterNs : Step ℤ :=
  Block.call (fun s => .ok (calls.clockNs s.counts.clock))
    fun s => { s with counts.clock := s.counts.clock + 1 }

/-- `elapsed_ms(started_ns)`. -/
def readElapsed (started : ℤ) : Step ℚ := do
  let finished ← perfCounterNs calls
  pure (elapsedMs started finished)

/-- `spec.factory(config)`. -/
def factory : Step ℕ := do
  let client ← Block.call
    (fun s => (calls.factory s.counts.factory).map fun _ => s.counts.factory)
    fun s => { s with counts.factory := s.counts.factory + 1 }
  Block.modify fun s => { s with opened := s.opened ++ [client] }
  pure client

/-- `client.request(scenario, url)`. -/
def request : Step ResponseOutcome :=
  Block.call (fun s => calls.request s.counts.request)
    fun s => { s with counts.request := s.counts.request + 1 }

/-- `outcome_matches(scenario, outcome)`. -/
def checkResponse (scenario : Scenario) (outcome : ResponseOutcome) : Step Bool :=
  Block.call
    (fun s =>
      match calls.checkRaises s.counts.check with
      | some exc => .error exc
      | none => .ok (outcomeMatches scenario outcome))
    fun s => { s with counts.check := s.counts.check + 1 }

/-- `take_resource_snapshot()`, which may raise. -/
def takeResourceSnapshot : Step ResourceSnapshot :=
  Block.call (fun s => calls.snapshot s.counts.snapshot)
    fun s => { s with counts.snapshot := s.counts.snapshot + 1 }

/-- The attempt to close a client, with the function of the client's mode. -/
def closeClient (client : ℕ) : Step Unit :=
  Block.call (fun s => closer (calls.close s.counts.close))
    fun s => { s with
      counts.close := s.counts.close + 1
      closeAttempts := s.closeAttempts ++ [client] }

/-- `increment(errors, name)`. -/
def countError (name : String) : Step Unit :=
  Block.modify fun s => { s with errors := Dict.increment name 1 s.errors }

/-- `latencies.append(elapsed_ms(started))`. -/
def recordLatency (latencyMs : ℚ) : Step Unit :=
  Block.modify fun s => { s with latenciesMs := s.latenciesMs ++ [latencyMs] }

/-- `close_latencies.append(elapsed_ms(close_started))`. -/
def recordCloseLatency (latencyMs : ℚ) : Step Unit :=
  Block.modify fun s => { s with closeLatenciesMs := s.closeLatenciesMs ++ [latencyMs] }

/-- `peak_snapshot = take_resource_snapshot()`. -/
def updatePeak : Step Unit := do
  let snapshot ← takeResourceSnapshot calls
  Block.modify fun s => { s with peakSnapshot := some snapshot }

/-- `client = spec.factory(config)`. -/
def createClient : Step Unit := do
  let client ← factory calls
  Block.modify fun s => { s with client := some client }

/-- A request with the check of its response. -/
def checkedRequest (scenario : Scenario) : Step Unit := do
  let outcome ← request calls
  let accepted ← checkResponse calls scenario outcome
  if accepted then pure () else countError "check_failed"

/-- Close a client and count the exception that it raises. -/
def closeCounted (client : ℕ) : Step Unit := do
  let started ← perfCounterNs calls
  Block.tryExcept (closeClient calls closer client)
    (fun exc => countError ("close_" ++ exc.name))
  let elapsed ← readElapsed calls started
  recordCloseLatency elapsed

/-- `if client is not None: …`. -/
def closeCurrent : Step Unit := Block.withLocals fun s =>
  match s.client with
  | some client => closeCounted calls closer client
  | none => pure ()

end Primitives

/-! ## Operations -/

section Operations

variable (calls : Calls) (closer : Except ExceptionName CloseResult → Except ExceptionName Unit)

/-- A round of `create-close`; the snapshot stands between the factory and the close. -/
def createCloseRound : Step Unit := do
  let started ← perfCounterNs calls
  Block.tryFinally
    (Block.tryExcept
      (do
        let client ← factory calls
        updatePeak calls
        let closeStarted ← perfCounterNs calls
        closeClient calls closer client
        let elapsed ← readElapsed calls closeStarted
        recordCloseLatency elapsed)
      (fun exc => countError exc.name))
    (do
      let elapsed ← readElapsed calls started
      recordLatency elapsed)

/-- The loop of the create-close scenario. -/
def createClose (iterations : ℕ) : Step Unit :=
  Block.times iterations (createCloseRound calls closer)

/-- A round of the create-first-request scenario, whose client is closed at its end. -/
def createFirstRequestRound (scenario : Scenario) : Step Unit := do
  Block.modify fun s => { s with client := none }
  let started ← perfCounterNs calls
  Block.tryFinally
    (Block.tryExcept
      (do
        createClient calls
        checkedRequest calls scenario
        updatePeak calls)
      (fun exc => countError exc.name))
    (do
      closeCurrent calls closer
      let elapsed ← readElapsed calls started
      recordLatency elapsed)

/-- The loop of the create-first-request scenario. -/
def createFirstRequest (scenario : Scenario) (iterations : ℕ) : Step Unit :=
  Block.times iterations (createFirstRequestRound calls closer scenario)

/-- A measured request of `reused-request`. -/
def reusedRequestRound (scenario : Scenario) : Step Unit := do
  let started ← perfCounterNs calls
  checkedRequest calls scenario
  let elapsed ← readElapsed calls started
  recordLatency elapsed

/-- The reused-request scenario: one client for all rounds, closed at the end. -/
def reusedRequest (scenario : Scenario) (iterations : ℕ) : Step Unit :=
  Block.tryFinally
    (Block.tryExcept
      (do
        createClient calls
        let _ ← request calls
        Block.times iterations (reusedRequestRound calls scenario)
        updatePeak calls)
      (fun exc => countError exc.name))
    (closeCurrent calls closer)

/-- `clients.append(spec.factory(config))` with its latency. -/
def openClient : Step Unit := do
  let started ← perfCounterNs calls
  let client ← factory calls
  Block.modify fun s => { s with clients := s.clients ++ [client] }
  let elapsed ← readElapsed calls started
  recordLatency elapsed

/-- The many-clients scenario: all clients are open before the first of them is closed. -/
def manyClients (clientCount : ℕ) : Step Unit :=
  Block.tryFinally
    (Block.tryExcept
      (do
        Block.times clientCount (openClient calls)
        updatePeak calls)
      (fun exc => countError exc.name))
    (Block.withLocals fun s => Block.forEach s.clients (closeCounted calls closer))

end Operations

/-! ## The operations of the two modes -/

section Modes

variable (calls : Calls) (scenario : Scenario) (iterations clientCount : ℕ)

/-- The scenario as the asynchronous module has it. -/
def asyncCreateClose : Step Unit := createClose calls closeAsyncClient iterations

/-- The scenario as the synchronous module has it. -/
def syncCreateClose : Step Unit := createClose calls closeSyncClient iterations

/-- The scenario as the asynchronous module has it. -/
def asyncCreateFirstRequest : Step Unit :=
  createFirstRequest calls closeAsyncClient scenario iterations

/-- The scenario as the synchronous module has it. -/
def syncCreateFirstRequest : Step Unit :=
  createFirstRequest calls closeSyncClient scenario iterations

/-- The scenario as the asynchronous module has it. -/
def asyncReusedRequest : Step Unit := reusedRequest calls closeAsyncClient scenario iterations

/-- The scenario as the synchronous module has it. -/
def syncReusedRequest : Step Unit := reusedRequest calls closeSyncClient scenario iterations

/-- The scenario as the asynchronous module has it. -/
def asyncManyClients : Step Unit := manyClients calls closeAsyncClient clientCount

/-- The scenario as the synchronous module has it. -/
def syncManyClients : Step Unit := manyClients calls closeSyncClient clientCount

/-- The function that closes a client of the mode. -/
def ClientMode.closer : ClientMode → Except ExceptionName CloseResult → Except ExceptionName Unit
  | .async => closeAsyncClient
  | .sync => closeSyncClient

/-- The operation that `measure_creation_scenario` runs. -/
def creationOperation : ClientMode → CreationScenario → Step Unit
  | .async, .createClose => asyncCreateClose calls iterations
  | .async, .createFirstRequest => asyncCreateFirstRequest calls scenario iterations
  | .async, .reusedRequest => asyncReusedRequest calls scenario iterations
  | .async, .manyClients => asyncManyClients calls clientCount
  | .sync, .createClose => syncCreateClose calls iterations
  | .sync, .createFirstRequest => syncCreateFirstRequest calls scenario iterations
  | .sync, .reusedRequest => syncReusedRequest calls scenario iterations
  | .sync, .manyClients => syncManyClients calls clientCount

/-- The two members of a pair differ in the function that closes a client. -/
theorem creationOperation_eq (mode : ClientMode) (operation : CreationScenario) :
    creationOperation calls scenario iterations clientCount mode operation =
      match operation with
      | .createClose => createClose calls mode.closer iterations
      | .createFirstRequest => createFirstRequest calls mode.closer scenario iterations
      | .reusedRequest => reusedRequest calls mode.closer scenario iterations
      | .manyClients => manyClients calls mode.closer clientCount := by
  cases mode with
  | async => cases operation with
    | createClose => rfl
    | createFirstRequest => rfl
    | reusedRequest => rfl
    | manyClients => rfl
  | sync => cases operation with
    | createClose => rfl
    | createFirstRequest => rfl
    | reusedRequest => rfl
    | manyClients => rfl

/-- The local variables at the end of the operation. -/
def operationEnd (mode : ClientMode) (operation : CreationScenario) : Locals :=
  (creationOperation calls scenario iterations clientCount mode operation {}).2

/-- `CreationSamples(latencies, close_latencies, LoadResult([], …), peak_snapshot)`. -/
def Locals.samples (s : Locals) : CreationSamples :=
  ⟨s.latenciesMs, s.closeLatenciesMs, LoadResult.ofTypes [] s.errors, s.peakSnapshot⟩

/-- The samples that the operation returns; an exception that leaves the operation leaves no
samples. -/
def operationSamples (mode : ClientMode) (operation : CreationScenario) :
    Except ExceptionName CreationSamples :=
  match creationOperation calls scenario iterations clientCount mode operation {} with
  | (.ok (), s) => .ok s.samples
  | (.error exc, _) => .error exc

/-- `measure_creation_operation` and its sync twin. -/
def measureCreationOperation (mode : ClientMode) (operation : CreationScenario)
    (run : Measurement) : Except ExceptionName ClientCreationResult := do
  let start ← run.start
  let samples ← operationSamples calls scenario iterations clientCount mode operation
  let stop ← run.stop
  pure (clientCreationResult mode operation (reportedCounts iterations clientCount operation) run
    start stop samples)

end Modes

end FogHttpBenchmark.Creation
