import FogHttpBenchmark.Load.Runner
import FogHttpBenchmark.Streaming.Runner

/-!
# Conservation of the loads

The streaming load as another instance of the shared loop, and what every schedule of every load
conserves: each request is sent exactly once, to its own URL, and the merged counts account for
all of them.
-/

set_option autoImplicit false

namespace FogHttpBenchmark.Load

open Library Library.Workers Python Streaming

/-! ## The streaming load -/

section StreamingLoad

/-- What the workers of a streaming load have measured together. -/
structure StreamingLoadResult where
  latenciesMs : List ℚ
  firstChunkLatenciesMs : List ℚ
  bytesRead : ℤ
  chunksRead : ℤ
  textCharsRead : ℤ
  linesRead : ℤ
  errors : ℤ
  errorTypes : List (String × ℤ)
  verifiedEofBytes : ℤ
  verifiedEofChunks : ℤ

/-- The result of a worker. -/
def streamingResult (totals : StreamTotals) : StreamingLoadResult :=
  { latenciesMs := totals.latenciesMs
    firstChunkLatenciesMs := totals.firstChunkLatenciesMs
    bytesRead := totals.bytesRead
    chunksRead := totals.chunksRead
    textCharsRead := totals.textCharsRead
    linesRead := totals.linesRead
    errors := Dict.total totals.errorTypes
    errorTypes := totals.errorTypes
    verifiedEofBytes := totals.verifiedEofBytes
    verifiedEofChunks := totals.verifiedEofChunks }

/-- The result of all workers together. -/
def mergeStreamingResults (results : List StreamingLoadResult) : StreamingLoadResult :=
  let errorTypes := mergeErrorTypes (results.map StreamingLoadResult.errorTypes)
  { latenciesMs := results.flatMap StreamingLoadResult.latenciesMs
    firstChunkLatenciesMs := results.flatMap StreamingLoadResult.firstChunkLatenciesMs
    bytesRead := (results.map StreamingLoadResult.bytesRead).sum
    chunksRead := (results.map StreamingLoadResult.chunksRead).sum
    textCharsRead := (results.map StreamingLoadResult.textCharsRead).sum
    linesRead := (results.map StreamingLoadResult.linesRead).sum
    errors := Dict.total errorTypes
    errorTypes := errorTypes
    verifiedEofBytes := (results.map StreamingLoadResult.verifiedEofBytes).sum
    verifiedEofChunks := (results.map StreamingLoadResult.verifiedEofChunks).sum }

variable (case : StreamingCase) (url : String) (concurrency requests : ℕ) (collect : Bool)
variable (schedule : List (Action (Answer StreamingOutcome)))

/-- The loop over `client.stream(case, url)` with the merge of the workers' results. -/
def drainStreams : Option (LoadRun StreamingLoadResult) :=
  (drainRequests (recordStream case collect) {} (fun _ => url) concurrency requests schedule).map
    fun locals =>
      ⟨mergeStreamingResults (locals.map fun l => streamingResult l.totals),
        locals.flatMap WorkerLocals.sent⟩

/-- The asynchronous load of a streaming case. -/
def runAsyncStreamingLoad : Option (LoadRun StreamingLoadResult) :=
  drainStreams case url concurrency requests collect schedule

/-- The synchronous load of a streaming case. -/
def runSyncStreamingLoad : Option (LoadRun StreamingLoadResult) :=
  drainStreams case url concurrency requests collect schedule

/-- The load of a streaming case; no request needs no worker. -/
def runStreamingLoad (isAsync : Bool) : Option (LoadRun StreamingLoadResult) :=
  if requests = 0 then some ⟨⟨[], [], 0, 0, 0, 0, 0, [], 0, 0⟩, []⟩
  else if isAsync then runAsyncStreamingLoad case url concurrency requests collect schedule
  else runSyncStreamingLoad case url concurrency requests collect schedule

/-- A response that the worker counts as an error. -/
def streamFailed : Except ExceptionName StreamingOutcome → Bool
  | .error _ => true
  | .ok outcome => !Streaming.outcomeMatches case outcome

theorem recordStream_counts :
    CountsAnswers collect StreamTotals.latenciesMs StreamTotals.errorTypes
      (recordStream case collect) (streamFailed case) where
  latencies totals response latencyMs := by
    cases response with
    | error exc => cases collect <;> simp [recordStream]
    | ok outcome => cases collect <;> simp [recordStream]
  errors totals response latencyMs := by
    cases response with
    | error exc => simp [recordStream, streamFailed]
    | ok outcome =>
        cases h : Streaming.outcomeMatches case outcome <;> simp [recordStream, streamFailed, h]

/-- A whole response that matches has the size of the case, in every read mode. -/
theorem bytesRead_eq_sizeBytes {case : StreamingCase} (hall : case.consume = .all)
    {outcome : StreamingOutcome} (h : Streaming.outcomeMatches case outcome = true) :
    outcome.bytesRead = case.sizeBytes := by
  by_cases hread : case.read = .lines
  · rw [Streaming.outcomeMatches] at h
    split_ifs at h with hstatus hfew
    rw [lineOutcomeMatches] at h
    split_ifs at h with hlines hfirst hexpected
    · rw [hall] at hfirst
      cases hfirst
    · exact of_decide_eq_true h
  · exact bytesRead_eq_of_matches hread hall h

/-- The verified bytes of one answer. -/
theorem verifiedEofBytes_recordStream (totals : StreamTotals)
    (response : Except ExceptionName StreamingOutcome) (latencyMs : ℚ) :
    (recordStream case collect totals response latencyMs).verifiedEofBytes =
      totals.verifiedEofBytes +
        (if case.consume = .all then 1 - (if streamFailed case response then 1 else 0) else 0) *
          case.sizeBytes := by
  cases response with
  | error exc => simp [recordStream, streamFailed]
  | ok outcome =>
      cases h : Streaming.outcomeMatches case outcome with
      | false => simp [recordStream, streamFailed, h]
      | true =>
          by_cases hall : case.consume = .all
          · simp [recordStream, streamFailed, h, hall, bytesRead_eq_sizeBytes hall h]
          · simp [recordStream, h, hall]

end StreamingLoad

/-! ## Every schedule of every load -/

section Schedules

variable {concurrency requests : ℕ} {collect : Bool}

theorem drainLoad_conserved {scenario : Scenario} {targetUrl : ℕ → String}
    {schedule : List (Action (Answer ResponseOutcome))} {load : LoadRun LoadResult}
    (hconcurrency : 1 ≤ concurrency) (hrequests : requests ≠ 0)
    (h : drainLoad scenario concurrency requests collect schedule targetUrl = some load) :
    load.sent.Perm ((List.range requests).map fun index => (index, targetUrl index)) ∧
      Accounted requests collect load.result.latenciesMs load.result.errors
        load.result.errorTypes := by
  obtain ⟨locals, hlocals, rfl⟩ := Option.map_eq_some_iff.1 h
  obtain ⟨answers, -, hsent, -, haccounted, -⟩ := accounted_of_drainRequests
    (countRequest_counts scenario collect) rfl rfl hconcurrency hrequests hlocals
  refine ⟨hsent, ?_⟩
  have hlatencies : (mergeLoadResults (locals.map fun l => l.totals.result)).latenciesMs =
      locals.flatMap fun l => l.totals.latenciesMs := List.flatMap_map _ _ _
  have htypes : (mergeLoadResults (locals.map fun l => l.totals.result)).errorTypes =
      mergeErrorTypes (locals.map fun l => l.totals.errorTypes) :=
    congrArg mergeErrorTypes (List.map_map ..)
  have herrors : (mergeLoadResults (locals.map fun l => l.totals.result)).errors =
      Dict.total (mergeErrorTypes (locals.map fun l => l.totals.errorTypes)) :=
    congrArg Dict.total htypes
  rw [hlatencies, htypes, herrors]
  exact haccounted

theorem drainStreams_conserved {case : StreamingCase} {url : String}
    {schedule : List (Action (Answer StreamingOutcome))} {load : LoadRun StreamingLoadResult}
    (hconcurrency : 1 ≤ concurrency) (hrequests : requests ≠ 0)
    (h : drainStreams case url concurrency requests collect schedule = some load) :
    load.sent.Perm ((List.range requests).map fun index => (index, url)) ∧
      Accounted requests collect load.result.latenciesMs load.result.errors
        load.result.errorTypes ∧
      load.result.verifiedEofBytes =
        if case.consume = .all then (requests - load.result.errors) * case.sizeBytes else 0 := by
  obtain ⟨locals, hlocals, rfl⟩ := Option.map_eq_some_iff.1 h
  obtain ⟨answers, hlength, hsent, htotal, haccounted, hsum⟩ := accounted_of_drainRequests
    (recordStream_counts case collect) rfl rfl hconcurrency hrequests hlocals
  have hlatencies : (mergeStreamingResults (locals.map fun l => streamingResult
      l.totals)).latenciesMs = locals.flatMap fun l => l.totals.latenciesMs := List.flatMap_map _ _ _
  have htypes : (mergeStreamingResults (locals.map fun l => streamingResult
      l.totals)).errorTypes = mergeErrorTypes (locals.map fun l => l.totals.errorTypes) :=
    congrArg mergeErrorTypes (List.map_map ..)
  have herrors : (mergeStreamingResults (locals.map fun l => streamingResult
      l.totals)).errors = Dict.total (mergeErrorTypes (locals.map fun l => l.totals.errorTypes)) :=
    congrArg Dict.total htypes
  have hverified : (mergeStreamingResults (locals.map fun l => streamingResult
      l.totals)).verifiedEofBytes = (locals.map fun l => l.totals.verifiedEofBytes).sum :=
    congrArg List.sum (List.map_map ..)
  refine ⟨hsent, ?_, ?_⟩
  · rw [hlatencies, htypes, herrors]
    exact haccounted
  · rw [hverified, herrors, htotal, hsum StreamTotals.verifiedEofBytes
      (fun answer => (if case.consume = .all then
        1 - (if streamFailed case answer.outcome then 1 else 0) else 0) * case.sizeBytes) rfl
      fun totals answer => verifiedEofBytes_recordStream case collect totals _ _,
      List.sum_map_mul_right]
    split_ifs with hall
    · -- Every answer is verified or counted as an error.
      rw [sum_unflagged (fun a : ℕ × Answer StreamingOutcome => streamFailed case a.2.outcome),
        hlength]
    · rw [List.map_const', List.sum_replicate, nsmul_zero, zero_mul]

/-- Under every schedule every load sends each request once, the mixed-origin load the even
indices to the first origin, and its counts account for all of them; and a load can be run to its
end from wherever its workers are. -/
theorem loads_conserved (hconcurrency : 1 ≤ concurrency) (isAsync : Bool) :
    (∀ scenario url schedule load,
      runLoad scenario concurrency requests collect schedule isAsync url = some load →
        load.sent.Perm ((List.range requests).map fun index => (index, url)) ∧
        Accounted requests collect load.result.latenciesMs load.result.errors
          load.result.errorTypes) ∧
    (∀ scenario url secondaryUrl schedule load,
      runCaseLoad scenario concurrency requests collect schedule isAsync url (some secondaryUrl) =
          some load →
        load.sent.Perm ((List.range requests).map fun index =>
          (index, if index % 2 = 0 then url else secondaryUrl)) ∧
        Accounted requests collect load.result.latenciesMs load.result.errors
          load.result.errorTypes) ∧
    (∀ case url schedule load,
      runStreamingLoad case url concurrency requests collect schedule isAsync = some load →
        load.sent.Perm ((List.range requests).map fun index => (index, url)) ∧
        Accounted requests collect load.result.latenciesMs load.result.errors
          load.result.errorTypes ∧
        load.result.verifiedEofBytes =
          if case.consume = .all then (requests - load.result.errors) * case.sizeBytes else 0) ∧
    ∀ (α τ : Type) (count : τ → Except ExceptionName α → ℚ → τ) (initial : τ)
      (targetUrl : ℕ → String) (schedule : List (Action (Answer α))) pool,
      Transition.run (step (requestRound count targetUrl))
          (Pool.start (List.range requests) (min concurrency requests) ⟨initial, []⟩) schedule =
        some pool →
      (∃ rest locals, drainRequests count initial targetUrl concurrency requests
        (schedule ++ rest) = some locals) ∧
      schedule.length ≤ 2 * requests + min concurrency requests := by
  -- the plain load, the one with two origins, the streaming load, and that each can be finished
  refine ⟨?_, ?_, ?_, ?_⟩
  · intro scenario url schedule load h
    rw [runLoad] at h
    split_ifs at h with hrequests hmode
    -- nothing is requested
    · cases h
      subst hrequests
      -- the two modes drain the same queue
      exact ⟨List.Perm.refl _, Accounted.empty collect⟩
    · exact drainLoad_conserved hconcurrency hrequests h
    · exact drainLoad_conserved hconcurrency hrequests h
  · intro scenario url secondaryUrl schedule load h
    rw [runCaseLoad] at h
    split_ifs at h with hrequests hmode
    · cases h
      subst hrequests
      exact ⟨List.Perm.refl _, Accounted.empty collect⟩
    · exact drainLoad_conserved hconcurrency hrequests h
    · exact drainLoad_conserved hconcurrency hrequests h
  · intro case url schedule load h
    rw [runStreamingLoad] at h
    split_ifs at h with hrequests hmode
    · cases h
      subst hrequests
      refine ⟨List.Perm.refl _, Accounted.empty collect, ?_⟩
      simp
    · exact drainStreams_conserved hconcurrency hrequests h
    · exact drainStreams_conserved hconcurrency hrequests h
  · intro α τ count initial targetUrl schedule pool h
    obtain ⟨hdrain, hlength⟩ := exists_drain_of_run h
    rw [List.length_range] at hlength
    exact ⟨hdrain, hlength⟩

/-- Two workers share three requests: the second one takes a request while the first one waits
for its answer, and one answer has a wrong status. -/
theorem loads_conserved_two_workers :
    ∃ load, runCaseLoad {} 2 3 true
        [.take 0, .take 1, .finish 1 ⟨.ok { statusCode := 500 }, 1⟩, .take 1,
          .finish 0 ⟨.ok { statusCode := 200 }, 2⟩,
          .finish 1 ⟨.error ⟨"ReadTimeout", by decide⟩, 3⟩, .stop 1, .stop 0]
        true "http://127.0.0.1:1" (some "http://127.0.0.1:2") = some load ∧
      load.sent.Perm [(0, "http://127.0.0.1:1"), (1, "http://127.0.0.1:2"),
        (2, "http://127.0.0.1:1")] ∧
      Accounted 3 true load.result.latenciesMs load.result.errors load.result.errorTypes := by
  have hruns : (runCaseLoad {} 2 3 true
      [.take 0, .take 1, .finish 1 ⟨.ok { statusCode := 500 }, 1⟩, .take 1,
        .finish 0 ⟨.ok { statusCode := 200 }, 2⟩,
        .finish 1 ⟨.error ⟨"ReadTimeout", by decide⟩, 3⟩, .stop 1, .stop 0]
      true "http://127.0.0.1:1" (some "http://127.0.0.1:2")).isSome = true := by decide
  obtain ⟨load, hload⟩ := Option.isSome_iff_exists.1 hruns
  exact ⟨load, hload, (loads_conserved (by decide) true).2.1 _ _ _ _ _ hload⟩

end Schedules

end FogHttpBenchmark.Load
