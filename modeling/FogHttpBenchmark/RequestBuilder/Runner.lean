import FogHttpBenchmark.RequestBuilder.Models
import FogHttpBenchmark.ReportSchema.Ordinary
import FogHttpBenchmark.Statistics

/-!
# Request-builder runs

The measuring loop of the request-builder suite over any schedule of what `build`,
the request check and `send` do, and the result that a run builds from it.

An iteration of a send-prepared case whose check fails goes on to send the request,
so it can record two errors. `measure_errors` counts the errors of a schedule, and
`builderRun_admitted_iff` says exactly on which schedules the result keeps its
errors within the iterations and passes the reader's run check.
-/

set_option autoImplicit false

namespace FogHttpBenchmark.RequestBuilder

open Library Python ReportSchema

/-! ## Schedules -/

section Schedules

/-- What the calls of one iteration do: each returns a value or raises. -/
structure Iteration where
  /-- `client.build(case, base_url)`. -/
  build : Except ExceptionName Unit
  /-- `request_matches_case(case, request)`. -/
  check : Except ExceptionName Bool
  /-- `client.send(request)`, the status code of the response. -/
  send : Except ExceptionName ℤ
  startedNs : ℕ
  finishedNs : ℕ

/-- `SUCCESS_STATUS`. -/
def successStatus : ℤ := 200

end Schedules

/-! ## The measuring loop -/

section Measure

/-- The send part of an iteration. -/
def measureSend (send : Except ExceptionName ℤ) (errorTypes : List (String × ℤ)) :
    List (String × ℤ) :=
  match send with
  | .error exc => Dict.increment exc.name 1 errorTypes
  | .ok statusCode =>
      if statusCode ≠ successStatus then
        Dict.increment ("status_" ++ toString statusCode) 1 errorTypes
      else errorTypes

/-- The body of the loop on the error counter. -/
def measureStep (kind : BuilderKind) (errorTypes : List (String × ℤ)) (iteration : Iteration) :
    List (String × ℤ) :=
  match iteration.build with
  | .error exc => Dict.increment exc.name 1 errorTypes
  | .ok () =>
      match iteration.check with
      | .error exc => Dict.increment exc.name 1 errorTypes
      | .ok requestMatches =>
          -- a failed check is recorded and the loop goes on to the send
          let checked :=
            if requestMatches then errorTypes else Dict.increment "check_failed" 1 errorTypes
          match kind with
          | .build => checked
          | .sendPrepared => measureSend iteration.send checked

/-- The time between the two readings of the clock. -/
def latencyMs (iteration : Iteration) : ℚ :=
  ((iteration.finishedNs : ℚ) - iteration.startedNs) / 1000000

/-- The measuring loop over a schedule. -/
def measure (kind : BuilderKind) (schedule : List Iteration) : RequestBuilderStats :=
  let errorTypes := schedule.foldl (measureStep kind) []
  { latenciesMs := schedule.map latencyMs
    errors := Dict.total errorTypes
    errorTypes := errorTypes }

/-- The asynchronous loop awaits the send and is otherwise the same. -/
def measureAsync (kind : BuilderKind) (schedule : List Iteration) : RequestBuilderStats :=
  measure kind schedule

/-- The synchronous loop of a kind. -/
def measureSync (kind : BuilderKind) (schedule : List Iteration) : RequestBuilderStats :=
  measure kind schedule

end Measure

/-! ## Errors of a schedule -/

section Errors

/-- The send raises or returns another status. -/
def sendFails (send : Except ExceptionName ℤ) : Bool :=
  match send with
  | .error _ => true
  | .ok statusCode => statusCode ≠ successStatus

/-- The iteration's request is built, fails its check, and fails again when sent. -/
def failsTwice (kind : BuilderKind) (iteration : Iteration) : Bool :=
  match iteration.build, iteration.check with
  | .ok (), .ok false => kind == .sendPrepared && sendFails iteration.send
  | _, _ => false

/-- Every call of the iteration succeeds. -/
def succeeds (kind : BuilderKind) (iteration : Iteration) : Bool :=
  match iteration.build, iteration.check with
  | .ok (), .ok true => kind == .build || !sendFails iteration.send
  | _, _ => false

/-- The number of errors that an iteration records: none, one or two. -/
def failures (kind : BuilderKind) (iteration : Iteration) : ℤ :=
  if failsTwice kind iteration then 2 else if succeeds kind iteration then 0 else 1

theorem total_measureSend (send : Except ExceptionName ℤ) (errorTypes : List (String × ℤ)) :
    Dict.total (measureSend send errorTypes) =
      Dict.total errorTypes + if sendFails send then 1 else 0 := by
  cases send with
  | error exc => simp [measureSend, sendFails]
  | ok statusCode =>
      by_cases hstatus : statusCode = successStatus
      · simp [measureSend, sendFails, hstatus]
      · simp [measureSend, sendFails, hstatus]

/-- One iteration adds its failures to the counter. -/
theorem total_measureStep (kind : BuilderKind) (errorTypes : List (String × ℤ))
    (iteration : Iteration) :
    Dict.total (measureStep kind errorTypes iteration) =
      Dict.total errorTypes + failures kind iteration := by
  obtain ⟨build, check, send, startedNs, finishedNs⟩ := iteration
  cases build with
  | error exc => simp [measureStep, failures, failsTwice, succeeds]
  | ok _ =>
      cases check with
      | error exc => simp [measureStep, failures, failsTwice, succeeds]
      | ok requestMatches =>
          cases kind with
          | build =>
              cases requestMatches with
              | true => simp [measureStep, failures, failsTwice, succeeds]
              | false => simp [measureStep, failures, failsTwice, succeeds]
          | sendPrepared =>
              cases requestMatches with
              | true =>
                  cases hsend : sendFails send with
                  | true => simp [measureStep, failures, failsTwice, succeeds, total_measureSend,
                      hsend]
                  | false => simp [measureStep, failures, failsTwice, succeeds,
                      total_measureSend, hsend]
              | false =>
                  cases hsend : sendFails send with
                  | true =>
                      simp only [measureStep, failures, failsTwice, succeeds, total_measureSend,
                        hsend, Dict.total_increment, Bool.false_eq_true, if_false, if_true,
                        BEq.rfl, Bool.and_self]
                      omega
                  | false => simp [measureStep, failures, failsTwice, succeeds,
                      total_measureSend, hsend]

/-- A whole run adds the failures of its iterations. -/
theorem total_foldl_measureStep (kind : BuilderKind) (schedule : List Iteration)
    (errorTypes : List (String × ℤ)) :
    Dict.total (schedule.foldl (measureStep kind) errorTypes) =
      Dict.total errorTypes + (schedule.map (failures kind)).sum := by
  induction schedule generalizing errorTypes with
  | nil => simp
  | cons iteration schedule ih =>
      rw [List.foldl_cons, ih, total_measureStep, List.map_cons, List.sum_cons]
      omega

theorem measure_errors (kind : BuilderKind) (schedule : List Iteration) :
    (measure kind schedule).errors = (schedule.map (failures kind)).sum := by
  show Dict.total (schedule.foldl (measureStep kind) []) = _
  rw [total_foldl_measureStep, Dict.total_nil, zero_add]

/-- An iteration that fails twice does not succeed. -/
theorem not_succeeds_of_failsTwice {kind : BuilderKind} {iteration : Iteration}
    (h : failsTwice kind iteration = true) : succeeds kind iteration = false := by
  obtain ⟨build, check, send, startedNs, finishedNs⟩ := iteration
  cases build with
  | error exc => rfl
  | ok _ =>
      cases check with
      | error exc => rfl
      | ok requestMatches =>
          cases requestMatches with
          | true => exact absurd h (by simp [failsTwice])
          | false => rfl

/-- The errors exceed the iterations by the double failures less the successes. -/
theorem sum_failures (kind : BuilderKind) (schedule : List Iteration) :
    (schedule.map (failures kind)).sum =
      schedule.length + schedule.countP (failsTwice kind) - schedule.countP (succeeds kind) := by
  induction schedule with
  | nil => simp
  | cons iteration schedule ih =>
      rw [List.map_cons, List.sum_cons, ih, List.length_cons, List.countP_cons, List.countP_cons]
      by_cases htwice : failsTwice kind iteration = true
      · have hnot := not_succeeds_of_failsTwice htwice
        simp only [failures, htwice, hnot, if_true, Bool.false_eq_true, if_false]
        push_cast
        omega
      · by_cases hsucceeds : succeeds kind iteration = true
        · simp only [failures, htwice, hsucceeds, if_true]
          push_cast
          omega
        · simp only [failures, htwice, hsucceeds]
          push_cast
          omega

/-- The names that a send records are not blank. -/
theorem errorCounts_measureSend (send : Except ExceptionName ℤ) {errorTypes : List (String × ℤ)}
    (h : ErrorCounts errorTypes) : ErrorCounts (measureSend send errorTypes) := by
  have hadd : ∀ (k : String) (m n : ℤ), isBlank k = false ∧ 0 ≤ m → isBlank k = false ∧ 0 ≤ n →
      isBlank k = false ∧ 0 ≤ m + n := fun k m n hm hn => ⟨hm.1, by omega⟩
  cases send with
  | error exc => exact Dict.each_increment hadd ⟨exc.nonblank, by decide⟩ h
  | ok statusCode =>
      rw [measureSend]
      split_ifs with hstatus
      · refine Dict.each_increment hadd ⟨?_, by decide⟩ h
        simp [isBlank, isSpace]
      · exact h

theorem errorCounts_measureStep (kind : BuilderKind) {errorTypes : List (String × ℤ)}
    (h : ErrorCounts errorTypes) (iteration : Iteration) :
    ErrorCounts (measureStep kind errorTypes iteration) := by
  have hadd : ∀ (k : String) (m n : ℤ), isBlank k = false ∧ 0 ≤ m → isBlank k = false ∧ 0 ≤ n →
      isBlank k = false ∧ 0 ≤ m + n := fun k m n hm hn => ⟨hm.1, by omega⟩
  obtain ⟨build, check, send, startedNs, finishedNs⟩ := iteration
  cases build with
  | error exc => exact Dict.each_increment hadd ⟨exc.nonblank, by decide⟩ h
  | ok _ =>
      cases check with
      | error exc => exact Dict.each_increment hadd ⟨exc.nonblank, by decide⟩ h
      | ok requestMatches =>
          have hchecked : ErrorCounts (if requestMatches then errorTypes else
              Dict.increment "check_failed" 1 errorTypes) := by
            cases requestMatches with
            | true => exact h
            | false => exact Dict.each_increment hadd ⟨by decide, by decide⟩ h
          cases kind with
          | build => exact hchecked
          | sendPrepared => exact errorCounts_measureSend send hchecked

theorem errorCounts_measure (kind : BuilderKind) (schedule : List Iteration) :
    ErrorCounts (measure kind schedule).errorTypes := by
  have hfold : ∀ (schedule : List Iteration) (errorTypes : List (String × ℤ)),
      ErrorCounts errorTypes → ErrorCounts (schedule.foldl (measureStep kind) errorTypes) := by
    intro schedule
    induction schedule with
    | nil => exact fun _ h => h
    | cons iteration schedule ih =>
        intro errorTypes h
        exact ih _ (errorCounts_measureStep kind h iteration)
  exact hfold schedule [] (Dict.each_nil _)

end Errors

/-! ## Results -/

section Results

/-- What a run reads besides its schedule: the client, the clock and the resources. -/
structure CaseRun where
  client : String
  mode : String
  case : RequestBuilderCase
  schedule : List Iteration
  repeatIndex : ℕ
  started : ℚ
  finished : ℚ
  monotonic : started ≤ finished
  peakRssMb : Option ℚ
  peakThreads : Option ℤ
  peakFds : Option ℤ

/-- `iterations`: the loop runs once for each entry of the schedule. -/
def CaseRun.iterations (run : CaseRun) : ℤ := run.schedule.length

/-- The result of a run, made of the counters of its loop. -/
def resultFromStats (run : CaseRun) (stats : RequestBuilderStats) : RequestBuilderResult :=
  let duration := run.finished - run.started
  let latencies := OrderStatistics.sorted stats.latenciesMs
  let okIterations := run.iterations - stats.errors
  { client := run.client
    mode := run.mode
    case := run.case.name
    group := run.case.group
    kind := run.case.kind.text
    profile := run.case.profile
    iterations := run.iterations
    repeatIndex := run.repeatIndex
    durationS := duration
    operationsPerSecond := rate okIterations duration
    p50Ms := percentile latencies 50
    p95Ms := percentile latencies 95
    p99Ms := percentile latencies 99
    errors := stats.errors
    errorTypes := stats.errorTypes
    peakRssMb := run.peakRssMb
    peakThreads := run.peakThreads
    peakFds := run.peakFds }

/-- The result of the asynchronous loop. -/
def runAsyncRequestBuilderCase (run : CaseRun) : RequestBuilderResult :=
  resultFromStats run (measureAsync run.case.kind run.schedule)

/-- The result of the synchronous loop. -/
def runSyncRequestBuilderCase (run : CaseRun) : RequestBuilderResult :=
  resultFromStats run (measureSync run.case.kind run.schedule)

/-- The errors are those counted and at most one an iteration, and the throughput is
not negative. -/
structure Accounted (result : RequestBuilderResult) : Prop where
  counted : Dict.total result.errorTypes = result.errors
  bounded : result.errors ≤ result.iterations
  throughput : 0 ≤ result.operationsPerSecond

/-- The condition on a schedule: double failures are made up for by successes. -/
def Balanced (kind : BuilderKind) (schedule : List Iteration) : Prop :=
  schedule.countP (failsTwice kind) ≤ schedule.countP (succeeds kind)

instance (kind : BuilderKind) (schedule : List Iteration) :
    Decidable (Balanced kind schedule) :=
  inferInstanceAs (Decidable (_ ≤ _))

theorem errors_le_iterations_iff (kind : BuilderKind) (schedule : List Iteration) :
    (measure kind schedule).errors ≤ schedule.length ↔ Balanced kind schedule := by
  rw [measure_errors, sum_failures, Balanced]
  omega

theorem accounted_of_balanced (run : CaseRun) (h : Balanced run.case.kind run.schedule) :
    Accounted (resultFromStats run (measure run.case.kind run.schedule)) := by
  have hle : (measure run.case.kind run.schedule).errors ≤ run.iterations :=
    (errors_le_iterations_iff run.case.kind run.schedule).2 h
  exact ⟨rfl, hle, rate_nonneg (by omega) _⟩

theorem validateRun_of_accounted (run : CaseRun) (hiterations : 1 ≤ run.iterations)
    (path : String)
    (h : Accounted (resultFromStats run (measure run.case.kind run.schedule))) :
    validateRun .requestBuilder
      (resultFromStats run (measure run.case.kind run.schedule)).row path = Except.ok () := by
  have hduration : (0 : ℚ) ≤ run.finished - run.started := sub_nonneg.2 run.monotonic
  have hcounts := errorCounts_measure run.case.kind run.schedule
  apply validateRun_eq_ok.2
  refine ⟨⟨run.repeatIndex, rfl, by omega⟩, ⟨_, IsNumber.float _, hduration⟩,
    (measure run.case.kind run.schedule).errors, ⟨rfl, total_nonneg_of_errorCounts hcounts⟩,
    ?_, ?_, ?_, ?_⟩
  · exact ⟨_, IsNumber.float _, h.throughput⟩
  · exact ⟨run.iterations, (operationErrorLimit_eq_ok (by decide)).2 ⟨rfl, hiterations⟩,
      h.bounded⟩
  · exact fun _ => ⟨_, rfl, hcounts, rfl⟩
  · intro hhas
    have habsent : (resultFromStats run (measure run.case.kind run.schedule)).row.has
        "warmup_error_types" = false := rfl
    exact absurd hhas (by simp [habsent])

/-- The result of a run keeps its errors within its iterations and passes the reader's
run check exactly when the schedule is balanced; the asynchronous and the synchronous
loop agree on this. -/
theorem builderRun_admitted_iff (run : CaseRun) (hiterations : 1 ≤ run.iterations)
    (path : String) :
    ((Accounted (runAsyncRequestBuilderCase run) ∧
          validateRun .requestBuilder (runAsyncRequestBuilderCase run).row path =
            Except.ok ()) ↔
        Balanced run.case.kind run.schedule) ∧
      ((Accounted (runSyncRequestBuilderCase run) ∧
          validateRun .requestBuilder (runSyncRequestBuilderCase run).row path =
            Except.ok ()) ↔
        Balanced run.case.kind run.schedule) := by
  have hiff : (Accounted (resultFromStats run (measure run.case.kind run.schedule)) ∧
      validateRun .requestBuilder
        (resultFromStats run (measure run.case.kind run.schedule)).row path = Except.ok ()) ↔
      Balanced run.case.kind run.schedule := by
    constructor
    · intro h
      exact (errors_le_iterations_iff _ _).1 h.1.bounded
    · intro h
      have haccounted := accounted_of_balanced run h
      exact ⟨haccounted, validateRun_of_accounted run hiterations path haccounted⟩
  exact ⟨hiff, hiff⟩

/-! ### A failed check followed by a failed send -/

theorem doubleFailureClock : (0 : ℚ) ≤ 2 := zero_le_two

/-- One iteration of the `send-prepared-get` case: the request is built, does not match
the case, and the server answers with status 500. -/
def doubleFailureRun : CaseRun where
  client := "foghttp"
  mode := "sync"
  case := { name := "send-prepared-get", group := "send", kind := .sendPrepared,
            profile := "send-prepared-get" }
  schedule := [{ build := .ok (), check := .ok false, send := .ok 500,
                 startedNs := 0, finishedNs := 1000000 }]
  repeatIndex := 1
  started := 0
  finished := 2
  monotonic := doubleFailureClock
  peakRssMb := none
  peakThreads := none
  peakFds := none

/-- The one iteration records two errors, and the reader refuses the result. -/
theorem doubleFailureRun_refused :
    (runSyncRequestBuilderCase doubleFailureRun).errors = 2 ∧
      doubleFailureRun.iterations = 1 ∧
      ¬ Accounted (runSyncRequestBuilderCase doubleFailureRun) ∧
      ¬ validateRun .requestBuilder (runSyncRequestBuilderCase doubleFailureRun).row "runs[0]" =
        Except.ok () := by
  have herrors : (runSyncRequestBuilderCase doubleFailureRun).errors = 2 := by decide
  refine ⟨herrors, rfl, ?_, ?_⟩
  · intro h
    have hbounded := h.bounded
    rw [herrors] at hbounded
    exact absurd hbounded (by decide)
  · intro h
    obtain ⟨-, -, errors, ⟨hvalue, -⟩, -, ⟨limit, hlimit, hle⟩, -⟩ := validateRun_eq_ok.1 h
    have heq : errors = 2 := by
      have hrow : Json.int 2 = .int errors := hvalue
      cases hrow
      rfl
    obtain ⟨hiterations, -⟩ := (operationErrorLimit_eq_ok (by decide)).1 hlimit
    have hone : limit = 1 := by
      have hrow : Json.int 1 = .int limit := hiterations
      cases hrow
      rfl
    omega

/-- An iteration of the example, in which nothing fails. -/
def successfulIteration : Iteration where
  build := .ok ()
  check := .ok true
  send := .ok 200
  startedNs := 1000000
  finishedNs := 2000000

/-- A run with a double failure and an iteration that makes up for it. -/
def balancedRun : CaseRun :=
  { doubleFailureRun with schedule := doubleFailureRun.schedule ++ [successfulIteration] }

/-- Its two errors stay within its two iterations, in both loops. -/
theorem builderRun_admitted_balanced :
    (runSyncRequestBuilderCase balancedRun).errors = 2 ∧
      Accounted (runAsyncRequestBuilderCase balancedRun) ∧
      Accounted (runSyncRequestBuilderCase balancedRun) ∧
      validateRun .requestBuilder (runSyncRequestBuilderCase balancedRun).row "runs[0]" =
        Except.ok () := by
  obtain ⟨hasync, hsync⟩ := builderRun_admitted_iff balancedRun (by decide) "runs[0]"
  have hbalanced : Balanced balancedRun.case.kind balancedRun.schedule := by decide
  obtain ⟨haccounted, hadmitted⟩ := hsync.2 hbalanced
  exact ⟨by decide, (hasync.2 hbalanced).1, haccounted, hadmitted⟩

end Results

end FogHttpBenchmark.RequestBuilder
