import FogHttpBenchmark.ProxyConnect.Models
import FogHttpBenchmark.ReportSchema.Ordinary
import FogHttpBenchmark.Statistics

/-!
# Proxy-connect runs

One measured run of a proxy case: the outcome of its load, the readings of the
proxy's counters around it, and the result that is built from both. When the usage
guard fires, the run's requests are added to the errors of the load, so a load that
already failed in part is counted twice. `proxyRun_admitted_iff` says exactly when the
result still adds up and passes the reader's run check.
-/

set_option autoImplicit false

namespace FogHttpBenchmark.ProxyConnect

open Library Python ReportSchema

/-! ## The load -/

/-- What a load of some requests returns. -/
structure ProxyConnectLoadResult where
  latenciesMs : List ℚ
  errors : ℤ
  errorTypes : List (String × ℤ)

/-- The result of a load of `requests` requests: its errors are the errors counted
under their names, and at most one for each request. -/
structure LoadOutcome (requests : ℤ) extends ProxyConnectLoadResult where
  counted : ErrorCounts errorTypes
  total_eq : errors = Dict.total errorTypes
  bounded : errors ≤ requests

theorem LoadOutcome.errors_nonneg {requests : ℤ} (load : LoadOutcome requests) :
    0 ≤ load.errors := by
  rw [load.total_eq]
  exact total_nonneg_of_errorCounts load.counted

/-! ## The usage guard -/

/-- The error under which the guard records a run whose counters do not fit its case. -/
def proxyUsageError (case : ProxyConnectCase) (requests : ℤ)
    (measuredProxy totalProxy : ProxyStatsDelta) : Option String :=
  if !case.usesProxy then
    if totalProxy.httpRequests = 0 ∧ totalProxy.connectRequests = 0 then none
    else some "unexpected_proxy_activity"
  else if case.targetScheme = .http then
    if requests ≤ measuredProxy.httpRequests then none else some "proxy_http_bypass"
  else if 0 < totalProxy.connectRequests then none
  else some "proxy_connect_bypass"

theorem proxyUsageError_name {case : ProxyConnectCase} {requests : ℤ}
    {measuredProxy totalProxy : ProxyStatsDelta} {name : String}
    (h : proxyUsageError case requests measuredProxy totalProxy = some name) :
    isBlank name = false := by
  rw [proxyUsageError] at h
  split_ifs at h with hdirect hquiet hscheme hhttp hconnect
  · cases h
    decide
  · cases h
    decide
  · cases h
    decide

/-! ## One run -/

section Run

/-- What a measured run reads: the load and its warm-up, four readings of the proxy's
counters, the clock and the resource sampler. -/
structure CaseRun (requests warmup : ℤ) where
  client : String
  mode : String
  case : ProxyConnectCase
  concurrency : ℤ
  repeatIndex : ℕ
  load : LoadOutcome requests
  warmupLoad : LoadOutcome warmup
  startProxy : ProxyStatsDelta
  measuredProxyStart : ProxyStatsDelta
  measuredProxyEnd : ProxyStatsDelta
  totalProxyEnd : ProxyStatsDelta
  started : ℚ
  finished : ℚ
  monotonic : started ≤ finished
  peakRssMb : Option ℚ
  peakThreads : Option ℤ
  peakFds : Option ℤ
  clientStats : Option (List (String × ℤ))

variable {requests warmup : ℤ}

def CaseRun.measuredProxy (run : CaseRun requests warmup) : ProxyStatsDelta :=
  proxyDelta run.measuredProxyStart run.measuredProxyEnd

def CaseRun.totalProxy (run : CaseRun requests warmup) : ProxyStatsDelta :=
  proxyDelta run.startProxy run.totalProxyEnd

/-- `proxy_error` of the run. -/
def CaseRun.proxyError (run : CaseRun requests warmup) : Option String :=
  proxyUsageError run.case requests run.measuredProxy run.totalProxy

/-- `error_types` after the guard: a guard error counts every request. -/
def guardedErrorTypes (requests : ℤ) (proxyError : Option String)
    (errorTypes : List (String × ℤ)) : List (String × ℤ) :=
  match proxyError with
  | none => errorTypes
  | some name => Dict.increment name requests errorTypes

/-- `errors` after the guard. -/
def guardedErrors (requests : ℤ) (proxyError : Option String) (errors : ℤ) : ℤ :=
  errors + if proxyError.isSome then requests else 0

def runProxyConnectCase (run : CaseRun requests warmup) : ProxyConnectResult :=
  let duration := run.finished - run.started
  let errors := guardedErrors requests run.proxyError run.load.errors
  let latencies := OrderStatistics.sorted run.load.latenciesMs
  -- the guard may count more errors than there are requests
  let okRequests := max (requests - errors) 0
  { client := run.client
    mode := run.mode
    case := run.case.name
    group := run.case.group
    targetScheme := run.case.targetScheme.text
    config := run.case.config.text
    lifecycle := run.case.lifecycle.text
    concurrency := run.concurrency
    requestLimit := run.concurrency
    requests := requests
    repeatIndex := run.repeatIndex
    durationS := duration
    requestsPerSecond := rate requests duration
    okRequestsPerSecond := rate okRequests duration
    okRequests := okRequests
    p50Ms := percentile latencies 50
    p95Ms := percentile latencies 95
    p99Ms := percentile latencies 99
    errors := errors
    warmupErrors := run.warmupLoad.errors
    errorTypes := guardedErrorTypes requests run.proxyError run.load.errorTypes
    warmupErrorTypes := run.warmupLoad.errorTypes
    measuredProxy := run.measuredProxy
    totalProxy := run.totalProxy
    peakRssMb := run.peakRssMb
    peakThreads := run.peakThreads
    peakFds := run.peakFds
    clientStats := run.clientStats }

end Run

/-! ## Conservation -/

section Conservation

variable {requests warmup : ℤ}

/-- Successes and errors make up the requests, and the errors are those counted. -/
structure Accounted (result : ProxyConnectResult) : Prop where
  conserved : result.okRequests + result.errors = result.requests
  counted : Dict.total result.errorTypes = result.errors
  bounded : result.errors ≤ result.requests

/-- With or without a guard error, the map counts exactly the errors. -/
theorem total_guardedErrorTypes (proxyError : Option String) (load : LoadOutcome requests) :
    Dict.total (guardedErrorTypes requests proxyError load.errorTypes) =
      guardedErrors requests proxyError load.errors := by
  cases proxyError with
  | none => simp [guardedErrorTypes, guardedErrors, load.total_eq]
  | some name => simp [guardedErrorTypes, guardedErrors, load.total_eq]

theorem errorCounts_guarded (hrequests : 1 ≤ requests) {proxyError : Option String}
    (hname : ∀ name, proxyError = some name → isBlank name = false)
    (load : LoadOutcome requests) :
    ErrorCounts (guardedErrorTypes requests proxyError load.errorTypes) := by
  cases proxyError with
  | none => exact load.counted
  | some name =>
      apply Dict.each_increment
      · intro k m n hm hn
        exact ⟨hm.1, by omega⟩
      · exact ⟨hname name rfl, by omega⟩
      · exact load.counted

/-- The guarded errors stay within the requests exactly when the guard is silent or
the load had no error of its own. -/
theorem guardedErrors_le_iff (proxyError : Option String)
    (load : LoadOutcome requests) :
    guardedErrors requests proxyError load.errors ≤ requests ↔
      proxyError = none ∨ load.errors = 0 := by
  have hnonneg := load.errors_nonneg
  have hbounded := load.bounded
  cases proxyError with
  | none => simpa [guardedErrors] using hbounded
  | some name =>
      simp only [guardedErrors, Option.isSome_some, if_true, reduceCtorEq, false_or]
      omega

theorem accounted_runProxyConnectCase_iff (run : CaseRun requests warmup) :
    Accounted (runProxyConnectCase run) ↔ run.proxyError = none ∨ run.load.errors = 0 := by
  constructor
  · intro h
    exact (guardedErrors_le_iff run.proxyError run.load).1 h.bounded
  · intro h
    have hle := (guardedErrors_le_iff run.proxyError run.load).2 h
    refine ⟨?_, total_guardedErrorTypes _ _, hle⟩
    show max (requests - guardedErrors requests run.proxyError run.load.errors) 0 +
      guardedErrors requests run.proxyError run.load.errors = requests
    omega

/-- A result that adds up passes the reader's run check. -/
theorem validateRun_of_accounted (hrequests : 1 ≤ requests) (run : CaseRun requests warmup)
    (path : String) (h : Accounted (runProxyConnectCase run)) :
    validateRun .proxyConnect (runProxyConnectCase run).row path = Except.ok () := by
  have hduration : (0 : ℚ) ≤ run.finished - run.started := sub_nonneg.2 run.monotonic
  have herrors : 0 ≤ guardedErrors requests run.proxyError run.load.errors := by
    rw [← total_guardedErrorTypes]
    apply total_nonneg_of_errorCounts
    exact errorCounts_guarded hrequests (fun _ hname => proxyUsageError_name hname) run.load
  have hok : 0 ≤ (runProxyConnectCase run).okRequests := le_max_right _ _
  apply validateRun_eq_ok.2
  refine ⟨⟨run.repeatIndex, rfl, by omega⟩, ⟨_, IsNumber.float _, hduration⟩,
    (runProxyConnectCase run).errors, ⟨rfl, herrors⟩, ?_, ?_, ?_, ?_⟩
  · show IsNonnegative (Json.ofFloat (runProxyConnectCase run).okRequestsPerSecond)
    exact ⟨_, IsNumber.float _, rate_nonneg hok _⟩
  · refine ⟨requests, (runErrorLimit_eq_ok rfl).2 ⟨⟨rfl, hrequests⟩, ?_, ?_⟩, h.bounded⟩
    · exact ⟨run.warmupLoad.errors, rfl, run.warmupLoad.errors_nonneg⟩
    · exact ⟨(runProxyConnectCase run).okRequests, rfl, hok, h.conserved⟩
  · intro _
    refine ⟨(runProxyConnectCase run).errorTypes, rfl, ?_, ?_⟩
    · exact errorCounts_guarded hrequests (fun _ hname => proxyUsageError_name hname) run.load
    · show Json.int (runProxyConnectCase run).errors = _
      rw [h.counted]
  · intro _
    refine ⟨run.warmupLoad.errorTypes, rfl, run.warmupLoad.counted, ?_⟩
    show Json.int run.warmupLoad.errors = _
    rw [run.warmupLoad.total_eq]

/-- The result of a run adds up and passes the reader's run check exactly when the
usage guard is silent or the load had no error of its own. -/
theorem proxyRun_admitted_iff (hrequests : 1 ≤ requests) (run : CaseRun requests warmup)
    (path : String) :
    (Accounted (runProxyConnectCase run) ∧
        validateRun .proxyConnect (runProxyConnectCase run).row path = Except.ok ()) ↔
      proxyUsageError run.case requests run.measuredProxy run.totalProxy = none ∨
        run.load.errors = 0 := by
  constructor
  · intro h
    exact (accounted_runProxyConnectCase_iff run).1 h.1
  · intro h
    have haccounted := (accounted_runProxyConnectCase_iff run).2 h
    exact ⟨haccounted, validateRun_of_accounted hrequests run path haccounted⟩

/-! ### A partly failed load that bypasses the proxy -/

/-- Two requests of the `proxy-http` case: one fails before it reaches the proxy, and
the proxy counts the other. -/
def partialBypassRun : CaseRun 2 0 where
  client := "httpx"
  mode := "async"
  case := { name := "proxy-http", group := "http", targetScheme := .http, config := .explicit }
  concurrency := 1
  repeatIndex := 1
  load :=
    { latenciesMs := [1, 2]
      errors := 1
      errorTypes := [("ConnectTimeout", 1)]
      counted := by
        intro name n hmem
        rw [List.mem_singleton, Prod.mk.injEq] at hmem
        obtain ⟨rfl, rfl⟩ := hmem
        exact ⟨by decide, by decide⟩
      total_eq := by decide
      bounded := by decide }
  warmupLoad :=
    { latenciesMs := []
      errors := 0
      errorTypes := []
      counted := Dict.each_nil _
      total_eq := by decide
      bounded := by decide }
  startProxy := ⟨0, 0, 0, 0, 0⟩
  measuredProxyStart := ⟨0, 0, 0, 0, 0⟩
  measuredProxyEnd := ⟨1, 0, 0, 0, 0⟩
  totalProxyEnd := ⟨1, 0, 0, 0, 0⟩
  started := 0
  finished := 1
  monotonic := zero_le_one
  peakRssMb := none
  peakThreads := none
  peakFds := none
  clientStats := none

/-- The run records three errors for its two requests, and the reader refuses it. -/
theorem partialBypassRun_refused :
    (runProxyConnectCase partialBypassRun).errors = 3 ∧
      ¬ Accounted (runProxyConnectCase partialBypassRun) ∧
      ¬ validateRun .proxyConnect (runProxyConnectCase partialBypassRun).row "runs[0]" =
        Except.ok () := by
  have herrors : (runProxyConnectCase partialBypassRun).errors = 3 := by decide
  refine ⟨herrors, ?_, ?_⟩
  · intro h
    have hbounded := h.bounded
    rw [herrors] at hbounded
    exact absurd hbounded (by decide)
  · intro h
    obtain ⟨-, -, errors, ⟨hvalue, -⟩, -, ⟨limit, hlimit, hle⟩, -⟩ := validateRun_eq_ok.1 h
    have heq : errors = 3 := by
      have hrow : (Json.int 3) = .int errors := hvalue
      cases hrow
      rfl
    obtain ⟨⟨hrequests, -⟩, -⟩ := (runErrorLimit_eq_ok rfl).1 hlimit
    have hlimit2 : limit = 2 := by
      have hrow : (Json.int 2) = .int limit := hrequests
      cases hrow
      rfl
    omega

/-- A direct run without proxy activity satisfies the condition. -/
theorem proxyRun_admitted_direct :
    (Accounted (runProxyConnectCase
        { partialBypassRun with
          case := { name := "direct-http", group := "http", targetScheme := .http,
                    config := .direct }
          measuredProxyEnd := ⟨0, 0, 0, 0, 0⟩
          totalProxyEnd := ⟨0, 0, 0, 0, 0⟩ }) ∧
      validateRun .proxyConnect (runProxyConnectCase
        { partialBypassRun with
          case := { name := "direct-http", group := "http", targetScheme := .http,
                    config := .direct }
          measuredProxyEnd := ⟨0, 0, 0, 0, 0⟩
          totalProxyEnd := ⟨0, 0, 0, 0, 0⟩ }).row "runs[0]" = Except.ok ()) :=
  (proxyRun_admitted_iff (by decide) _ "runs[0]").2 (Or.inl (by decide))

end Conservation

end FogHttpBenchmark.ProxyConnect
