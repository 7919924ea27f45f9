import FogHttpBenchmark.Isolation.Reports
import FogHttpBenchmark.OneUpstream.Reports
import FogHttpBenchmark.ProxyConnect.Merge
import FogHttpBenchmark.RequestBuilder.Reports
import FogHttpBenchmark.Streaming.Finalization

/-!
# Finalizers of the suites

The suite table names the finalizer that the merge of each suite runs. Two suites rework the
merged report, the others keep it.

The one-upstream and request-builder suites keep it, although their rows have ratios to rows
that another child may have measured. `isolated_baselines_iff` says for which results the
ratios are still those of one process.
-/

set_option autoImplicit false

namespace FogHttpBenchmark.Isolation

open Library Library.Checked Python ReportSchema

variable [PyRuntime]

/-! ## The table -/

section Table

/-- `finalize_merged_report` of the streaming suite. -/
def finalizeStreamingReport : MergedReportFinalizer := fun rows children => do
  let metadata ← Streaming.mergedStreamingMetadata children
  pure ⟨rows, metadata⟩

/-- `finalize_merged_report` of the proxy-connect suite. -/
def finalizeProxyConnectReport : MergedReportFinalizer := fun rows _ => do
  let finalized ← ProxyConnect.finalizeProxyConnectRows rows
  pure ⟨finalized, []⟩

/-- `get_suite(suite).finalize_report`. -/
def finalizeReport : Suite → MergedReportFinalizer
  | .requests => preserveMergedReport
  | .clientCreation => preserveMergedReport
  | .resourceBackpressure => preserveMergedReport
  | .compressedResponse => preserveMergedReport
  | .oneUpstream => preserveMergedReport
  | .requestBuilder => preserveMergedReport
  | .responseStreaming => finalizeStreamingReport
  | .proxyConnect => finalizeProxyConnectReport

/-- Outside the proxy suite the finalizer returns the rows that it is given. -/
theorem rows_of_finalizeReport {suite : Suite} (hsuite : suite ≠ .proxyConnect)
    {rows children : List JsonObject} {report : MergedSuiteReport}
    (h : finalizeReport suite rows children = .ok report) : report.aggregateRows = rows := by
  cases suite with
  | responseStreaming =>
      rw [finalizeReport, finalizeStreamingReport, bind_eq_ok] at h
      obtain ⟨metadata, -, h⟩ := h
      rw [pure_eq_ok] at h
      rw [← h]
  | proxyConnect => exact absurd rfl hsuite
  | _ =>
      rw [finalizeReport, preserveMergedReport, pure_eq_ok] at h
      rw [← h]

/-- A finalizer changes at most the ratios of the rows. -/
theorem lookup_finalizeReport {suite : Suite} {rows children : List JsonObject}
    {report : MergedSuiteReport} (h : finalizeReport suite rows children = .ok report) :
    List.Forall₂ (fun final row => ∀ key, key ≠ "direct_ratio" →
      final.lookup key = row.lookup key) report.aggregateRows rows := by
  by_cases hsuite : suite = .proxyConnect
  · subst hsuite
    rw [finalizeReport, finalizeProxyConnectReport, bind_eq_ok] at h
    obtain ⟨finalized, hfinalized, h⟩ := h
    rw [pure_eq_ok] at h
    rw [← h]
    refine (ProxyConnect.sameButRatio_of_finalize hfinalized).imp ?_
    intro final row hsame key hkey
    exact hsame.lookup hkey
  · rw [rows_of_finalizeReport hsuite h]
    exact List.forall₂_same.2 fun _ _ _ _ => rfl

/-- No finalizer changes the identity of a row. -/
theorem identities_finalizeReport {suite : Suite} {rows children : List JsonObject}
    {report : MergedSuiteReport} (h : finalizeReport suite rows children = .ok report) :
    List.Forall₂ (fun final row => aggregateIdentity suite final = aggregateIdentity suite row)
      report.aggregateRows rows :=
  (lookup_finalizeReport h).imp fun _ _ hsame =>
    aggregateIdentity_congr hsame (by decide) (by cases suite <;> decide)

end Table

/-! ## Baselines in other children -/

section Baselines

/-- For the suites that keep the merged report: the isolated run reports the rows of one process,
ratios included, exactly where every measurement has its usable baseline in its own case. -/
theorem isolated_baselines_iff :
    (∀ (results : List OneUpstream.OneUpstreamResult) (cells : List OneUpstream.Cell)
      (children : List JsonObject), cells.Nodup →
        (∀ result ∈ results, OneUpstream.resultCell result ∈ cells) →
        ((∃ report, finalizeReport .oneUpstream (OneUpstream.childRows results cells) children =
            .ok report ∧ report.aggregateRows.Perm
              ((OneUpstream.aggregateOneUpstreamResults results).map
                OneUpstream.OneUpstreamAggregateRow.row)) ↔
          OneUpstream.BaselinesAtHome results)) ∧
    (∀ (results : List RequestBuilder.RequestBuilderResult) (cells : List RequestBuilder.Cell)
      (children : List JsonObject), cells.Nodup →
        (∀ result ∈ results, RequestBuilder.resultCell result ∈ cells) →
        ((∃ report, finalizeReport .requestBuilder (RequestBuilder.childRows results cells)
            children = .ok report ∧ report.aggregateRows.Perm
              ((RequestBuilder.aggregateRequestBuilderResults results).map
                RequestBuilder.RequestBuilderAggregateRow.row)) ↔
          RequestBuilder.BaselinesAtHome results)) := by
  -- these suites report the rows of the children as they are
  have hkept : ∀ (suite : Suite) (rows whole children : List JsonObject),
      finalizeReport suite rows children = .ok ⟨rows, []⟩ → suite ≠ .proxyConnect →
      ((∃ report, finalizeReport suite rows children = .ok report ∧
        report.aggregateRows.Perm whole) ↔ rows.Perm whole) := by
    intro suite rows whole children hkeep hsuite
    constructor
    · rintro ⟨report, hreport, hperm⟩
      rwa [rows_of_finalizeReport hsuite hreport] at hperm
    · intro hperm
      exact ⟨_, hkeep, hperm⟩
  constructor
  · intro results cells children hcells hcover
    exact (hkept .oneUpstream _ _ children rfl (by decide)).trans
      (OneUpstream.baselines_iff hcells hcover)
  · intro results cells children hcells hcover
    exact (hkept .requestBuilder _ _ children rfl (by decide)).trans
      (RequestBuilder.baselines_iff hcells hcover)

/-- One run of the suite. -/
def upstreamRun (case profile : String) (rate : ℚ) : OneUpstream.OneUpstreamResult where
  client := "httpx"
  mode := "sync"
  case := case
  group := "get"
  profile := profile
  concurrency := 1
  requestLimit := 1
  requests := 5
  repeatIndex := 1
  durationS := 1
  requestsPerSecond := rate
  okRequestsPerSecond := rate
  okRequests := 5
  p50Ms := 1
  p95Ms := 1
  p99Ms := 1
  errors := 0
  warmupErrors := 0
  errorTypes := []
  warmupErrorTypes := []
  peakRssMb := none
  peakThreads := none
  peakFds := none
  clientStats := none

/-- One run of a build case. -/
def builderRun (case : String) (rate : ℚ) : RequestBuilder.RequestBuilderResult where
  client := "httpx"
  mode := "sync"
  case := case
  group := "url"
  kind := "build"
  profile := "direct"
  iterations := 5
  repeatIndex := 1
  durationS := 1
  operationsPerSecond := rate
  p50Ms := 1
  p95Ms := 1
  p99Ms := 1
  errors := 0
  errorTypes := []
  peakRssMb := none
  peakThreads := none
  peakFds := none

/-- Two clients that run the direct case, and two that build the absolute URL. -/
def directRuns : List OneUpstream.OneUpstreamResult :=
  [upstreamRun "direct-get" "direct" 100,
    { upstreamRun "direct-get" "direct" 80 with client := "foghttp" }]

def absoluteRuns : List RequestBuilder.RequestBuilderResult :=
  [builderRun "absolute-url" 100, { builderRun "absolute-url" 80 with client := "foghttp" }]

omit [PyRuntime] in
/-- The children of two clients with their own baselines report the rows of one process. -/
theorem isolated_baselines_direct :
    ∃ _ : PyRuntime,
      (∃ report, finalizeReport .oneUpstream (OneUpstream.childRows directRuns
          [("foghttp", "direct-get"), ("httpx", "direct-get")]) [] = .ok report ∧
        report.aggregateRows.Perm ((OneUpstream.aggregateOneUpstreamResults directRuns).map
          OneUpstream.OneUpstreamAggregateRow.row)) ∧
      (∃ report, finalizeReport .requestBuilder (RequestBuilder.childRows absoluteRuns
          [("foghttp", "absolute-url"), ("httpx", "absolute-url")]) [] = .ok report ∧
        report.aggregateRows.Perm ((RequestBuilder.aggregateRequestBuilderResults
          absoluteRuns).map RequestBuilder.RequestBuilderAggregateRow.row)) := by
  let _ := plainRuntime
  refine ⟨plainRuntime, ?_, ?_⟩
  · refine (isolated_baselines_iff.1 _ _ _ (by decide) (by decide)).2 ?_
    rw [OneUpstream.BaselinesAtHome]
    decide
  · refine (isolated_baselines_iff.2 _ _ _ (by decide) (by decide)).2 ?_
    rw [RequestBuilder.BaselinesAtHome]
    decide

omit [PyRuntime] in
/-- The ratio of a case to the direct case is lost when each case has its own child. -/
theorem isolated_baseline_lost :
    ¬ ∀ (_ : PyRuntime) (results : List OneUpstream.OneUpstreamResult)
      (cells : List OneUpstream.Cell) (children : List JsonObject), cells.Nodup →
        (∀ result ∈ results, OneUpstream.resultCell result ∈ cells) →
        ∃ report, finalizeReport .oneUpstream (OneUpstream.childRows results cells) children =
            .ok report ∧ report.aggregateRows.Perm
              ((OneUpstream.aggregateOneUpstreamResults results).map
                OneUpstream.OneUpstreamAggregateRow.row) := by
  intro h
  let _ := plainRuntime
  obtain ⟨report, hreport, hperm⟩ := h plainRuntime
    [upstreamRun "direct-get" "direct" 100, upstreamRun "defaults-get" "defaults" 80]
    [("httpx", "direct-get"), ("httpx", "defaults-get")] [] (by decide) (by decide)
  rw [rows_of_finalizeReport (by decide) hreport, OneUpstream.baselines_iff (by decide)
    (by decide), OneUpstream.BaselinesAtHome] at hperm
  revert hperm
  decide

end Baselines

end FogHttpBenchmark.Isolation
