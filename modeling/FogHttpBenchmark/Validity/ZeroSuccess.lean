import FogHttpBenchmark.Validity.Errors
import FogHttpBenchmark.Validity.Gate

/-!
# Zero success

A row whose primary measurement is zero keeps its report from comparison where it records what
became of its requests: an error, or a count of successes. The suites that require a count of
successes always do. A row of the other suites that records neither passes.
-/

set_option autoImplicit false

namespace FogHttpBenchmark.Validity

open Library Library.Checked Python ReportSchema

variable [PyRuntime]

/-! ## Rows without success -/

section ZeroSuccess

/-- The first of the primary metrics that has a number has the number zero. -/
def ZeroPrimary (row : JsonObject) : Prop :=
  firstPrimaryValue row primaryMetricFields = .ok (some (.finite 0))

/-- The row records errors or a count of successes. -/
def RecordsOutcome (row : JsonObject) : Prop :=
  (∃ n, row.get "errors_total" = .int n ∧ 0 < n) ∨ row.get "ok_requests_total" ≠ .null ∨
    row.get "ok_streams_total" ≠ .null

theorem okTotalValue_ne_none {row : JsonObject} {okTotal : Option ℤ}
    (hcounted : row.get "ok_requests_total" ≠ .null ∨ row.get "ok_streams_total" ≠ .null)
    (h : okTotalValue row = .ok okTotal) : okTotal ≠ none := by
  rw [okTotalValue] at h
  rintro rfl
  split at h
  case isTrue hrequests =>
    split at h
    case isTrue hstreams =>
      rw [Json.isNone_iff] at hrequests hstreams
      rcases hcounted with hcounted | hcounted
      · exact hcounted hrequests
      · exact hcounted hstreams
    case isFalse =>
      obtain ⟨n, -, hn⟩ := map_eq_ok.1 h
      cases hn
  case isFalse =>
    obtain ⟨n, -, hn⟩ := map_eq_ok.1 h
    cases hn

/-- The zero gives a reason that stands in the way of a comparison. -/
theorem blocks_of_zeroPrimary {suite : Suite} {row : JsonObject} {reasons : List ValidityReason}
    (hpressure : resourceExpectedPressureRow (some suite) row = false) (hzero : ZeroPrimary row)
    (hrecords : RecordsOutcome row) (h : rowReasons (some suite) row = .ok reasons) :
    Blocks reasons := by
  rw [rowReasons] at h
  obtain ⟨proxy, -, h⟩ := bind_eq_ok.1 h
  obtain ⟨errors, -, h⟩ := bind_eq_ok.1 h
  obtain ⟨zero, hreasons, h⟩ := bind_eq_ok.1 h
  obtain ⟨variation, -, h⟩ := bind_eq_ok.1 h
  obtain ⟨recovery, -, h⟩ := bind_eq_ok.1 h
  rw [pure_eq_ok] at h
  have hblocks : Blocks zero := by
    rw [zeroPrimaryMetricReasons, hpressure, if_neg Bool.false_ne_true, hzero, ok_bind,
      if_neg (by simp [PyFloat.lt])] at hreasons
    obtain ⟨errorsTotal, herrors, hreasons⟩ := bind_eq_ok.1 hreasons
    obtain ⟨okTotal, hok, hreasons⟩ := bind_eq_ok.1 hreasons
    rw [if_neg] at hreasons
    · rw [pure_eq_ok] at hreasons
      rw [← hreasons]
      exact ⟨_, List.mem_singleton_self _, rfl⟩
    -- the source gives no reason where neither an error nor a success count is recorded
    · rintro ⟨hnone, htotal⟩
      rcases hrecords with ⟨n, hn, hpos⟩ | hcounted
      · rw [intField_of_int hn, Except.ok.injEq] at herrors
        omega
      · exact okTotalValue_ne_none hcounted hok htotal
  rw [← h]
  simp only [blocks_append, hblocks, or_true, true_or]

/-- The suites whose rows require a count of successes record the outcome of every ordinary
row. -/
theorem recordsOutcome_of_successCount {value : Json} {expectedSuite : Option String}
    {report : DecodedReport} (h : decodeReportPayload value expectedSuite = .ok report)
    (hlayout : isResearch report.suite report.metadata report.aggregateRows = false)
    (hcount : (successCount report.suite).isSome = true) {row : JsonObject}
    (hrow : row ∈ report.aggregateRows) : RecordsOutcome row := by
  obtain ⟨index, hindex⟩ := List.mem_iff_getElem?.1 hrow
  have hchecked := (ordinaryChecked_of_decode h hlayout).aggregates index row hindex
  rw [validateAggregateRow] at hchecked
  obtain ⟨-, hchecked⟩ := seq_eq_ok.1 hchecked
  obtain ⟨haggregate, -⟩ := seq_eq_ok.1 hchecked
  obtain ⟨repeats, errors, -, -, -, herrors, -⟩ := validateAggregate_eq_ok.1 haggregate
  have hoperation : report.suite.isOperation = false := by
    cases hsuite : report.suite <;> first | rfl | exact absurd hcount (by rw [hsuite]; decide)
  rw [AggregateErrorsOk, hoperation, if_neg Bool.false_ne_true] at herrors
  obtain ⟨requests, -, -, -, -, hsuccesses⟩ := herrors
  obtain ⟨field, hfield⟩ := Option.isSome_iff_exists.1 hcount
  obtain ⟨successes, hvalue, -⟩ := hsuccesses field hfield
  have hname : field = "ok_requests_total" ∨ field = "ok_streams_total" := by
    cases hsuite : report.suite <;> rw [hsuite, successCount] at hfield <;> simp_all
  rcases hname with rfl | rfl
  · exact Or.inr (Or.inl (by rw [hvalue]; exact Json.noConfusion))
  · exact Or.inr (Or.inr (by rw [hvalue]; exact Json.noConfusion))

/-- A row without success whose outcome is recorded keeps an admitted report from comparison; the
classification returns unless an integer that it converts is beyond the range of the floats. -/
theorem zero_success_blocks {value : Json} {expectedSuite : Option String} {report : DecodedReport}
    (hadmitted : decodeReportPayload value expectedSuite = .ok report) {row : JsonObject}
    (hrow : row ∈ report.aggregateRows)
    (hpressure : resourceExpectedPressureRow (some report.suite) row = false)
    (hzero : ZeroPrimary row)
    (hrecords : RecordsOutcome row ∨
      ((successCount report.suite).isSome = true ∧
        isResearch report.suite report.metadata report.aggregateRows = false)) :
    (∀ summary, classifyReportValidity (some report.suite) report.aggregateRows report.metadata =
        .ok summary → summary.canCompare = false) ∧
      (reportConvertible (some report.suite) report.metadata report.aggregateRows = true →
        ∃ summary, classifyReportValidity (some report.suite) report.aggregateRows
          report.metadata = .ok summary) := by
  -- an ordinary row of a suite with a success count has that count
  have houtcome : RecordsOutcome row := by
    rcases hrecords with houtcome | ⟨hcount, hlayout⟩
    · exact houtcome
    · exact recordsOutcome_of_successCount hadmitted hlayout hcount hrow
  obtain ⟨hmetadata, hrows⟩ := isFinite_of_decode hadmitted
  refine ⟨?_, (classifyReportValidity_returns_iff hmetadata hrows).2⟩
  intro summary hsummary
  obtain ⟨ofMetadata, ofRows, -, hofRows, rfl⟩ := classifyReportValidity_eq_ok.1 hsummary
  obtain ⟨reasons, hreasons, hread⟩ := exists_of_mapM_eq_ok hofRows hrow
  rw [canCompare_summaryOf, blocks_append]
  obtain ⟨reason, hreason, hstops⟩ := blocks_of_zeroPrimary hpressure hzero houtcome hread
  exact Or.inr ⟨reason, List.mem_flatten.2 ⟨reasons, hreasons, hreason⟩, hstops⟩

/-- A report of the request suite with one row of rate zero. -/
def idleReport (counts : JsonObject) : Json :=
  .obj [("metadata", .obj [("suite", .str "requests"), ("report_schema_version", .int 1)]),
    ("aggregate", .arr [.obj ([("mode", .str "sync"), ("client", .str "httpx"),
      ("scenario", .str "json-small"), ("concurrency", .int 1), ("request_limit", .int 1),
      ("requests", .int 5), ("repeats", .int 1), ("ok_req_s_median", .int 0),
      ("errors_total", .int 0), ("warmup_errors_total", .int 0)] ++ counts)]),
    ("runs", .arr [])]

/-- The rate of the row is zero. -/
def readsZero (row : JsonObject) : Bool :=
  match firstPrimaryValue row primaryMetricFields with
  | .ok (some (.finite q)) => q = 0
  | _ => false

/-- The report is admitted with one row, whose rate is zero, and a comparison is permitted or not
as given. -/
def idleVerdict (counts : JsonObject) (canCompare : Bool) : Bool :=
  match decodeReportPayload (idleReport counts) none with
  | .error _ => false
  | .ok report =>
      match report.aggregateRows,
          classifyReportValidity (some report.suite) report.aggregateRows report.metadata with
      | [row], .ok summary =>
          !resourceExpectedPressureRow (some report.suite) row && readsZero row &&
            (!(row.get "ok_requests_total").isNone == !canCompare) &&
            (summary.canCompare == canCompare)
      | _, _ => false

theorem idleVerdict_eq_true {counts : JsonObject} {canCompare : Bool}
    (h : idleVerdict counts canCompare = true) :
    ∃ report row summary, decodeReportPayload (idleReport counts) none = .ok report ∧
      row ∈ report.aggregateRows ∧
      resourceExpectedPressureRow (some report.suite) row = false ∧ ZeroPrimary row ∧
      (canCompare = false → row.get "ok_requests_total" ≠ .null) ∧
      classifyReportValidity (some report.suite) report.aggregateRows report.metadata =
        .ok summary ∧ summary.canCompare = canCompare := by
  rw [idleVerdict] at h
  split at h
  case h_1 => exact nomatch h
  case h_2 report hreport =>
    split at h
    case h_2 => exact nomatch h
    case h_1 row summary hrows hsummary =>
      simp only [Bool.and_eq_true, Bool.not_eq_true', beq_iff_eq] at h
      obtain ⟨⟨⟨hpressure, hzero⟩, hcounted⟩, hcompare⟩ := h
      refine ⟨report, row, summary, hreport, by rw [hrows]; exact List.mem_singleton_self _,
        hpressure, ?_, ?_, hsummary, hcompare⟩
      · rw [readsZero] at hzero
        split at hzero
        case h_1 q hq =>
          rw [ZeroPrimary, hq, of_decide_eq_true hzero]
        case h_2 => exact nomatch hzero
      · rintro rfl hnull
        rw [hnull] at hcounted
        exact nomatch hcounted

omit [PyRuntime] in
/-- A row of rate zero without errors and without a count of successes permits the comparison. -/
theorem zero_success_passes :
    ¬ ∀ (_ : PyRuntime) (value : Json) (report : DecodedReport) (summary : ValiditySummary)
      (row : JsonObject), decodeReportPayload value none = .ok report →
        row ∈ report.aggregateRows →
        resourceExpectedPressureRow (some report.suite) row = false → ZeroPrimary row →
        classifyReportValidity (some report.suite) report.aggregateRows report.metadata =
          .ok summary → summary.canCompare = false := by
  intro h
  have hverdict : @idleVerdict plainRuntime [] true = true := by decide +kernel
  obtain ⟨report, row, summary, hreport, hrow, hpressure, hzero, -, hsummary, hcompare⟩ :=
    @idleVerdict_eq_true plainRuntime _ _ hverdict
  have hblocked := h plainRuntime _ report summary row hreport hrow hpressure hzero hsummary
  rw [hcompare] at hblocked
  exact Bool.false_ne_true hblocked.symm

omit [PyRuntime] in
/-- With a count of successes the row keeps the report from comparison. -/
theorem zero_success_blocks_counted :
    ∃ (_ : PyRuntime) (report : DecodedReport) (summary : ValiditySummary),
      decodeReportPayload (idleReport [("ok_requests_total", .int 5)]) none = .ok report ∧
      classifyReportValidity (some report.suite) report.aggregateRows report.metadata =
        .ok summary ∧ summary.canCompare = false := by
  have hverdict : @idleVerdict plainRuntime [("ok_requests_total", .int 5)] false = true := by
    decide +kernel
  obtain ⟨report, row, summary, hreport, hrow, hpressure, hzero, hcounted, hsummary, -⟩ :=
    @idleVerdict_eq_true plainRuntime _ _ hverdict
  have hblocks := (@zero_success_blocks plainRuntime _ _ _ hreport _ hrow hpressure hzero
    (Or.inl (Or.inr (Or.inl (hcounted rfl))))).1 summary hsummary
  exact ⟨plainRuntime, report, summary, hreport, hsummary, hblocks⟩

end ZeroSuccess

end FogHttpBenchmark.Validity
