import FogHttpBenchmark.Isolation.Composition
import FogHttpBenchmark.Isolation.Planning
import FogHttpBenchmark.Library.Groups

/-!
# Mergeable plans

A child measures the client and the scenario that it is started with, and both are parts of the
identity of its rows. So the rows of two children can have one identity only where the plan has
the same client and scenario twice, which it does exactly where a selection repeats a name.
-/

set_option autoImplicit false

namespace FogHttpBenchmark.Isolation

open Library Library.Checked Library.Groups Python ReportSchema

/-! ## Children of a plan -/

section Children

variable [PyRuntime]

/-- What a process that is started with the selections can measure: one of the clients that it
finds available, in one of its scenarios. Client creation has scenarios of its own. -/
def MeasuredBy (suite : Suite) (importError : ImportError) (clients modes scenarios : String)
    (row : JsonObject) : Prop :=
  (∃ spec ∈ (suiteClients suite importError clients modes).clients,
    row.get "client" = .str spec.name) ∧
  (suite ≠ .clientCreation → ∃ scenario ∈ parseCsv scenarios,
    row.get (scenarioField suite) = .str scenario)

/-- The result of a child that has succeeded: the rows of its report are measured by a process
with the selections of the command line of the child. -/
structure ChildOf (files : ReportFiles) (importError : ImportError) (args : LaunchArgs)
    (item : ClientIsolationPlanItem) (result : ChildProcessResult) : Prop where
  succeeded : result.succeeded = true
  measured : ∀ report,
    loadReport files (result.reportPath.getD "") (some args.suite.name) = .ok report →
      ∀ row ∈ report.aggregateRows,
        MeasuredBy args.suite importError item.client args.modes
          (item.scenario.getD args.scenarios) row

omit [PyRuntime] in
theorem name_of_mem_suiteClients {suite : Suite} {importError : ImportError}
    {clients modes : String} {spec : ClientSpec}
    (h : spec ∈ (suiteClients suite importError clients modes).clients) :
    spec.name ∈ parseCsv clients := by
  rw [suiteClients] at h
  split at h
  case isTrue => exact (mem_availableClients.1 (List.mem_filter.1 h).1).2.2.1
  case isFalse => exact (mem_availableClients.1 h).2.2.1

omit [PyRuntime] in
/-- A child that is started with a selected name measures that client alone. -/
theorem client_of_measuredBy {suite : Suite} {importError : ImportError}
    {selection client modes scenarios : String} {row : JsonObject}
    (hclient : client ∈ parseCsv selection)
    (h : MeasuredBy suite importError client modes scenarios row) :
    row.get "client" = .str client := by
  obtain ⟨⟨spec, hspec, hrow⟩, -⟩ := h
  have hname := name_of_mem_suiteClients hspec
  rw [parseCsv_item hclient, List.mem_singleton] at hname
  rw [hrow, hname]

omit [PyRuntime] in
theorem scenario_of_measuredBy {suite : Suite} {importError : ImportError}
    {selection client modes scenario : String} {row : JsonObject}
    (hsuite : suite ≠ .clientCreation) (hscenario : scenario ∈ parseCsv selection)
    (h : MeasuredBy suite importError client modes scenario row) :
    row.get (scenarioField suite) = .str scenario := by
  obtain ⟨name, hname, hrow⟩ := h.2 hsuite
  rw [parseCsv_item hscenario, List.mem_singleton] at hname
  rw [hrow, hname]

/-- The selected clients are requested ones, and the planned scenarios requested scenarios. -/
structure Planned (args : LaunchArgs) (item : ClientIsolationPlanItem) : Prop where
  client : item.client ∈ parseCsv args.clients
  scenario : item.scenario ∈ plannedScenarios (isolationScenarios args.suite args.scenarios)

/-- Rows of children for different pairs have different identities. -/
theorem identity_ne_of_pair_ne {importError : ImportError} {args : LaunchArgs}
    {item other : ClientIsolationPlanItem} (hitem : Planned args item)
    (hother : Planned args other) (hne : item.pair ≠ other.pair) {row row' : JsonObject}
    (hrow : MeasuredBy args.suite importError item.client args.modes
      (item.scenario.getD args.scenarios) row)
    (hrow' : MeasuredBy args.suite importError other.client args.modes
      (other.scenario.getD args.scenarios) row')
    {identity : List String} (hidentity : aggregateIdentity args.suite row = .ok identity)
    (hidentity' : aggregateIdentity args.suite row' = .ok identity) : False := by
  obtain ⟨hclients, hfields⟩ := fields_of_aggregateIdentity_eq hidentity hidentity'
  rw [client_of_measuredBy hitem.client hrow, client_of_measuredBy hother.client hrow',
    Json.str.injEq] at hclients
  refine hne (Prod.ext hclients ?_)
  show item.scenario = other.scenario
  have hscenario := hitem.scenario
  have hscenario' := hother.scenario
  rw [plannedScenarios] at hscenario hscenario'
  split at hscenario
  case isTrue hnone =>
    rw [if_pos hnone] at hscenario'
    rw [List.mem_singleton.1 hscenario, List.mem_singleton.1 hscenario']
  case isFalse hsome =>
    rw [if_neg hsome] at hscenario'
    obtain ⟨name, hname, hitemName⟩ := List.mem_map.1 hscenario
    obtain ⟨name', hname', hotherName⟩ := List.mem_map.1 hscenario'
    have hsuite : args.suite ≠ .clientCreation := by
      intro hsuite
      rw [isolationScenarios, if_pos hsuite] at hsome
      exact hsome rfl
    rw [isolationScenarios, if_neg hsuite] at hname hname'
    rw [← hitemName] at hrow
    rw [← hotherName] at hrow'
    have htext := hfields (scenarioField args.suite) (scenarioField_mem _)
    have hstr : ∀ text : String, identityText (.str text) = text := strJson_str
    rw [scenario_of_measuredBy hsuite hname hrow, scenario_of_measuredBy hsuite hname' hrow',
      hstr, hstr] at htext
    rw [← hitemName, ← hotherName, htext]

omit [PyRuntime] in
theorem planned_of_mem {args : LaunchArgs} {clients scenarios : List String}
    {item : ClientIsolationPlanItem} (h : item ∈ buildIsolationPlan args clients scenarios) :
    item.client ∈ clients ∧ item.scenario ∈ plannedScenarios scenarios := by
  have hpair := List.mem_map_of_mem (f := ClientIsolationPlanItem.pair) h
  rw [pairs_buildIsolationPlan, List.mem_flatMap] at hpair
  obtain ⟨client, hclient, hpair⟩ := hpair
  obtain ⟨scenario, hscenario, hpair⟩ := List.mem_map.1 hpair
  obtain ⟨rfl, rfl⟩ := Prod.mk.inj hpair
  exact ⟨hclient, hscenario⟩

/-- What a child adds to the merge: admitted rows that it has measured. -/
structure Merged (importError : ImportError) (args : LaunchArgs) (item : ClientIsolationPlanItem)
    (payload : DecodedReport) : Prop where
  unique : validateUniqueAggregateRows args.suite payload.aggregateRows = .ok ()
  migrated : ∀ row ∈ payload.aggregateRows, HasMigratedFields args.suite row
  measured : ∀ row ∈ payload.aggregateRows,
    MeasuredBy args.suite importError item.client args.modes
      (item.scenario.getD args.scenarios) row

theorem merged_of_childOf {files : ReportFiles} {importError : ImportError} {args : LaunchArgs}
    {item : ClientIsolationPlanItem} {result : ChildProcessResult} {payload : DecodedReport}
    (hchild : ChildOf files importError args item result)
    (hload : loadReport files (result.reportPath.getD "") (some args.suite.name) = .ok payload) :
    Merged importError args item payload := by
  obtain ⟨value, admitted, -, hdecode, hrows, -, -⟩ := admitted_of_loadReport hload
  obtain ⟨hsuite, hunique⟩ := unique_of_decode hdecode
  refine ⟨hrows ▸ hunique, ?_, hchild.measured payload hload⟩
  intro row hrow
  rw [hrows] at hrow
  exact hsuite ▸ hasMigratedFields_of_decode hdecode hrow

/-- The rows of children for different pairs have different identities. -/
theorem unique_of_merged {importError : ImportError} {args : LaunchArgs}
    {plan : List ClientIsolationPlanItem} {payloads : List DecodedReport}
    (hplanned : ∀ item ∈ plan, Planned args item)
    (hpairs : (plan.map ClientIsolationPlanItem.pair).Nodup)
    (hmerged : List.Forall₂ (Merged importError args) plan payloads) :
    validateUniqueAggregateRows args.suite (payloads.flatMap DecodedReport.aggregateRows) =
      .ok () := by
  have hof : ∀ payload ∈ payloads, ∃ item ∈ plan, Merged importError args item payload :=
    fun payload hpayload => exists_left_of_forall₂ hmerged hpayload
  have hdefined : ∀ payload ∈ payloads, ∀ row ∈ payload.aggregateRows,
      ∃ identity, aggregateIdentity args.suite row = .ok identity := by
    intro payload hpayload row hrow
    obtain ⟨item, -, hitem⟩ := hof payload hpayload
    exact (validateUniqueAggregateRows_iff_pairwise.1 hitem.unique).1 row hrow
  rw [validateUniqueAggregateRows_iff_pairwise, List.pairwise_flatMap]
  refine ⟨?_, ?_, ?_⟩
  · intro row hrow
    obtain ⟨payload, hpayload, hrow⟩ := List.mem_flatMap.1 hrow
    exact hdefined payload hpayload row hrow
  · intro payload hpayload
    obtain ⟨item, -, hitem⟩ := hof payload hpayload
    exact (validateUniqueAggregateRows_iff_pairwise.1 hitem.unique).2
  · rw [List.Nodup, List.pairwise_map] at hpairs
    refine pairwise_of_forall₂ hmerged hpairs ?_
    intro item hitem other hother payload payload' hpayload hpayload' hne row hrow row' hrow' heq
    obtain ⟨identity, hidentity⟩ :=
      (validateUniqueAggregateRows_iff_pairwise.1 hpayload.unique).1 row hrow
    exact identity_ne_of_pair_ne (hplanned item hitem) (hplanned other hother) hne
      (hpayload.measured row hrow) (hpayload'.measured row' hrow') hidentity (heq ▸ hidentity)

end Children

/-! ## The merge of a plan -/

section Merging

variable [PyRuntime]

/-- The rows that the merged report is decoded with have the identities of the children's rows,
so the check of the merged report passes where that of the children's rows does. -/
theorem unique_of_finalized {suite : Suite} {rows children migrated : List JsonObject}
    {metadata : JsonObject} {path : ℕ → String} {report : MergedSuiteReport}
    (hfields : ∀ row ∈ rows, HasMigratedFields suite row)
    (hunique : validateUniqueAggregateRows suite rows = .ok ())
    (hreport : finalizeReport suite rows children = .ok report)
    (hmigrated : currentRows suite metadata path report.aggregateRows = .ok migrated) :
    validateUniqueAggregateRows suite migrated = .ok () := by
  have hfinal : ∀ final ∈ report.aggregateRows, HasMigratedFields suite final := by
    intro final hfinal key hkey hmem
    obtain ⟨row, hrow, hsame⟩ :=
      exists_left_of_forall₂ (lookup_finalizeReport hreport).flip hfinal
    have hne : key ≠ "direct_ratio" := by
      rintro rfl
      simp at hkey
    have hhas := hfields row hrow key hkey hmem
    rwa [JsonObject.has, Dict.contains, ← hsame key hne] at hhas
  have hidentities : List.Forall₂ (fun row other =>
      aggregateIdentity suite row = aggregateIdentity suite other) migrated
        report.aggregateRows := by
    rw [currentRows] at hmigrated
    split at hmigrated
    case isTrue =>
      rw [← pure_eq_ok.1 hmigrated]
      exact List.forall₂_same.2 fun _ _ => rfl
    case isFalse =>
      rw [migrateLegacyRows, mapM_eq_ok] at hmigrated
      have hindexed : ∀ row ∈ report.aggregateRows.zipIdx, HasMigratedFields suite row.1 :=
        fun row hrow => hfinal row.1 (List.fst_mem_of_mem_zipIdx hrow)
      have hkept := (List.forall₂_and_left _ _).2 ⟨hindexed, hmigrated⟩
      rw [← List.zipIdx_map_fst 0 report.aggregateRows, List.forall₂_map_right_iff]
      refine List.Forall₂.flip (hkept.imp ?_)
      intro row final hrow
      exact identity_migrateLegacyRow hrow.1 hrow.2
  rw [validateUniqueAggregateRows, ProxyConnect.uniqueFrom_congr hidentities,
    ProxyConnect.uniqueFrom_congr (identities_finalizeReport hreport)]
  exact hunique

/-- The reports of the children of a plan. -/
def loadReports (files : ReportFiles) (suite : Suite) (results : List ChildProcessResult) :
    Py (List DecodedReport) :=
  results.mapM fun result => loadReport files (result.reportPath.getD "") (some suite.name)

/-- Where the rows of the reports are unique, the merge loads them as they are. -/
theorem loadSuccessfulChildPayloads_eq {files : ReportFiles} {suite : Suite}
    {results : List ChildProcessResult} (hsucceeded : ∀ result ∈ results, result.succeeded = true)
    (hunique : ∀ payloads, loadReports files suite results = .ok payloads →
      validateUniqueAggregateRows suite (payloads.flatMap DecodedReport.aggregateRows) = .ok ()) :
    loadSuccessfulChildPayloads files results suite = loadReports files suite results := by
  rw [loadSuccessfulChildPayloads, List.filter_eq_self.2 hsucceeded]
  cases hload : loadReports files suite results with
  | error e =>
      rw [loadReports] at hload
      rw [hload, error_bind]
  | ok payloads =>
      obtain ⟨identities, hidentities, hnodup⟩ :=
        validateUniqueAggregateRows_eq_ok.1 (hunique payloads hload)
      rw [loadReports] at hload
      rw [hload, ok_bind]
      refine seq_eq_ok.2 ⟨uniqueFrom_eq_ok.2 ⟨identities, hidentities, hnodup, ?_⟩, rfl⟩
      intro identity _
      exact List.not_mem_nil

/-- A plan has a child for every available client and planned scenario, each in a directory of
its own. It measures no pair twice exactly where no name is selected twice; the merge then loads
the reports of its children as they are, and no check of the merge finds a duplicate. -/
theorem isolation_plan_mergeable {importError : ImportError} {args : LaunchArgs}
    {plan : List ClientIsolationPlanItem} (h : isolationPlan importError args = .ok plan) :
    (∀ spec ∈ (suiteClients args.suite importError args.clients args.modes).clients,
      ∀ scenario ∈ plannedScenarios (isolationScenarios args.suite args.scenarios),
        ∃ item ∈ plan, item.pair = (spec.name, scenario)) ∧
    (plan.map ClientIsolationPlanItem.outputDir).Nodup ∧
    ((plan.map ClientIsolationPlanItem.pair).Nodup ↔
      (selectClients args.suite importError args.clients args.modes).clients.Nodup ∧
        (isolationScenarios args.suite args.scenarios).Nodup) ∧
    ((plan.map ClientIsolationPlanItem.pair).Nodup →
      ∀ (files : ReportFiles) (results : List ChildProcessResult),
        List.Forall₂ (ChildOf files importError args) plan results →
          loadSuccessfulChildPayloads files results args.suite =
              loadReports files args.suite results ∧
            ∀ payloads, loadReports files args.suite results = .ok payloads →
              validateUniqueAggregateRows args.suite
                  (payloads.flatMap DecodedReport.aggregateRows) = .ok () ∧
                ∀ children report metadata path migrated,
                  finalizeReport args.suite (payloads.flatMap DecodedReport.aggregateRows)
                    children = .ok report →
                  currentRows args.suite metadata path report.aggregateRows = .ok migrated →
                    validateUniqueAggregateRows args.suite migrated = .ok ()) := by
  rw [isolationPlan] at h
  obtain ⟨hclients, h⟩ := seq_eq_ok.1 h
  rw [pure_eq_ok] at h
  have hsome : (selectClients args.suite importError args.clients args.modes).clients ≠ [] := by
    rw [raiseIf_eq_ok, Bool.eq_false_iff, ne_eq, List.isEmpty_iff] at hclients
    exact hclients
  refine ⟨?_, ?_, ?_, ?_⟩
  -- a client of the suite that is selected and a scenario that is planned make an item
  · intro spec hspec scenario hscenario
    have hselected : spec.name ∈
        (selectClients args.suite importError args.clients args.modes).clients := by
      rw [selectClients, isolationSelection, List.mem_filter]
      exact ⟨name_of_mem_suiteClients hspec, decide_eq_true (List.mem_map_of_mem hspec)⟩
    refine List.mem_map.1 ?_
    rw [← h, pairs_buildIsolationPlan, List.mem_flatMap]
    exact ⟨_, hselected, List.mem_map_of_mem hscenario⟩
  · rw [← h]
    exact nodup_outputDirs_buildIsolationPlan _ _ _
  · rw [← h]
    exact nodup_pairs_iff hsome
  -- no pair is measured twice: each row of a child carries the pair of its item
  · intro hpairs files results hchildren
    have hplanned : ∀ item ∈ plan, Planned args item := by
      intro item hitem
      rw [← h] at hitem
      obtain ⟨hclient, hscenario⟩ := planned_of_mem hitem
      rw [selectClients, isolationSelection] at hclient
      exact ⟨(List.mem_filter.1 hclient).1, hscenario⟩
    -- what is loaded is the list of the reports of the children, one for one
    have hmerged : ∀ payloads, loadReports files args.suite results = .ok payloads →
        List.Forall₂ (Merged importError args) plan payloads := by
      intro payloads hload
      rw [loadReports, mapM_eq_ok] at hload
      refine forall₂_comp ?_ hchildren hload
      intro item result payload hchild hpayload
      exact merged_of_childOf hchild hpayload
    -- rows of different items differ in their client or scenario
    have hunique : ∀ payloads, loadReports files args.suite results = .ok payloads →
        validateUniqueAggregateRows args.suite
          (payloads.flatMap DecodedReport.aggregateRows) = .ok () :=
      fun payloads hload => unique_of_merged hplanned hpairs (hmerged payloads hload)
    have hsucceeded : ∀ result ∈ results, result.succeeded = true := by
      intro result hresult
      obtain ⟨item, -, hchild⟩ := exists_left_of_forall₂ hchildren hresult
      exact hchild.succeeded
    refine ⟨loadSuccessfulChildPayloads_eq hsucceeded hunique, ?_⟩
    intro payloads hload
    refine ⟨hunique payloads hload, ?_⟩
    intro children report metadata path migrated hreport hmigrated
    refine unique_of_finalized ?_ (hunique payloads hload) hreport hmigrated
    intro row hrow
    obtain ⟨payload, hpayload, hrow⟩ := List.mem_flatMap.1 hrow
    obtain ⟨item, -, hitem⟩ := exists_left_of_forall₂ (hmerged payloads hload) hpayload
    exact hitem.migrated row hrow

/-- Two clients and one scenario. -/
def launchArgs (clients : String) : LaunchArgs where
  suite := .requests
  isolation := perClientScenarioIsolation
  vars := []
  executable := "python"
  clients := clients
  modes := "sync"
  concurrency := "1"
  requests := 10
  warmup := 1
  repeats := 1
  maxRedirects := 5
  seed := 1
  noShuffle := false
  outputDir := ["results"]
  scenarios := "json-small"
  iterations := 1
  clientCounts := "1"

/-- An aggregate row of a client in the scenario. -/
def measuredRow (client : String) : JsonObject :=
  [("mode", .str "sync"), ("client", .str client), ("scenario", .str "json-small"),
    ("concurrency", .int 1), ("request_limit", .int 1), ("requests", .int 10),
    ("repeats", .int 1), ("ok_req_s_median", .int 100), ("ok_requests_total", .int 10),
    ("errors_total", .int 0), ("warmup_errors_total", .int 0), ("error_types", .obj [])]

/-- Each client has a report file with one row. -/
def clientReports : ReportFiles where
  readJson client := pure (reportPayload
    [("suite", .str "requests"), ("timing_scope", .str "requests-load-only-v2")]
    [measuredRow client] [])
  revalidateAttributionRows _ _ _ := pure []

omit [PyRuntime] in
/-- The report of a client has one row, which is of the client and of the scenario. -/
theorem exists_clientReport {client : String} (hclient : client = "foghttp" ∨ client = "httpx") :
    ∃ report row, @loadReport plainRuntime clientReports client (some "requests") = .ok report ∧
      report.aggregateRows = [row] ∧ row.get "client" = .str client ∧
        row.get "scenario" = .str "json-small" := by
  have hloaded : (@loadReport plainRuntime clientReports client (some "requests")).map
      (fun report => report.aggregateRows.map fun row =>
        (row.get "client").pyEq (.str client) && (row.get "scenario").pyEq (.str "json-small")) =
        .ok [true] := by
    rcases hclient with rfl | rfl
    · decide +kernel
    · decide +kernel
  obtain ⟨report, hreport, hrows⟩ := map_eq_ok.1 hloaded
  obtain ⟨row, hrow, hnames⟩ := List.map_eq_singleton_iff.1 hrows
  rw [Bool.and_eq_true, Json.pyEq_str, Json.pyEq_str] at hnames
  exact ⟨report, row, hreport, hrow, hnames.1, hnames.2⟩

omit [PyRuntime] in
/-- Two clients have two children, and the merge loads their two rows, which are unique. -/
theorem isolation_plan_mergeable_two_clients :
    ∃ (_ : PyRuntime) (plan : List ClientIsolationPlanItem) (payloads : List DecodedReport),
      isolationPlan (fun _ _ => none) (launchArgs "foghttp, httpx") = .ok plan ∧
        plan.length = 2 ∧ (plan.map ClientIsolationPlanItem.outputDir).Nodup ∧
        loadSuccessfulChildPayloads clientReports
          [childOutcome 1 (some "foghttp") 0, childOutcome 2 (some "httpx") 0]
          .requests = .ok payloads ∧
        (payloads.flatMap DecodedReport.aggregateRows).length = 2 ∧
        validateUniqueAggregateRows .requests (payloads.flatMap DecodedReport.aggregateRows) =
          .ok () := by
  let _ : PyRuntime := plainRuntime
  let results := [childOutcome 1 (some "foghttp") 0, childOutcome 2 (some "httpx") 0]
  have hplan : isolationPlan (fun _ _ => none) (launchArgs "foghttp, httpx") = .ok
      (buildIsolationPlan (launchArgs "foghttp, httpx") ["foghttp", "httpx"] ["json-small"]) := by
    decide
  obtain ⟨-, hdirs, hpairs, hmerge⟩ := isolation_plan_mergeable hplan
  obtain ⟨first, firstRow, hfirst, hfirstRows, hfirstClient, hfirstScenario⟩ :=
    exists_clientReport (.inl rfl)
  obtain ⟨second, secondRow, hsecond, hsecondRows, hsecondClient, hsecondScenario⟩ :=
    exists_clientReport (.inr rfl)
  -- each child has measured its own client, in the scenario that it was started with
  have hfirstChild : ChildOf clientReports (fun _ _ => none) (launchArgs "foghttp, httpx")
      (planItem (launchArgs "foghttp, httpx") 1 "foghttp" (some "json-small"))
      (childOutcome 1 (some "foghttp") 0) := by
    refine ⟨rfl, ?_⟩
    intro loaded hloaded row hrow
    obtain rfl := Except.ok.inj (hfirst.symm.trans hloaded)
    rw [hfirstRows] at hrow
    rw [List.mem_singleton.1 hrow]
    exact ⟨⟨⟨syncMode, "foghttp"⟩, by decide, hfirstClient⟩,
      fun _ => ⟨"json-small", by decide, hfirstScenario⟩⟩
  have hsecondChild : ChildOf clientReports (fun _ _ => none) (launchArgs "foghttp, httpx")
      (planItem (launchArgs "foghttp, httpx") 2 "httpx" (some "json-small"))
      (childOutcome 2 (some "httpx") 0) := by
    refine ⟨rfl, ?_⟩
    intro loaded hloaded row hrow
    obtain rfl := Except.ok.inj (hsecond.symm.trans hloaded)
    rw [hsecondRows] at hrow
    rw [List.mem_singleton.1 hrow]
    exact ⟨⟨⟨syncMode, "httpx"⟩, by decide, hsecondClient⟩,
      fun _ => ⟨"json-small", by decide, hsecondScenario⟩⟩
  have hload : loadReports clientReports .requests results = .ok [first, second] :=
    mapM_eq_ok.2 (.cons hfirst (.cons hsecond .nil))
  obtain ⟨hmerged, hunique⟩ := hmerge (hpairs.2 (by decide)) clientReports results
    (.cons hfirstChild (.cons hsecondChild .nil))
  refine ⟨plainRuntime, _, [first, second], hplan, rfl, hdirs, hmerged.trans hload, ?_,
    (hunique _ hload).1⟩
  rw [List.flatMap_cons, List.flatMap_singleton, hfirstRows, hsecondRows]
  rfl

omit [PyRuntime] in
/-- A client that is selected twice has two children that measure one pair. -/
theorem isolation_plan_repeats_pair :
    ¬ ∀ (_ : PyRuntime) (importError : ImportError) (args : LaunchArgs)
      (plan : List ClientIsolationPlanItem), isolationPlan importError args = .ok plan →
        (plan.map ClientIsolationPlanItem.pair).Nodup := by
  intro h
  let _ : PyRuntime := plainRuntime
  have hplan : isolationPlan (fun _ _ => none) (launchArgs "httpx,httpx") = .ok
      (buildIsolationPlan (launchArgs "httpx,httpx") ["httpx", "httpx"] ["json-small"]) := by
    decide
  have hpairs := h plainRuntime _ _ _ hplan
  revert hpairs
  decide

end Merging

end FogHttpBenchmark.Isolation
