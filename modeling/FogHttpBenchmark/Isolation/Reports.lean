import FogHttpBenchmark.Isolation.Models
import FogHttpBenchmark.Validity.Classification
import FogHttpBenchmark.Validity.Children

/-!
# Merged reports

`write_isolation_report`: the parent loads the reports of its successful children, merges their
rows and metadata, lets the finalizer of the suite rework copies of the rows, and saves the
result with a validity that combines the validity recomputed from the merged report with the
validity of every child. `merge_never_launders` states what no finalizer can undo.
-/

set_option autoImplicit false

namespace FogHttpBenchmark.Isolation

open Library Library.Checked Python ReportSchema Validity MeasurementTiming

variable [PyRuntime]

/-! ## Child reports -/

section Payloads

/-- The place of each row, for the message about a duplicate. -/
def aggregateSources (results : List ChildProcessResult) (payloads : List DecodedReport) :
    List String :=
  (results.zip payloads).flatMap fun child =>
    (List.range child.2.aggregateRows.length).map fun index =>
      child.1.reportPath.getD "" ++ ":" ++ aggregatePath index

/-- The reports of the children that have ended well, whose rows must differ. -/
def loadSuccessfulChildPayloads (files : ReportFiles) (results : List ChildProcessResult)
    (expectedSuite : Suite) : Py (List DecodedReport) := do
  let successful := results.filter ChildProcessResult.succeeded
  let payloads ← successful.mapM fun result =>
    loadReport files (result.reportPath.getD "") (some expectedSuite.name)
  let sources := aggregateSources successful payloads
  uniqueFrom (aggregateIdentity expectedSuite) (fun index => sources.getD index "") 0 []
    (payloads.flatMap DecodedReport.aggregateRows)
  pure payloads

/-- The timing scope that all children have resolved. -/
def mergedTimingScope (suite : Suite) (first : DecodedReport) (rest : List DecodedReport) :
    Py String := do
  let scope ← reportTimingScope suite first.metadata first.aggregateRows first.runRows
  let scopes ← rest.mapM fun payload =>
    reportTimingScope suite payload.metadata payload.aggregateRows payload.runRows
  raiseIf (scopes.any fun other => other ≠ scope)
    (valueError "Isolated children disagree on timing scope")
  pure scope.value

/-- The text of each skipped client; the first one to give a reason wins. -/
def addSkipped (merged : List (String × String)) (skipped : JsonObject) :
    List (String × String) :=
  skipped.foldl (fun merged entry =>
    if Dict.contains merged entry.1 then merged
    else Dict.set entry.1 (strJson entry.2) merged) merged

/-- The clients that the parent or a child has skipped, each with the first reason. -/
def mergeSkipped (parentSkipped : List (String × String)) (payloads : List DecodedReport) :
    List (String × String) :=
  payloads.foldl (fun merged payload =>
    match payload.metadata.get "skipped" with
    | .obj skipped => addSkipped merged skipped
    | _ => merged) parentSkipped

end Payloads

/-! ## Diagnostics -/

section Diagnostics

/-- The metadata of a successful child that its diagnostic repeats. -/
def diagnosticKeys : List String :=
  ["package_sources", "research_provenance", "resource_metric_schema_version", "validity"]

/-- Copy the keys that the source has. -/
def copyKeys (keys : List String) (source target : JsonObject) : JsonObject :=
  keys.foldl (fun target key =>
    if source.has key then Dict.set key (source.get key) target else target) target

/-- The diagnostics in the order of the results; the payloads are those of the successful
results, in the same order. -/
def childDiagnostics : List ChildProcessResult → List DecodedReport → Py (List JsonObject)
  | [], _ => pure []
  | result :: results, payloads =>
      if result.succeeded then
        match payloads with
        | payload :: payloads => do
            let diagnostics ← childDiagnostics results payloads
            pure (copyKeys diagnosticKeys payload.metadata (childResultPayload result) ::
              diagnostics)
        | [] => throw ⟨.stopIteration, ""⟩
      else do
        let diagnostics ← childDiagnostics results payloads
        pure (childResultPayload result :: diagnostics)

omit [PyRuntime] in
theorem get_copyKeys_of_notMem {keys : List String} {source target : JsonObject} {key : String}
    (h : key ∉ keys) : (copyKeys keys source target).get key = target.get key := by
  induction keys generalizing target with
  | nil => rfl
  | cons head rest ih =>
      rw [List.mem_cons, not_or] at h
      rw [copyKeys, List.foldl_cons]
      refine (ih h.2).trans ?_
      split
      case isTrue => rw [JsonObject.get, Dict.lookup_set_of_ne h.1, JsonObject.get]
      case isFalse => rfl

omit [PyRuntime] in
/-- A copied key has the value of the source, where the source has it. -/
theorem get_copyKeys {keys : List String} {source target : JsonObject} {key : String}
    (h : key ∈ keys) : (copyKeys keys source target).get key =
      if source.has key = true then source.get key else target.get key := by
  induction keys generalizing target with
  | nil => exact absurd h List.not_mem_nil
  | cons head rest ih =>
      rw [copyKeys, List.foldl_cons, ← copyKeys]
      by_cases hrest : key ∈ rest
      · rw [ih hrest]
        refine ite_congr rfl (fun _ => rfl) fun hmissing => ?_
        split
        case isTrue hhead =>
          have hne : key ≠ head := by
            rintro rfl
            exact hmissing hhead
          rw [JsonObject.get, Dict.lookup_set_of_ne hne, JsonObject.get]
        case isFalse => rfl
      · obtain rfl : key = head := (List.mem_cons.1 h).resolve_right hrest
        rw [get_copyKeys_of_notMem hrest]
        split
        case isTrue => rw [JsonObject.get, Dict.lookup_set_self, Option.getD_some]
        case isFalse => rfl

omit [PyRuntime] in
/-- Every child has a diagnostic with its own return code and report path. -/
theorem exists_diagnostic {results : List ChildProcessResult} {payloads : List DecodedReport}
    {diagnostics : List JsonObject} (h : childDiagnostics results payloads = .ok diagnostics)
    {result : ChildProcessResult} (hresult : result ∈ results) :
    ∃ diagnostic ∈ diagnostics, diagnostic.get "returncode" = .int result.returncode ∧
      diagnostic.get "report_path" = .ofOption .str result.reportPath := by
  induction results generalizing payloads diagnostics with
  | nil => exact absurd hresult List.not_mem_nil
  | cons head rest ih =>
      unfold childDiagnostics at h
      split at h
      case isTrue =>
        cases payloads with
        | nil => exact absurd h throw_ne_ok
        | cons payload payloads =>
            obtain ⟨tail, htail, h⟩ := bind_eq_ok.1 h
            rw [pure_eq_ok] at h
            subst h
            rcases List.mem_cons.1 hresult with rfl | hrest
            · refine ⟨_, List.mem_cons_self, ?_, ?_⟩
              · rw [get_copyKeys_of_notMem (by decide)]
                rfl
              · rw [get_copyKeys_of_notMem (by decide)]
                rfl
            · obtain ⟨diagnostic, hmem, hfields⟩ := ih htail hrest
              exact ⟨diagnostic, List.mem_cons_of_mem _ hmem, hfields⟩
      case isFalse =>
        obtain ⟨tail, htail, h⟩ := bind_eq_ok.1 h
        rw [pure_eq_ok] at h
        subst h
        rcases List.mem_cons.1 hresult with rfl | hrest
        · exact ⟨_, List.mem_cons_self, rfl, rfl⟩
        · obtain ⟨diagnostic, hmem, hfields⟩ := ih htail hrest
          exact ⟨diagnostic, List.mem_cons_of_mem _ hmem, hfields⟩

omit [PyRuntime] in
/-- The diagnostic of a successful child repeats the metadata of the report that was loaded for
it. -/
theorem exists_payload_diagnostic {results : List ChildProcessResult}
    {payloads : List DecodedReport} {diagnostics : List JsonObject}
    {load : ChildProcessResult → Py DecodedReport}
    (hpayloads : (results.filter ChildProcessResult.succeeded).mapM load = .ok payloads)
    (h : childDiagnostics results payloads = .ok diagnostics) {result : ChildProcessResult}
    (hresult : result ∈ results) (hsucceeded : result.succeeded = true) :
    ∃ payload, load result = .ok payload ∧ payload ∈ payloads ∧
      copyKeys diagnosticKeys payload.metadata (childResultPayload result) ∈ diagnostics := by
  induction results generalizing payloads diagnostics with
  | nil => exact absurd hresult List.not_mem_nil
  | cons head rest ih =>
      unfold childDiagnostics at h
      split at h
      case isTrue hhead =>
        rw [List.filter_cons_of_pos hhead, List.mapM_cons, bind_eq_ok] at hpayloads
        obtain ⟨first, hfirst, hpayloads⟩ := hpayloads
        obtain ⟨others, hothers, hpayloads⟩ := bind_eq_ok.1 hpayloads
        rw [pure_eq_ok] at hpayloads
        subst hpayloads
        obtain ⟨tail, htail, h⟩ := bind_eq_ok.1 h
        rw [pure_eq_ok] at h
        subst h
        rcases List.mem_cons.1 hresult with rfl | hrest
        · exact ⟨first, hfirst, List.mem_cons_self, List.mem_cons_self⟩
        · obtain ⟨payload, hload, hmem, hdiagnostic⟩ := ih hothers htail hrest
          exact ⟨payload, hload, List.mem_cons_of_mem _ hmem, List.mem_cons_of_mem _ hdiagnostic⟩
      case isFalse hhead =>
        rw [List.filter_cons_of_neg hhead] at hpayloads
        obtain ⟨tail, htail, h⟩ := bind_eq_ok.1 h
        rw [pure_eq_ok] at h
        subst h
        rcases List.mem_cons.1 hresult with rfl | hrest
        · exact absurd hsucceeded hhead
        · obtain ⟨payload, hload, hmem, hdiagnostic⟩ := ih hpayloads htail hrest
          exact ⟨payload, hload, hmem, List.mem_cons_of_mem _ hdiagnostic⟩

end Diagnostics

/-! ## Metadata -/

section Metadata

/-- `metadata[key] = value`, where there is a value. -/
def setIfSome (key : String) (value : Option Json) (metadata : JsonObject) : JsonObject :=
  match value with
  | some value => Dict.set key value metadata
  | none => metadata

omit [PyRuntime] in
theorem get_setIfSome_of_ne {key other : String} {value : Option Json} {metadata : JsonObject}
    (h : other ≠ key) : (setIfSome key value metadata).get other = metadata.get other := by
  cases value with
  | none => rfl
  | some value => rw [setIfSome, JsonObject.get, Dict.lookup_set_of_ne h, JsonObject.get]

/-- The value of the first child that has the key. -/
def firstDeclared (key : String) (payloads : List DecodedReport) : Option Json :=
  payloads.findSome? fun payload => payload.metadata.lookup key

/-- The timing scope of the merged report; without a child there is none. -/
def timingScopeOf (suite : Suite) : List DecodedReport → Py (Option Json)
  | [] => pure none
  | first :: rest => do
      let scope ← mergedTimingScope suite first rest
      pure (some (.str scope))

/-- Every child declares the current schema of the resource metrics. -/
def resourceSchemaOf (payloads : List DecodedReport) : Option Json :=
  if !payloads.isEmpty && payloads.all (fun payload =>
      (payload.metadata.get "resource_metric_schema_version").pyEq
        (.int resourceMetricSchemaVersion)) then
    some (.int resourceMetricSchemaVersion)
  else none

/-- The common part of the metadata, which every merged report has. -/
def baseMetadata (environment : Environment) (args : BenchmarkArgs) (firstMetadata : JsonObject)
    (skipped : List (String × String)) (childCooldownS : PyFloat) (diagnostics : List JsonObject) :
    JsonObject :=
  let versions := ((firstMetadata.get "package_versions").asObject?).getD
    environment.packageVersions
  [("timestamp", .str environment.timestamp), ("python", .str environment.python),
    ("platform", .str environment.platform),
    ("server", firstMetadata.getOr "server" (.str "isolated child benchmark processes")),
    ("suite", .str args.suite.name), ("args", .obj args.vars), ("package_versions", .obj versions),
    ("skipped", .obj (skipped.map fun entry => (entry.1, .str entry.2))),
    ("isolation", .obj [("mode", .str args.isolation), ("backend", .str "subprocess"),
      ("scheduler", .str "sequential"), ("unit", .str (isolationUnit args)),
      ("child_cooldown_s", .float childCooldownS), ("child_count", .int diagnostics.length),
      ("children", .arr (diagnostics.map .obj))])]

/-- The metadata of a merged report, before the finalizer. -/
def buildMetadata (environment : Environment) (args : BenchmarkArgs)
    (results : List ChildProcessResult) (payloads : List DecodedReport)
    (skipped : List (String × String)) (childCooldownS : PyFloat) : Py JsonObject := do
  let firstMetadata := (payloads.head?.map DecodedReport.metadata).getD []
  let diagnostics ← childDiagnostics results payloads
  let timingScope ← timingScopeOf args.suite payloads
  let runSettling := (firstMetadata.get "run_settling").asObject?.map Json.obj
  pure
    (setIfSome "run_settling" runSettling
      (setIfSome "research_provenance" (firstDeclared "research_provenance" payloads)
        (setIfSome "package_sources" (firstDeclared "package_sources" payloads)
          (setIfSome "resource_metric_schema_version" (resourceSchemaOf payloads)
            (setIfSome "timing_scope" timingScope
              (baseMetadata environment args firstMetadata skipped childCooldownS
                diagnostics))))))

/-- What the metadata says about the suite and the children of the run. -/
structure Declares (metadata : JsonObject) (suite : Suite) (diagnostics : List JsonObject) :
    Prop where
  suite : metadata.get "suite" = .str suite.name
  children : isolationChildren metadata = diagnostics

omit [PyRuntime] in
/-- The two fields determine the declaration. -/
theorem Declares.of_get_eq {metadata other : JsonObject} {suite : Suite}
    {diagnostics : List JsonObject} (h : Declares metadata suite diagnostics)
    (hsuite : other.get "suite" = metadata.get "suite")
    (hisolation : other.get "isolation" = metadata.get "isolation") :
    Declares other suite diagnostics where
  suite := hsuite.trans h.suite
  children := by
    rw [isolationChildren, hisolation]
    exact h.children

theorem declares_buildMetadata {environment : Environment} {args : BenchmarkArgs}
    {results : List ChildProcessResult} {payloads : List DecodedReport}
    {skipped : List (String × String)} {childCooldownS : PyFloat} {metadata : JsonObject}
    (h : buildMetadata environment args results payloads skipped childCooldownS =
      .ok metadata) :
    (metadata.has "suite" = true ∧ metadata.has "isolation" = true) ∧
      ∃ diagnostics, childDiagnostics results payloads = .ok diagnostics ∧
        Declares metadata args.suite diagnostics := by
  rw [buildMetadata, bind_eq_ok] at h
  obtain ⟨diagnostics, hdiagnostics, h⟩ := h
  obtain ⟨timingScope, -, h⟩ := bind_eq_ok.1 h
  rw [pure_eq_ok] at h
  -- what is added later has other keys
  have hget : ∀ key ∈ ["suite", "isolation"], metadata.get key = (baseMetadata environment args
      ((payloads.head?.map DecodedReport.metadata).getD []) skipped childCooldownS
      diagnostics).get key := by
    intro key hkey
    have hne : ∀ other ∈ ["run_settling", "research_provenance", "package_sources",
        "resource_metric_schema_version", "timing_scope"], key ≠ other := by
      intro other hother
      rintro rfl
      revert hother
      rcases List.mem_pair.1 hkey with rfl | rfl
      · decide
      · decide
    rw [← h, get_setIfSome_of_ne (hne _ (by simp)), get_setIfSome_of_ne (hne _ (by simp)),
      get_setIfSome_of_ne (hne _ (by simp)), get_setIfSome_of_ne (hne _ (by simp)),
      get_setIfSome_of_ne (hne _ (by simp))]
  have hsuite : metadata.get "suite" = .str args.suite.name := by
    rw [hget "suite" (by simp)]
    rfl
  have hisolation := hget "isolation" (by simp)
  refine ⟨⟨?_, ?_⟩, diagnostics, hdiagnostics, hsuite, ?_⟩
  · exact JsonObject.has_of_get_ne_null (by rw [hsuite]; exact nofun)
  · refine JsonObject.has_of_get_ne_null ?_
    rw [hisolation]
    exact nofun
  · rw [isolationChildren, hisolation]
    show (diagnostics.map Json.obj).filterMap Json.asObject? = diagnostics
    rw [List.filterMap_map]
    exact List.filterMap_some

end Metadata

/-! ## Finalization -/

section Finalization

/-- What a finalizer makes of the merged rows: rows, and metadata to add. -/
structure MergedSuiteReport where
  aggregateRows : List JsonObject
  metadata : JsonObject

/-- The callback of a suite, on copies of the rows and of the children's metadata. -/
abbrev MergedReportFinalizer := List JsonObject → List JsonObject → Py MergedSuiteReport

/-- Metadata that no suite owns, even where the parent has none. -/
def reservedMetadata : List String :=
  ["validity", "report_schema_version", "research_provenance", "package_sources", "timing_scope",
    "resource_metric_schema_version", "run_settling"]

/-- The keys that a finalizer may not add. -/
def metadataConflicts (metadata added : JsonObject) : List String :=
  (Dict.keys added).filter fun key => metadata.has key || key ∈ reservedMetadata

/-- The finalizer must keep the identities of the rows and add metadata under new keys. -/
def finalizeMergedData (suite : Suite) (metadata : JsonObject) (rows : List JsonObject)
    (payloads : List DecodedReport) (finalizer : MergedReportFinalizer) :
    Py MergedSuiteReport := do
  let identities ← rows.mapM (aggregateIdentity suite)
  let result ← finalizer rows (payloads.map DecodedReport.metadata)
  validateUniqueAggregateRows suite result.aggregateRows
  let kept ← result.aggregateRows.mapM (aggregateIdentity suite)
  raiseIf (kept ≠ identities)
    (valueError "Suite finalization must preserve aggregate identities and order")
  let conflicts := metadataConflicts metadata result.metadata
  raiseIf (!conflicts.isEmpty)
    (valueError ("Suite finalization cannot replace common metadata: " ++
      String.intercalate ", " (conflicts.insertionSort (· ≤ ·))))
  pure result

/-- An accepted finalizer declares neither a key of the metadata nor a reserved one. -/
theorem notMem_keys_of_finalized {suite : Suite} {metadata : JsonObject} {rows : List JsonObject}
    {payloads : List DecodedReport} {finalizer : MergedReportFinalizer}
    {result : MergedSuiteReport}
    (h : finalizeMergedData suite metadata rows payloads finalizer = .ok result) {key : String}
    (hkey : metadata.has key = true ∨ key ∈ reservedMetadata) :
    key ∉ Dict.keys result.metadata := by
  rw [finalizeMergedData, bind_eq_ok] at h
  obtain ⟨identities, -, h⟩ := h
  obtain ⟨found, -, h⟩ := bind_eq_ok.1 h
  obtain ⟨-, h⟩ := seq_eq_ok.1 h
  obtain ⟨kept, -, h⟩ := bind_eq_ok.1 h
  obtain ⟨-, h⟩ := seq_eq_ok.1 h
  obtain ⟨hconflicts, h⟩ := seq_eq_ok.1 h
  rw [pure_eq_ok] at h
  subst h
  rw [raiseIf_eq_ok, Bool.not_eq_false', List.isEmpty_iff, metadataConflicts,
    List.filter_eq_nil_iff] at hconflicts
  intro hmem
  apply hconflicts key hmem
  rcases hkey with hhas | hreserved
  · rw [hhas, Bool.true_or]
  · rw [decide_eq_true hreserved, Bool.or_true]

/-- An accepted finalizer leaves the existing metadata alone. -/
theorem get_update_of_finalized {suite : Suite} {metadata : JsonObject} {rows : List JsonObject}
    {payloads : List DecodedReport} {finalizer : MergedReportFinalizer}
    {result : MergedSuiteReport}
    (h : finalizeMergedData suite metadata rows payloads finalizer = .ok result) {key : String}
    (hkey : metadata.has key = true) :
    JsonObject.get (Dict.update metadata result.metadata) key = metadata.get key := by
  have hfresh := notMem_keys_of_finalized h (.inl hkey)
  rw [JsonObject.get, Dict.lookup_update_of_notMem _ _ hfresh, JsonObject.get]

end Finalization

/-! ## Failed children -/

section Failures

theorem childReason_eq_ok {child : JsonObject} {code message : String}
    {reasons : List ValidityReason} (h : childReason child code message = .ok reasons) :
    ∃ reference, reasons = [validityReason .invalid code message reference] := by
  rw [childReason, bind_eq_ok] at h
  obtain ⟨reference, -, h⟩ := h
  rw [pure_eq_ok] at h
  exact ⟨reference, h.symm⟩

/-- A child that failed or has no report makes the report invalid. -/
theorem exists_invalid_of_failed {metadata : JsonObject} {suite : Suite}
    {results : List ChildProcessResult} {payloads : List DecodedReport}
    {diagnostics : List JsonObject} {reasons : List ValidityReason}
    (hdiagnostics : childDiagnostics results payloads = .ok diagnostics)
    (hdeclares : Declares metadata suite diagnostics)
    (hreasons : childProcessReasons metadata = .ok reasons)
    {result : ChildProcessResult} (hresult : result ∈ results)
    (hfailed : result.succeeded = false) : ∃ reason ∈ reasons, reason.status = .invalid := by
  obtain ⟨diagnostic, hmem, hcode, hpath⟩ := exists_diagnostic hdiagnostics hresult
  rw [childProcessReasons, bind_eq_ok] at hreasons
  obtain ⟨perChild, hperChild, hreasons⟩ := hreasons
  rw [pure_eq_ok] at hreasons
  rw [hdeclares.children] at hperChild
  obtain ⟨ofChild, hofChild, hread⟩ := exists_of_mapM_eq_ok hperChild hmem
  rw [childReasons, intField_of_int hcode, ok_bind, if_neg] at hread
  · obtain ⟨reference, rfl⟩ := childReason_eq_ok hread
    subst hreasons
    exact ⟨_, List.mem_flatten.2 ⟨_, hofChild, List.mem_singleton_self _⟩, rfl⟩
  · -- The diagnostic has the return code and the report path of the result.
    rintro ⟨hzero, hreport⟩
    rw [ChildProcessResult.succeeded, hzero] at hfailed
    cases hpathValue : result.reportPath with
    | none =>
        rw [hasReportPath, hpath, hpathValue] at hreport
        exact Bool.false_ne_true hreport
    | some path =>
        rw [hpathValue] at hfailed
        exact Bool.false_ne_true hfailed.symm

end Failures

/-! ## Validity of the merged report -/

section Writing

/-- The metadata as it is published, with its version, provenance and validity. -/
def metadataWithValidity (environment : Environment) (metadata : JsonObject)
    (rows : List JsonObject) : Py JsonObject := do
  let provenance ← environment.researchProvenance
  let metadata ← withProvenance provenance
    (Dict.set "report_schema_version" (.int reportSchemaVersion) metadata)
  let suite := Suite.ofName? (strJson (JsonObject.getOr metadata "suite" (.str "unknown")))
  let summary ← classifyReportValidity suite rows metadata
  pure (Dict.set "validity" (.obj (validityPayload summary)) metadata)
where
  /-- The provenance of the parent, where its environment declares one. -/
  withProvenance : Option JsonObject → JsonObject → Py JsonObject
    | none, metadata => pure metadata
    | some provenance, metadata => do
        let sources ← environment.packageSources
        pure (Dict.set "package_sources" (.obj sources)
          (Dict.set "research_provenance" (.obj provenance) metadata))

/-- What the markdown report shows. -/
structure IsolationRenderContext where
  timestamp : String
  args : BenchmarkArgs
  aggregate : List JsonObject
  childResults : List ChildProcessResult
  runCount : ℕ
  unit : String
  validity : Json

/-- The published files: the JSON payload and the markdown text. -/
structure PublishedReport where
  timestamp : String
  metadata : JsonObject
  aggregate : List JsonObject
  runs : List JsonObject
  markdown : String

/-- The payload of the merged report. -/
def reportPayload (metadata : JsonObject) (aggregate runs : List JsonObject) : Json :=
  .obj [("metadata", .obj metadata), ("aggregate", .arr (aggregate.map .obj)),
    ("runs", .arr (runs.map .obj))]

/-- The validity that the metadata records, combined with that of the children. -/
def combineRecorded (metadata : JsonObject) (childValidities : List ValiditySummary) :
    Py JsonObject :=
  match metadata.get "validity" with
  | .obj recorded => do
      let current ← validitySummaryFromPayload recorded
      pure (Dict.set "validity"
        (.obj (validityPayload (combineValiditySummaries (current :: childValidities)))) metadata)
  | _ => throw (typeError "validity must be an object")

/-- `write_isolation_report`: the reports of the children are loaded, merged, finalized, classified
and published. -/
def writeIsolationReport (environment : Environment) (files : ReportFiles)
    (render : IsolationRenderContext → Py String) (args : BenchmarkArgs)
    (results : List ChildProcessResult) (skipped : List (String × String))
    (childCooldownS : PyFloat) (finalizer : MergedReportFinalizer) : Py PublishedReport := do
  let payloads ← loadSuccessfulChildPayloads files results args.suite
  let metadata ← buildMetadata environment args results payloads (mergeSkipped skipped payloads)
    childCooldownS
  let rows := payloads.flatMap DecodedReport.aggregateRows
  let runs := payloads.flatMap DecodedReport.runRows
  let childValidities ← payloads.mapM fun payload =>
    validitySummaryFromMetadata payload.metadata (some args.suite) payload.aggregateRows
  let finalized ← finalizeMergedData args.suite metadata rows payloads finalizer
  let metadata := Dict.update metadata finalized.metadata
  let _ ← decodeReportPayload (reportPayload metadata finalized.aggregateRows runs)
    (some args.suite.name)
  let metadata ← metadataWithValidity environment metadata finalized.aggregateRows
  let metadata ← combineRecorded metadata childValidities
  let markdown ← render ⟨environment.timestamp, args, finalized.aggregateRows, results,
    runs.length, isolationUnit args, metadata.get "validity"⟩
  pure ⟨environment.timestamp, metadata, finalized.aggregateRows, runs, markdown⟩

/-- What a recheck before saving may change: the schema version, and the provenance together
with the package sources where the environment declares a provenance. -/
structure Rechecked (metadata checked : JsonObject) : Prop where
  kept : ∀ key, key ≠ "report_schema_version" → key ≠ "research_provenance" →
    key ≠ "package_sources" → checked.lookup key = metadata.lookup key
  provenance : (∀ key ∈ ["research_provenance", "package_sources"],
      checked.lookup key = metadata.lookup key) ∨
    ∃ provenance sources, checked.lookup "research_provenance" = some (.obj provenance) ∧
      checked.lookup "package_sources" = some (.obj sources)

omit [PyRuntime] in
theorem Rechecked.get_eq {metadata checked : JsonObject} (h : Rechecked metadata checked)
    {key : String} (hschema : key ≠ "report_schema_version")
    (hprovenance : key ≠ "research_provenance") (hsources : key ≠ "package_sources") :
    checked.get key = metadata.get key := by
  rw [JsonObject.get, h.kept key hschema hprovenance hsources, JsonObject.get]

omit [PyRuntime] in
theorem rechecked_withProvenance {environment : Environment} {provenance : Option JsonObject}
    {metadata checked : JsonObject}
    (h : metadataWithValidity.withProvenance environment provenance
      (Dict.set "report_schema_version" (.int reportSchemaVersion) metadata) = .ok checked) :
    Rechecked metadata checked := by
  cases provenance with
  | none =>
      rw [metadataWithValidity.withProvenance, pure_eq_ok] at h
      subst h
      refine ⟨fun key hschema _ _ => Dict.lookup_set_of_ne hschema _ _, .inl fun key hkey => ?_⟩
      refine Dict.lookup_set_of_ne ?_ _ _
      rintro rfl
      revert hkey
      decide
  | some provenance =>
      rw [metadataWithValidity.withProvenance, bind_eq_ok] at h
      obtain ⟨sources, -, h⟩ := h
      rw [pure_eq_ok] at h
      subst h
      refine ⟨fun key hschema hprovenance hsources => ?_, .inr ⟨provenance, sources, ?_, ?_⟩⟩
      · rw [Dict.lookup_set_of_ne hsources, Dict.lookup_set_of_ne hprovenance,
          Dict.lookup_set_of_ne hschema]
      · rw [Dict.lookup_set_of_ne (by decide), Dict.lookup_set_self]
      · rw [Dict.lookup_set_self]

/-- The saved validity is recomputed from metadata that declares the same suite and children. -/
theorem metadataWithValidity_eq_ok {environment : Environment} {metadata saved : JsonObject}
    {rows : List JsonObject} {suite : Suite} {diagnostics : List JsonObject}
    (hdeclares : Declares metadata suite diagnostics)
    (h : metadataWithValidity environment metadata rows = .ok saved) :
    ∃ checked current, Rechecked metadata checked ∧ Declares checked suite diagnostics ∧
      classifyReportValidity (some suite) rows checked = .ok current ∧
      saved = Dict.set "validity" (.obj (validityPayload current)) checked := by
  rw [metadataWithValidity, bind_eq_ok] at h
  obtain ⟨provenance, -, h⟩ := h
  obtain ⟨checked, hchecked, h⟩ := bind_eq_ok.1 h
  obtain ⟨current, hcurrent, h⟩ := bind_eq_ok.1 h
  rw [pure_eq_ok] at h
  have hrechecked := rechecked_withProvenance hchecked
  have hdeclares' : Declares checked suite diagnostics :=
    hdeclares.of_get_eq (hrechecked.get_eq (by decide) (by decide) (by decide))
      (hrechecked.get_eq (by decide) (by decide) (by decide))
  refine ⟨checked, current, hrechecked, hdeclares', ?_, h.symm⟩
  have hsuite : JsonObject.getOr checked "suite" (.str "unknown") = .str suite.name := by
    have hhas : checked.has "suite" = true :=
      JsonObject.has_of_get_ne_null (by rw [hdeclares'.suite]; exact nofun)
    rw [JsonObject.getOr, JsonObject.lookup_of_has hhas, hdeclares'.suite, Option.getD_some]
  rw [hsuite, strJson_str, Suite.ofName?_name] at hcurrent
  exact hcurrent

omit [PyRuntime] in
theorem combineRecorded_eq_ok {metadata saved recorded : JsonObject}
    {childValidities : List ValiditySummary} (hrecorded : metadata.get "validity" = .obj recorded)
    (h : combineRecorded metadata childValidities = .ok saved) :
    ∃ current, validitySummaryFromPayload recorded = .ok current ∧
      saved = Dict.set "validity" (.obj (validityPayload
        (combineValiditySummaries (current :: childValidities)))) metadata := by
  rw [combineRecorded, hrecorded, bind_eq_ok] at h
  obtain ⟨current, hcurrent, h⟩ := h
  rw [pure_eq_ok] at h
  exact ⟨current, hcurrent, h.symm⟩

/-- The stages of a merge that was published. -/
structure MergeStages (environment : Environment) (files : ReportFiles) (args : BenchmarkArgs)
    (results : List ChildProcessResult) (published : PublishedReport) where
  payloads : List DecodedReport
  metadata : JsonObject
  finalized : MergedSuiteReport
  diagnostics : List JsonObject
  /-- The metadata that the validity is recomputed from. -/
  checked : JsonObject
  current : ValiditySummary
  /-- The validity that is saved. -/
  merged : ValiditySummary
  loaded : (results.filter ChildProcessResult.succeeded).mapM (fun result =>
    loadReport files (result.reportPath.getD "") (some args.suite.name)) = .ok payloads
  built : ∃ skipped childCooldownS,
    buildMetadata environment args results payloads skipped childCooldownS = .ok metadata
  finalizes : ∃ rows finalizer,
    finalizeMergedData args.suite metadata rows payloads finalizer = .ok finalized
  diagnosed : childDiagnostics results payloads = .ok diagnostics
  rechecked : Rechecked (Dict.update metadata finalized.metadata) checked
  declares : Declares checked args.suite diagnostics
  classified : classifyReportValidity (some args.suite) finalized.aggregateRows checked =
    .ok current
  stored : published.metadata.get "validity" = .obj (validityPayload merged)
  kept : ∀ key, key ≠ "validity" → published.metadata.lookup key = checked.lookup key
  ofCurrent : Covers merged current
  ofChildren : ∀ payload ∈ payloads, ∃ validity, validitySummaryFromMetadata payload.metadata
    (some args.suite) payload.aggregateRows = .ok validity ∧ Covers merged validity

theorem nonempty_mergeStages {environment : Environment} {files : ReportFiles}
    {render : IsolationRenderContext → Py String} {args : BenchmarkArgs}
    {results : List ChildProcessResult} {skipped : List (String × String)}
    {childCooldownS : PyFloat} {finalizer : MergedReportFinalizer} {published : PublishedReport}
    (h : writeIsolationReport environment files render args results skipped childCooldownS
      finalizer = .ok published) :
    Nonempty (MergeStages environment files args results published) := by
  -- the steps of the merge, in the order in which they are taken
  rw [writeIsolationReport, bind_eq_ok] at h
  obtain ⟨payloads, hpayloads, h⟩ := h
  obtain ⟨metadata, hmetadata, h⟩ := bind_eq_ok.1 h
  obtain ⟨childValidities, hvalidities, h⟩ := bind_eq_ok.1 h
  obtain ⟨finalized, hfinalized, h⟩ := bind_eq_ok.1 h
  obtain ⟨-, -, h⟩ := bind_eq_ok.1 h
  obtain ⟨saved, hsaved, h⟩ := bind_eq_ok.1 h
  obtain ⟨stored, hstored, h⟩ := bind_eq_ok.1 h
  obtain ⟨markdown, -, h⟩ := bind_eq_ok.1 h
  rw [pure_eq_ok] at h
  subst h
  -- the payloads are those that are loaded; the check of their identities adds nothing
  rw [loadSuccessfulChildPayloads, bind_eq_ok] at hpayloads
  obtain ⟨loaded, hloaded, hpayloads⟩ := hpayloads
  obtain ⟨-, hpayloads⟩ := seq_eq_ok.1 hpayloads
  rw [pure_eq_ok] at hpayloads
  subst hpayloads
  obtain ⟨⟨hhasSuite, hhasIsolation⟩, diagnostics, hdiagnostics, hdeclares⟩ :=
    declares_buildMetadata hmetadata
  -- the finalizer leaves the suite and the diagnostics as they were built
  have hupdated : Declares (Dict.update metadata finalized.metadata) args.suite diagnostics :=
    hdeclares.of_get_eq (get_update_of_finalized hfinalized hhasSuite)
      (get_update_of_finalized hfinalized hhasIsolation)
  obtain ⟨checked, current, hrechecked, hchecked, hcurrent, rfl⟩ :=
    metadataWithValidity_eq_ok hupdated hsaved
  -- the validity that is read again is the one that was just written
  have hrecorded : JsonObject.get (Dict.set "validity" (.obj (validityPayload current)) checked)
      "validity" = .obj (validityPayload current) := by
    rw [JsonObject.get, Dict.lookup_set_self, Option.getD_some]
  obtain ⟨read, hread, rfl⟩ := combineRecorded_eq_ok hrecorded hstored
  refine ⟨{
    payloads := loaded
    metadata := metadata
    finalized := finalized
    diagnostics := diagnostics
    checked := checked
    current := current
    merged := combineValiditySummaries (read :: childValidities)
    loaded := hloaded
    built := ⟨_, _, hmetadata⟩
    finalizes := ⟨_, _, hfinalized⟩
    diagnosed := hdiagnostics
    rechecked := hrechecked
    declares := hchecked
    classified := hcurrent
    stored := ?_
    kept := ?_
    ofCurrent := ?_
    ofChildren := ?_ }⟩
  · rw [JsonObject.get, Dict.lookup_set_self, Option.getD_some]
  · intro key hkey
    rw [Dict.lookup_set_of_ne hkey, Dict.lookup_set_of_ne hkey]
  -- the merged summary covers the recorded one and each of the children
  · exact (combineValiditySummaries_covers List.mem_cons_self).trans
      (validitySummaryFromPayload_covers hread)
  · intro payload hpayload
    obtain ⟨validity, hvalidity, hsummary⟩ := exists_of_mapM_eq_ok hvalidities hpayload
    exact ⟨validity, hsummary,
      combineValiditySummaries_covers (List.mem_cons_of_mem _ hvalidity)⟩

/-- The reasons of the children are among those of the recomputed validity. -/
theorem MergeStages.invalid_of_child {environment : Environment} {files : ReportFiles}
    {args : BenchmarkArgs} {results : List ChildProcessResult} {published : PublishedReport}
    (stages : MergeStages environment files args results published)
    (hinvalid : ∀ reasons, childProcessReasons stages.checked = .ok reasons →
      ∃ reason ∈ reasons, reason.status = .invalid) :
    stages.merged.status = .invalid ∧ stages.merged.canCompare = false := by
  obtain ⟨ofMetadata, ofRows, hofMetadata, -, hcurrent⟩ :=
    classifyReportValidity_eq_ok.1 stages.classified
  rw [metadataReasons, bind_eq_ok] at hofMetadata
  obtain ⟨ofChildren, hofChildren, hofMetadata⟩ := hofMetadata
  obtain ⟨attribution, -, hofMetadata⟩ := bind_eq_ok.1 hofMetadata
  obtain ⟨lifecycle, -, hofMetadata⟩ := bind_eq_ok.1 hofMetadata
  rw [pure_eq_ok] at hofMetadata
  obtain ⟨reason, hreason, hstatus⟩ := hinvalid ofChildren hofChildren
  have hsummary : stages.current.status = .invalid ∧ stages.current.canCompare = false := by
    rw [hcurrent]
    exact summaryOf_invalid_iff.2 ⟨reason, by rw [← hofMetadata]; simp [hreason], hstatus⟩
  constructor
  · apply ValidityStatus.severity_injective
    refine le_antisymm (ValidityStatus.severity_le_invalid _) ?_
    rw [← hsummary.1]
    exact stages.ofCurrent.severity
  · rw [Bool.eq_false_iff]
    intro hcompare
    rw [stages.ofCurrent.canCompare hcompare] at hsummary
    exact Bool.false_ne_true hsummary.2.symm

/-- The validity that a published report stores covers, for every successful child, the
validity recomputed from the child's report and the validity that the child recorded. A failed
child makes it invalid. Nothing that the finalizer returns changes this. -/
theorem merge_never_launders {environment : Environment} {files : ReportFiles}
    {render : IsolationRenderContext → Py String} {args : BenchmarkArgs}
    {results : List ChildProcessResult} {skipped : List (String × String)}
    {childCooldownS : PyFloat} {finalizer : MergedReportFinalizer} {published : PublishedReport}
    (h : writeIsolationReport environment files render args results skipped childCooldownS
      finalizer = .ok published) :
    ∃ merged, published.metadata.get "validity" = .obj (validityPayload merged) ∧
      (∀ result ∈ results, result.succeeded = true →
        ∃ report, loadReport files (result.reportPath.getD "") (some args.suite.name) = .ok report ∧
          (∃ current, classifyReportValidity (some args.suite) report.aggregateRows
            report.metadata = .ok current ∧ Covers merged current) ∧
          ∀ payload, report.metadata.get "validity" = .obj payload →
            ∃ recorded, validitySummaryFromPayload payload = .ok recorded ∧
              Covers merged recorded) ∧
      ((∃ result ∈ results, result.succeeded = false) →
        merged.status = .invalid ∧ merged.canCompare = false) := by
  obtain ⟨stages⟩ := nonempty_mergeStages h
  refine ⟨stages.merged, stages.stored, ?_, ?_⟩
  -- a successful child is among the payloads, and each of these is covered
  · intro result hresult hsucceeded
    obtain ⟨report, hreport, hload⟩ :=
      exists_of_mapM_eq_ok stages.loaded (List.mem_filter.2 ⟨hresult, hsucceeded⟩)
    obtain ⟨validity, hsummary, hofChild⟩ := stages.ofChildren report hreport
    obtain ⟨⟨recomputed, hrecomputed, hcovers⟩, hofRecorded⟩ :=
      validitySummaryFromMetadata_covers hsummary
    refine ⟨report, hload, ⟨recomputed, hrecomputed, hofChild.trans hcovers⟩, ?_⟩
    intro payload hpayload
    obtain ⟨recorded, hreadRecorded, hcoversRecorded⟩ := hofRecorded payload hpayload
    exact ⟨recorded, hreadRecorded, hofChild.trans hcoversRecorded⟩
  -- a failed child shows in the diagnostics that are classified again
  · rintro ⟨result, hresult, hfailed⟩
    exact stages.invalid_of_child fun reasons hreasons =>
      exists_invalid_of_failed stages.diagnosed stages.declares hreasons hresult hfailed

end Writing

/-! ## A merge with a failed child -/

section FailedChild

/-- The finalizer of the suites that keep the merged rows. -/
def preserveMergedReport : MergedReportFinalizer := fun rows _ => pure ⟨rows, []⟩

/-- A child of the example that has measured httpx. -/
def childOutcome (sequence : ℤ) (reportPath : Option String) (returncode : ℤ) :
    ChildProcessResult :=
  ⟨sequence, "httpx", none, "child", reportPath, ["python"], returncode, .finite 1,
    ⟨none, none, none⟩, "", ""⟩

/-- An environment of the example, without provenance. -/
def plainEnvironment : Environment :=
  ⟨"20260101-000000", "3.13", "linux", [], .ok none, .ok []⟩

/-- Every report file is an empty report of the request suite. -/
def emptyReports : ReportFiles where
  readJson _ := pure (reportPayload
    [("suite", .str "requests"), ("timing_scope", .str "requests-load-only-v2"),
      ("validity", .obj (validityPayload (summaryOf [])))] [] [])
  revalidateAttributionRows _ _ _ := pure []

omit [PyRuntime] in
/-- One child succeeds with a valid report, the other one fails. -/
theorem merge_never_launders_failed_child :
    ∃ (_ : PyRuntime) (published : PublishedReport) (merged : ValiditySummary),
      writeIsolationReport plainEnvironment emptyReports (fun _ => pure "")
        ⟨.requests, "per-client-scenario", []⟩
        [childOutcome 1 (some "report.json") 0, childOutcome 2 none 1] [] (.finite 0)
        preserveMergedReport = .ok published ∧
      published.metadata.get "validity" = .obj (validityPayload merged) ∧
      merged.status = .invalid ∧ merged.canCompare = false := by
  let _ : PyRuntime := plainRuntime
  have hreturns : Returns (writeIsolationReport plainEnvironment emptyReports (fun _ => pure "")
      ⟨.requests, "per-client-scenario", []⟩
      [childOutcome 1 (some "report.json") 0, childOutcome 2 none 1] [] (.finite 0)
      preserveMergedReport) := by
    decide
  obtain ⟨published, hpublished⟩ := hreturns
  obtain ⟨merged, hmerged, -, hfailed⟩ := merge_never_launders hpublished
  have hinvalid := hfailed ⟨childOutcome 2 none 1, by simp, rfl⟩
  exact ⟨plainRuntime, published, merged, hpublished, hmerged, hinvalid⟩

end FailedChild

end FogHttpBenchmark.Isolation
