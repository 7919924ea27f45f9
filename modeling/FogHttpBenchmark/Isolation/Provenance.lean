import FogHttpBenchmark.Isolation.Reports

/-!
# The provenance of merged reports

A merge takes its research provenance from the first child that declares one, or from the
environment of the parent, and its package sources apart from that. The check of the children
compares the diagnostic of each one with what was taken, so that a merge that is not invalid
has the provenance of every child (`merged_provenance_unanimous`).

Only the reports of successful children are loaded. A failed child may leave a report behind,
whose provenance the merge does not see (`leftover_provenance_ignored`).
-/

set_option autoImplicit false

namespace FogHttpBenchmark.Isolation

open Library Library.Checked Python ReportSchema Validity

/-! ## What the merge declares -/

section Declared

theorem lookup_setIfSome_self (key : String) (value : Option Json) (metadata : JsonObject) :
    (setIfSome key value metadata).lookup key = value.or (metadata.lookup key) := by
  cases value with
  | none => rfl
  | some value => exact Dict.lookup_set_self key value metadata

theorem lookup_setIfSome_of_ne {key other : String} {value : Option Json} {metadata : JsonObject}
    (h : other ≠ key) : (setIfSome key value metadata).lookup other = metadata.lookup other := by
  cases value with
  | none => rfl
  | some value => exact Dict.lookup_set_of_ne h value metadata

/-- The two keys that a merge takes from its children. -/
def provenanceKeys : List String := ["research_provenance", "package_sources"]

variable [PyRuntime]

theorem lookup_buildMetadata {environment : Environment} {args : BenchmarkArgs}
    {results : List ChildProcessResult} {payloads : List DecodedReport}
    {skipped : List (String × String)} {childCooldownS : PyFloat} {metadata : JsonObject}
    (h : buildMetadata environment args results payloads skipped childCooldownS = .ok metadata)
    {key : String} (hkey : key ∈ provenanceKeys) :
    metadata.lookup key = firstDeclared key payloads := by
  rw [buildMetadata, bind_eq_ok] at h
  obtain ⟨diagnostics, -, h⟩ := h
  obtain ⟨timingScope, -, h⟩ := bind_eq_ok.1 h
  rw [pure_eq_ok] at h
  subst h
  rcases List.mem_pair.1 hkey with rfl | rfl
  · rw [lookup_setIfSome_of_ne (by decide), lookup_setIfSome_self,
      lookup_setIfSome_of_ne (by decide), lookup_setIfSome_of_ne (by decide),
      lookup_setIfSome_of_ne (by decide)]
    exact Option.or_none
  · rw [lookup_setIfSome_of_ne (by decide), lookup_setIfSome_of_ne (by decide),
      lookup_setIfSome_self, lookup_setIfSome_of_ne (by decide),
      lookup_setIfSome_of_ne (by decide)]
    exact Option.or_none

omit [PyRuntime] in
/-- A child that declares the key is enough for the merge to declare it. -/
theorem isSome_firstDeclared {key : String} {payloads : List DecodedReport}
    {payload : DecodedReport} (hpayload : payload ∈ payloads)
    (hhas : payload.metadata.has key = true) : (firstDeclared key payloads).isSome = true :=
  List.findSome?_isSome_iff.2 ⟨payload, hpayload, hhas⟩

/-- The package sources of a loaded report are an object. -/
theorem packageSources_of_loadReport {files : ReportFiles} {path : String}
    {expectedSuite : Option String} {report : DecodedReport}
    (h : loadReport files path expectedSuite = .ok report) {value : Json}
    (hvalue : report.metadata.lookup "package_sources" = some value) :
    ∃ sources, value = .obj sources := by
  obtain ⟨content, admitted, -, hadmitted, -, -, hmetadata⟩ := admitted_of_loadReport h
  obtain ⟨payload, declared, aggregate, runs, -, hadmits⟩ :=
    decodeReportPayload_eq_ok.1 hadmitted
  rw [hmetadata _ (by decide)] at hvalue
  have hchecked := hadmits.metadataChecked
  rw [validateMetadata] at hchecked
  obtain ⟨-, hchecked⟩ := seq_eq_ok.1 hchecked
  obtain ⟨hobjects, -⟩ := seq_eq_ok.1 hchecked
  rw [validateMetadataObjects] at hobjects
  obtain ⟨-, hobjects⟩ := seq_eq_ok.1 hobjects
  have hsources := forM_eq_ok.1 hobjects "package_sources" (by simp)
  have hhas : admitted.metadata.has "package_sources" = true := by
    rw [JsonObject.has, Dict.contains, hvalue]
    rfl
  rw [validateOptionalObject, if_pos hhas, bind_eq_ok] at hsources
  obtain ⟨sources, hobject, -⟩ := hsources
  rw [requireObject_eq_ok, JsonObject.get_of_lookup hvalue] at hobject
  exact ⟨sources, hobject⟩

end Declared

/-! ## Shared provenance -/

section Shared

/-- A child has a provenance, and it and the package sources are those of the merge. -/
structure SharesProvenance (child merged : JsonObject) : Prop where
  provenance : ∃ provenance, child.lookup "research_provenance" = some (.obj provenance) ∧
    (Json.obj provenance).pyEq (merged.get "research_provenance") = true
  sources : child.has "package_sources" = merged.has "package_sources" ∧
    (child.get "package_sources").pyEq (merged.get "package_sources") = true

variable [PyRuntime]

/-- A child without an invalid reason has the provenance and the sources of the metadata. -/
theorem provenance_of_childReasons {metadata child : JsonObject} {reasons : List ValidityReason}
    (hhas : metadata.has "research_provenance" = true)
    (h : childReasons metadata child = .ok reasons) (hvalid : ¬ Invalidates reasons) :
    ∃ provenance, child.get "research_provenance" = .obj provenance ∧
      (Json.obj provenance).pyEq (metadata.get "research_provenance") = true ∧
      (child.get "package_sources").pyEq (metadata.get "package_sources") = true := by
  have hreason : ∀ {code message : String}, childReason child code message ≠ .ok reasons := by
    intro code message hreason
    obtain ⟨reference, rfl⟩ := childReason_eq_ok hreason
    exact hvalid ⟨_, List.mem_singleton_self _, rfl⟩
  obtain ⟨returncode, -, h⟩ := bind_eq_ok.1 h
  split at h
  case isFalse => exact absurd h hreason
  case isTrue =>
    rw [childProvenanceReasons, if_pos hhas] at h
    split at h
    case h_2 => exact absurd h hreason
    case h_1 provenance hprovenance =>
      split at h
      case isTrue => exact absurd h hreason
      case isFalse hsame =>
        rw [Bool.or_eq_true, not_or, Bool.not_eq_true', Bool.not_eq_true', Bool.not_eq_false,
          Bool.not_eq_false] at hsame
        exact ⟨provenance, hprovenance, hsame⟩

omit [PyRuntime] in
/-- A diagnostic has the provenance and the sources of the report of its child. -/
theorem get_diagnostic {payload : DecodedReport} {result : ChildProcessResult} {key : String}
    (hkey : key ∈ provenanceKeys) :
    JsonObject.get (copyKeys diagnosticKeys payload.metadata (childResultPayload result)) key =
      payload.metadata.get key := by
  have hdiagnostic : ∀ key ∈ provenanceKeys, key ∈ diagnosticKeys := by decide
  rw [get_copyKeys (hdiagnostic key hkey)]
  split_ifs with hhas
  · rfl
  · rw [JsonObject.get_of_not_has (Bool.eq_false_iff.2 hhas)]
    rcases List.mem_pair.1 hkey with rfl | rfl
    · rfl
    · rfl

omit [PyRuntime] in
/-- Sources that are equal, and objects where they are declared, are declared in both or in
neither. -/
theorem has_eq_of_pyEq {child merged : JsonObject} {key : String}
    (hchild : ∀ value, child.lookup key = some value → ∃ fields, value = .obj fields)
    (hmerged : ∀ value, merged.lookup key = some value → ∃ fields, value = .obj fields)
    (h : (child.get key).pyEq (merged.get key) = true) : child.has key = merged.has key := by
  cases hchildValue : child.lookup key with
  | none =>
      cases hmergedValue : merged.lookup key with
      | none => rw [JsonObject.has, JsonObject.has, Dict.contains, Dict.contains, hchildValue,
          hmergedValue]
      | some value =>
          obtain ⟨fields, rfl⟩ := hmerged _ hmergedValue
          rw [JsonObject.get, hchildValue, JsonObject.get_of_lookup hmergedValue] at h
          exact absurd h (by simp [Json.pyEq, Json.number?])
  | some value =>
      obtain ⟨fields, rfl⟩ := hchild _ hchildValue
      cases hmergedValue : merged.lookup key with
      | none =>
          rw [JsonObject.get_of_lookup hchildValue, JsonObject.get, hmergedValue] at h
          exact absurd h (by simp [Json.pyEq, Json.number?])
      | some value => rw [JsonObject.has, JsonObject.has, Dict.contains, Dict.contains,
          hchildValue, hmergedValue]; rfl

end Shared

/-! ## Published merges -/

section Published

variable [PyRuntime]
variable {environment : Environment} {files : ReportFiles} {args : BenchmarkArgs}
variable {results : List ChildProcessResult} {published : PublishedReport}

/-- The value of a published provenance key: that of the first child, or the environment's. -/
theorem lookup_published (stages : MergeStages environment files args results published)
    {key : String} (hkey : key ∈ provenanceKeys) :
    published.metadata.lookup key = firstDeclared key stages.payloads ∨
      ∃ fields, published.metadata.lookup key = some (.obj fields) := by
  have hreserved : ∀ key ∈ provenanceKeys, key ≠ "validity" ∧ key ∈ reservedMetadata := by decide
  obtain ⟨hvalidity, hreserved⟩ := hreserved key hkey
  rw [stages.kept key hvalidity]
  rcases stages.rechecked.provenance with hkept | ⟨provenance, sources, hprovenance, hsources⟩
  · left
    obtain ⟨rows, finalizer, hfinalized⟩ := stages.finalizes
    obtain ⟨skipped, childCooldownS, hbuilt⟩ := stages.built
    rw [hkept key hkey, Dict.lookup_update_of_notMem _ _
      (notMem_keys_of_finalized hfinalized (.inr hreserved)), lookup_buildMetadata hbuilt hkey]
  · right
    rcases List.mem_pair.1 hkey with rfl | rfl
    · exact ⟨provenance, hprovenance⟩
    · exact ⟨sources, hsources⟩

theorem packageSources_of_published
    (stages : MergeStages environment files args results published) {value : Json}
    (hvalue : published.metadata.lookup "package_sources" = some value) :
    ∃ sources, value = .obj sources := by
  rcases lookup_published stages (by decide : "package_sources" ∈ provenanceKeys)
    with hfirst | ⟨fields, h⟩
  · rw [hvalue] at hfirst
    obtain ⟨payload, hpayload, hdeclared⟩ := List.exists_of_findSome?_eq_some hfirst.symm
    obtain ⟨result, -, hload⟩ := exists_source_of_mapM_eq_ok stages.loaded hpayload
    exact packageSources_of_loadReport hload hdeclared
  · rw [hvalue, Option.some.injEq] at h
    exact ⟨fields, h⟩

/-- A child whose report has a provenance makes the merge have one. -/
theorem has_published_of_child (stages : MergeStages environment files args results published)
    {result : ChildProcessResult} (hresult : result ∈ results)
    (hsucceeded : result.succeeded = true) {report : DecodedReport}
    (hload : loadReport files (result.reportPath.getD "") (some args.suite.name) = .ok report)
    (hhas : report.metadata.has "research_provenance" = true) :
    published.metadata.has "research_provenance" = true := by
  obtain ⟨payload, hpayload, hloaded⟩ :=
    exists_of_mapM_eq_ok stages.loaded (List.mem_filter.2 ⟨hresult, hsucceeded⟩)
  rw [hload] at hloaded
  cases hloaded
  rw [JsonObject.has, Dict.contains]
  rcases lookup_published stages (by decide : "research_provenance" ∈ provenanceKeys)
    with h | ⟨fields, h⟩
  · rw [h]
    exact isSome_firstDeclared hpayload hhas
  · rw [h]
    rfl

/-- Every child of a merge that is not invalid has succeeded. -/
theorem succeeded_of_published (stages : MergeStages environment files args results published)
    (hvalid : stages.merged.status ≠ .invalid) {result : ChildProcessResult}
    (hresult : result ∈ results) : result.succeeded = true := by
  rw [← Bool.not_eq_false]
  intro hfailed
  refine hvalid (stages.invalid_of_child fun reasons hreasons => ?_).1
  exact exists_invalid_of_failed stages.diagnosed stages.declares hreasons hresult hfailed

/-- Every child of a merge with a provenance that is not invalid shares its provenance and
sources. -/
theorem sharesProvenance_of_published
    (stages : MergeStages environment files args results published)
    (hhas : published.metadata.has "research_provenance" = true)
    (hvalid : stages.merged.status ≠ .invalid) {result : ChildProcessResult}
    (hresult : result ∈ results) :
    ∃ report, loadReport files (result.reportPath.getD "") (some args.suite.name) = .ok report ∧
      SharesProvenance report.metadata published.metadata := by
  obtain ⟨report, hload, hreport, hdiagnostic⟩ := exists_payload_diagnostic stages.loaded
    stages.diagnosed hresult (succeeded_of_published stages hvalid hresult)
  have hget : ∀ key ∈ provenanceKeys,
      published.metadata.lookup key = stages.checked.lookup key := by
    intro key hkey
    refine stages.kept key ?_
    rintro rfl
    revert hkey
    decide
  have hchecked : stages.checked.has "research_provenance" = true := by
    rw [JsonObject.has, Dict.contains, hget _ (by decide)] at hhas
    exact hhas
  -- the diagnostic of the child draws no invalid reason
  have hcheck : ∃ reasons, childReasons stages.checked
      (copyKeys diagnosticKeys report.metadata (childResultPayload result)) = .ok reasons ∧
        ¬ Invalidates reasons := by
    obtain ⟨ofMetadata, -, hofMetadata, -⟩ := classifyReportValidity_eq_ok.1 stages.classified
    rw [metadataReasons, bind_eq_ok] at hofMetadata
    obtain ⟨ofChildren, hofChildren, -⟩ := hofMetadata
    have hperChild := hofChildren
    rw [childProcessReasons, bind_eq_ok, stages.declares.children] at hperChild
    obtain ⟨perChild, hmapped, hflat⟩ := hperChild
    rw [pure_eq_ok] at hflat
    obtain ⟨reasons, hreasons, hread⟩ := exists_of_mapM_eq_ok hmapped hdiagnostic
    refine ⟨reasons, hread, fun hinvalid => hvalid (stages.invalid_of_child ?_).1⟩
    intro found hfound
    rw [hofChildren] at hfound
    cases hfound
    rw [← hflat]
    exact invalidates_flatten.2 ⟨reasons, hreasons, hinvalid⟩
  obtain ⟨reasons, hread, hreasons⟩ := hcheck
  obtain ⟨provenance, hprovenance, hsame, hsources⟩ :=
    provenance_of_childReasons hchecked hread hreasons
  rw [get_diagnostic (by decide)] at hprovenance hsources
  have hsources' : (report.metadata.get "package_sources").pyEq
      (published.metadata.get "package_sources") = true := by
    rw [JsonObject.get.eq_def published.metadata, hget _ (by decide), ← JsonObject.get.eq_def]
    exact hsources
  refine ⟨report, hload, ⟨provenance, ?_, ?_⟩, ?_, hsources'⟩
  · rw [← hprovenance]
    exact JsonObject.lookup_of_has
      (JsonObject.has_of_get_ne_null (by rw [hprovenance]; exact Json.noConfusion))
  · rw [JsonObject.get, hget _ (by decide), ← JsonObject.get.eq_def]
    exact hsame
  · exact has_eq_of_pyEq (fun _ h => packageSources_of_loadReport hload h)
      (fun _ h => packageSources_of_published stages h) hsources'

/-- The report of a child has a research provenance. -/
def Qualified (files : ReportFiles) (suite : Suite) (result : ChildProcessResult) : Prop :=
  ∃ report, loadReport files (result.reportPath.getD "") (some suite.name) = .ok report ∧
    report.metadata.has "research_provenance" = true

/-- A published merge that has a provenance and is not invalid shares it, and the package
sources, with the report of every child; the provenance of a successful child's report makes
the merge have one. So a merge of children with and without a provenance is invalid. -/
theorem merged_provenance_unanimous {render : IsolationRenderContext → Py String}
    {skipped : List (String × String)} {childCooldownS : PyFloat}
    {finalizer : MergedReportFinalizer}
    (h : writeIsolationReport environment files render args results skipped childCooldownS
      finalizer = .ok published) :
    ∃ merged, published.metadata.get "validity" = .obj (validityPayload merged) ∧
      (published.metadata.has "research_provenance" = true → merged.status ≠ .invalid →
        ∀ result ∈ results, ∃ report,
          loadReport files (result.reportPath.getD "") (some args.suite.name) = .ok report ∧
            SharesProvenance report.metadata published.metadata) ∧
      (∀ result ∈ results, result.succeeded = true → Qualified files args.suite result →
        published.metadata.has "research_provenance" = true) ∧
      ((∃ result ∈ results, Qualified files args.suite result) →
        (∃ result ∈ results, ¬ Qualified files args.suite result) → merged.status = .invalid) := by
  obtain ⟨stages⟩ := nonempty_mergeStages h
  have hcarried : ∀ result ∈ results, result.succeeded = true →
      Qualified files args.suite result →
        published.metadata.has "research_provenance" = true := by
    rintro result hresult hsucceeded ⟨report, hload, hhas⟩
    exact has_published_of_child stages hresult hsucceeded hload hhas
  refine ⟨stages.merged, stages.stored, ?_, hcarried, ?_⟩
  · intro hhas hvalid result hresult
    exact sharesProvenance_of_published stages hhas hvalid hresult
  -- a merge that is not invalid would share the provenance with every child
  · rintro ⟨qualified, hqualified, hprovenance⟩ ⟨other, hother, hunqualified⟩
    by_contra hvalid
    have hsucceeded := succeeded_of_published stages hvalid hqualified
    obtain ⟨report, hload, hshares⟩ := sharesProvenance_of_published stages
      (hcarried qualified hqualified hsucceeded hprovenance) hvalid hother
    obtain ⟨provenance, hlookup, -⟩ := hshares.provenance
    refine hunqualified ⟨report, hload, ?_⟩
    rw [JsonObject.has, Dict.contains, hlookup]
    rfl

end Published

/-! ## Merges of empty reports -/

section EmptyReports

/-- Report files of the request suite without rows; one of them has a provenance. -/
def provenanceReports : ReportFiles where
  readJson path := pure (reportPayload
    ([("suite", .str "requests"), ("timing_scope", .str "requests-load-only-v2"),
      ("validity", .obj (validityPayload (summaryOf [])))] ++
      if path = "qualified.json" then
        [("research_provenance", .obj [("digest", .str "d1")]), ("package_sources", .obj [])]
      else []) [] [])
  revalidateAttributionRows _ _ _ := pure []

/-- Two children with the same provenance make a merge with it. -/
theorem merged_provenance_shared :
    ∃ (_ : PyRuntime) (published : PublishedReport),
      writeIsolationReport plainEnvironment provenanceReports (fun _ => pure "")
        ⟨.requests, "per-client-scenario", []⟩
        [childOutcome 1 (some "qualified.json") 0, childOutcome 2 (some "qualified.json") 0] []
        (.finite 0) preserveMergedReport = .ok published ∧
      ∃ report, loadReport provenanceReports "qualified.json" (some "requests") = .ok report ∧
        SharesProvenance report.metadata published.metadata := by
  let _ : PyRuntime := plainRuntime
  let write := writeIsolationReport plainEnvironment provenanceReports (fun _ => pure "")
    ⟨.requests, "per-client-scenario", []⟩
    [childOutcome 1 (some "qualified.json") 0, childOutcome 2 (some "qualified.json") 0] []
    (.finite 0) preserveMergedReport
  have hwritten : write.map (fun published =>
      (published.metadata.has "research_provenance",
        (JsonObject.get (((published.metadata.get "validity").asObject?).getD []) "status").pyEq
          (.str "valid"))) = .ok (true, true) := by
    decide
  obtain ⟨published, hpublished, hfacts⟩ := map_eq_ok.1 hwritten
  obtain ⟨hhas, hstatus⟩ := Prod.mk.inj hfacts
  obtain ⟨merged, hmerged, hshares, -⟩ := merged_provenance_unanimous hpublished
  have hvalid : merged.status ≠ .invalid := by
    intro hinvalid
    rw [hmerged, Json.pyEq_str] at hstatus
    have hname : merged.status.name = "valid" := Json.str.inj hstatus
    rw [hinvalid] at hname
    exact absurd hname (by decide)
  obtain ⟨report, hload, hreport⟩ := hshares hhas hvalid _ List.mem_cons_self
  exact ⟨plainRuntime, published, hpublished, report, hload, hreport⟩

/-- A failed child has left a report with a provenance. The merge does not load the report and
has no provenance. -/
theorem leftover_provenance_ignored :
    ∃ (_ : PyRuntime) (published : PublishedReport),
      writeIsolationReport plainEnvironment provenanceReports (fun _ => pure "")
        ⟨.requests, "per-client-scenario", []⟩
        [childOutcome 1 (some "plain.json") 0, childOutcome 2 (some "qualified.json") 1] []
        (.finite 0) preserveMergedReport = .ok published ∧
      Qualified provenanceReports .requests (childOutcome 2 (some "qualified.json") 1) ∧
      published.metadata.has "research_provenance" = false := by
  let _ : PyRuntime := plainRuntime
  have hwritten : (writeIsolationReport plainEnvironment provenanceReports (fun _ => pure "")
      ⟨.requests, "per-client-scenario", []⟩
      [childOutcome 1 (some "plain.json") 0, childOutcome 2 (some "qualified.json") 1] []
      (.finite 0) preserveMergedReport).map (fun published =>
        published.metadata.has "research_provenance") = .ok false := by
    decide
  have hloaded : (loadReport provenanceReports "qualified.json" (some "requests")).map (fun report =>
      report.metadata.has "research_provenance") = .ok true := by
    decide
  obtain ⟨published, hpublished, hhas⟩ := map_eq_ok.1 hwritten
  obtain ⟨report, hload, hreport⟩ := map_eq_ok.1 hloaded
  exact ⟨plainRuntime, published, hpublished, ⟨report, hload, hreport⟩, hhas⟩

end EmptyReports

end FogHttpBenchmark.Isolation
