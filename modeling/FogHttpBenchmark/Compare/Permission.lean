import FogHttpBenchmark.Compare.Analysis
import FogHttpBenchmark.Validity.Children

/-!
# The permission to rank

What a comparison has checked about a report before it ranks its clients. The permission is
decided in several places: the validity that the reader combines, the gate in front of the win
tables, and the gates of each report inside. `ranking_permitted` collects them.
-/

set_option autoImplicit false

namespace FogHttpBenchmark.Compare

open Library Library.Checked Python ReportSchema Validity Isolation

/-! ## Permission -/

section Permission

/-- The record of a report or of a child carries a saved validity that does not permit a
comparison, or cannot be read. -/
def RecordForbids (record : JsonObject) : Prop :=
  record.has "validity" = true ∧ ¬ ∃ payload saved, record.get "validity" = .obj payload ∧
    validitySummaryFromPayload payload = .ok saved ∧ saved.canCompare = true ∧
    JsonObject.get payload "can_compare" ≠ .bool false

/-- The report carries a mark of a lifecycle or async-bytes research report: a declared profile,
a field that only async-bytes reports have, lifecycle diagnostics, the isolation mode of
lifecycle reports, or the resources of both processes. -/
def CarriesResearchMark (metadata : JsonObject) (rows : List JsonObject) : Prop :=
  (∃ record ∈ metadata :: rows,
    (record.get "profile").pyEq (.str "lifecycle") = true ∨
      (record.get "profile").pyEq (.str "async-bytes") = true ∨ hasAsyncBytesMark record = true) ∨
  metadata.has "lifecycle" = true ∨
  (∃ isolation, metadata.get "isolation" = .obj isolation ∧
    (JsonObject.get isolation "mode").pyEq (.str "per-lifecycle-case") = true) ∨
  ∃ row ∈ rows, hasProcessResources row = true

/-- A report with a research mark uses one of the two streaming profiles. -/
theorem usesStreamingProfile_of_mark {metadata : JsonObject} {rows : List JsonObject}
    (h : CarriesResearchMark metadata rows) :
    usesStreamingProfile metadata rows .lifecycle = true ∨
      usesStreamingProfile metadata rows .asyncBytes = true := by
  by_cases hmarked : (metadata :: rows).any hasAsyncBytesMark = true
  · right
    simp only [usesStreamingProfile, researchEnvelopeProfile, if_pos hmarked, decide_true,
      Bool.or_true]
  · have hdeclared : ∀ profile : ResearchProfile,
        (∃ record ∈ metadata :: rows, (record.get "profile").pyEq (.str profile.name) = true) →
        usesStreamingProfile metadata rows profile = true := by
      rintro profile ⟨record, hrecord, hprofile⟩
      rw [usesStreamingProfile]
      rcases List.mem_cons.1 hrecord with rfl | hrow
      · rw [hprofile, Bool.true_or, Bool.true_or]
      · have hany : (rows.any fun row => (row.get "profile").pyEq (.str profile.name)) = true :=
          List.any_eq_true.2 ⟨record, hrow, hprofile⟩
        rw [hany, Bool.or_true, Bool.true_or]
    have henvelope : (metadata.has "lifecycle" ||
        (metadata.get "isolation").asObject?.any (fun isolation =>
          (JsonObject.get isolation "mode").pyEq (.str "per-lifecycle-case")) ||
        rows.any hasProcessResources) = true →
        usesStreamingProfile metadata rows .lifecycle = true := by
      intro hlifecycle
      simp only [usesStreamingProfile, researchEnvelopeProfile, if_neg hmarked, if_pos hlifecycle,
        decide_true, Bool.or_true]
    rcases h with ⟨record, hrecord, hlifecycle | hasync | hmark⟩ | hfield |
      ⟨isolation, hisolation, hmode⟩ | ⟨row, hrow, hresources⟩
    · exact Or.inl (hdeclared .lifecycle ⟨record, hrecord, hlifecycle⟩)
    · exact Or.inr (hdeclared .asyncBytes ⟨record, hrecord, hasync⟩)
    · exact absurd (List.any_eq_true.2 ⟨record, hrecord, hmark⟩) hmarked
    · refine Or.inl (henvelope ?_)
      rw [hfield, Bool.true_or, Bool.true_or]
    · refine Or.inl (henvelope ?_)
      rw [hisolation, Json.asObject?, Option.any_some, hmode, Bool.or_true, Bool.true_or]
    · refine Or.inl (henvelope ?_)
      rw [List.any_eq_true.2 ⟨row, hrow, hresources⟩, Bool.or_true]

variable [PyRuntime]

/-- What a report must be for its clients to be ranked. -/
structure RankingPermitted (report : BenchmarkReport) : Prop where
  /-- The validity recomputed from the rows. -/
  recomputed : ∃ current, classifyReportValidity (some report.suite) report.aggregateRows
    report.metadata = .ok current ∧ current.canCompare = true
  /-- The validity saved in the metadata. -/
  saved : ¬ RecordForbids report.metadata
  /-- The validity recorded for each child. -/
  children : ∀ child ∈ isolationChildren report.metadata, ¬ RecordForbids child
  suite : report.suite ≠ .resourceBackpressure
  ordinary : ¬ CarriesResearchMark report.metadata report.aggregateRows

omit [PyRuntime] in
/-- A record whose validity is covered by a summary that compares does not forbid anything. -/
theorem not_recordForbids {record payload : JsonObject} {summary saved : ValiditySummary}
    (hpayload : record.get "validity" = .obj payload)
    (hsaved : validitySummaryFromPayload payload = .ok saved) (hcovers : Covers summary saved)
    (hcompare : summary.canCompare = true) : ¬ RecordForbids record := by
  rintro ⟨-, hforbids⟩
  have hsavedCompare := hcovers.canCompare hcompare
  refine hforbids ⟨payload, saved, hpayload, hsaved, hsavedCompare, ?_⟩
  -- the saved flag is read as it is, and the summary keeps it
  intro hflag
  rw [validitySummaryFromPayload, bind_eq_ok] at hsaved
  obtain ⟨declared, -, hsaved⟩ := hsaved
  split at hsaved
  case h_2 => exact absurd hsaved throw_ne_ok
  case h_1 items _ =>
    obtain ⟨reasons, -, hsaved⟩ := bind_eq_ok.1 hsaved
    obtain ⟨-, hsaved⟩ := seq_eq_ok.1 hsaved
    obtain ⟨isValid, -, hsaved⟩ := bind_eq_ok.1 hsaved
    obtain ⟨canCompare, hread, hsaved⟩ := bind_eq_ok.1 hsaved
    rw [pure_eq_ok] at hsaved
    subst hsaved
    have hlookup : payload.lookup "can_compare" = some (.bool false) := by
      rw [JsonObject.lookup_of_has
        (JsonObject.has_of_get_ne_null (by rw [hflag]; exact Json.noConfusion)), hflag]
    rw [boolField, hlookup] at hread
    cases hread
    exact Bool.false_ne_true hsavedCompare

omit [PyRuntime] in
/-- The children of a report are among the records that may carry a validity. -/
theorem mem_validityRecords_of_child {metadata child : JsonObject}
    (h : child ∈ isolationChildren metadata) :
    ∃ path, (path, child) ∈ validityRecords metadata := by
  obtain ⟨isolation, items, hisolation, hitems, hmem⟩ := mem_isolationChildren.1 h
  obtain ⟨index, hindex, hitem⟩ := List.getElem_of_mem hmem
  refine ⟨"metadata.isolation.children[" ++ toString index ++ "]", ?_⟩
  simp only [validityRecords, Json.asObject?_eq_some.2 hisolation,
    Json.asList?_eq_some.2 hitems]
  refine List.mem_cons_of_mem _ (List.mem_filterMap.2 ⟨(.obj child, index), ?_, rfl⟩)
  rw [← hitem]
  exact List.mem_zipIdx_iff_getElem?.2 (by simp [hindex])

/-- A loaded report that permits a comparison and has a win table permits a ranking. -/
theorem permitted_of_wins {files : ReportFiles} {path : String} {report : BenchmarkReport}
    (hloaded : loadBenchmarkReport files path = .ok report)
    (hcompare : report.validity.canCompare = true) {focusClient : String} {snapshot : WinsSnapshot}
    (hwins : winsForReport report focusClient = .ok (some snapshot)) : RankingPermitted report := by
  obtain ⟨⟨current, hcurrent, hcovers⟩, hrecorded⟩ :=
    validitySummaryFromMetadata_covers_parts (validity_of_loaded hloaded)
  -- every recorded validity is covered by one that permits a comparison
  have hrecord : ∀ record ∈ validityRecords report.metadata, ¬ RecordForbids record.2 := by
    rintro record hmem hforbids
    obtain ⟨payload, saved, hpayload, hsaved, hsavedCovers⟩ := hrecorded record hmem hforbids.1
    exact not_recordForbids hpayload hsaved hsavedCovers hcompare hforbids
  rw [winsForReport, bind_eq_ok] at hwins
  obtain ⟨rows, -, hwins⟩ := hwins
  split at hwins
  case isTrue => exact nomatch pure_eq_ok.1 hwins
  case isFalse hgates =>
    simp only [Bool.or_eq_true, decide_eq_true_eq, not_or] at hgates
    obtain ⟨⟨hsuite, hlifecycle⟩, hasync⟩ := hgates
    refine ⟨⟨current, hcurrent, hcovers.canCompare hcompare⟩, ?_, ?_, hsuite, ?_⟩
    · exact hrecord ("metadata", report.metadata) List.mem_cons_self
    · intro child hchild
      obtain ⟨childPath, hmem⟩ := mem_validityRecords_of_child hchild
      exact hrecord (childPath, child) hmem
    · intro hmark
      rcases usesStreamingProfile_of_mark hmark with huses | huses
      · exact hlifecycle huses
      · exact hasync huses

/-- A comparison of two loaded reports has win tables only where both reports permit a ranking. -/
theorem ranking_permitted {files : ReportFiles} {oldPath newPath : String}
    {oldReport newReport : BenchmarkReport} {R : Type} {expMeanLog : List ℚ → R}
    {focusClient : String} {topN : ℤ} {comparisonAxis : Option String} {result : ComparisonResult R}
    (hold : loadBenchmarkReport files oldPath = .ok oldReport)
    (hnew : loadBenchmarkReport files newPath = .ok newReport)
    (hresult : compareReports expMeanLog oldReport newReport focusClient topN comparisonAxis =
      .ok result) (hwins : result.wins.isSome = true) :
    RankingPermitted oldReport ∧ RankingPermitted newReport := by
  simp only [compareReports, bind_eq_ok, pure_eq_ok] at hresult
  obtain ⟨-, -, oldRows, -, newRows, -, -, -, comparisons, -, wins, hgate, errors, -, rfl⟩ :=
    hresult
  -- the tables come from the gate, which both reports have passed
  rw [permittedWins] at hgate
  split at hgate
  case isTrue =>
    rw [pure_eq_ok] at hgate
    subst hgate
    cases hwins
  case isFalse hblocks =>
    rw [Bool.not_eq_true, blocksStrongConclusions, Bool.or_eq_false_iff, Bool.not_eq_false',
      Bool.not_eq_false'] at hblocks
    rw [compareWins, bind_eq_ok] at hgate
    obtain ⟨old, holdWins, hgate⟩ := hgate
    obtain ⟨new, hnewWins, hgate⟩ := bind_eq_ok.1 hgate
    cases old with
    | none =>
        obtain rfl : none = wins := pure_eq_ok.1 hgate
        cases hwins
    | some oldSnapshot =>
        cases new with
        | none =>
            obtain rfl : none = wins := pure_eq_ok.1 hgate
            cases hwins
        | some newSnapshot =>
            exact ⟨permitted_of_wins hold hblocks.1 holdWins,
              permitted_of_wins hnew hblocks.2 hnewWins⟩

/-- An aggregate row of a request report without errors. -/
def comparedRow (client : String) (rate : ℤ) : JsonObject :=
  [("mode", .str "sync"), ("client", .str client), ("scenario", .str "json-small"),
    ("concurrency", .int 1), ("request_limit", .int 1), ("requests", .int 5),
    ("repeats", .int 1), ("ok_req_s_median", .int rate), ("ok_requests_total", .int 5),
    ("errors_total", .int 0), ("warmup_errors_total", .int 0), ("error_types", .obj [])]

/-- One report file, in which one client is twice as fast as the other. -/
def comparedFiles : ReportFiles where
  readJson _ := pure (.obj
    [("metadata", .obj [("suite", .str "requests"), ("report_schema_version", .int 1),
        ("timing_scope", .str "requests-load-only-v2")]),
      ("aggregate", .arr [.obj (comparedRow "foghttp" 200), .obj (comparedRow "httpx" 100)]),
      ("runs", .arr [])])
  revalidateAttributionRows _ _ _ := pure []

/-- The comparison of the report with itself has a win table. -/
def comparedRanks : Bool :=
  match loadBenchmarkReport comparedFiles "report.json" with
  | .error _ => false
  | .ok report =>
      match compareReports (fun _ => (1 : ℚ)) report report "foghttp" 1 none with
      | .error _ => false
      | .ok result => result.wins.isSome

omit [PyRuntime] in
/-- A report without errors is ranked, and it permits it. -/
theorem ranking_permitted_requests :
    ∃ (_ : PyRuntime) (report : BenchmarkReport),
      loadBenchmarkReport comparedFiles "report.json" = .ok report ∧ RankingPermitted report := by
  have hranks : @comparedRanks plainRuntime = true := by decide +kernel
  refine ⟨plainRuntime, ?_⟩
  unfold comparedRanks at hranks
  split at hranks
  case h_1 => exact nomatch hranks
  case h_2 report hreport =>
    split at hranks
    case h_1 => exact nomatch hranks
    case h_2 result hresult =>
      have hpermitted :=
        @ranking_permitted plainRuntime _ _ _ _ _ _ _ _ _ _ _ hreport hreport hresult hranks
      exact ⟨report, hreport, hpermitted.1⟩

end Permission

end FogHttpBenchmark.Compare
