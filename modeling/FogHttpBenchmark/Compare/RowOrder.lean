import FogHttpBenchmark.Compare.Timing
import FogHttpBenchmark.Compare.Wins
import FogHttpBenchmark.Validity.RowOrder

/-!
# The order of the rows

A comparison of two reports whose aggregate rows are in another order. Everything that it computes
from the rows is computed from the rows in the order of their identities, so only the reasons of the
two validities can be in another order, and the profile check names the first of the rows that
disagree with the declared profile (`compareReports_rowOrder`).
-/

set_option autoImplicit false

namespace FogHttpBenchmark.Compare

open Library Library.Checked Python ReportSchema Validity Isolation MeasurementTiming

/-! ## Timing scopes -/

section Timing

/-- The profile does not depend on the order of the rows. -/
theorem reportProfile_perm {suite : Suite} {metadata : JsonObject} {rows others : List JsonObject}
    (h : rows.Perm others) :
    reportProfile suite metadata rows = reportProfile suite metadata others := by
  rw [reportProfile, reportProfile, usesStreamingProfile_perm metadata h,
    usesStreamingProfile_perm metadata h]

/-- Nor does the timing scope. -/
theorem resolvesTo_perm {suite : Suite} {metadata : JsonObject} {rows others runs : List JsonObject}
    {scope : TimingScope} (h : rows.Perm others)
    (hscope : ResolvesTo suite metadata rows runs scope) :
    ResolvesTo suite metadata others runs scope := by
  have hnil : rows = [] ↔ others = [] := by
    rw [← List.length_eq_zero_iff, ← List.length_eq_zero_iff, h.length_eq]
  obtain ⟨hsupported, hdeclared, hrows, hruns, hlisted⟩ := hscope
  rw [reportProfile_perm h] at hsupported hdeclared
  simp only [RowsDeclare, ne_eq, hnil, h.mem_iff] at hdeclared hrows hlisted
  exact ⟨hsupported, hdeclared, hrows, hruns, hlisted⟩

end Timing

/-! ## Reports with reordered rows -/

section Reordered

/-- Two reports that differ in the order of their rows, and in the reasons of their validity. -/
structure Reordered (report other : BenchmarkReport) : Prop where
  path : report.path = other.path
  suite : report.suite = other.suite
  timestamp : report.timestamp = other.timestamp
  packageVersions : report.packageVersions = other.packageVersions
  metadata : report.metadata = other.metadata
  runRows : report.runRows = other.runRows
  rows : report.rows.Perm other.rows
  aggregateRows : report.aggregateRows.Perm other.aggregateRows
  canCompare : report.validity.canCompare = other.validity.canCompare

theorem Reordered.symm {report other : BenchmarkReport} (h : Reordered report other) :
    Reordered other report where
  path := h.path.symm
  suite := h.suite.symm
  timestamp := h.timestamp.symm
  packageVersions := h.packageVersions.symm
  metadata := h.metadata.symm
  runRows := h.runRows.symm
  rows := h.rows.symm
  aggregateRows := h.aggregateRows.symm
  canCompare := h.canCompare.symm

/-- Distinct identities stay distinct in another order. -/
theorem Reordered.unique {report other : BenchmarkReport} (h : Reordered report other)
    (hunique : UniqueRows report) : UniqueRows other :=
  (h.rows.map _).nodup_iff.1 hunique

/-- Sorted rows stand in the order of their identities. -/
theorem sortedRows_sorted (report : BenchmarkReport) :
    (sortedRows report).Pairwise fun a b => a.identity ≤ b.identity := by
  let _ : IsTrans BenchmarkRow fun a b => a.identity ≤ b.identity :=
    ⟨fun _ _ _ hab hbc => hab.trans hbc⟩
  let _ : Std.Total fun a b : BenchmarkRow => a.identity ≤ b.identity :=
    ⟨fun a b => le_total a.identity b.identity⟩
  exact List.pairwise_insertionSort _ _

/-- Rows with different identities have one order. -/
theorem Reordered.sortedRows {report other : BenchmarkReport} (h : Reordered report other)
    (hunique : UniqueRows report) : sortedRows report = sortedRows other := by
  apply List.Perm.eq_of_pairwise _ (sortedRows_sorted report) (sortedRows_sorted other)
  · exact ((sortedRows_perm report).trans h.rows).trans (sortedRows_perm other).symm
  · intro a b ha hb hab hba
    apply List.inj_on_of_nodup_map hunique ((sortedRows_perm report).mem_iff.1 ha)
    · exact h.rows.mem_iff.2 ((sortedRows_perm other).mem_iff.1 hb)
    · exact le_antisymm hab hba

/-- The rows of the focus client are the same. -/
theorem Reordered.focusRows {report other : BenchmarkReport} (h : Reordered report other)
    (hunique : UniqueRows report) (focusClient : String) :
    focusRows report focusClient = focusRows other focusClient := by
  rw [Compare.focusRows, Compare.focusRows, h.sortedRows hunique]

/-- The sources of the client are the same. -/
theorem Reordered.foghttpSource {report other : BenchmarkReport} (h : Reordered report other) :
    foghttpSource report = foghttpSource other := by
  rw [Compare.foghttpSource, Compare.foghttpSource, h.metadata]

variable [PyRuntime] {oldReport newReport oldOther newOther : BenchmarkReport}

/-- The canonical rows are the same. -/
theorem Reordered.canonicalRows {report other : BenchmarkReport} (h : Reordered report other)
    (hunique : UniqueRows report) : canonicalRows report = canonicalRows other := by
  rw [canonicalRows_eq_ok.2 ⟨hunique, rfl⟩, canonicalRows_eq_ok.2 ⟨h.unique hunique, rfl⟩,
    h.sortedRows hunique]

/-- The rows with errors are the same. -/
theorem Reordered.errorRows {report other : BenchmarkReport} (h : Reordered report other)
    (hunique : UniqueRows report) : errorRows report = errorRows other := by
  rw [Compare.errorRows, Compare.errorRows, h.canonicalRows hunique]

/-- The wins are the same. -/
theorem Reordered.winsForReport {report other : BenchmarkReport} (h : Reordered report other)
    (hunique : UniqueRows report) (focusClient : String) :
    winsForReport report focusClient = winsForReport other focusClient := by
  rw [Compare.winsForReport, Compare.winsForReport, h.canonicalRows hunique, h.suite, h.metadata,
    usesStreamingProfile_perm _ h.aggregateRows, usesStreamingProfile_perm _ h.aggregateRows]

omit [PyRuntime] in
/-- The order of the rows forbids no conclusion. -/
theorem blocksStrongConclusions_reordered (hold : Reordered oldReport oldOther)
    (hnew : Reordered newReport newOther) :
    blocksStrongConclusions oldReport newReport = blocksStrongConclusions oldOther newOther := by
  rw [blocksStrongConclusions, blocksStrongConclusions, hold.canCompare, hnew.canCompare]

/-- The permitted wins are the same. -/
theorem permittedWins_reordered {R : Type} (expMeanLog : List ℚ → R)
    (hold : Reordered oldReport oldOther)
    (hnew : Reordered newReport newOther) (hunique : UniqueRows oldReport)
    (hunique' : UniqueRows newReport) (focusClient : String) :
    permittedWins expMeanLog oldReport newReport focusClient =
      permittedWins expMeanLog oldOther newOther focusClient := by
  rw [permittedWins, permittedWins, blocksStrongConclusions_reordered hold hnew, compareWins,
    compareWins, hold.winsForReport hunique, hnew.winsForReport hunique']

/-- Whether two reports are comparable does not depend on the order of their rows. -/
theorem validateComparableReports_reordered (hold : Reordered oldReport oldOther)
    (hnew : Reordered newReport newOther) {comparisonAxis : Option String}
    (h : validateComparableReports oldReport newReport comparisonAxis = .ok ()) :
    validateComparableReports oldOther newOther comparisonAxis = .ok () := by
  -- what the checks read is the metadata and the rows in any order
  have hasync : ([oldOther, newOther].any fun report =>
      usesStreamingProfile report.metadata report.aggregateRows .asyncBytes) =
      [oldReport, newReport].any fun report =>
        usesStreamingProfile report.metadata report.aggregateRows .asyncBytes := by
    simp only [List.any_cons, List.any_nil, hold.metadata, hnew.metadata,
      usesStreamingProfile_perm _ hold.aggregateRows,
      usesStreamingProfile_perm _ hnew.aggregateRows]
  have hharness : validateHarness oldOther newOther comparisonAxis =
      validateHarness oldReport newReport comparisonAxis := by
    rw [validateHarness, validateHarness, hold.metadata, hnew.metadata, hold.foghttpSource,
      hnew.foghttpSource]
  have htiming : validateTimingCompatibility oldReport.suite oldReport.metadata
        oldReport.aggregateRows oldReport.runRows newReport.metadata newReport.aggregateRows
        newReport.runRows = .ok () →
      validateTimingCompatibility oldOther.suite oldOther.metadata oldOther.aggregateRows
        oldOther.runRows newOther.metadata newOther.aggregateRows newOther.runRows = .ok () := by
    intro hcompatible
    obtain ⟨scope, holdScope, hnewScope⟩ := validateTimingCompatibility_eq_ok.1 hcompatible
    rw [hold.suite, hold.metadata, hold.runRows] at holdScope
    rw [hold.suite, hnew.metadata, hnew.runRows] at hnewScope
    exact validateTimingCompatibility_eq_ok.2 ⟨scope, resolvesTo_perm hold.aggregateRows holdScope,
      resolvesTo_perm hnew.aggregateRows hnewScope⟩
  -- the suites, the axis, the harness where a profile asks for it, and the timing
  rw [validateComparableReports] at h ⊢
  obtain ⟨hsuites, h⟩ := seq_eq_ok.1 h
  obtain ⟨haxis, h⟩ := seq_eq_ok.1 h
  refine seq_eq_ok.2 ⟨?_, seq_eq_ok.2 ⟨haxis, ?_⟩⟩
  · rw [raiseIf_eq_ok] at hsuites ⊢
    rw [← hold.suite, ← hnew.suite]
    exact hsuites
  · dsimp only at h ⊢
    rw [hasync, hharness]
    split at h
    case isTrue huses =>
      obtain ⟨hchecked, h⟩ := seq_eq_ok.1 h
      rw [if_pos huses]
      exact seq_eq_ok.2 ⟨hchecked, htiming h⟩
    case isFalse huses =>
      rw [if_neg huses]
      exact htiming h

/-- The comparison of reordered reports: the same result, apart from the two validities. -/
theorem compareReports_reordered {R : Type} {expMeanLog : List ℚ → R}
    (hold : Reordered oldReport oldOther)
    (hnew : Reordered newReport newOther) {focusClient : String} {topN : ℤ}
    {comparisonAxis : Option String} {result : ComparisonResult R}
    (h : compareReports expMeanLog oldReport newReport focusClient topN comparisonAxis =
      .ok result) :
    result.validity = comparisonValidity oldReport newReport ∧
      compareReports expMeanLog oldOther newOther focusClient topN comparisonAxis =
        .ok { result with validity := comparisonValidity oldOther newOther } := by
  obtain ⟨hcomparable, hunique, hunique', hshared, wins, errors, hwins, herrors, rfl⟩ :=
    compareReports_eq_ok.1 h
  refine ⟨rfl, compareReports_eq_ok.2 ⟨validateComparableReports_reordered hold hnew hcomparable,
    hold.unique hunique, hnew.unique hunique', ?_, wins, errors, ?_, ?_, ?_⟩⟩
  · rw [sharedPairs, ← hold.focusRows hunique, ← hnew.focusRows hunique']
    exact hshared
  · rw [← permittedWins_reordered expMeanLog hold hnew hunique hunique']
    exact hwins
  · rw [← hnew.errorRows hunique']
    exact herrors
  · rw [comparisonOf, comparisonOf, rowComparisons, rowComparisons, sharedPairs, sharedPairs,
      comparisonMetadata, comparisonMetadata, resourceSummary, resourceSummary, measurementScope,
      measurementScope, measurementScope, measurementScope, hold.focusRows hunique,
      hnew.focusRows hunique', hold.path, hold.timestamp, hold.packageVersions, hold.metadata,
      hnew.path, hnew.suite, hnew.timestamp, hnew.packageVersions, hnew.metadata]

end Reordered

/-! ## Loaded reports -/

section Loaded

/-- A default adds no key twice. -/
theorem distinctKeys_setDefault {row : JsonObject} (h : Json.distinctKeys (.obj row) = true)
    (key : String) {value : Json} (hvalue : Json.distinctKeys value = true) :
    Json.distinctKeys (.obj (setDefault row key value)) = true := by
  rw [setDefault]
  split
  case isTrue => exact h
  case isFalse => exact Json.distinctKeys_set h key hvalue

/-- The migration of a row adds no key twice. -/
theorem distinctKeys_migrateLegacyRow {suite : Suite} {row migrated : JsonObject} {path : String}
    (hrow : Json.distinctKeys (.obj row) = true)
    (h : migrateLegacyRow suite row path = .ok migrated) :
    Json.distinctKeys (.obj migrated) = true := by
  obtain ⟨limited, hlimited, hmigrated⟩ := steps_of_migrateLegacyRow h
  have hdistinct : Json.distinctKeys (.obj limited) = true := by
    rcases hlimited with rfl | ⟨n, rfl⟩
    · exact hrow
    · exact distinctKeys_setDefault hrow _ rfl
  rcases hmigrated with rfl | rfl
  · exact hdistinct
  · exact distinctKeys_setDefault hdistinct _ rfl

/-- Nor does that of all rows. -/
theorem distinctKeys_currentRows {suite : Suite} {metadata : JsonObject} {path : ℕ → String}
    {rows current : List JsonObject} (hrows : ∀ row ∈ rows, Json.distinctKeys (.obj row) = true)
    (h : currentRows suite metadata path rows = .ok current) :
    ∀ row ∈ current, Json.distinctKeys (.obj row) = true := by
  intro row hrow
  rw [currentRows] at h
  split at h
  case isTrue =>
    rw [← pure_eq_ok.1 h] at hrow
    exact hrows row hrow
  case isFalse =>
    obtain ⟨source, hsource, hmigrated⟩ := exists_source_of_mapM_eq_ok h hrow
    exact distinctKeys_migrateLegacyRow (hrows source.1 (List.fst_mem_of_mem_zipIdx hsource))
      hmigrated

variable [PyRuntime]

/-- The metadata and the rows of a report that was read from parsed values have distinct keys. -/
theorem distinct_of_loadReport {files : ReportFiles} {path : String} {decoded : DecodedReport}
    (hfiles : ParsesJson files) (h : loadReport files path none = .ok decoded) :
    DistinctFields decoded.metadata ∧
      ∀ row ∈ decoded.aggregateRows, Json.distinctKeys (.obj row) = true := by
  obtain ⟨value, admitted, hvalue, hadmitted, haggregates, -, hmetadata⟩ := admitted_of_loadReport h
  obtain ⟨payload, declared, aggregate, runs, rfl, hadmits⟩ :=
    decodeReportPayload_eq_ok.1 hadmitted
  have hpayload := hfiles path _ hvalue
  constructor
  · intro key hkey
    rw [JsonObject.get, hmetadata key hkey, hadmits.metadata, ← JsonObject.get]
    have hdeclared := Json.distinctKeys_get hpayload "metadata"
    rw [hadmits.declaredPart] at hdeclared
    exact Json.distinctKeys_get (Json.distinctKeys_set hdeclared "suite" rfl) key
  · rw [haggregates]
    apply distinctKeys_currentRows _ hadmits.aggregateRows
    intro row hrow
    have hitems := Json.distinctKeys_get hpayload "aggregate"
    rw [hadmits.aggregatePart, Json.distinctKeys, Json.distinctKeysItems_iff] at hitems
    exact hitems _ (List.mem_map_of_mem hrow)

/-- The reasons of the profile check of a report. -/
def profileReasons (decoded : DecodedReport) : List ValidityReason :=
  streamingProfileReasons (some decoded.suite) decoded.metadata decoded.aggregateRows

/-- A report with its rows in another order is built, too. -/
theorem reordered_of_reportOf {path : String} {decoded : DecodedReport} {report : BenchmarkReport}
    (hmetadata : DistinctFields decoded.metadata)
    (hrows : ∀ row ∈ decoded.aggregateRows, Json.distinctKeys (.obj row) = true)
    (h : reportOf path decoded = .ok report) {rows : List JsonObject}
    (hperm : decoded.aggregateRows.Perm rows) :
    ∃ other, reportOf path { decoded with aggregateRows := rows } = .ok other ∧
      Reordered report other ∧ SameVerdict report.validity other.validity ∧
      (profileReasons decoded = profileReasons { decoded with aggregateRows := rows } →
        SameReasons report.validity other.validity) := by
  rw [reportOf] at h
  obtain ⟨benchmarkRows, hbenchmarkRows, h⟩ := bind_eq_ok.1 h
  obtain ⟨validity, hvalidity, h⟩ := bind_eq_ok.1 h
  obtain ⟨timestamp, htimestamp, h⟩ := bind_eq_ok.1 h
  obtain rfl := pure_eq_ok.1 h
  obtain ⟨otherRows, hotherRows, hrowsPerm⟩ := mapM_perm hperm hbenchmarkRows
  obtain ⟨otherValidity, hotherValidity, hverdict, hreasons⟩ :=
    validitySummaryFromMetadata_reorders hmetadata hrows hperm hvalidity
  refine ⟨_, bind_eq_ok.2 ⟨otherRows, hotherRows, bind_eq_ok.2 ⟨otherValidity, hotherValidity,
    bind_eq_ok.2 ⟨timestamp, htimestamp, rfl⟩⟩⟩, ?_, hverdict, hreasons⟩
  exact ⟨rfl, rfl, rfl, rfl, rfl, rfl, hrowsPerm, hperm, hverdict.canCompare⟩

end Loaded

/-! ## The comparison of reordered reports -/

section RowOrder

/-- The text of a reason of the profile check. -/
def NamesProfile (text : String) : Prop :=
  ∃ status label : String, text = status ++ ":" ++ "streaming_profile_mismatch" ++ ":" ++ label

/-- Two lists of reasons are the same up to order, apart from those of the profile check. -/
def SameUpToProfile (reasons others : List String) : Prop :=
  ∃ common profile profile' : List String, reasons.Perm (profile ++ common) ∧
    others.Perm (profile' ++ common) ∧ ∀ text ∈ profile ++ profile', NamesProfile text

/-- The validities of two comparisons: the same verdicts, and the same reasons up to order. Where
the profile check of a report names another row, its reasons may differ. -/
structure SameValidity (sameOld sameNew : Prop) (validity other : ComparisonValidity) : Prop where
  oldStatus : validity.oldStatus = other.oldStatus
  newStatus : validity.newStatus = other.newStatus
  blocks : validity.blocksStrongConclusions = other.blocksStrongConclusions
  oldReasons : SameUpToProfile validity.oldReasons other.oldReasons
  newReasons : SameUpToProfile validity.newReasons other.newReasons
  oldSame : sameOld → validity.oldReasonCount = other.oldReasonCount ∧
    validity.oldReasons.Perm other.oldReasons
  newSame : sameNew → validity.newReasonCount = other.newReasonCount ∧
    validity.newReasons.Perm other.newReasons

/-- The text of a reason, from what the reason says. -/
theorem map_reasonSummary (reasons : List ValidityReason) :
    reasons.map reasonSummary = (reasons.map ValidityReason.said).map fun said =>
      said.1.name ++ ":" ++ said.2.1 ++ ":" ++ said.2.2.2 := by
  rw [List.map_map]
  rfl

/-- The texts of the reasons are the same, apart from those of the profile check. -/
theorem sameUpToProfile_of_verdict {summary other : ValiditySummary}
    (h : SameVerdict summary other) :
    SameUpToProfile (summary.reasons.map reasonSummary) (other.reasons.map reasonSummary) := by
  have hsplit : ∀ reasons : List ValidityReason, reasons.Perm
      (reasons.filter (fun reason => !ofOtherCheck reason) ++ reasons.filter ofOtherCheck) :=
    fun reasons => (List.perm_append_comm.trans
      (List.filter_append_perm ofOtherCheck reasons)).symm
  have hnames : ∀ (reasons : List ValidityReason),
      ∀ text ∈ (reasons.filter fun reason => !ofOtherCheck reason).map reasonSummary,
        NamesProfile text := by
    intro reasons text htext
    obtain ⟨reason, hreason, rfl⟩ := List.mem_map.1 htext
    have hcode := (List.mem_filter.1 hreason).2
    rw [ofOtherCheck, Bool.not_eq_true', decide_eq_false_iff_not, not_not] at hcode
    exact ⟨reason.status.name, reason.rowLabel, by rw [reasonSummary, hcode]⟩
  refine ⟨(summary.reasons.filter ofOtherCheck).map reasonSummary,
    (summary.reasons.filter fun reason => !ofOtherCheck reason).map reasonSummary,
    (other.reasons.filter fun reason => !ofOtherCheck reason).map reasonSummary, ?_, ?_, ?_⟩
  · have hperm := (hsplit summary.reasons).map reasonSummary
    rw [List.map_append] at hperm
    exact hperm
  · have hperm := (hsplit other.reasons).map reasonSummary
    rw [List.map_append] at hperm
    refine hperm.trans (List.Perm.append_left _ ?_)
    rw [map_reasonSummary, map_reasonSummary]
    exact h.reasons.symm.map _
  · rw [List.forall_mem_append]
    exact ⟨hnames _, hnames _⟩

/-- The validities of the two comparisons, from those of the reports. -/
theorem sameValidity_of_verdicts {oldReport newReport oldOther newOther : BenchmarkReport}
    {sameOld sameNew : Prop} (hold : SameVerdict oldReport.validity oldOther.validity)
    (hnew : SameVerdict newReport.validity newOther.validity)
    (holdReasons : sameOld → SameReasons oldReport.validity oldOther.validity)
    (hnewReasons : sameNew → SameReasons newReport.validity newOther.validity) :
    SameValidity sameOld sameNew (comparisonValidity oldReport newReport)
      (comparisonValidity oldOther newOther) := by
  have hsame : ∀ {summary other : ValiditySummary}, SameReasons summary other →
      summary.reasonCount = other.reasonCount ∧
        (summary.reasons.map reasonSummary).Perm (other.reasons.map reasonSummary) := by
    intro summary other h
    rw [map_reasonSummary, map_reasonSummary]
    exact ⟨h.reasonCount, h.reasons.map _⟩
  refine ⟨hold.status, hnew.status, ?_, sameUpToProfile_of_verdict hold,
    sameUpToProfile_of_verdict hnew, fun h => hsame (holdReasons h), fun h => hsame (hnewReasons h)⟩
  rw [comparisonValidity, comparisonValidity, blocksStrongConclusions, blocksStrongConclusions,
    hold.canCompare, hnew.canCompare]

variable [PyRuntime]

/-- The rows of two admitted reports in any other order: both reports are built again, the
comparison returns for both orders or for none, and it returns the same result with the same
validity. -/
theorem compareReports_rowOrder {R : Type} {expMeanLog : List ℚ → R} {files : ReportFiles}
    {oldPath newPath : String} {oldDecoded newDecoded : DecodedReport}
    {oldReport newReport : BenchmarkReport} {oldRows newRows : List JsonObject}
    (focusClient : String) (topN : ℤ) (comparisonAxis : Option String)
    (hfiles : ParsesJson files) (hold : loadReport files oldPath none = .ok oldDecoded)
    (hnew : loadReport files newPath none = .ok newDecoded)
    (holdReport : reportOf oldPath oldDecoded = .ok oldReport)
    (hnewReport : reportOf newPath newDecoded = .ok newReport)
    (holdRows : oldDecoded.aggregateRows.Perm oldRows)
    (hnewRows : newDecoded.aggregateRows.Perm newRows) :
    ∃ oldOther newOther,
      reportOf oldPath { oldDecoded with aggregateRows := oldRows } = .ok oldOther ∧
      reportOf newPath { newDecoded with aggregateRows := newRows } = .ok newOther ∧
      (Returns (compareReports expMeanLog oldReport newReport focusClient topN comparisonAxis) ↔
        Returns (compareReports expMeanLog oldOther newOther focusClient topN comparisonAxis)) ∧
      ∀ result result',
        compareReports expMeanLog oldReport newReport focusClient topN comparisonAxis =
          .ok result →
        compareReports expMeanLog oldOther newOther focusClient topN comparisonAxis =
          .ok result' →
        result' = { result with validity := result'.validity } ∧
          SameValidity
            (profileReasons oldDecoded =
              profileReasons { oldDecoded with aggregateRows := oldRows })
            (profileReasons newDecoded =
              profileReasons { newDecoded with aggregateRows := newRows })
            result.validity result'.validity := by
  obtain ⟨holdMetadata, holdDistinct⟩ := distinct_of_loadReport hfiles hold
  obtain ⟨hnewMetadata, hnewDistinct⟩ := distinct_of_loadReport hfiles hnew
  obtain ⟨oldOther, holdOther, holdReordered, holdVerdict, holdReasons⟩ :=
    reordered_of_reportOf holdMetadata holdDistinct holdReport holdRows
  obtain ⟨newOther, hnewOther, hnewReordered, hnewVerdict, hnewReasons⟩ :=
    reordered_of_reportOf hnewMetadata hnewDistinct hnewReport hnewRows
  -- a result of one order gives a result of the other, both ways round
  refine ⟨oldOther, newOther, holdOther, hnewOther, ⟨?_, ?_⟩, ?_⟩
  · rintro ⟨result, hresult⟩
    exact ⟨_, (compareReports_reordered holdReordered hnewReordered hresult).2⟩
  · rintro ⟨result, hresult⟩
    exact ⟨_, (compareReports_reordered holdReordered.symm hnewReordered.symm hresult).2⟩
  -- the results agree in all that is not the validity, and the validity up to the profile reasons
  · intro result result' hresult hresult'
    obtain ⟨hvalidity, hother⟩ := compareReports_reordered holdReordered hnewReordered hresult
    obtain rfl := Except.ok.inj (hresult'.symm.trans hother)
    refine ⟨rfl, ?_⟩
    rw [hvalidity]
    exact sameValidity_of_verdicts holdVerdict hnewVerdict holdReasons hnewReasons

end RowOrder

/-! ## Rows that disagree with the profile -/

section Example

/-- An aggregate row of a streaming report that declares no profile. -/
def undeclaredRow (case : String) : JsonObject :=
  [("mode", .str "sync"), ("client", .str "foghttp"), ("case", .str case), ("read", .str "bytes"),
    ("consume", .str "iter"), ("concurrency", .int 1), ("request_limit", .int 1),
    ("ok_streams_s_median", .int 5), ("ok_streams_total", .int 5), ("errors_total", .int 0),
    ("warmup_errors_total", .int 0)]

/-- A report of the lifecycle profile with two rows that do not declare it. -/
def profileFiles : ReportFiles where
  readJson _ := pure (.obj
    [("metadata", .obj [("suite", .str "response-streaming"), ("report_schema_version", .int 1),
        ("profile", .str "lifecycle"), ("timing_scope", .str "lifecycle-round-load-v1")]),
      ("aggregate", .arr [.obj (undeclaredRow "large"), .obj (undeclaredRow "small")]),
      ("runs", .arr [])])
  revalidateAttributionRows _ _ _ := pure []

/-- The reasons of the old report in the comparison of the report with its rows reversed, or in
order, with the report itself. -/
def oldReasonsOf [PyRuntime] (reversed : Bool) : Option (List String) :=
  match loadReport profileFiles "report.json" none with
  | .error _ => none
  | .ok decoded =>
      let rows := if reversed then decoded.aggregateRows.reverse else decoded.aggregateRows
      match reportOf "report.json" { decoded with aggregateRows := rows },
          reportOf "report.json" decoded with
      | .ok other, .ok report =>
          match compareReports (fun _ => (1 : ℚ)) other report "foghttp" 1 none with
          | .ok result => some result.validity.oldReasons
          | .error _ => none
      | _, _ => none

theorem exists_oldReasonsOf {reversed : Bool} {reasons : List String}
    (h : @oldReasonsOf plainRuntime reversed = some reasons) :
    ∃ decoded report other result,
      @loadReport plainRuntime profileFiles "report.json" none = .ok decoded ∧
      @reportOf plainRuntime "report.json" decoded = .ok report ∧
      @reportOf plainRuntime "report.json"
          { decoded with
            aggregateRows :=
              if reversed then decoded.aggregateRows.reverse else decoded.aggregateRows } =
        .ok other ∧
      @compareReports plainRuntime ℚ (fun _ => 1) other report "foghttp" 1 none = .ok result ∧
      result.validity.oldReasons = reasons := by
  unfold oldReasonsOf at h
  split at h
  case h_1 => exact nomatch h
  case h_2 decoded hdecoded =>
    dsimp only at h
    split at h
    case h_2 => exact nomatch h
    case h_1 other report hother hreport =>
      split at h
      case h_2 => exact nomatch h
      case h_1 result hresult =>
        exact ⟨decoded, report, other, result, hdecoded, hreport, hother, hresult,
          Option.some.inj h⟩

/-- The reason of the profile check names the row that comes first in the file. -/
theorem oldReasonsOf_rows :
    @oldReasonsOf plainRuntime false = some
        ["invalid:streaming_profile_mismatch:sync / foghttp / large / bytes / iter / 1 / 1",
          "invalid:lifecycle_cases_missing:-"] ∧
      @oldReasonsOf plainRuntime true = some
        ["invalid:streaming_profile_mismatch:sync / foghttp / small / bytes / iter / 1 / 1",
          "invalid:lifecycle_cases_missing:-"] := by
  decide +kernel

/-- The rows of one of two admitted reports in another order change the reasons of its validity. -/
theorem reasons_not_reordered :
    ∃ (_ : PyRuntime) (decoded : DecodedReport) (rows : List JsonObject)
      (report other : BenchmarkReport) (result result' : ComparisonResult ℚ),
      loadReport profileFiles "report.json" none = .ok decoded ∧
      decoded.aggregateRows.Perm rows ∧
      reportOf "report.json" decoded = .ok report ∧
      reportOf "report.json" { decoded with aggregateRows := rows } = .ok other ∧
      compareReports (fun _ => 1) report report "foghttp" 1 none = .ok result ∧
      compareReports (fun _ => 1) other report "foghttp" 1 none = .ok result' ∧
      ¬ result.validity.oldReasons.Perm result'.validity.oldReasons := by
  obtain ⟨decoded, report, same, result, hdecoded, hreport, hsame, hresult, hreasons⟩ :=
    exists_oldReasonsOf oldReasonsOf_rows.1
  obtain ⟨decoded', report', other, result', hdecoded', hreport', hother, hresult', hreasons'⟩ :=
    exists_oldReasonsOf oldReasonsOf_rows.2
  obtain rfl := Except.ok.inj (hdecoded.symm.trans hdecoded')
  obtain rfl := Except.ok.inj (hreport.symm.trans hreport')
  obtain rfl := Except.ok.inj (hreport.symm.trans hsame)
  refine ⟨plainRuntime, decoded, _, report, other, result, result', hdecoded,
    (List.reverse_perm _).symm, hreport, hother, hresult, hresult', ?_⟩
  rw [hreasons, hreasons']
  decide

/-- The reversed report is compared with the original: the same rows are matched. -/
theorem compareReports_rowOrder_reversed :
    ∃ (_ : PyRuntime) (result result' : ComparisonResult ℚ),
      result' = { result with validity := result'.validity } ∧
      SameUpToProfile result.validity.oldReasons result'.validity.oldReasons ∧
      result.overall.rows = result'.overall.rows := by
  have hfiles : ParsesJson profileFiles := by
    intro path value hvalue
    obtain rfl := pure_eq_ok.1 hvalue
    decide
  obtain ⟨decoded, report, same, result, hdecoded, hreport, hsame, hresult, -⟩ :=
    exists_oldReasonsOf oldReasonsOf_rows.1
  obtain rfl := Except.ok.inj (hreport.symm.trans hsame)
  obtain ⟨oldOther, newOther, -, -, hreturns, hcompared⟩ :=
    @compareReports_rowOrder plainRuntime ℚ (fun _ => 1) _ _ _ _ _ _ _ _ _ "foghttp" 1 none hfiles
      hdecoded hdecoded hreport hreport (List.reverse_perm decoded.aggregateRows).symm (.refl _)
  obtain ⟨result', hresult'⟩ := hreturns.1 ⟨result, hresult⟩
  obtain ⟨htables, hvalidity⟩ := hcompared result result' hresult hresult'
  refine ⟨plainRuntime, result, result', htables, hvalidity.oldReasons, ?_⟩
  rw [htables]

end Example

end FogHttpBenchmark.Compare
