import FogHttpBenchmark.Compare.Analysis
import FogHttpBenchmark.Library.Groups

/-!
# The rows that two reports share

A comparison is made of the rows that both reports have for the focus client, in the order of
their identities. `compareReports_eq_ok` takes `compare_reports` apart: its checks, and the result
as a function of the shared rows.
-/

set_option autoImplicit false

namespace FogHttpBenchmark.Compare

open Library Library.Checked Python ReportSchema Validity Isolation MeasurementTiming

/-! ## Canonical rows -/

section Canonical

variable [PyRuntime]

/-- The loop returns exactly when the remaining identities are distinct and none of them has been
seen. -/
theorem validateUniqueIdentities_eq_ok {source : ℕ → String} {identities : List (List String)} :
    ∀ {index : ℕ} {seen : List (List String × String)},
      validateUniqueIdentities source index seen identities = .ok () ↔
        identities.Nodup ∧ ∀ identity ∈ identities, identity ∉ Dict.keys seen := by
  induction identities with
  | nil =>
      intro index seen
      simp [validateUniqueIdentities]
  | cons identity rest ih =>
      intro index seen
      rw [validateUniqueIdentities, List.nodup_cons, List.forall_mem_cons]
      cases hseen : Dict.get? seen identity with
      -- the identity was seen before
      | some first =>
          have hmem : identity ∈ Dict.keys seen := by
            by_contra hnot
            rw [Dict.get?, Dict.lookup_eq_none_iff.2 hnot] at hseen
            exact nomatch hseen
          constructor
          · intro h
            exact absurd h throw_ne_ok
          · rintro ⟨-, hfresh, -⟩
            exact absurd hmem hfresh
      -- it is new, and seen by the rest
      | none =>
          have hfresh : identity ∉ Dict.keys seen := Dict.lookup_eq_none_iff.1 hseen
          dsimp only
          rw [ih, Dict.keys_set, if_neg hfresh]
          constructor
          · rintro ⟨hnodup, hrest⟩
            refine ⟨⟨fun hmem => hrest identity hmem (by simp), hnodup⟩, hfresh, ?_⟩
            intro other hother hold
            exact hrest other hother (List.mem_append_left _ hold)
          · rintro ⟨⟨hnew, hnodup⟩, -, hrest⟩
            refine ⟨hnodup, ?_⟩
            intro other hother hmem
            rcases List.mem_append.1 hmem with hold | hlast
            · exact hrest other hother hold
            · rw [List.mem_singleton] at hlast
              exact hnew (hlast ▸ hother)

omit [PyRuntime] in
/-- The rows of a report in the order of their identities. -/
def sortedRows (report : BenchmarkReport) : List BenchmarkRow :=
  report.rows.insertionSort fun a b => a.identity ≤ b.identity

/-- The identities of a report are distinct. -/
def UniqueRows (report : BenchmarkReport) : Prop :=
  (report.rows.map BenchmarkRow.identity).Nodup

theorem canonicalRows_eq_ok {report : BenchmarkReport} {rows : List BenchmarkRow} :
    canonicalRows report = .ok rows ↔ UniqueRows report ∧ rows = sortedRows report := by
  rw [canonicalRows, bind_eq_ok]
  constructor
  · rintro ⟨⟨⟩, hunique, hrows⟩
    exact ⟨(validateUniqueIdentities_eq_ok.1 hunique).1, (pure_eq_ok.1 hrows).symm⟩
  · rintro ⟨hunique, rfl⟩
    exact ⟨⟨⟩, validateUniqueIdentities_eq_ok.2 ⟨hunique, by simp [Dict.keys]⟩, rfl⟩

omit [PyRuntime] in
theorem sortedRows_perm (report : BenchmarkReport) : (sortedRows report).Perm report.rows :=
  List.perm_insertionSort _ _

/-- The measured rows of the focus client under their identities. -/
def focusRows (report : BenchmarkReport) (focusClient : String) :
    List (List String × BenchmarkRow) :=
  ((sortedRows report).filter fun row => row.client = focusClient && row.primaryValue.isSome).map
    fun row => (row.identity, row)

theorem focusRowsByIdentity_eq_ok {report : BenchmarkReport} {focusClient : String}
    {rows : List (List String × BenchmarkRow)} :
    focusRowsByIdentity report focusClient = .ok rows ↔
      UniqueRows report ∧ rows = focusRows report focusClient := by
  rw [focusRowsByIdentity, bind_eq_ok]
  simp only [canonicalRows_eq_ok, pure_eq_ok]
  constructor
  · rintro ⟨sorted, ⟨hunique, rfl⟩, rfl⟩
    exact ⟨hunique, rfl⟩
  · rintro ⟨hunique, rfl⟩
    exact ⟨_, ⟨hunique, rfl⟩, rfl⟩

omit [PyRuntime] in
theorem keys_focusRows (report : BenchmarkReport) (focusClient : String) :
    Dict.keys (focusRows report focusClient) =
      ((sortedRows report).filter fun row =>
        row.client = focusClient && row.primaryValue.isSome).map BenchmarkRow.identity := by
  rw [focusRows, Dict.keys, List.map_map]
  rfl

omit [PyRuntime] in
theorem nodup_keys_focusRows {report : BenchmarkReport} (h : UniqueRows report)
    (focusClient : String) : (Dict.keys (focusRows report focusClient)).Nodup := by
  rw [keys_focusRows]
  have hsorted : ((sortedRows report).map BenchmarkRow.identity).Nodup :=
    ((sortedRows_perm report).map _).nodup_iff.2 h
  exact hsorted.sublist (List.filter_sublist.map _)

omit [PyRuntime] in
theorem mem_focusRows {report : BenchmarkReport} {focusClient : String} {identity : List String}
    {row : BenchmarkRow} :
    (identity, row) ∈ focusRows report focusClient ↔ row ∈ report.rows ∧
      row.client = focusClient ∧ row.primaryValue.isSome = true ∧ row.identity = identity := by
  rw [focusRows, List.mem_map]
  simp only [List.mem_filter, (sortedRows_perm report).mem_iff, Bool.and_eq_true,
    decide_eq_true_eq, Prod.mk.injEq]
  constructor
  · rintro ⟨other, ⟨hmem, hclient, hprimary⟩, hidentity, rfl⟩
    exact ⟨hmem, hclient, hprimary, hidentity⟩
  · rintro ⟨hmem, hclient, hprimary, hidentity⟩
    exact ⟨row, ⟨hmem, hclient, hprimary⟩, hidentity, rfl⟩

end Canonical

/-! ## Shared rows -/

section Shared

theorem mem_sharedRows {oldRows newRows : List (List String × BenchmarkRow)}
    {oldRow newRow : BenchmarkRow} (h : (oldRow, newRow) ∈ sharedRows oldRows newRows) :
    ∃ identity, (identity, oldRow) ∈ oldRows ∧ (identity, newRow) ∈ newRows := by
  rw [sharedRows, List.mem_filterMap] at h
  obtain ⟨identity, -, hlookups⟩ := h
  split at hlookups
  case h_1 old new hold hnew =>
    rw [Option.some.injEq, Prod.mk.injEq] at hlookups
    obtain ⟨rfl, rfl⟩ := hlookups
    exact ⟨identity, Dict.mem_of_lookup hold, Dict.mem_of_lookup hnew⟩
  case h_2 => exact nomatch hlookups

/-- The shared identities are those of both dictionaries in order, from whichever of them the
loop takes its keys. -/
theorem sharedKeys_swap {oldRows newRows : List (List String × BenchmarkRow)}
    (hold : (Dict.keys oldRows).Nodup) (hnew : (Dict.keys newRows).Nodup) :
    ((Dict.keys newRows).insertionSort (· ≤ ·)).filter (· ∈ Dict.keys oldRows) =
      ((Dict.keys oldRows).insertionSort (· ≤ ·)).filter (· ∈ Dict.keys newRows) := by
  have hsorted : ∀ keys : List (List String),
      (keys.insertionSort (· ≤ ·)).Pairwise (· ≤ ·) := fun keys =>
    List.pairwise_insertionSort _ _
  have hnodup : ∀ {keys : List (List String)}, keys.Nodup → (keys.insertionSort (· ≤ ·)).Nodup :=
    fun h => (List.perm_insertionSort _ _).nodup_iff.2 h
  have hantisymm : ∀ a b : List String, a ≤ b → b ≤ a → a = b := fun a b => le_antisymm
  apply List.Perm.eq_of_pairwise (fun a b _ _ => hantisymm a b)
    ((hsorted _).sublist List.filter_sublist) ((hsorted _).sublist List.filter_sublist)
  rw [List.perm_ext_iff_of_nodup ((hnodup hnew).filter _) ((hnodup hold).filter _)]
  intro key
  simp only [List.mem_filter, List.mem_insertionSort, decide_eq_true_eq]
  exact and_comm

/-- Exchanging the reports exchanges the rows of every shared pair. -/
theorem sharedRows_swap {oldRows newRows : List (List String × BenchmarkRow)}
    (hold : (Dict.keys oldRows).Nodup) (hnew : (Dict.keys newRows).Nodup) :
    sharedRows newRows oldRows = (sharedRows oldRows newRows).map Prod.swap := by
  -- keys that the other dictionary does not have contribute nothing
  have hfilter : ∀ oldRows newRows : List (List String × BenchmarkRow),
      sharedRows oldRows newRows =
        (((Dict.keys oldRows).insertionSort (· ≤ ·)).filter (· ∈ Dict.keys newRows)).filterMap
          fun key => (Dict.get? oldRows key).bind fun oldRow =>
            (Dict.get? newRows key).map fun newRow => (oldRow, newRow) := by
    intro oldRows newRows
    rw [sharedRows, List.filterMap_filter]
    refine List.filterMap_congr fun key _ => ?_
    by_cases hkey : key ∈ Dict.keys newRows
    · rw [if_pos (decide_eq_true hkey)]
      cases Dict.get? oldRows key <;> cases Dict.get? newRows key <;> rfl
    · have hnone : Dict.get? newRows key = none := Dict.lookup_eq_none_iff.2 hkey
      rw [hnone]
      cases Dict.get? oldRows key <;> simp
  rw [hfilter newRows oldRows, hfilter oldRows newRows, sharedKeys_swap hold hnew,
    List.map_filterMap]
  refine List.filterMap_congr fun key _ => ?_
  cases Dict.get? oldRows key <;> cases Dict.get? newRows key <;> rfl

end Shared

/-! ## The comparison, part by part -/

section Parts

/-- The comparison of two rows that are both measured. -/
def rowComparison (rows : BenchmarkRow × BenchmarkRow) : RowComparison where
  row := rows.2
  oldPrimary := rows.1.primaryValue.getD 0
  newPrimary := rows.2.primaryValue.getD 0
  primaryRatio := safeRatio (rows.2.primaryValue.getD 0) (rows.1.primaryValue.getD 0)
  oldP95Ms := rows.1.p95Ms
  newP95Ms := rows.2.p95Ms
  p95Ratio := optionalRatio rows.2.p95Ms rows.1.p95Ms
  oldP99Ms := rows.1.p99Ms
  newP99Ms := rows.2.p99Ms
  p99Ratio := optionalRatio rows.2.p99Ms rows.1.p99Ms
  oldErrorsTotal := rows.1.errorsTotal
  newErrorsTotal := rows.2.errorsTotal
  oldErrorRatePercent := rows.1.errorRatePercent
  newErrorRatePercent := rows.2.errorRatePercent

theorem compareRow_eq {oldRow newRow : BenchmarkRow} (hold : oldRow.primaryValue.isSome = true)
    (hnew : newRow.primaryValue.isSome = true) :
    compareRow oldRow newRow = .ok (rowComparison (oldRow, newRow)) := by
  obtain ⟨old, hold⟩ := Option.isSome_iff_exists.1 hold
  obtain ⟨new, hnew⟩ := Option.isSome_iff_exists.1 hnew
  rw [compareRow, rowComparison, hold, hnew]
  rfl

/-- The pairs of measured rows of the focus client that both reports have. -/
def sharedPairs (oldReport newReport : BenchmarkReport) (focusClient : String) :
    List (BenchmarkRow × BenchmarkRow) :=
  sharedRows (focusRows oldReport focusClient) (focusRows newReport focusClient)

/-- What a shared pair consists of. -/
theorem mem_sharedPairs {oldReport newReport : BenchmarkReport} {focusClient : String}
    {oldRow newRow : BenchmarkRow}
    (h : (oldRow, newRow) ∈ sharedPairs oldReport newReport focusClient) :
    oldRow ∈ oldReport.rows ∧ newRow ∈ newReport.rows ∧ oldRow.identity = newRow.identity ∧
      oldRow.primaryValue.isSome = true ∧ newRow.primaryValue.isSome = true := by
  obtain ⟨identity, hold, hnew⟩ := mem_sharedRows h
  obtain ⟨holdRow, -, holdPrimary, holdIdentity⟩ := mem_focusRows.1 hold
  obtain ⟨hnewRow, -, hnewPrimary, hnewIdentity⟩ := mem_focusRows.1 hnew
  exact ⟨holdRow, hnewRow, holdIdentity.trans hnewIdentity.symm, holdPrimary, hnewPrimary⟩

/-- The comparisons of the shared rows. -/
def rowComparisons (oldReport newReport : BenchmarkReport) (focusClient : String) :
    List RowComparison :=
  (sharedPairs oldReport newReport focusClient).map rowComparison

theorem mapM_compareRow (oldReport newReport : BenchmarkReport) (focusClient : String) :
    (sharedPairs oldReport newReport focusClient).mapM (fun rows => compareRow rows.1 rows.2) =
      .ok (rowComparisons oldReport newReport focusClient) := by
  rw [rowComparisons, mapM_eq_ok, List.forall₂_map_right_iff, List.forall₂_same]
  rintro ⟨oldRow, newRow⟩ hmem
  obtain ⟨-, -, -, hold, hnew⟩ := mem_sharedPairs hmem
  exact compareRow_eq hold hnew

/-- The comparisons with the highest and with the lowest ratio first; equal ratios stay in
order. -/
def improvements (comparisons : List RowComparison) : List RowComparison :=
  comparisons.insertionSort fun a b => ¬ PyFloat.lt a.primaryRatio b.primaryRatio = true

def regressions (comparisons : List RowComparison) : List RowComparison :=
  comparisons.insertionSort fun a b => ¬ PyFloat.lt b.primaryRatio a.primaryRatio = true

variable [PyRuntime]

/-- The result of a comparison, given the win tables and the rows with errors. -/
def comparisonOf {R : Type} (expMeanLog : List ℚ → R) (oldReport newReport : BenchmarkReport)
    (focusClient : String) (topN : ℤ) (comparisonAxis : Option String)
    (wins : Option (WinsComparison R)) (newErrorRows : List ErrorRow) : ComparisonResult R :=
  let oldRows := focusRows oldReport focusClient
  let newRows := focusRows newReport focusClient
  let comparisons := rowComparisons oldReport newReport focusClient
  { metadata := comparisonMetadata oldReport newReport focusClient comparisonAxis
    validity := comparisonValidity oldReport newReport
    overall := summarizeSegment expMeanLog "overall" comparisons
    byMode := summarizeBy expMeanLog (fun item => item.row.mode) comparisons
    byScenario := summarizeBy expMeanLog (fun item => item.row.scenario) comparisons
    wins := wins
    topImprovements := firstValues (improvements comparisons) topN
    topRegressions := firstValues (regressions comparisons) topN
    newErrorRows := newErrorRows
    resourceSummary := resourceSummary (oldRows.map Prod.snd) (newRows.map Prod.snd) oldReport
      newReport
    unmatchedOldRows := unmatchedRows oldRows newRows
    unmatchedNewRows := unmatchedRows newRows oldRows
    resourceCoverage :=
      (sharedPairs oldReport newReport focusClient).map resourceCoverageComparison }

/-- A comparison returns exactly when the reports are comparable, have unique rows and share one,
and the win tables and the rows with errors can be read. -/
theorem compareReports_eq_ok {R : Type} {expMeanLog : List ℚ → R}
    {oldReport newReport : BenchmarkReport} {focusClient : String} {topN : ℤ}
    {comparisonAxis : Option String} {result : ComparisonResult R} :
    compareReports expMeanLog oldReport newReport focusClient topN comparisonAxis = .ok result ↔
      validateComparableReports oldReport newReport comparisonAxis = .ok () ∧
      UniqueRows oldReport ∧ UniqueRows newReport ∧
      sharedPairs oldReport newReport focusClient ≠ [] ∧
      ∃ wins newErrorRows, permittedWins expMeanLog oldReport newReport focusClient = .ok wins ∧
        errorRows newReport = .ok newErrorRows ∧
        result = comparisonOf expMeanLog oldReport newReport focusClient topN comparisonAxis wins
          newErrorRows := by
  simp only [compareReports, bind_eq_ok, focusRowsByIdentity_eq_ok, pure_eq_ok]
  constructor
  · rintro ⟨⟨⟩, hcomparable, _, ⟨hold, rfl⟩, _, ⟨hnew, rfl⟩, ⟨⟩, hshared, comparisons,
      hcomparisons, wins, hwins, errors, herrors, rfl⟩
    have hcomparisons := hcomparisons.symm.trans (mapM_compareRow oldReport newReport focusClient)
    obtain rfl := Except.ok.inj hcomparisons
    refine ⟨hcomparable, hold, hnew, ?_, wins, errors, hwins, herrors, rfl⟩
    have hempty := raiseIf_eq_ok.1 hshared
    rw [List.isEmpty_eq_false_iff] at hempty
    exact hempty
  · rintro ⟨hcomparable, hold, hnew, hshared, wins, errors, hwins, herrors, rfl⟩
    refine ⟨⟨⟩, hcomparable, _, ⟨hold, rfl⟩, _, ⟨hnew, rfl⟩, ⟨⟩, ?_, _,
      mapM_compareRow oldReport newReport focusClient, wins, hwins, errors, herrors, rfl⟩
    rw [raiseIf_eq_ok, List.isEmpty_eq_false_iff]
    exact hshared

end Parts

end FogHttpBenchmark.Compare
