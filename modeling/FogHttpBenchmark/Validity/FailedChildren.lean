import FogHttpBenchmark.Validity.Conversions

/-!
# Failed children

The reader admits a child of a lifecycle report without a return code, as the diagnostic of a
child that failed. The classification reads a missing code as `0`. `failed_children_invalidate_iff`
states exactly when a report with a failed or reportless child is invalid.
-/

set_option autoImplicit false

namespace FogHttpBenchmark.Validity

open Library Library.Checked Python ReportSchema

variable [PyRuntime]

/-! ## Diagnostics of children -/

section Diagnostics

/-- A missing value is read as `0`, a value `null` as well. -/
theorem intField_of_null {row : JsonObject} {key : String} (h : row.get key = .null) :
    intField row key = .ok 0 := by
  rw [intField, JsonObject.getOr]
  rw [JsonObject.get] at h
  cases hlookup : row.lookup key with
  | none => rfl
  | some value =>
      rw [hlookup] at h
      obtain rfl : value = .null := h
      rfl

/-- The child did not end with the return code `0`, or it wrote no report. -/
def ChildFailed (child : JsonObject) : Prop :=
  child.get "returncode" ≠ .int 0 ∨ hasReportPath child = false

/-- The failure shows in the diagnostic: its return code is a number other than `0`, or it has no
report path. -/
def ShowsFailure (child : JsonObject) : Prop :=
  (child.get "returncode" ≠ .null ∧ child.get "returncode" ≠ .int 0) ∨ hasReportPath child = false

omit [PyRuntime] in
/-- Every child of admitted isolation metadata has passed the check of its diagnostic. -/
theorem validateChildDiagnostic_of_admitted {metadata : JsonObject}
    (h : validateIsolationMetadata metadata = .ok ()) {child : JsonObject}
    (hchild : child ∈ isolationChildren metadata) :
    ∃ path research, validateChildDiagnostic child path research = .ok () := by
  obtain ⟨isolation, items, hisolation, hitems, hmem⟩ := mem_isolationChildren.1 hchild
  have hhas : metadata.has "isolation" = true :=
    JsonObject.has_of_get_ne_null (by rw [hisolation]; exact Json.noConfusion)
  have hhasChildren : JsonObject.has isolation "children" = true :=
    JsonObject.has_of_get_ne_null (by rw [hitems]; exact Json.noConfusion)
  rw [validateIsolationMetadata, if_pos hhas, bind_eq_ok] at h
  obtain ⟨read, hread, h⟩ := h
  rw [requireObject_eq_ok, hisolation] at hread
  cases hread
  rw [if_pos hhasChildren, bind_eq_ok] at h
  obtain ⟨rows, hrows, h⟩ := h
  rw [requireRows_eq_ok, hitems] at hrows
  cases hrows
  obtain ⟨row, hrow, hobject⟩ := List.mem_map.1 hmem
  cases hobject
  obtain ⟨index, hindex⟩ := List.mem_iff_getElem?.1 hrow
  split at h
  case isTrue =>
    obtain ⟨count, -, h⟩ := bind_eq_ok.1 h
    obtain ⟨-, h⟩ := seq_eq_ok.1 h
    exact ⟨_, _, forIndexed_eq_ok.1 h index child hindex⟩
  case isFalse => exact ⟨_, _, forIndexed_eq_ok.1 h index child hindex⟩

omit [PyRuntime] in
/-- The return code of an admitted child is an integer or missing. -/
theorem returncode_of_admitted {metadata : JsonObject}
    (h : validateIsolationMetadata metadata = .ok ()) {child : JsonObject}
    (hchild : child ∈ isolationChildren metadata) :
    child.get "returncode" = .null ∨ ∃ n, child.get "returncode" = .int n := by
  obtain ⟨path, research, hdiagnostic⟩ := validateChildDiagnostic_of_admitted h hchild
  rw [validateChildDiagnostic] at hdiagnostic
  obtain ⟨hcodes, -⟩ := seq_eq_ok.1 hdiagnostic
  have hcode := forM_eq_ok.1 hcodes "returncode" List.mem_cons_self
  rw [validateReturncode, if_neg (by simp)] at hcode
  split at hcode
  case isTrue hnone =>
    exact Or.inl (Json.isNone_iff.1 (Bool.and_eq_true_iff.1 hnone).2)
  case isFalse =>
    rw [raiseIf_eq_ok, Option.isNone_eq_false_iff, Option.isSome_iff_exists] at hcode
    obtain ⟨n, hn⟩ := hcode
    exact Or.inr ⟨n, Json.asInt?_eq_some.1 hn⟩

/-- The reasons of a child whose return code is an integer or missing: one if it shows a failure,
else those of its provenance. -/
theorem childReasons_invalidates_iff {metadata child : JsonObject} {reasons : List ValidityReason}
    (hcode : child.get "returncode" = .null ∨ ∃ n, child.get "returncode" = .int n)
    (h : childReasons metadata child = .ok reasons) :
    Invalidates reasons ↔ ShowsFailure child ∨
      ∃ own, childProvenanceReasons metadata child = .ok own ∧ Invalidates own := by
  have hfailed : ∀ message, childReason child "isolated_child_failed" message = .ok reasons →
      Invalidates reasons := by
    intro message hreason
    obtain ⟨reference, -, hreason⟩ := bind_eq_ok.1 hreason
    rw [pure_eq_ok] at hreason
    subst hreason
    exact ⟨_, List.mem_singleton_self _, rfl⟩
  obtain ⟨returncode, hread, h⟩ := bind_eq_ok.1 h
  -- A missing code is read as `0`.
  have hzero : returncode = 0 ↔
      ¬ (child.get "returncode" ≠ .null ∧ child.get "returncode" ≠ .int 0) := by
    rcases hcode with hnull | ⟨n, hn⟩
    · rw [intField_of_null hnull] at hread
      cases hread
      simp [hnull]
    · rw [intField_of_int hn] at hread
      cases hread
      simp [hn]
  split at h
  case isTrue hends =>
    have hshows : ¬ ShowsFailure child := by
      rintro (hnonzero | hreport)
      · exact hzero.1 hends.1 hnonzero
      · exact Bool.false_ne_true (hreport.symm.trans hends.2)
    constructor
    · intro hinvalid
      exact Or.inr ⟨reasons, h, hinvalid⟩
    · rintro (hfailure | ⟨own, hown, hinvalid⟩)
      · exact absurd hfailure hshows
      · rw [h] at hown
        cases hown
        exact hinvalid
  case isFalse hends =>
    have hshows : ShowsFailure child := by
      by_contra hnot
      rw [ShowsFailure, not_or] at hnot
      exact hends ⟨hzero.2 hnot.1, Bool.eq_true_of_not_eq_false hnot.2⟩
    exact iff_of_true (hfailed _ h) (Or.inl hshows)

end Diagnostics

/-! ## Reports with failed children -/

section FailedChildren

/-- A check besides that of the return codes and report paths makes the report invalid. -/
def OtherwiseInvalid (suite : Option Suite) (metadata : JsonObject) (rows : List JsonObject) :
    Prop :=
  (∃ child ∈ isolationChildren metadata, ∃ reasons,
      childProvenanceReasons metadata child = .ok reasons ∧ Invalidates reasons) ∨
    Invalidates (streamingProfileReasons suite metadata rows) ∨
    (∃ reasons, attributionReportReasons metadata rows = .ok reasons ∧ Invalidates reasons) ∨
    (∃ reasons, lifecycleReportReasons metadata rows = .ok reasons ∧ Invalidates reasons) ∨
    ∃ row ∈ rows, ∃ reasons, rowReasons suite row = .ok reasons ∧ Invalidates reasons

/-- A report with admitted isolation metadata is invalid exactly where the failure of a child
shows in its diagnostic, or another check makes it invalid. -/
theorem classify_invalid_iff {suite : Option Suite} {metadata : JsonObject}
    {rows : List JsonObject} {summary : ValiditySummary}
    (hadmitted : validateIsolationMetadata metadata = .ok ())
    (hsummary : classifyReportValidity suite rows metadata = .ok summary) :
    (summary.status = .invalid ∧ summary.canCompare = false) ↔
      (∃ child ∈ isolationChildren metadata, ShowsFailure child) ∨
        OtherwiseInvalid suite metadata rows := by
  obtain ⟨ofMetadata, ofRows, hmetadata, hrows, rfl⟩ := classifyReportValidity_eq_ok.1 hsummary
  simp only [metadataReasons, bind_eq_ok, pure_eq_ok] at hmetadata
  obtain ⟨ofChildren, hchildren, attribution, hattribution, lifecycle, hlifecycle, rfl⟩ := hmetadata
  rw [childProcessReasons, bind_eq_ok] at hchildren
  obtain ⟨perChild, hperChild, hchildren⟩ := hchildren
  rw [pure_eq_ok] at hchildren
  subst hchildren
  -- the reasons of the children are invalid where one child shows its failure or its provenance
  have hofChildren : Invalidates perChild.flatten ↔
      (∃ child ∈ isolationChildren metadata, ShowsFailure child) ∨
        ∃ child ∈ isolationChildren metadata, ∃ own,
          childProvenanceReasons metadata child = .ok own ∧ Invalidates own := by
    rw [invalidates_mapM hperChild]
    constructor
    · rintro ⟨child, hchild, own, hown, hinvalid⟩
      rcases (childReasons_invalidates_iff (returncode_of_admitted hadmitted hchild) hown).1
        hinvalid with hshows | hprovenance
      · exact Or.inl ⟨child, hchild, hshows⟩
      · exact Or.inr ⟨child, hchild, hprovenance⟩
    · have hcause : ∀ child ∈ isolationChildren metadata,
          (ShowsFailure child ∨ ∃ own, childProvenanceReasons metadata child = .ok own ∧
            Invalidates own) →
          ∃ child ∈ isolationChildren metadata, ∃ own, childReasons metadata child = .ok own ∧
            Invalidates own := by
        intro child hchild hcause
        obtain ⟨own, -, hown⟩ := exists_of_mapM_eq_ok hperChild hchild
        exact ⟨child, hchild, own, hown, (childReasons_invalidates_iff
          (returncode_of_admitted hadmitted hchild) hown).2 hcause⟩
      rintro (⟨child, hchild, hshows⟩ | ⟨child, hchild, hprovenance⟩)
      · exact hcause child hchild (Or.inl hshows)
      · exact hcause child hchild (Or.inr hprovenance)
  -- the other checks, each as its own verdict
  have hofAttribution : Invalidates attribution ↔
      ∃ reasons, attributionReportReasons metadata rows = .ok reasons ∧ Invalidates reasons := by
    simp [hattribution]
  have hofLifecycle : Invalidates lifecycle ↔
      ∃ reasons, lifecycleReportReasons metadata rows = .ok reasons ∧ Invalidates reasons := by
    simp [hlifecycle]
  rw [summaryOf_invalid_iff, invalidates_append, invalidates_append, invalidates_append,
    invalidates_append, hofChildren, hofAttribution, hofLifecycle, invalidates_mapM hrows,
    OtherwiseInvalid]
  simp only [or_assoc]

/-- A failed child makes the report invalid exactly where the classification returns and the
failure of a child shows, or another check makes the report invalid: a child without a return
code, which only a lifecycle report may have, passes for one that ended with `0`. The first part
is about every verdict. In the second the floats are finite, as the reader has checked before it
admits the metadata, and the classification returns where no integer that it converts to a float
is beyond the range of the floats. -/
theorem failed_children_invalidate_iff {suite : Option Suite} {metadata : JsonObject}
    {rows : List JsonObject} (hadmitted : validateIsolationMetadata metadata = .ok ()) :
    (∀ summary, classifyReportValidity suite rows metadata = .ok summary →
      (((∃ child ∈ isolationChildren metadata, ChildFailed child) →
          summary.status = .invalid ∧ summary.canCompare = false) ↔
        ((∃ child ∈ isolationChildren metadata, ChildFailed child) →
          (∃ child ∈ isolationChildren metadata, ShowsFailure child) ∨
            OtherwiseInvalid suite metadata rows))) ∧
      ((Json.obj metadata).isFinite = true → (∀ row ∈ rows, (Json.obj row).isFinite = true) →
        (((∃ child ∈ isolationChildren metadata, ChildFailed child) →
            ∃ summary, classifyReportValidity suite rows metadata = .ok summary ∧
              summary.status = .invalid ∧ summary.canCompare = false) ↔
          ((∃ child ∈ isolationChildren metadata, ChildFailed child) →
            reportConvertible suite metadata rows = true ∧
              ((∃ child ∈ isolationChildren metadata, ShowsFailure child) ∨
                OtherwiseInvalid suite metadata rows)))) := by
  constructor
  · intro summary hsummary
    exact imp_congr_right fun _ => classify_invalid_iff hadmitted hsummary
  · intro hmetadata hrows
    apply imp_congr_right
    intro _
    rw [← classifyReportValidity_returns_iff hmetadata hrows]
    constructor
    · rintro ⟨summary, hsummary, hinvalid⟩
      exact ⟨⟨summary, hsummary⟩, (classify_invalid_iff hadmitted hsummary).1 hinvalid⟩
    · rintro ⟨⟨summary, hsummary⟩, hcause⟩
      exact ⟨summary, hsummary, (classify_invalid_iff hadmitted hsummary).2 hcause⟩

/-- Metadata of a lifecycle report without cases and with one child. -/
def lifecycleMetadata (returncode : Json) : JsonObject :=
  [("suite", .str "response-streaming"), ("profile", .str "lifecycle"),
    ("lifecycle", .obj [("cases", .arr []), ("expected_cases", .int 0),
      ("plan_matches", .bool true)]),
    ("isolation", .obj [("mode", .str "per-lifecycle-case"),
      ("children", .arr [.obj [("sequence", .int 1), ("client", .str "httpx"),
        ("scenario", .str "bytes-1m"), ("returncode", returncode),
        ("report_path", .str "001/report.json")]])])]

omit [PyRuntime] in
/-- A child without a return code leaves the report valid and comparable. -/
theorem missing_returncode_passes :
    ∃ (_ : PyRuntime) (summary : ValiditySummary),
      validateIsolationMetadata (lifecycleMetadata .null) = .ok () ∧
      (∃ child ∈ isolationChildren (lifecycleMetadata .null), ChildFailed child) ∧
      classifyReportValidity (some .responseStreaming) [] (lifecycleMetadata .null) = .ok summary ∧
      ¬ (summary.status = .invalid ∧ summary.canCompare = false) := by
  refine ⟨plainRuntime, summaryOf [], ?_, ?_, ?_, ?_⟩
  · decide
  · exact ⟨_, List.mem_singleton_self _, Or.inl Json.noConfusion⟩
  · rfl
  · exact fun h => ValidityStatus.noConfusion h.1

omit [PyRuntime] in
/-- A child that was killed makes the report invalid. -/
theorem failed_children_invalidate_killed :
    ∃ (_ : PyRuntime) (summary : ValiditySummary),
      classifyReportValidity (some .responseStreaming) [] (lifecycleMetadata (.int (-9))) =
        .ok summary ∧ summary.status = .invalid ∧ summary.canCompare = false := by
  have hadmitted : validateIsolationMetadata (lifecycleMetadata (.int (-9))) = .ok () := by decide
  have hcode : Json.int (-9) ≠ .int 0 := by simp
  have hchild : ∃ child ∈ isolationChildren (lifecycleMetadata (.int (-9))), ChildFailed child :=
    ⟨_, List.mem_singleton_self _, Or.inl hcode⟩
  have hshows : ∃ child ∈ isolationChildren (lifecycleMetadata (.int (-9))), ShowsFailure child :=
    ⟨_, List.mem_singleton_self _, Or.inl ⟨Json.noConfusion, hcode⟩⟩
  refine ⟨plainRuntime, ?_⟩
  exact ((@failed_children_invalidate_iff plainRuntime (some .responseStreaming) _ [] hadmitted).2
    rfl (fun _ hrow => absurd hrow List.not_mem_nil)).2 (fun _ => ⟨rfl, Or.inl hshows⟩) hchild

end FailedChildren

end FogHttpBenchmark.Validity
