import FogHttpBenchmark.ReportSchema.Decoding
import FogHttpBenchmark.Validity.Classification

/-!
# Invalid reports

The status of a summary is `invalid` exactly where one of its reasons is, and a report with such
a status may never be compared (`summaryOf_invalid_iff`). The children that the isolation metadata
of a report lists are the source of such reasons that every later module reads.
-/

set_option autoImplicit false

namespace FogHttpBenchmark.Validity

open Library Library.Checked Python ReportSchema

/-! ## Invalid reasons -/

section Invalid

/-- One of the reasons makes the report invalid. -/
def Invalidates (reasons : List ValidityReason) : Prop :=
  ∃ reason ∈ reasons, reason.status = .invalid

theorem invalidates_append {xs ys : List ValidityReason} :
    Invalidates (xs ++ ys) ↔ Invalidates xs ∨ Invalidates ys := by
  simp only [Invalidates, List.mem_append, or_and_right, exists_or]

theorem invalidates_flatten {xss : List (List ValidityReason)} :
    Invalidates xss.flatten ↔ ∃ xs ∈ xss, Invalidates xs := by
  constructor
  · rintro ⟨reason, hreason, hinvalid⟩
    obtain ⟨xs, hxs, hmem⟩ := List.mem_flatten.1 hreason
    exact ⟨xs, hxs, reason, hmem, hinvalid⟩
  · rintro ⟨xs, hxs, reason, hmem, hinvalid⟩
    exact ⟨reason, List.mem_flatten.2 ⟨xs, hxs, hmem⟩, hinvalid⟩

/-- The reasons that a check draws for each element of a list. -/
theorem invalidates_mapM {α : Type} {check : α → Py (List ValidityReason)} {xs : List α}
    {reasons : List (List ValidityReason)} (h : xs.mapM check = .ok reasons) :
    Invalidates reasons.flatten ↔ ∃ x ∈ xs, ∃ own, check x = .ok own ∧ Invalidates own := by
  rw [invalidates_flatten]
  constructor
  · rintro ⟨own, hown, hinvalid⟩
    obtain ⟨x, hx, hcheck⟩ := exists_source_of_mapM_eq_ok h hown
    exact ⟨x, hx, own, hcheck, hinvalid⟩
  · rintro ⟨x, hx, own, hcheck, hinvalid⟩
    obtain ⟨own', hown, hcheck'⟩ := exists_of_mapM_eq_ok h hx
    rw [hcheck] at hcheck'
    cases hcheck'
    exact ⟨own, hown, hinvalid⟩

/-- A combined status is `invalid` exactly where one of its parts is. -/
theorem combinedStatus_eq_invalid_iff {statuses : List ValidityStatus} :
    combinedStatus statuses = .invalid ↔ .invalid ∈ statuses := by
  constructor
  · intro h
    rcases combineFrom_mem statuses .valid with heq | hmem
    · rw [combinedStatus, heq] at h
      cases h
    · rwa [← combinedStatus, h] at hmem
  · intro h
    refine ValidityStatus.severity_injective (le_antisymm (ValidityStatus.severity_le_invalid _) ?_)
    exact severity_le_combinedStatus h

/-- A report is invalid, and then not comparable, exactly where a reason says so. -/
theorem summaryOf_invalid_iff {reasons : List ValidityReason} :
    (summaryOf reasons).status = .invalid ∧ (summaryOf reasons).canCompare = false ↔
      Invalidates reasons := by
  have hstatus : (summaryOf reasons).status = .invalid ↔ Invalidates reasons := by
    refine combinedStatus_eq_invalid_iff.trans ?_
    rw [List.mem_map]
    exact Iff.rfl
  refine ⟨fun h => hstatus.1 h.1, fun h => ⟨hstatus.2 h, ?_⟩⟩
  obtain ⟨reason, hmem, hinvalid⟩ := h
  rw [Bool.eq_false_iff]
  intro hcompare
  have hallows := reasonsAllowComparison_iff.1 hcompare reason hmem
  rw [ValidityReason.allows, hinvalid] at hallows
  exact Bool.false_ne_true hallows

end Invalid

/-! ## Children -/

section Children

/-- The children of a report, as its isolation metadata lists them. -/
theorem mem_isolationChildren {metadata child : JsonObject} :
    child ∈ isolationChildren metadata ↔
      ∃ isolation items, metadata.get "isolation" = .obj isolation ∧
        JsonObject.get isolation "children" = .arr items ∧ .obj child ∈ items := by
  rw [isolationChildren]
  constructor
  · intro h
    split at h
    case h_1 => exact absurd h List.not_mem_nil
    case h_2 isolation hisolation =>
      split at h
      case h_1 => exact absurd h List.not_mem_nil
      case h_2 items hitems =>
        obtain ⟨item, hitem, hobject⟩ := List.mem_filterMap.1 h
        rw [Json.asObject?_eq_some] at hobject
        exact ⟨isolation, items, Json.asObject?_eq_some.1 hisolation,
          Json.asList?_eq_some.1 hitems, hobject ▸ hitem⟩
  · rintro ⟨isolation, items, hisolation, hitems, hchild⟩
    simp only [Json.asObject?_eq_some.2 hisolation, Json.asList?_eq_some.2 hitems]
    exact List.mem_filterMap.2 ⟨.obj child, hchild, rfl⟩

end Children

end FogHttpBenchmark.Validity
