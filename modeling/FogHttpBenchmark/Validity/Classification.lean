import FogHttpBenchmark.Validity.Attribution
import FogHttpBenchmark.Validity.Rows
import FogHttpBenchmark.Validity.Serialization

/-!
# Classification

The validity of a report, recomputed from its rows and metadata, and its combination with the
validity that the report and its children recorded. A combination keeps every restriction of
its parts: it is at least as severe as each of them, it compares only where each of them does,
and it retains each of their reasons.
-/

set_option autoImplicit false

namespace FogHttpBenchmark.Validity

open Library Library.Checked Python

/-! ## Combination -/

section Combination

/-- The loop `reasons.extend(reason for reason in … if reason not in reasons)`; the membership
test sees the reasons that the same loop has added. -/
def extendReasons (reasons : List ValidityReason) : List ValidityReason → List ValidityReason
  | [] => reasons
  | reason :: rest =>
      if reasons.any fun known => known.pyEq reason then extendReasons reasons rest
      else extendReasons (reasons ++ [reason]) rest

/-- The reasons of all summaries, without the equal ones. -/
def combineReasons (summaries : List ValiditySummary) : List ValidityReason :=
  summaries.foldl (fun reasons summary => extendReasons reasons summary.reasons) []

/-- `combine_validity_summaries(summaries)`. -/
def combineValiditySummaries (summaries : List ValiditySummary) : ValiditySummary :=
  let reasons := combineReasons summaries
  let status := combinedStatus
    (summaries.map ValiditySummary.status ++ reasons.map ValidityReason.status)
  { status := status
    isValid := status = .valid && summaries.all ValiditySummary.isValid
    canCompare := status.isComparable && summaries.all ValiditySummary.canCompare &&
      reasonsAllowComparison reasons
    reasonCount := reasons.length
    reasonCounts := countReasons reasons
    reasons := reasons }

/-- The reason is among the reasons, or one that is equal to it. -/
def Retained (reason : ValidityReason) (reasons : List ValidityReason) : Prop :=
  ∃ kept ∈ reasons, kept = reason ∨ kept.pyEq reason = true

theorem Retained.of_mem {reason : ValidityReason} {reasons : List ValidityReason}
    (h : reason ∈ reasons) : Retained reason reasons :=
  ⟨reason, h, Or.inl rfl⟩

theorem Retained.mono {reason : ValidityReason} {reasons more : List ValidityReason}
    (h : Retained reason reasons) (hsub : reasons ⊆ more) : Retained reason more := by
  obtain ⟨kept, hkept, heq⟩ := h
  exact ⟨kept, hsub hkept, heq⟩

/-- What is retained of the retained is retained. -/
theorem Retained.trans {reason : ValidityReason} {reasons more : List ValidityReason}
    (h : Retained reason reasons) (hmore : ∀ kept ∈ reasons, Retained kept more) :
    Retained reason more := by
  obtain ⟨kept, hkept, heq⟩ := h
  obtain ⟨last, hlast, heq'⟩ := hmore kept hkept
  refine ⟨last, hlast, ?_⟩
  rcases heq with rfl | heq
  · exact heq'
  · rcases heq' with rfl | heq'
    · exact Or.inr heq
    · exact Or.inr (ValidityReason.pyEq_trans heq' heq)

/-- Extending keeps the reasons, adds only new ones, and retains all of them. -/
theorem extendReasons_spec (more reasons : List ValidityReason) :
    reasons ⊆ extendReasons reasons more ∧
      (∀ reason ∈ extendReasons reasons more, reason ∈ reasons ∨ reason ∈ more) ∧
      ∀ reason ∈ more, Retained reason (extendReasons reasons more) := by
  induction more generalizing reasons with
  | nil =>
      refine ⟨List.Subset.refl _, fun reason h => Or.inl h, ?_⟩
      intro reason h
      exact absurd h List.not_mem_nil
  | cons head rest ih =>
      rw [extendReasons]
      split
      -- the reason is known already
      case isTrue hknown =>
        obtain ⟨hsub, hfrom, hretained⟩ := ih reasons
        refine ⟨hsub, ?_, ?_⟩
        · intro reason h
          rcases hfrom reason h with hold | hnew
          · exact Or.inl hold
          · exact Or.inr (List.mem_cons_of_mem _ hnew)
        · intro reason h
          rcases List.mem_cons.1 h with rfl | hrest
          · obtain ⟨kept, hkept, heq⟩ := List.any_eq_true.1 hknown
            exact ⟨kept, hsub hkept, Or.inr heq⟩
          · exact hretained reason hrest
      -- the reason is new and stands at the end
      case isFalse =>
        obtain ⟨hsub, hfrom, hretained⟩ := ih (reasons ++ [head])
        refine ⟨List.Subset.trans (List.subset_append_left _ _) hsub, ?_, ?_⟩
        · intro reason h
          rcases hfrom reason h with hold | hnew
          · rcases List.mem_append.1 hold with hold | hhead
            · exact Or.inl hold
            · rw [List.mem_singleton] at hhead
              exact Or.inr (hhead ▸ List.mem_cons_self)
          · exact Or.inr (List.mem_cons_of_mem _ hnew)
        · intro reason h
          rcases List.mem_cons.1 h with rfl | hrest
          · exact Retained.of_mem (hsub (List.mem_append_right _ (List.mem_singleton_self _)))
          · exact hretained reason hrest

/-- The loop over the summaries keeps its reasons and retains those of every summary. -/
theorem foldl_extendReasons (summaries : List ValiditySummary) (reasons : List ValidityReason) :
    reasons ⊆ summaries.foldl (fun known summary => extendReasons known summary.reasons) reasons ∧
      ∀ summary ∈ summaries, ∀ reason ∈ summary.reasons,
        Retained reason
          (summaries.foldl (fun known summary => extendReasons known summary.reasons) reasons) := by
  induction summaries generalizing reasons with
  | nil =>
      refine ⟨List.Subset.refl _, ?_⟩
      intro summary h
      exact absurd h List.not_mem_nil
  | cons head rest ih =>
      rw [List.foldl_cons]
      obtain ⟨hsub, hretained⟩ := ih (extendReasons reasons head.reasons)
      obtain ⟨hkeep, -, hhead⟩ := extendReasons_spec head.reasons reasons
      refine ⟨List.Subset.trans hkeep hsub, ?_⟩
      intro summary h reason hreason
      rcases List.mem_cons.1 h with rfl | hrest
      · exact (hhead reason hreason).mono hsub
      · exact hretained summary hrest reason hreason

/-- A summary that gives up nothing of another one: it is at least as severe, compares only
where the other compares, and retains its reasons. -/
structure Covers (merged part : ValiditySummary) : Prop where
  severity : part.status.severity ≤ merged.status.severity
  canCompare : merged.canCompare = true → part.canCompare = true
  reasons : ∀ reason ∈ part.reasons, Retained reason merged.reasons

theorem Covers.refl (summary : ValiditySummary) : Covers summary summary where
  severity := le_rfl
  canCompare := fun h => h
  reasons := fun _ h => Retained.of_mem h

theorem Covers.trans {merged middle part : ValiditySummary} (h : Covers merged middle)
    (h' : Covers middle part) : Covers merged part where
  severity := h'.severity.trans h.severity
  canCompare := fun hcompare => h'.canCompare (h.canCompare hcompare)
  reasons := fun reason hreason => (h'.reasons reason hreason).trans h.reasons

/-- A combination covers each of its parts. -/
theorem combineValiditySummaries_covers {summaries : List ValiditySummary}
    {part : ValiditySummary} (h : part ∈ summaries) :
    Covers (combineValiditySummaries summaries) part where
  severity := by
    refine severity_le_combinedStatus (List.mem_append_left _ ?_)
    exact List.mem_map_of_mem h
  canCompare := by
    intro hcompare
    simp only [combineValiditySummaries, Bool.and_eq_true, List.all_eq_true] at hcompare
    exact hcompare.1.2 part h
  reasons := fun reason hreason => (foldl_extendReasons summaries []).2 part h reason hreason

/-- A combination is at least as severe as each of its own reasons. -/
theorem severity_le_of_combined {summaries : List ValiditySummary} {reason : ValidityReason}
    (h : reason ∈ (combineValiditySummaries summaries).reasons) :
    reason.status.severity ≤ (combineValiditySummaries summaries).status.severity := by
  refine severity_le_combinedStatus (List.mem_append_right _ ?_)
  exact List.mem_map_of_mem h

end Combination

/-! ## Reading a saved summary -/

section Saved

theorem statusValue_name {status read : ValidityStatus} {path : String}
    (h : statusValue (.str status.name) path = .ok read) : read = status := by
  simp only [statusValue, ValidityStatus.ofName?_name, pure_eq_ok] at h
  exact h.symm

/-- A saved reason is read as it was written. -/
theorem reasonFromPayload_reasonPayload {reason read : ValidityReason} {index : ℕ}
    (h : reasonFromPayload (.obj (reasonPayload reason)) index = .ok read) : read = reason := by
  rw [reasonFromPayload, reasonFromObject, bind_eq_ok] at h
  obtain ⟨status, hstatus, h⟩ := h
  obtain ⟨code, hcode, h⟩ := bind_eq_ok.1 h
  obtain ⟨-, h⟩ := seq_eq_ok.1 h
  have hrow : (reasonPayload reason).getOr "row" (.obj []) = .obj reason.row := rfl
  rw [hrow] at h
  obtain ⟨message, hmessage, h⟩ := bind_eq_ok.1 h
  obtain ⟨label, hlabel, h⟩ := bind_eq_ok.1 h
  rw [pure_eq_ok] at h
  subst h
  have hstatus' : status = reason.status := statusValue_name hstatus
  have hcode' : reason.code = code := pure_eq_ok.1 hcode
  have hmessage' : reason.message = message := pure_eq_ok.1 hmessage
  have hlabel' : reason.rowLabel = label := pure_eq_ok.1 hlabel
  rw [hstatus', ← hcode', ← hmessage', ← hlabel']

theorem reasonsFromPayload_map {reasons read : List ValidityReason}
    (h : reasonsFromPayload (reasons.map fun reason => .obj (reasonPayload reason)) = .ok read) :
    read = reasons := by
  rw [reasonsFromPayload] at h
  have hread := mapM_eq_ok.1 h
  refine List.ext_getElem? ?_
  intro i
  have hlength := hread.length_eq
  rw [List.length_zipIdx, List.length_map] at hlength
  rcases lt_or_ge i reasons.length with hlt | hge
  · have hlt' : i < read.length := hlength ▸ hlt
    have hreason := hread.get (by simpa using hlt) hlt'
    simp only [List.get_eq_getElem, List.getElem_zipIdx, List.getElem_map] at hreason
    rw [List.getElem?_eq_getElem hlt', List.getElem?_eq_getElem hlt,
      reasonFromPayload_reasonPayload hreason]
  · rw [List.getElem?_eq_none hge, List.getElem?_eq_none (hlength ▸ hge)]

/-- What is read from a saved summary covers the summary that was saved. -/
theorem validitySummaryFromPayload_covers {saved read : ValiditySummary}
    (h : validitySummaryFromPayload (validityPayload saved) = .ok read) : Covers read saved := by
  rw [validitySummaryFromPayload, bind_eq_ok] at h
  obtain ⟨declared, hdeclared, h⟩ := h
  have hitems : (validityPayload saved).get "reasons" =
      .arr (saved.reasons.map fun reason => .obj (reasonPayload reason)) := rfl
  rw [hitems] at h
  obtain ⟨reasons, hreasons, h⟩ := bind_eq_ok.1 h
  obtain ⟨-, h⟩ := seq_eq_ok.1 h
  obtain ⟨isValid, -, h⟩ := bind_eq_ok.1 h
  obtain ⟨canCompare, hcompare, h⟩ := bind_eq_ok.1 h
  rw [pure_eq_ok] at h
  have hdeclared' : declared = saved.status := statusValue_name hdeclared
  have hreasons' : reasons = saved.reasons := reasonsFromPayload_map hreasons
  have hcompare' : saved.canCompare = canCompare := pure_eq_ok.1 hcompare
  subst h
  refine ⟨?_, ?_, ?_⟩
  · rw [hdeclared']
    exact severity_le_combinedStatus List.mem_cons_self
  · intro hread
    rw [hcompare']
    exact (Bool.and_eq_true_iff.1 hread).1
  · intro reason hreason
    rw [← hreasons'] at hreason
    exact Retained.of_mem hreason

end Saved

/-! ## Classification -/

section Classification

variable [PyRuntime]

/-- The reasons of the metadata together with all rows. -/
def metadataReasons (suite : Option Suite) (metadata : JsonObject) (rows : List JsonObject) :
    Py (List ValidityReason) := do
  let children ← childProcessReasons metadata
  let attribution ← attributionReportReasons metadata rows
  let lifecycle ← lifecycleReportReasons metadata rows
  pure (children ++ streamingProfileReasons suite metadata rows ++ attribution ++ lifecycle)

/-- The summary of some reasons. -/
def summaryOf (reasons : List ValidityReason) : ValiditySummary :=
  let status := combinedStatus (reasons.map ValidityReason.status)
  { status := status
    isValid := status = .valid
    canCompare := reasonsAllowComparison reasons
    reasonCount := reasons.length
    reasonCounts := countReasons reasons
    reasons := reasons }

/-- `classify_report_validity(suite, rows, metadata)`. -/
def classifyReportValidity (suite : Option Suite) (rows : List JsonObject)
    (metadata : JsonObject) : Py ValiditySummary := do
  let ofMetadata ← metadataReasons suite metadata rows
  let ofRows ← rows.mapM (rowReasons suite)
  pure (summaryOf (ofMetadata ++ ofRows.flatten))

theorem classifyReportValidity_eq_ok {suite : Option Suite} {rows : List JsonObject}
    {metadata : JsonObject} {summary : ValiditySummary} :
    classifyReportValidity suite rows metadata = .ok summary ↔
      ∃ ofMetadata ofRows, metadataReasons suite metadata rows = .ok ofMetadata ∧
        rows.mapM (rowReasons suite) = .ok ofRows ∧
        summary = summaryOf (ofMetadata ++ ofRows.flatten) := by
  simp only [classifyReportValidity, bind_eq_ok, pure_eq_ok]
  constructor
  · rintro ⟨ofMetadata, hmetadata, ofRows, hrows, rfl⟩
    exact ⟨ofMetadata, ofRows, hmetadata, hrows, rfl⟩
  · rintro ⟨ofMetadata, ofRows, hmetadata, hrows, rfl⟩
    exact ⟨ofMetadata, hmetadata, ofRows, hrows, rfl⟩

/-- `recorded_validity(value, path)`. -/
def recordedValidity (value : Json) (path : String) : Py ValiditySummary :=
  match value with
  | .obj payload =>
      match validitySummaryFromPayload payload with
      | .ok summary => pure summary
      | .error e =>
          if e.isTypeOrValueError && path ≠ "metadata" then
            throw (valueError (path ++ ".validity: " ++ e.message))
          else throw e
  | _ => throw (typeError (path ++ ".validity must be an object"))

/-- The records that may carry a validity, with their paths: the metadata and the diagnostics
of its children. -/
def validityRecords (metadata : JsonObject) : List (String × JsonObject) :=
  ("metadata", metadata) ::
    match (metadata.get "isolation").asObject? with
    | none => []
    | some isolation =>
        match (JsonObject.get isolation "children").asList? with
        | none => []
        | some children => children.zipIdx.filterMap fun child =>
            child.1.asObject?.map fun fields =>
              ("metadata.isolation.children[" ++ toString child.2 ++ "]", fields)

/-- The recorded validities, in the order of their records. -/
def recordedValidities (records : List (String × JsonObject)) : Py (List ValiditySummary) :=
  (records.filter fun record => record.2.has "validity").mapM fun record =>
    recordedValidity (record.2.get "validity") record.1

/-- The recomputed verdict, together with those that the metadata has recorded. -/
def validitySummaryFromMetadata (metadata : JsonObject) (suite : Option Suite)
    (rows : List JsonObject) : Py ValiditySummary := do
  let current ← classifyReportValidity suite rows metadata
  let recorded ← recordedValidities (validityRecords metadata)
  if recorded.isEmpty then pure current else pure (combineValiditySummaries (current :: recorded))

omit [PyRuntime] in
/-- A recorded validity is read from an object. -/
theorem recordedValidity_eq_ok {value : Json} {path : String} {summary : ValiditySummary} :
    recordedValidity value path = .ok summary ↔
      ∃ payload, value = .obj payload ∧ validitySummaryFromPayload payload = .ok summary := by
  constructor
  · intro h
    cases value with
    | obj payload =>
        refine ⟨payload, rfl, ?_⟩
        simp only [recordedValidity] at h
        split at h
        case h_1 read hread =>
          rw [pure_eq_ok] at h
          rw [← h]
          exact hread
        case h_2 e he =>
          split at h
          case isTrue => exact absurd h throw_ne_ok
          case isFalse => exact absurd h throw_ne_ok
    | _ => exact absurd h throw_ne_ok
  · rintro ⟨payload, rfl, hread⟩
    simp only [recordedValidity, hread]
    rfl

/-- The validity that is read from a report covers the one recomputed from it and every recorded
one. -/
theorem validitySummaryFromMetadata_covers_parts {metadata : JsonObject} {suite : Option Suite}
    {rows : List JsonObject} {summary : ValiditySummary}
    (h : validitySummaryFromMetadata metadata suite rows = .ok summary) :
    (∃ current, classifyReportValidity suite rows metadata = .ok current ∧
      Covers summary current) ∧
    ∀ record ∈ validityRecords metadata, record.2.has "validity" = true →
      ∃ payload recorded, record.2.get "validity" = .obj payload ∧
        validitySummaryFromPayload payload = .ok recorded ∧ Covers summary recorded := by
  simp only [validitySummaryFromMetadata, bind_eq_ok] at h
  obtain ⟨current, hcurrent, recorded, hrecorded, h⟩ := h
  have hparts : ∀ part ∈ current :: recorded, Covers summary part := by
    intro part hpart
    cases hempty : recorded.isEmpty with
    | true =>
        rw [hempty, if_pos rfl, pure_eq_ok] at h
        rw [List.isEmpty_iff.1 hempty, List.mem_singleton] at hpart
        subst h
        subst hpart
        exact Covers.refl _
    | false =>
        rw [hempty, if_neg Bool.false_ne_true, pure_eq_ok] at h
        subst h
        exact combineValiditySummaries_covers hpart
  refine ⟨⟨current, hcurrent, hparts current List.mem_cons_self⟩, ?_⟩
  intro record hrecord hhas
  obtain ⟨part, hpart, hread⟩ :=
    exists_of_mapM_eq_ok hrecorded (List.mem_filter.2 ⟨hrecord, hhas⟩)
  obtain ⟨payload, hpayload, hsummary⟩ := recordedValidity_eq_ok.1 hread
  exact ⟨payload, part, hpayload, hsummary, hparts part (List.mem_cons_of_mem _ hpart)⟩

/-- The validity that is read from a report covers the one recomputed from it, and the one
that its metadata records. -/
theorem validitySummaryFromMetadata_covers {metadata : JsonObject} {suite : Option Suite}
    {rows : List JsonObject} {summary : ValiditySummary}
    (h : validitySummaryFromMetadata metadata suite rows = .ok summary) :
    (∃ current, classifyReportValidity suite rows metadata = .ok current ∧
      Covers summary current) ∧
    ∀ payload, metadata.get "validity" = .obj payload →
      ∃ recorded, validitySummaryFromPayload payload = .ok recorded ∧ Covers summary recorded := by
  obtain ⟨hcurrent, hrecorded⟩ := validitySummaryFromMetadata_covers_parts h
  refine ⟨hcurrent, ?_⟩
  intro payload hpayload
  -- The metadata is the first record, and it carries a validity.
  have hhas : metadata.has "validity" = true :=
    JsonObject.has_of_get_ne_null (by rw [hpayload]; exact nofun)
  obtain ⟨read, recorded, hread, hsummary, hcovers⟩ :=
    hrecorded ("metadata", metadata) List.mem_cons_self hhas
  rw [hpayload] at hread
  cases hread
  exact ⟨recorded, hsummary, hcovers⟩

end Classification

end FogHttpBenchmark.Validity
