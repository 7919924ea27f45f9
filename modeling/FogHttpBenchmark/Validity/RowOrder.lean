import FogHttpBenchmark.Validity.ReasonRows

/-!
# Validity and the order of the rows

The validity of a report whose aggregate rows are in another order. It has the same verdict, and the
same reasons in another order, except that the profile check names the first of the rows that
disagree with the declared profile (`validitySummaryFromMetadata_reorders`).
-/

set_option autoImplicit false

namespace FogHttpBenchmark.Validity

open Library Library.Checked Python ReportSchema Attribution

/-! ## The same reasons in another order -/

section Reordered

/-- Where the one check returns, the other one returns the same reasons in another order. -/
def Reorders (check other : Py (List ValidityReason)) : Prop :=
  ∀ reasons, check = .ok reasons → ∃ reordered, other = .ok reordered ∧ reasons.Perm reordered

theorem Reorders.refl (check : Py (List ValidityReason)) : Reorders check check :=
  fun reasons hreasons => ⟨reasons, hreasons, .refl reasons⟩

/-- Checks that go on with reasons in another order. -/
theorem Reorders.seq {first other : Py (List ValidityReason)}
    {next following : List ValidityReason → List ValidityReason} (h : Reorders first other)
    (hnext : ∀ reasons reordered, reasons.Perm reordered →
      (next reasons).Perm (following reordered)) :
    Reorders (do let reasons ← first; pure (next reasons))
      (do let reasons ← other; pure (following reasons)) := by
  intro given hgiven
  obtain ⟨reasons, hreasons, hpure⟩ := bind_eq_ok.1 hgiven
  obtain ⟨reordered, hreordered, hperm⟩ := h reasons hreasons
  refine ⟨following reordered, bind_eq_ok.2 ⟨reordered, hreordered, rfl⟩, ?_⟩
  rw [← pure_eq_ok.1 hpure]
  exact hnext reasons reordered hperm

theorem Reorders.bind {α : Type} {x : Py α} {check other : α → Py (List ValidityReason)}
    (h : ∀ a, Reorders (check a) (other a)) : Reorders (x >>= check) (x >>= other) := by
  intro given hgiven
  obtain ⟨a, ha, hcheck⟩ := bind_eq_ok.1 hgiven
  obtain ⟨reordered, hreordered, hperm⟩ := h a given hcheck
  exact ⟨reordered, bind_eq_ok.2 ⟨a, ha, hreordered⟩, hperm⟩

/-- The reasons of one check for each row. -/
theorem reorders_flatten {rows others : List JsonObject}
    (each : JsonObject → Py (List ValidityReason)) (h : rows.Perm others) :
    Reorders (do let reasons ← rows.mapM each; pure reasons.flatten)
      (do let reasons ← others.mapM each; pure reasons.flatten) := by
  intro given hgiven
  obtain ⟨reasons, hreasons, hpure⟩ := bind_eq_ok.1 hgiven
  obtain ⟨reordered, hreordered, hperm⟩ := mapM_perm h hreasons
  refine ⟨reordered.flatten, bind_eq_ok.2 ⟨reordered, hreordered, rfl⟩, ?_⟩
  rw [← pure_eq_ok.1 hpure]
  exact hperm.flatten

theorem researchEnvelopeProfile_perm {rows others : List JsonObject} (metadata : JsonObject)
    (h : rows.Perm others) :
    researchEnvelopeProfile metadata rows = researchEnvelopeProfile metadata others := by
  rw [researchEnvelopeProfile, researchEnvelopeProfile, (h.cons metadata).any_eq, h.any_eq]

/-- Whether a report uses a profile does not depend on the order of its rows. -/
theorem usesStreamingProfile_perm {rows others : List JsonObject} (metadata : JsonObject)
    (h : rows.Perm others) (profile : ResearchProfile) :
    usesStreamingProfile metadata rows profile = usesStreamingProfile metadata others profile := by
  rw [usesStreamingProfile, usesStreamingProfile, h.any_eq, researchEnvelopeProfile_perm metadata h]

variable [PyRuntime] {metadata : JsonObject} {rows others : List JsonObject}

theorem lifecycleReportReasons_reorders (h : rows.Perm others) :
    Reorders (lifecycleReportReasons metadata rows) (lifecycleReportReasons metadata others) := by
  rw [lifecycleReportReasons, lifecycleReportReasons, usesStreamingProfile_perm metadata h]
  split
  case isTrue =>
    cases (metadata.get "lifecycle").asObject? with
    | none => exact .refl _
    | some lifecycle =>
        exact .bind fun plan =>
          .seq (reorders_flatten aggregateRowReasons h) fun _ _ hperm => hperm.append_left plan
  case isFalse => exact .refl _

theorem attributionReportReasons_reorders (h : rows.Perm others) :
    Reorders (attributionReportReasons metadata rows)
      (attributionReportReasons metadata others) := by
  have hempty : rows.isEmpty = others.isEmpty := by
    rw [Bool.eq_iff_iff, List.isEmpty_iff_length_eq_zero, List.isEmpty_iff_length_eq_zero,
      h.length_eq]
  rw [attributionReportReasons, attributionReportReasons, usesStreamingProfile_perm metadata h,
    hempty]
  split
  case isTrue =>
    refine .bind fun fingerprint => .bind fun plan => ?_
    intro given hgiven
    obtain ⟨aggregates, haggregates, hgiven⟩ := bind_eq_ok.1 hgiven
    obtain ⟨harness, hharness, hgiven⟩ := bind_eq_ok.1 hgiven
    obtain ⟨perRow, hperRow, hpure⟩ := bind_eq_ok.1 hgiven
    obtain ⟨aggregates', haggregates', hperm⟩ :=
      reorders_flatten aggregateRowReasons h aggregates haggregates
    obtain ⟨perRow', hperRow', hperm'⟩ := mapM_perm h hperRow
    refine ⟨_, bind_eq_ok.2 ⟨aggregates', haggregates', bind_eq_ok.2 ⟨harness, hharness,
      bind_eq_ok.2 ⟨perRow', hperRow', rfl⟩⟩⟩, ?_⟩
    rw [← pure_eq_ok.1 hpure]
    refine List.Perm.append ?_ hperm'.flatten
    repeat refine List.Perm.append_right _ ?_
    exact hperm.append_left _
  case isFalse => exact .refl _

end Reordered

/-! ## Classification -/

section Classified

/-- Two lists of reasons with the same verdicts: they have the same statuses and codes. -/
def SameVerdicts (reasons others : List ValidityReason) : Prop :=
  List.Forall₂ (fun reason other => reason.status = other.status ∧ reason.code = other.code)
    reasons others

theorem SameVerdicts.refl (reasons : List ValidityReason) : SameVerdicts reasons reasons :=
  List.forall₂_same.2 fun _ _ => ⟨rfl, rfl⟩

/-- What holds of all reasons with the same verdicts, where it depends on the verdict only. -/
theorem SameVerdicts.forall_iff {reasons others : List ValidityReason}
    (h : SameVerdicts reasons others) {p : ValidityReason → Prop}
    (hp : ∀ reason other, reason.status = other.status → reason.code = other.code →
      (p reason ↔ p other)) : (∀ reason ∈ reasons, p reason) ↔ ∀ reason ∈ others, p reason := by
  induction h with
  | nil => exact Iff.rfl
  | cons hhead _ ih =>
      rw [List.forall_mem_cons, List.forall_mem_cons, ih, hp _ _ hhead.1 hhead.2]

variable [PyRuntime] {suite : Option Suite} {metadata : JsonObject} {rows others : List JsonObject}

/-- The profile check gives the same verdicts for every order of the rows. -/
theorem streamingProfileReasons_verdicts (h : rows.Perm others) :
    SameVerdicts (streamingProfileReasons suite metadata rows)
      (streamingProfileReasons suite metadata others) := by
  have hfound : ∀ p : JsonObject → Bool,
      (rows.find? p).isSome = (others.find? p).isSome := by
    intro p
    rw [Bool.eq_iff_iff, List.find?_isSome, List.find?_isSome]
    simp only [h.mem_iff]
  rw [streamingProfileReasons, streamingProfileReasons, researchEnvelopeProfile_perm metadata h]
  split
  case isTrue => exact .refl _
  case isFalse =>
    dsimp only
    split
    case isTrue => exact .refl _
    case isFalse =>
      split
      case isTrue => exact .refl _
      case isFalse =>
        have hsame := hfound fun row => !rowProfileMatches (metadata.get "profile") row
        cases hrow : rows.find? fun row => !rowProfileMatches (metadata.get "profile") row with
        | none =>
            rw [hrow] at hsame
            rw [Option.isSome_eq_false_iff.1 hsame.symm |> Option.isNone_iff_eq_none.1]
            exact .refl _
        | some row =>
            rw [hrow] at hsame
            obtain ⟨other, hother⟩ := Option.isSome_iff_exists.1 hsame.symm
            rw [hother]
            exact .cons ⟨rfl, rfl⟩ .nil

/-- Every reason of the profile check has its code. -/
theorem code_of_mem_streamingProfileReasons {reason : ValidityReason}
    (h : reason ∈ streamingProfileReasons suite metadata rows) :
    reason.code = "streaming_profile_mismatch" := by
  rw [streamingProfileReasons] at h
  split at h
  case isTrue => exact absurd h List.not_mem_nil
  case isFalse =>
    dsimp only at h
    split at h
    case isTrue => rw [List.mem_singleton.1 h]; rfl
    case isFalse =>
      split at h
      case isTrue => rw [List.mem_singleton.1 h]; rfl
      case isFalse =>
        split at h
        case h_1 => rw [List.mem_singleton.1 h]; rfl
        case h_2 => exact absurd h List.not_mem_nil

/-- The classification of the rows in another order: the reasons of the profile check, and the
others in another order. -/
theorem classifyReportValidity_reorders (h : rows.Perm others) {summary : ValiditySummary}
    (hsummary : classifyReportValidity suite rows metadata = .ok summary) :
    ∃ reasons reordered common,
      summary = summaryOf reasons ∧
      classifyReportValidity suite others metadata = .ok (summaryOf reordered) ∧
      reasons.Perm (streamingProfileReasons suite metadata rows ++ common) ∧
      reordered.Perm (streamingProfileReasons suite metadata others ++ common) := by
  obtain ⟨ofMetadata, ofRows, hmetadata, hrows, rfl⟩ := classifyReportValidity_eq_ok.1 hsummary
  rw [metadataReasons] at hmetadata
  obtain ⟨children, hchildren, hmetadata⟩ := bind_eq_ok.1 hmetadata
  obtain ⟨attribution, hattribution, hmetadata⟩ := bind_eq_ok.1 hmetadata
  obtain ⟨lifecycle, hlifecycle, hmetadata⟩ := bind_eq_ok.1 hmetadata
  obtain rfl := pure_eq_ok.1 hmetadata
  obtain ⟨attribution', hattribution', hattributionPerm⟩ :=
    attributionReportReasons_reorders h attribution hattribution
  obtain ⟨lifecycle', hlifecycle', hlifecyclePerm⟩ :=
    lifecycleReportReasons_reorders h lifecycle hlifecycle
  obtain ⟨ofRows', hrows', hrowsPerm⟩ := mapM_perm h hrows
  have hfirst : ∀ a p b c d : List ValidityReason,
      (a ++ p ++ b ++ c ++ d).Perm (p ++ (a ++ b ++ c ++ d)) := by
    intro a p b c d
    simp only [List.append_assoc]
    exact List.perm_append_comm_assoc _ _ _
  refine ⟨_, children ++ streamingProfileReasons suite metadata others ++ attribution' ++
    lifecycle' ++ ofRows'.flatten, children ++ attribution ++ lifecycle ++ ofRows.flatten, rfl, ?_,
    hfirst _ _ _ _ _, ?_⟩
  · refine classifyReportValidity_eq_ok.2 ⟨_, ofRows', ?_, hrows', rfl⟩
    exact bind_eq_ok.2 ⟨children, hchildren, bind_eq_ok.2 ⟨attribution', hattribution',
      bind_eq_ok.2 ⟨lifecycle', hlifecycle', rfl⟩⟩⟩
  · refine (hfirst _ _ _ _ _).trans (List.Perm.append_left _ ?_)
    exact (((List.Perm.refl _).append hattributionPerm.symm).append hlifecyclePerm.symm).append
      hrowsPerm.symm.flatten

end Classified

/-! ## The validity of a report -/

section Combined

/-- What a reason says about a row, without the row. -/
def ValidityReason.said (reason : ValidityReason) : ValidityStatus × String × String × String :=
  (reason.status, reason.code, reason.message, reason.rowLabel)

theorem said_of_pyEq {reason other : ValidityReason} (h : reason.pyEq other = true) :
    reason.said = other.said := by
  obtain ⟨hstatus, hcode, hmessage, hlabel, -⟩ := ValidityReason.pyEq_iff.1 h
  rw [ValidityReason.said, ValidityReason.said, hstatus, hcode, hmessage, hlabel]

/-- The reason is not one of the profile check. -/
def ofOtherCheck (reason : ValidityReason) : Bool := reason.code ≠ "streaming_profile_mismatch"

/-- Two summaries agree in their verdict and, up to order, in what their reasons say, apart from
those of the profile check. -/
structure SameVerdict (summary other : ValiditySummary) : Prop where
  status : summary.status = other.status
  isValid : summary.isValid = other.isValid
  canCompare : summary.canCompare = other.canCompare
  reasons : ((summary.reasons.filter ofOtherCheck).map ValidityReason.said).Perm
    ((other.reasons.filter ofOtherCheck).map ValidityReason.said)

/-- Two summaries have as many reasons, and these say the same up to order. -/
structure SameReasons (summary other : ValiditySummary) : Prop where
  reasonCount : summary.reasonCount = other.reasonCount
  reasons : (summary.reasons.map ValidityReason.said).Perm
    (other.reasons.map ValidityReason.said)

theorem severity_summaryOf_le_iff {reasons : List ValidityReason} {bound : ℕ} :
    (summaryOf reasons).status.severity ≤ bound ↔
      ∀ reason ∈ reasons, reason.status.severity ≤ bound := by
  rw [summaryOf, status_le_iff, List.forall_mem_map]

theorem isValid_summaryOf_iff {reasons : List ValidityReason} :
    (summaryOf reasons).isValid = true ↔ ∀ reason ∈ reasons, reason.status.severity ≤ 0 := by
  rw [← severity_summaryOf_le_iff, ← eq_valid_iff, summaryOf, decide_eq_true_eq]

theorem canCompare_summaryOf_iff {reasons : List ValidityReason} :
    (summaryOf reasons).canCompare = true ↔ ∀ reason ∈ reasons, reason.allows = true :=
  reasonsAllowComparison_iff

theorem within_summaryOf_iff {reasons : List ValidityReason} {bound : ℕ} :
    (summaryOf reasons).Within bound ↔ ∀ reason ∈ reasons, reason.status.severity ≤ bound := by
  rw [ValiditySummary.Within, severity_summaryOf_le_iff]
  exact and_self_iff

theorem clean_summaryOf_iff {reasons : List ValidityReason} :
    (summaryOf reasons).Clean ↔ ∀ reason ∈ reasons, reason.status.severity ≤ 0 := by
  rw [ValiditySummary.Clean, isValid_summaryOf_iff, within_summaryOf_iff, and_self_iff]

theorem permits_summaryOf_iff {reasons : List ValidityReason} :
    (summaryOf reasons).Permits ↔ ∀ reason ∈ reasons, reason.allows = true := by
  rw [ValiditySummary.Permits, canCompare_summaryOf_iff, within_summaryOf_iff]
  constructor
  · exact And.left
  · intro h
    refine ⟨h, fun reason hreason => ?_, h⟩
    have hallows := h reason hreason
    rw [ValidityReason.allows, Bool.and_eq_true] at hallows
    exact isComparable_iff.1 hallows.1

/-- Classified reasons of the same verdicts, where those that differ come from the profile check. -/
structure Reclassified (reasons reordered : List ValidityReason) : Prop where
  parts : ∃ profile profile' common, reasons.Perm (profile ++ common) ∧
    reordered.Perm (profile' ++ common) ∧ SameVerdicts profile profile' ∧
    ∀ reason ∈ profile ++ profile', ofOtherCheck reason = false

theorem Reclassified.forall_iff {reasons reordered : List ValidityReason}
    (h : Reclassified reasons reordered) {p : ValidityReason → Prop}
    (hp : ∀ reason other, reason.status = other.status → reason.code = other.code →
      (p reason ↔ p other)) : (∀ reason ∈ reasons, p reason) ↔ ∀ reason ∈ reordered, p reason := by
  obtain ⟨profile, profile', common, hreasons, hreordered, hverdicts, -⟩ := h.parts
  simp only [hreasons.mem_iff, hreordered.mem_iff, List.forall_mem_append,
    hverdicts.forall_iff hp]

theorem Reclassified.filter_perm {reasons reordered : List ValidityReason}
    (h : Reclassified reasons reordered) :
    (reasons.filter ofOtherCheck).Perm (reordered.filter ofOtherCheck) := by
  obtain ⟨profile, profile', common, hreasons, hreordered, -, hprofile⟩ := h.parts
  have hnone : ∀ part : List ValidityReason, part ⊆ profile ++ profile' →
      part.filter ofOtherCheck = [] := by
    intro part hpart
    rw [List.filter_eq_nil_iff]
    intro reason hreason
    rw [hprofile reason (hpart hreason)]
    exact Bool.false_ne_true
  have hfirst := hreasons.filter ofOtherCheck
  have hsecond := hreordered.filter ofOtherCheck
  rw [List.filter_append, hnone profile (List.subset_append_left _ _), List.nil_append] at hfirst
  rw [List.filter_append, hnone profile' (List.subset_append_right _ _), List.nil_append] at hsecond
  exact hfirst.trans hsecond.symm

/-- The restrictions of a classification depend on the verdicts of its reasons. -/
theorem Reclassified.restrictions {reasons reordered : List ValidityReason}
    (h : Reclassified reasons reordered) (recorded : List ValiditySummary) :
    SameRestrictions (summaryOf reasons :: recorded) (summaryOf reordered :: recorded) := by
  have hseverity : ∀ bound, (∀ reason ∈ reasons, reason.status.severity ≤ bound) ↔
      ∀ reason ∈ reordered, reason.status.severity ≤ bound := fun bound =>
    h.forall_iff fun reason other hstatus _ => by rw [hstatus]
  have hallows : (∀ reason ∈ reasons, reason.allows = true) ↔
      ∀ reason ∈ reordered, reason.allows = true :=
    h.forall_iff fun reason other hstatus hcode => by
      rw [ValidityReason.allows, ValidityReason.allows, hstatus, hcode]
  constructor
  · intro bound
    rw [List.forall_mem_cons, List.forall_mem_cons, within_summaryOf_iff, within_summaryOf_iff,
      hseverity]
  · rw [List.forall_mem_cons, List.forall_mem_cons, clean_summaryOf_iff, clean_summaryOf_iff,
      hseverity]
  · rw [List.forall_mem_cons, List.forall_mem_cons, permits_summaryOf_iff, permits_summaryOf_iff,
      hallows]

/-- The classification alone. -/
theorem Reclassified.sameVerdict {reasons reordered : List ValidityReason}
    (h : Reclassified reasons reordered) :
    SameVerdict (summaryOf reasons) (summaryOf reordered) := by
  have hsame := h.restrictions []
  refine ⟨?_, ?_, ?_, h.filter_perm.map _⟩
  · apply ValidityStatus.severity_injective
    apply eq_of_forall_ge_iff
    intro bound
    have hwithin := hsame.within bound
    simpa only [List.forall_mem_singleton, within_summaryOf_iff, severity_summaryOf_le_iff]
      using hwithin
  · have hclean := hsame.clean
    rw [Bool.eq_iff_iff, isValid_summaryOf_iff, isValid_summaryOf_iff]
    simpa only [List.forall_mem_singleton, clean_summaryOf_iff] using hclean
  · have hpermits := hsame.permits
    rw [Bool.eq_iff_iff, canCompare_summaryOf_iff, canCompare_summaryOf_iff]
    simpa only [List.forall_mem_singleton, permits_summaryOf_iff] using hpermits

/-- What the kept reasons of a combination say, for reasons in another order. -/
theorem map_said_combine {summaries others : List ValiditySummary} {p : ValidityReason → Bool}
    (hp : ∀ reason other, reason.pyEq other = true → p reason = p other)
    (h : ((allReasons summaries).filter p).Perm ((allReasons others).filter p))
    (hdistinct : DistinctRows (allReasons summaries)) :
    (((combineReasons summaries).filter p).map ValidityReason.said).Perm
      (((combineReasons others).filter p).map ValidityReason.said) := by
  rw [combineReasons_eq_extend, combineReasons_eq_extend, Extension.filter_extend hp,
    Extension.filter_extend hp]
  apply Extension.perm_map_extend partialEquivalence_pyEq (fun _ _ _ _ => said_of_pyEq) h
  exact fun reason hreason => hdistinct reason (List.mem_filter.1 hreason).1

/-- The classification combined with recorded summaries. -/
theorem Reclassified.combine {reasons reordered : List ValidityReason}
    (h : Reclassified reasons reordered) {recorded : List ValiditySummary}
    (hdistinct : DistinctRows (allReasons (summaryOf reasons :: recorded))) :
    SameVerdict (combineValiditySummaries (summaryOf reasons :: recorded))
      (combineValiditySummaries (summaryOf reordered :: recorded)) := by
  have hsame := h.restrictions recorded
  refine ⟨hsame.status, hsame.isValid, hsame.canCompare, ?_⟩
  have hcode : ∀ reason other : ValidityReason, reason.pyEq other = true →
      ofOtherCheck reason = ofOtherCheck other := by
    intro reason other heq
    rw [ofOtherCheck, ofOtherCheck, (ValidityReason.pyEq_iff.1 heq).2.1]
  apply map_said_combine hcode _ hdistinct
  rw [allReasons, allReasons, List.flatMap_cons, List.flatMap_cons, List.filter_append,
    List.filter_append]
  exact h.filter_perm.append_right _

/-- Where all reasons are in another order, so are those of the combination. -/
theorem sameReasons_combine {reasons reordered : List ValidityReason} (h : reasons.Perm reordered)
    {recorded : List ValiditySummary}
    (hdistinct : DistinctRows (allReasons (summaryOf reasons :: recorded))) :
    SameReasons (combineValiditySummaries (summaryOf reasons :: recorded))
      (combineValiditySummaries (summaryOf reordered :: recorded)) := by
  have hall : (allReasons (summaryOf reasons :: recorded)).Perm
      (allReasons (summaryOf reordered :: recorded)) := by
    rw [allReasons, allReasons, List.flatMap_cons, List.flatMap_cons]
    exact h.append_right _
  have hsaid := @map_said_combine _ _ (fun _ => true) (fun _ _ _ => rfl) (hall.filter _) hdistinct
  rw [List.filter_true, List.filter_true] at hsaid
  refine ⟨?_, hsaid⟩
  have hlength := hsaid.length_eq
  rw [List.length_map, List.length_map] at hlength
  exact hlength

variable [PyRuntime] {suite : Option Suite} {metadata : JsonObject} {rows others : List JsonObject}

/-- The validity of a report whose rows are in another order: the same verdict, and the same reasons
where the profile check gives the same. -/
theorem validitySummaryFromMetadata_reorders (hmetadata : DistinctFields metadata)
    (hrows : ∀ row ∈ rows, Json.distinctKeys (.obj row) = true) (h : rows.Perm others)
    {summary : ValiditySummary}
    (hsummary : validitySummaryFromMetadata metadata suite rows = .ok summary) :
    ∃ other, validitySummaryFromMetadata metadata suite others = .ok other ∧
      SameVerdict summary other ∧
      (streamingProfileReasons suite metadata rows = streamingProfileReasons suite metadata others →
        SameReasons summary other) := by
  rw [validitySummaryFromMetadata] at hsummary
  obtain ⟨current, hcurrent, hsummary⟩ := bind_eq_ok.1 hsummary
  obtain ⟨recorded, hrecorded, hsummary⟩ := bind_eq_ok.1 hsummary
  -- no reason occurs twice, neither in the new verdict nor in the recorded ones
  have hdistinct := classifyReportValidity_distinct hmetadata hrows hcurrent
  obtain ⟨reasons, reordered, common, rfl, hother, hreasons, hreordered⟩ :=
    classifyReportValidity_reorders h hcurrent
  -- besides the reasons of the profile check both verdicts have the same ones
  have hreclassified : Reclassified reasons reordered := by
    refine ⟨_, _, common, hreasons, hreordered, streamingProfileReasons_verdicts h, ?_⟩
    intro reason hreason
    rw [ofOtherCheck, decide_eq_false_iff_not, not_not]
    rcases List.mem_append.1 hreason with hfirst | hsecond
    · exact code_of_mem_streamingProfileReasons hfirst
    · exact code_of_mem_streamingProfileReasons hsecond
  have hsame : streamingProfileReasons suite metadata rows =
      streamingProfileReasons suite metadata others → reasons.Perm reordered := by
    intro hprofile
    rw [hprofile] at hreasons
    exact hreasons.trans hreordered.symm
  have hall : DistinctRows (allReasons (summaryOf reasons :: recorded)) := by
    rw [allReasons, List.flatMap_cons]
    exact hdistinct.append (recordedValidities_distinct hmetadata hrecorded)
  -- the verdict of the other order is put together in the same way
  refine ⟨if recorded.isEmpty then summaryOf reordered
    else combineValiditySummaries (summaryOf reordered :: recorded), ?_, ?_, ?_⟩
  · rw [validitySummaryFromMetadata, hother, ok_bind, hrecorded, ok_bind]
    split <;> rfl
  · split at hsummary
    case isTrue hempty =>
      rw [← pure_eq_ok.1 hsummary, if_pos hempty]
      exact hreclassified.sameVerdict
    case isFalse hempty =>
      rw [← pure_eq_ok.1 hsummary, if_neg hempty]
      exact hreclassified.combine hall
  · intro hprofile
    have hperm := hsame hprofile
    split at hsummary
    case isTrue hempty =>
      rw [← pure_eq_ok.1 hsummary, if_pos hempty]
      exact ⟨hperm.length_eq, hperm.map _⟩
    case isFalse hempty =>
      rw [← pure_eq_ok.1 hsummary, if_neg hempty]
      exact sameReasons_combine hperm hall

end Combined

end FogHttpBenchmark.Validity
