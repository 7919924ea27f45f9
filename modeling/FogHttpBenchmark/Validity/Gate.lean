import FogHttpBenchmark.Validity.Conversions

/-!
# The streaming profile gate

The reader skips the ordinary row checks of a streaming report that carries a mark of a research
profile; the classification rejects a report whose marks do not agree with its declared profile.
The two look at overlapping but different marks. `profile_gate_iff` shows that the second covers
the first, as long as the classification returns.
-/

set_option autoImplicit false

namespace FogHttpBenchmark.Validity

open Library Library.Checked Python ReportSchema

/-! ## Profiles -/

section Profiles

/-- A declared research profile is the one that the value names. -/
theorem declaredResearchProfile_eq_some {value : Json} {profile : ResearchProfile} :
    declaredResearchProfile value = some profile ↔ value = .str profile.name := by
  rw [declaredResearchProfile]
  constructor
  · intro h
    split at h
    case isTrue hvalue =>
      cases h
      exact Json.pyEq_str.1 hvalue
    case isFalse =>
      split at h
      case isTrue hvalue =>
        cases h
        exact Json.pyEq_str.1 hvalue
      case isFalse => exact nomatch h
  · rintro rfl
    cases profile with
    | lifecycle => rfl
    | asyncBytes => rfl

theorem isOrdinaryProfile_name (profile : ResearchProfile) :
    isOrdinaryProfile (.str profile.name) = false := by
  cases profile <;> decide

/-- The metadata declares a research profile, every row declares the same one, and the envelope of
the report does not name another. -/
def ProfileDeclared (metadata : JsonObject) (rows : List JsonObject) : Prop :=
  ∃ profile : ResearchProfile, metadata.get "profile" = .str profile.name ∧
    (∀ row ∈ rows, row.get "profile" = .str profile.name) ∧
    (researchEnvelopeProfile metadata rows = none ∨
      researchEnvelopeProfile metadata rows = some profile)

variable [PyRuntime]

/-- A report that passes the profile checks declares a research profile consistently, or has no
research mark at all. -/
theorem declared_or_unmarked {metadata : JsonObject} {rows : List JsonObject}
    (h : streamingProfileReasons (some .responseStreaming) metadata rows = []) :
    ProfileDeclared metadata rows ∨
      ∀ profile, usesStreamingProfile metadata rows profile = false := by
  rw [streamingProfileReasons, if_neg (by simp)] at h
  -- the three checks of the profile: its name, the envelope of its metadata, its rows
  dsimp only at h
  split at h
  case isTrue => exact nomatch h
  case isFalse hknown =>
    split at h
    case isTrue => exact nomatch h
    case isFalse henvelope =>
      have hrows : ∀ row ∈ rows, rowProfileMatches (metadata.get "profile") row = true := by
        split at h
        case h_1 => exact nomatch h
        case h_2 hnone =>
          intro row hrow
          simpa using List.find?_eq_none.1 hnone row hrow
      -- a declared profile agrees with the rows and the envelope; without one nothing marks the
      -- report
      cases hdeclared : declaredResearchProfile (metadata.get "profile") with
      | some profile =>
          left
          refine ⟨profile, declaredResearchProfile_eq_some.1 hdeclared, ?_, ?_⟩
          · intro row hrow
            have hmatch := hrows row hrow
            simp only [rowProfileMatches, hdeclared] at hmatch
            exact Json.pyEq_str.1 hmatch
          · rw [hdeclared] at henvelope
            cases hfound : researchEnvelopeProfile metadata rows with
            | none => exact Or.inl rfl
            | some found =>
                rw [hfound] at henvelope
                right
                by_contra hne
                exact henvelope (by simpa using fun heq : profile = found => hne (by rw [heq]))
      | none =>
          right
          intro profile
          rw [hdeclared] at hknown henvelope
          have hordinary : isOrdinaryProfile (metadata.get "profile") = true := by
            simpa using hknown
          have hunmarked : researchEnvelopeProfile metadata rows = none := by
            cases hfound : researchEnvelopeProfile metadata rows with
            | none => rfl
            | some found => simp [hfound] at henvelope
          -- an ordinary profile is not the name of a research profile
          have hother : ∀ value : Json, isOrdinaryProfile value = true →
              value.pyEq (.str profile.name) = false := by
            intro value hvalue
            rw [Bool.eq_false_iff]
            intro hname
            rw [Json.pyEq_str.1 hname, isOrdinaryProfile_name] at hvalue
            exact Bool.false_ne_true hvalue
          have hrowsOther : (rows.any fun row =>
              (row.get "profile").pyEq (.str profile.name)) = false := by
            rw [List.any_eq_false]
            intro row hrow
            have hmatch := hrows row hrow
            simp only [rowProfileMatches, hdeclared] at hmatch
            rw [hother _ hmatch]
            exact Bool.false_ne_true
          simp [usesStreamingProfile, hother _ hordinary, hrowsOther, hunmarked]

/-- All reasons of the profile checks are invalid ones. -/
theorem invalid_of_mem_streamingProfileReasons {suite : Option Suite} {metadata : JsonObject}
    {rows : List JsonObject} {reason : ValidityReason}
    (h : reason ∈ streamingProfileReasons suite metadata rows) : reason.status = .invalid := by
  rw [streamingProfileReasons] at h
  split at h
  case isTrue => exact absurd h List.not_mem_nil
  case isFalse =>
    dsimp only at h
    split at h
    case isTrue => rw [List.mem_singleton.1 h]; rfl
    case isFalse =>
      split at h
      case isTrue => rw [List.mem_singleton.1 h]; rfl
      case isFalse =>
        split at h
        case h_1 => rw [List.mem_singleton.1 h]; rfl
        case h_2 => exact absurd h List.not_mem_nil

end Profiles

/-! ## The gate -/

section Gate

variable [PyRuntime]

/-- The reader checked every row of the report as an ordinary one. -/
structure OrdinaryChecked (report : DecodedReport) : Prop where
  layout : isResearch report.suite report.metadata report.aggregateRows = false
  aggregates : ∀ (index : ℕ) (row : JsonObject), report.aggregateRows[index]? = some row →
    validateAggregateRow report.suite row (aggregatePath index) = .ok ()
  runs : ∀ (index : ℕ) (row : JsonObject), report.runRows[index]? = some row →
    validateRunRow report.suite row (runPath index) = .ok ()

/-- The classification rejects the report. -/
def Rejected (report : DecodedReport) : Prop :=
  ∃ summary, classifyReportValidity (some report.suite) report.aggregateRows report.metadata =
    .ok summary ∧ summary.status = .invalid ∧ summary.canCompare = false

/-- What is not read as research has passed the ordinary row checks. -/
theorem ordinaryChecked_of_decode {value : Json} {expectedSuite : Option String}
    {report : DecodedReport} (h : decodeReportPayload value expectedSuite = .ok report)
    (hlayout : isResearch report.suite report.metadata report.aggregateRows = false) :
    OrdinaryChecked report := by
  have hrows := validateRows_of_decode h
  rw [validateRows, hlayout, if_neg Bool.false_ne_true, validateOrdinaryReport] at hrows
  obtain ⟨-, hrows⟩ := seq_eq_ok.1 hrows
  obtain ⟨-, hrows⟩ := seq_eq_ok.1 hrows
  obtain ⟨hrows, -⟩ := seq_eq_ok.1 hrows
  obtain ⟨haggregates, hruns⟩ := seq_eq_ok.1 hrows
  exact ⟨hlayout, forIndexed_eq_ok.1 haggregates, forIndexed_eq_ok.1 hruns⟩

/-- A streaming report that the reader admits was checked row by row as an ordinary one, declares
its research profile consistently, or is rejected, exactly where it has no research mark, declares
its profile consistently, or has no integer that the classification fails to convert. -/
theorem profile_gate_iff {value : Json} {expectedSuite : Option String} {report : DecodedReport}
    (h : decodeReportPayload value expectedSuite = .ok report)
    (hsuite : report.suite = .responseStreaming) :
    (OrdinaryChecked report ∨ ProfileDeclared report.metadata report.aggregateRows ∨
        Rejected report) ↔
      (isResearch report.suite report.metadata report.aggregateRows = false ∨
        ProfileDeclared report.metadata report.aggregateRows ∨
        reportConvertible (some report.suite) report.metadata report.aggregateRows = true) := by
  obtain ⟨hmetadata, hrows⟩ := isFinite_of_decode h
  have hreturns :=
    @classifyReportValidity_returns_iff _ (some report.suite) _ _ hmetadata hrows
  constructor
  · rintro (hordinary | hdeclared | ⟨summary, hsummary, -⟩)
    · exact Or.inl hordinary.layout
    · exact Or.inr (Or.inl hdeclared)
    · exact Or.inr (Or.inr (hreturns.1 ⟨summary, hsummary⟩))
  · rintro (hlayout | hdeclared | hconvertible)
    · exact Or.inl (ordinaryChecked_of_decode h hlayout)
    · exact Or.inr (Or.inl hdeclared)
    -- the classification returns: the profile checks pass, or one of them gives a reason
    · obtain ⟨summary, hsummary⟩ := hreturns.2 hconvertible
      by_cases hpassed : streamingProfileReasons (some report.suite) report.metadata
          report.aggregateRows = []
      · rw [hsuite] at hpassed
        rcases declared_or_unmarked hpassed with hdeclared | hunmarked
        · exact Or.inr (Or.inl hdeclared)
        · left
          refine ordinaryChecked_of_decode h ?_
          simp [isResearch, hunmarked]
      · -- A reason of the profile checks makes the report invalid.
        obtain ⟨reason, hreason⟩ := List.exists_mem_of_ne_nil _ hpassed
        obtain ⟨ofMetadata, ofRows, hofMetadata, -, rfl⟩ := classifyReportValidity_eq_ok.1 hsummary
        rw [metadataReasons, bind_eq_ok] at hofMetadata
        obtain ⟨children, -, hofMetadata⟩ := hofMetadata
        obtain ⟨attribution, -, hofMetadata⟩ := bind_eq_ok.1 hofMetadata
        obtain ⟨lifecycle, -, hofMetadata⟩ := bind_eq_ok.1 hofMetadata
        rw [pure_eq_ok] at hofMetadata
        refine Or.inr (Or.inr ⟨_, hsummary, summaryOf_invalid_iff.2 ⟨reason, ?_,
          invalid_of_mem_streamingProfileReasons hreason⟩⟩)
        rw [← hofMetadata]
        simp [hreason]

/-- A streaming report with lifecycle diagnostics and no declared profile; its only row has the
given variation. -/
def undeclaredReport (variation : Json) : Json :=
  .obj [("metadata", .obj [("suite", .str "response-streaming"), ("report_schema_version", .int 1),
      ("lifecycle", .obj [])]),
    ("aggregate", .arr [.obj [("mode", .str "sync"), ("client", .str "httpx"),
      ("case", .str "bytes-1m"), ("read", .str "bytes"), ("consume", .str "all"),
      ("concurrency", .int 1), ("request_limit", .int 1), ("errors_total", .int 0),
      ("warmup_errors_total", .int 0), ("streams_s_cv_percent", variation)]]),
    ("runs", .arr [])]

/-- The report is admitted as a research report without a declared profile, and its classification
returns or not as given. -/
def admittedUndeclared (variation : Json) (returns : Bool) : Bool :=
  match decodeReportPayload (undeclaredReport variation) none with
  | .error _ => false
  | .ok report =>
      report.suite = .responseStreaming &&
        isResearch report.suite report.metadata report.aggregateRows &&
        (report.metadata.get "profile").isNone &&
        decide (Returns (classifyReportValidity (some report.suite) report.aggregateRows
          report.metadata)) == returns

omit [PyRuntime] in
/-- A variation of `10 ** 400` percent is admitted, and no verdict is given on the report. -/
theorem profile_gate_escaped :
    ∃ (_ : PyRuntime) (value : Json) (report : DecodedReport),
      decodeReportPayload value none = .ok report ∧ report.suite = .responseStreaming ∧
      ¬ (OrdinaryChecked report ∨ ProfileDeclared report.metadata report.aggregateRows ∨
        Rejected report) := by
  let _ : PyRuntime := plainRuntime
  have hadmitted : admittedUndeclared (.int (10 ^ 400)) false = true := by decide +kernel
  refine ⟨plainRuntime, undeclaredReport (.int (10 ^ 400)), ?_⟩
  rw [admittedUndeclared] at hadmitted
  split at hadmitted
  case h_1 => cases hadmitted
  case h_2 report hreport =>
    simp only [Bool.and_eq_true, decide_eq_true_eq, Json.isNone_iff, beq_false,
      Bool.not_eq_true', decide_eq_false_iff_not] at hadmitted
    obtain ⟨⟨⟨hsuite, hresearch⟩, hprofile⟩, hraises⟩ := hadmitted
    refine ⟨report, hreport, hsuite, ?_⟩
    rintro (hordinary | ⟨profile, hdeclared, -⟩ | ⟨summary, hsummary, -⟩)
    · rw [hordinary.layout] at hresearch
      exact Bool.false_ne_true hresearch
    · rw [hprofile] at hdeclared
      cases hdeclared
    · exact hraises ⟨summary, hsummary⟩

omit [PyRuntime] in
/-- With a variation of one percent the same report is rejected. -/
theorem profile_gate_undeclared :
    ∃ (_ : PyRuntime) (report : DecodedReport),
      decodeReportPayload (undeclaredReport (.int 1)) none = .ok report ∧
      (OrdinaryChecked report ∨ ProfileDeclared report.metadata report.aggregateRows ∨
        Rejected report) := by
  let _ : PyRuntime := plainRuntime
  have hadmitted : admittedUndeclared (.int 1) true = true := by decide +kernel
  refine ⟨plainRuntime, ?_⟩
  rw [admittedUndeclared] at hadmitted
  split at hadmitted
  case h_1 => exact nomatch hadmitted
  case h_2 report hreport =>
    simp only [Bool.and_eq_true, decide_eq_true_eq, beq_true] at hadmitted
    obtain ⟨⟨⟨hsuite, -⟩, -⟩, hreturns⟩ := hadmitted
    obtain ⟨hmetadata, hrows⟩ := isFinite_of_decode hreport
    refine ⟨report, hreport, (profile_gate_iff hreport hsuite).2 (Or.inr (Or.inr ?_))⟩
    exact (classifyReportValidity_returns_iff hmetadata hrows).1 hreturns

end Gate

end FogHttpBenchmark.Validity
