import FogHttpBenchmark.MeasurementTiming

/-!
# Timing compatibility

`validate_timing_compatibility` accepts two reports exactly when both resolve to one timing scope.
`ResolvesTo` says what that means of one report: the scope is supported, it is declared in the
metadata or by every row, and nothing else in the report declares another one.
-/

set_option autoImplicit false

namespace FogHttpBenchmark.MeasurementTiming

open Library Library.Checked Python Validity

/-! ## Scopes -/

section Scopes

theorem TimingScope.value_injective : Function.Injective TimingScope.value := by
  intro s t h
  cases s <;> cases t <;> first | rfl | exact absurd h (by decide)

/-- No row of the list declares a scope, or every row declares this one. -/
def RowsDeclare (scope : TimingScope) (rows : List JsonObject) : Prop :=
  (∀ row ∈ rows, row.has "timing_scope" = false) ∨
    ∀ row ∈ rows, row.get "timing_scope" = .str scope.value

theorem has_of_declares {row : JsonObject} {text : String}
    (h : row.get "timing_scope" = .str text) : row.has "timing_scope" = true :=
  JsonObject.has_of_get_ne_null (by rw [h]; exact nofun)

theorem validateRowScopes_eq_ok {scope : TimingScope} {rows : List JsonObject} :
    validateRowScopes scope.value rows = .ok () ↔ RowsDeclare scope rows := by
  have hall : (rows.filter fun row => row.has "timing_scope").length = rows.length ↔
      ∀ row ∈ rows, row.has "timing_scope" = true := List.length_filter_eq_length_iff
  have hnone : (rows.filter fun row => row.has "timing_scope") = [] ↔
      ∀ row ∈ rows, row.has "timing_scope" = false := by
    rw [List.filter_eq_nil_iff]
    simp only [Bool.not_eq_true]
  rw [validateRowScopes, raiseIf_eq_ok, RowsDeclare]
  constructor
  · intro h
    rw [Bool.and_eq_false_iff, Bool.or_eq_false_iff, decide_eq_false_iff_not, not_not] at h
    rcases h with hempty | ⟨hlength, hscopes⟩
    · left
      rw [Bool.not_eq_false', List.isEmpty_iff] at hempty
      exact hnone.1 hempty
    · right
      intro row hrow
      have hdeclared := List.any_eq_false.1 hscopes row
        (List.mem_filter.2 ⟨hrow, hall.1 hlength row hrow⟩)
      rw [Bool.not_eq_true, Bool.not_eq_false'] at hdeclared
      exact Json.pyEq_str.1 hdeclared
  · rintro (hundeclared | hdeclared)
    · rw [hnone.2 hundeclared]
      rfl
    · rw [Bool.and_eq_false_iff, Bool.or_eq_false_iff, decide_eq_false_iff_not, not_not]
      right
      refine ⟨hall.2 fun row hrow => has_of_declares (hdeclared row hrow), ?_⟩
      rw [List.any_eq_false]
      intro row hrow
      rw [Json.pyEq_str.2 (hdeclared row (List.mem_filter.1 hrow).1)]
      exact Bool.false_ne_true

theorem pyEq_singleton {value : Json} {text : String} :
    value.pyEq (.arr [.str text]) = true ↔ value = .arr [.str text] := by
  cases value with
  | arr items =>
      rw [Json.pyEq, Json.arr.injEq]
      cases items with
      | nil => simp [Json.pyEqItems]
      | cons item items =>
          cases items with
          | nil => simp [Json.pyEqItems, Json.pyEq_str, Json.isNan]
          | cons other items => simp [Json.pyEqItems]
  | _ => simp [Json.pyEq, Json.number?]

theorem pyEq_nil {value : Json} : value.pyEq (.arr []) = true ↔ value = .arr [] := by
  cases value with
  | arr items =>
      rw [Json.pyEq, Json.arr.injEq]
      cases items with
      | nil => simp [Json.pyEqItems]
      | cons item items => simp [Json.pyEqItems]
  | _ => simp [Json.pyEq, Json.number?]

end Scopes

/-! ## One report -/

section Report

/-- The report resolves to the scope. -/
structure ResolvesTo (suite : Suite) (metadata : JsonObject) (rows runs : List JsonObject)
    (scope : TimingScope) : Prop where
  supported : scope ∈ supportedScopes suite (reportProfile suite metadata rows)
  declared : metadata.get "timing_scope" = .str scope.value ∨
    (metadata.get "timing_scope" = .null ∧ suite = .responseStreaming ∧
      reportProfile suite metadata rows = none ∧ rows ≠ [] ∧
      ∀ row ∈ rows, row.get "timing_scope" = .str scope.value)
  rowScopes : RowsDeclare scope rows
  runScopes : RowsDeclare scope runs
  listed : suite = .responseStreaming → metadata.has "timing_scopes" = true →
    metadata.get "timing_scopes" = .arr [.str scope.value] ∨
      (rows = [] ∧ metadata.get "timing_scopes" = .arr [])

/-- The declared scope is this one, and the rows do not declare another. -/
theorem declaredScope_eq {suite : Suite} {metadata : JsonObject} {rows : List JsonObject}
    {scope : TimingScope} (hrows : RowsDeclare scope rows) :
    declaredScope suite (reportProfile suite metadata rows) metadata rows = .str scope.value ↔
      metadata.get "timing_scope" = .str scope.value ∨
        (metadata.get "timing_scope" = .null ∧ suite = .responseStreaming ∧
          reportProfile suite metadata rows = none ∧ rows ≠ [] ∧
          ∀ row ∈ rows, row.get "timing_scope" = .str scope.value) := by
  have hall : ∀ {row : JsonObject} {rest : List JsonObject}, RowsDeclare scope (row :: rest) →
      row.has "timing_scope" = true →
      ∀ other ∈ row :: rest, other.get "timing_scope" = .str scope.value := by
    rintro row rest (hundeclared | hdeclared) hhas
    · rw [hundeclared row List.mem_cons_self] at hhas
      exact nomatch hhas
    · exact hdeclared
  cases hmetadata : metadata.get "timing_scope" with
  | null =>
      cases rows with
      | nil => simp [declaredScope, hmetadata]
      | cons row rest =>
          simp only [declaredScope, hmetadata]
          constructor
          · intro h
            split at h
            case isTrue hlegacy =>
              rw [Bool.and_eq_true, Bool.and_eq_true, decide_eq_true_eq, Option.isNone_iff_eq_none,
                List.all_eq_true] at hlegacy
              obtain ⟨⟨hsuite, hprofile⟩, hhas⟩ := hlegacy
              exact Or.inr ⟨trivial, hsuite, hprofile, List.cons_ne_nil _ _,
                hall hrows (hhas row List.mem_cons_self)⟩
            case isFalse => exact nomatch h
          · rintro (hdeclared | ⟨-, hsuite, hprofile, -, hdeclared⟩)
            · exact nomatch hdeclared
            · have hhas : ((row :: rest).all fun row => row.has "timing_scope") = true :=
                List.all_eq_true.2 fun other hother => has_of_declares (hdeclared other hother)
              rw [hprofile, if_pos (by simp [hsuite, hhas])]
              exact hdeclared row List.mem_cons_self
  | _ => simp [declaredScope, hmetadata]

variable [PyRuntime]

theorem reportTimingScope_eq_ok {suite : Suite} {metadata : JsonObject}
    {rows runs : List JsonObject} {scope : TimingScope} :
    reportTimingScope suite metadata rows runs = .ok scope ↔
      ResolvesTo suite metadata rows runs scope := by
  -- the listed scopes are looked at in the streaming suite only, and only where they are listed
  have hscopes : (suite = .responseStreaming && metadata.has "timing_scopes" &&
        !(metadata.get "timing_scopes").pyEq (.arr [.str scope.value]) &&
        !(rows.isEmpty && (metadata.get "timing_scopes").pyEq (.arr []))) = false ↔
      (suite = .responseStreaming → metadata.has "timing_scopes" = true →
        metadata.get "timing_scopes" = .arr [.str scope.value] ∨
          (rows = [] ∧ metadata.get "timing_scopes" = .arr [])) := by
    rw [← pyEq_singleton, ← pyEq_nil, ← List.isEmpty_iff, ← Bool.and_eq_true]
    by_cases hsuite : suite = .responseStreaming
    · simp [hsuite, or_iff_not_imp_left]
    · simp [hsuite]
  rw [reportTimingScope]
  dsimp only
  constructor
  -- the scope that is found is a supported one with the declared name
  · intro h
    split at h
    case h_1 => exact absurd h throw_ne_ok
    case h_2 found hfound =>
      obtain ⟨hrows, h⟩ := seq_eq_ok.1 h
      obtain ⟨hruns, h⟩ := seq_eq_ok.1 h
      obtain ⟨hchecked, h⟩ := seq_eq_ok.1 h
      obtain rfl := pure_eq_ok.1 h
      have hmatches := List.find?_some hfound
      have hdeclared := Json.pyEq_str.1 hmatches
      rw [validateRowScopes_eq_ok] at hrows hruns
      exact ⟨List.mem_of_find?_eq_some hfound, (declaredScope_eq hrows).1 hdeclared, hrows, hruns,
        hscopes.1 (raiseIf_eq_ok.1 hchecked)⟩
  -- a supported scope with the declared name is the one that is found
  · rintro ⟨hsupported, hdeclared, hrows, hruns, hlisted⟩
    have hvalue := (declaredScope_eq hrows).2 hdeclared
    have hfound : (supportedScopes suite (reportProfile suite metadata rows)).find?
        (fun scope => (declaredScope suite (reportProfile suite metadata rows) metadata rows).pyEq
          (.str scope.value)) = some scope := by
      cases hfind : (supportedScopes suite (reportProfile suite metadata rows)).find?
          (fun scope => (declaredScope suite (reportProfile suite metadata rows) metadata rows).pyEq
            (.str scope.value)) with
      | none =>
          have hmissing := List.find?_eq_none.1 hfind scope hsupported
          rw [hvalue] at hmissing
          exact absurd (Json.pyEq_str.2 rfl) hmissing
      | some found =>
          have hmatches := List.find?_some hfind
          have hsame := Json.pyEq_str.1 hmatches
          rw [hvalue, Json.str.injEq] at hsame
          rw [TimingScope.value_injective hsame]
    rw [hfound]
    refine seq_eq_ok.2 ⟨validateRowScopes_eq_ok.2 hrows, ?_⟩
    refine seq_eq_ok.2 ⟨validateRowScopes_eq_ok.2 hruns, ?_⟩
    exact seq_eq_ok.2 ⟨raiseIf_eq_ok.2 (hscopes.2 hlisted), pure_eq_ok.2 rfl⟩

/-- What is raised is a `ValueError`. -/
theorem valueError_of_reportTimingScope {suite : Suite} {metadata : JsonObject}
    {rows runs : List JsonObject} {e : PyError}
    (h : reportTimingScope suite metadata rows runs = .error e) : e.kind = .valueError := by
  have hraise : ∀ {condition : Bool} {message : String} {next : Unit → Py TimingScope},
      (raiseIf condition (valueError message) >>= next) = .error e →
        (∀ u, next u = .error e → e.kind = .valueError) → e.kind = .valueError := by
    intro condition message next herror hnext
    cases condition with
    | true => exact congrArg PyError.kind (Except.error.inj herror).symm
    | false => exact hnext _ herror
  rw [reportTimingScope] at h
  dsimp only at h
  split at h
  case h_1 => exact congrArg PyError.kind (Except.error.inj h).symm
  case h_2 scope _ =>
    refine hraise h fun _ h => hraise h fun _ h => hraise h fun _ h => ?_
    exact nomatch h

end Report

/-! ## Two reports -/

section Compatibility

variable [PyRuntime]

theorem validateTimingCompatibility_eq_ok {suite : Suite} {oldMetadata newMetadata : JsonObject}
    {oldRows oldRuns newRows newRuns : List JsonObject} :
    validateTimingCompatibility suite oldMetadata oldRows oldRuns newMetadata newRows newRuns =
        .ok () ↔
      ∃ scope, ResolvesTo suite oldMetadata oldRows oldRuns scope ∧
        ResolvesTo suite newMetadata newRows newRuns scope := by
  simp only [validateTimingCompatibility, bind_eq_ok, reportTimingScope_eq_ok, raiseIf_eq_ok,
    decide_eq_false_iff_not, not_not]
  constructor
  · rintro ⟨scope, hold, _, hnew, rfl⟩
    exact ⟨scope, hold, hnew⟩
  · rintro ⟨scope, hold, hnew⟩
    exact ⟨scope, hold, scope, hnew, rfl⟩

/-- Two reports are accepted exactly where one scope is that of both, everything else is refused
with a `ValueError`, and the order of the reports does not matter. -/
theorem timing_compatibility_exact (suite : Suite) (oldMetadata newMetadata : JsonObject)
    (oldRows oldRuns newRows newRuns : List JsonObject) :
    (validateTimingCompatibility suite oldMetadata oldRows oldRuns newMetadata newRows newRuns =
        .ok () ↔
      ∃ scope, ResolvesTo suite oldMetadata oldRows oldRuns scope ∧
        ResolvesTo suite newMetadata newRows newRuns scope) ∧
    (∀ e, validateTimingCompatibility suite oldMetadata oldRows oldRuns newMetadata newRows
      newRuns = .error e → e.kind = .valueError) ∧
    (Returns (validateTimingCompatibility suite oldMetadata oldRows oldRuns newMetadata newRows
        newRuns) ↔
      Returns (validateTimingCompatibility suite newMetadata newRows newRuns oldMetadata oldRows
        oldRuns)) := by
  refine ⟨validateTimingCompatibility_eq_ok, ?_, ?_⟩
  -- an error comes from the first scope, the second, or their difference
  · intro e h
    rw [validateTimingCompatibility] at h
    cases hold : reportTimingScope suite oldMetadata oldRows oldRuns with
    | error raised =>
        rw [hold] at h
        obtain rfl := Except.error.inj h
        exact valueError_of_reportTimingScope hold
    | ok oldScope =>
        cases hnew : reportTimingScope suite newMetadata newRows newRuns with
        | error raised =>
            rw [hold, hnew] at h
            obtain rfl := Except.error.inj h
            exact valueError_of_reportTimingScope hnew
        | ok newScope =>
            rw [hold, hnew, ok_bind, ok_bind, raiseIf] at h
            split at h
            case isTrue => exact congrArg PyError.kind (Except.error.inj h).symm
            case isFalse => cases h
  · constructor
    -- one scope of both is one scope of both the other way round
    · rintro ⟨⟨⟩, h⟩
      obtain ⟨scope, hold, hnew⟩ := validateTimingCompatibility_eq_ok.1 h
      exact ⟨_, validateTimingCompatibility_eq_ok.2 ⟨scope, hnew, hold⟩⟩
    · rintro ⟨⟨⟩, h⟩
      obtain ⟨scope, hnew, hold⟩ := validateTimingCompatibility_eq_ok.1 h
      exact ⟨_, validateTimingCompatibility_eq_ok.2 ⟨scope, hold, hnew⟩⟩

end Compatibility

end FogHttpBenchmark.MeasurementTiming
