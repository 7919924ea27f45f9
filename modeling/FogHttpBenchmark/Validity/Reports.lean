import FogHttpBenchmark.ReportSchema.Models
import FogHttpBenchmark.Validity.Helpers

/-!
# Reasons of whole reports

The checks that a classification makes on the metadata of a report together with all of its
rows: the diagnostics of isolated children, the declared streaming profile, and the process
diagnostics of lifecycle reports.
-/

set_option autoImplicit false

namespace FogHttpBenchmark.Validity

open Library Library.Checked Python

variable [PyRuntime]

/-! ## Isolated children -/

section Children

/-- The fields of a child that a reason refers to. -/
def childReference (child : JsonObject) : Py JsonObject := do
  let sequence ← intField child "sequence"
  let returncode ← intField child "returncode"
  pure [("sequence", .int sequence), ("client", .str (strField child "client" "")),
    ("scenario", .str (strField child "scenario" "-")), ("returncode", .int returncode)]

/-- A reason that names a child. -/
def childReason (child : JsonObject) (code message : String) : Py (List ValidityReason) := do
  let reference ← childReference child
  pure [validityReason .invalid code message reference]

/-- A child was built from the provenance and the packages of its report. -/
def childProvenanceReasons (metadata child : JsonObject) : Py (List ValidityReason) :=
  if metadata.has "research_provenance" then
    match child.get "research_provenance" with
    | .obj provenance =>
        if !(Json.obj provenance).pyEq (metadata.get "research_provenance") ||
            !(child.get "package_sources").pyEq (metadata.get "package_sources") then
          childReason child "isolated_child_provenance_mismatch"
            "Isolated child research provenance differs from the parent report."
        else pure []
    | _ =>
        childReason child "isolated_child_provenance_missing"
          "Isolated child report does not contain verified research provenance."
  else pure []

/-- `isinstance(report_path, str) and report_path`. -/
def hasReportPath (child : JsonObject) : Bool :=
  (child.get "report_path").asString?.any fun path => path ≠ ""

/-- A child has ended well, has written a report, and agrees with the provenance. -/
def childReasons (metadata child : JsonObject) : Py (List ValidityReason) := do
  let returncode ← intField child "returncode"
  if returncode = 0 ∧ hasReportPath child then childProvenanceReasons metadata child
  else
    childReason child "isolated_child_failed"
      "Isolated child process failed or did not write a report."

/-- `metadata["isolation"]["children"]`, as far as it has the expected types. -/
def isolationChildren (metadata : JsonObject) : List JsonObject :=
  match (metadata.get "isolation").asObject? with
  | none => []
  | some isolation =>
      match (JsonObject.get isolation "children").asList? with
      | none => []
      | some children => children.filterMap Json.asObject?

/-- The reasons of all isolated children. -/
def childProcessReasons (metadata : JsonObject) : Py (List ValidityReason) := do
  let reasons ← (isolationChildren metadata).mapM (childReasons metadata)
  pure reasons.flatten

end Children

/-! ## Streaming profiles -/

section StreamingProfiles

/-- The profiles that only the streaming suite has. -/
inductive ResearchProfile where
  | lifecycle
  | asyncBytes
  deriving DecidableEq

/-- The name that a report declares. -/
def ResearchProfile.name : ResearchProfile → String
  | lifecycle => "lifecycle"
  | asyncBytes => "async-bytes"

/-- A part of the report that only an async-bytes report has. -/
def hasAsyncBytesMark (value : JsonObject) : Bool :=
  let attributed := fun configuration : Json =>
    configuration.asObject?.any fun fields => !(JsonObject.get fields "attribution").isNone
  (value.get "policy_version").asString?.any (fun policy => policy.startsWith "async-bytes-") ||
    value.has "raw_evidence" || value.has "raw_evidence_validation" ||
    (value.get "primary_metric").pyEq (.str "verified_bytes_s_median") ||
    value.has "verified_bytes_s_median" ||
    attributed (value.get "config") || attributed (value.get "configuration") ||
    (value.get "conditions").asObject?.any fun conditions =>
      attributed (JsonObject.get conditions "configuration")

/-- The resources of a row name both processes. -/
def hasProcessResources (row : JsonObject) : Bool :=
  (row.get "resources").asObject?.any fun resources =>
    (JsonObject.get resources "client").asObject?.isSome &&
      (JsonObject.get resources "server").asObject?.isSome

/-- The profile that the marks of a report belong to, whatever it declares. -/
def researchEnvelopeProfile (metadata : JsonObject) (rows : List JsonObject) :
    Option ResearchProfile :=
  if (metadata :: rows).any hasAsyncBytesMark then some .asyncBytes
  else if metadata.has "lifecycle" ||
      (metadata.get "isolation").asObject?.any (fun isolation =>
        (JsonObject.get isolation "mode").pyEq (.str "per-lifecycle-case")) ||
      rows.any hasProcessResources then some .lifecycle
  else none

/-- A report declares a profile, in its metadata or in a row, or bears its marks. -/
def usesStreamingProfile (metadata : JsonObject) (rows : List JsonObject)
    (profile : ResearchProfile) : Bool :=
  (metadata.get "profile").pyEq (.str profile.name) ||
    rows.any (fun row => (row.get "profile").pyEq (.str profile.name)) ||
    researchEnvelopeProfile metadata rows = some profile

/-- The declared and the marked profile disagree. -/
def mismatchReason (message : String) (row : JsonObject) : ValidityReason :=
  validityReason .invalid "streaming_profile_mismatch" message row

/-- The research profile that a declared profile names. -/
def declaredResearchProfile (profile : Json) : Option ResearchProfile :=
  if profile.pyEq (.str "lifecycle") then some .lifecycle
  else if profile.pyEq (.str "async-bytes") then some .asyncBytes
  else none

/-- `profile in ORDINARY_PROFILES`. -/
def isOrdinaryProfile (profile : Json) : Bool :=
  profile.isNone || profile.pyEq (.str "default")

/-- The profile of a row agrees with the declared one. -/
def rowProfileMatches (profile : Json) (row : JsonObject) : Bool :=
  match declaredResearchProfile profile with
  | some declared => (row.get "profile").pyEq (.str declared.name)
  | none => isOrdinaryProfile (row.get "profile")

/-- A streaming report and all its rows declare the profile whose marks they bear. -/
def streamingProfileReasons (suite : Option Suite) (metadata : JsonObject)
    (rows : List JsonObject) : List ValidityReason :=
  if suite ≠ some .responseStreaming then []
  else
    let profile := metadata.get "profile"
    let declared := declaredResearchProfile profile
    let envelope := researchEnvelopeProfile metadata rows
    if !isOrdinaryProfile profile && declared.isNone then
      [mismatchReason "Response-streaming metadata declares an unknown profile." []]
    else if envelope.isSome && declared ≠ envelope then
      [mismatchReason
        "A research streaming envelope requires its explicit matching metadata profile." []]
    else
      match rows.find? fun row => !rowProfileMatches profile row with
      | some row =>
          [mismatchReason
            ("Response-streaming metadata and every aggregate row must declare the same research " ++
              "profile; ordinary legacy rows may omit it.")
            (rowReference row)]
      | none => []

end StreamingProfiles

/-! ## Lifecycle cases -/

section Lifecycle

/-- `LIFECYCLE_VARIATION_LIMIT_PERCENT`. -/
def lifecycleVariationLimitPercent : ℚ := 10

/-- `LIFECYCLE_MIN_VARIATION_REPETITIONS`. -/
def lifecycleMinVariationRepetitions : ℤ := 3

/-- `invalid(code, message, row)`. -/
def invalidReason (code message : String) (row : JsonObject) : ValidityReason :=
  validityReason .invalid code message row

/-- `[invalid(code, message, row)]` under a condition. -/
def invalidIf (condition : Bool) (code message : String) (row : JsonObject) :
    List ValidityReason :=
  if condition then [invalidReason code message row] else []

/-- `isinstance(pid, int)`; a `bool` is an `int`, too. -/
def asPid? : Json → Option ℤ
  | .int pid => some pid
  | .bool b => some (if b then 1 else 0)
  | _ => none

/-- The owned PIDs in the order of the check, each with its case. -/
def ownedPids (cases : List JsonObject) : List (JsonObject × ℤ) :=
  cases.flatMap fun case =>
    ["client_pid", "server_pid"].filterMap fun field =>
      (asPid? (case.get field)).map fun pid => (case, pid)

/-- A reason for each PID that was seen before. -/
def pidReuseFrom (seen : List ℤ) : List (JsonObject × ℤ) → List ValidityReason
  | [] => []
  | (case, pid) :: rest =>
      invalidIf (pid ∈ seen) "lifecycle_pid_reused"
          "A client/server PID appears in multiple fresh cases; ownership is ambiguous."
          (rowReference case) ++
        pidReuseFrom (pid :: seen) rest

/-- The four controls of a case, with those that a sync client cannot support. -/
def lifecycleControls : List (String × Bool) :=
  [("held_tail", false), ("recovery", false), ("body_wait_cancel", true),
    ("slow_consumer_cancel", true)]

/-- The check of one control of a case. -/
def controlReasons (case reference controls : JsonObject) (name : String) (cancel : Bool) :
    Py (List ValidityReason) := do
  let control := (controls.get name).asObject?
  let status := (control.map fun fields => JsonObject.get fields "status").getD .null
  let unsupportedSync := control.any fun fields =>
    (case.get "mode").pyEq (.str "sync") && cancel && status.pyEq (.str "unsupported") &&
      (JsonObject.get fields "reason").truthy
  let failed := invalidIf (!status.pyEq (.str "ok") && !unsupportedSync) "lifecycle_control_failed"
    ("Required lifecycle control '" ++ name ++ "' did not succeed.") reference
  match control with
  | some fields =>
      if name = "held_tail" then do
        let aborts ← intField fields "expected_aborts"
        pure (failed ++ invalidIf (aborts ≤ 0) "lifecycle_abort_unverified"
          "Held-tail control did not verify any unread-body abort." reference)
      else pure failed
  | none => pure failed

/-- The reasons of one lifecycle case. -/
def caseReasons (case : JsonObject) : Py (List ValidityReason) := do
  let reference := rowReference case
  let failed := invalidIf
    ((case.get "failure").truthy || (case.get "failures").truthy ||
      !(case.get "worker_status").pyEq (.str "ok") || (case.get "errors").truthy)
    "lifecycle_case_failed"
    "Lifecycle child, server, resource guard or owned control failed; raw output is retained."
    reference
  let identity := invalidIf (!(case.get "pid_identity_valid").isTrue)
    "lifecycle_pid_identity_invalid"
    "Parent/client/server PIDs or per-PID samples do not match the declared ownership." reference
  let samples := invalidIf
    (!(case.get "resources_truncated").isFalse || !(case.get "resource_samples_present").isTrue)
    "lifecycle_resource_samples_incomplete"
    "Resource samples are missing or exceeded their bounded recording cap." reference
  match (case.get "controls").asObject? with
  -- without controls none of them is looked at
  | none =>
      pure (failed ++ identity ++ samples ++
        [invalidReason "lifecycle_controls_missing" "Lifecycle control outcomes are missing."
          reference])
  | some controls => do
      let outcomes ← lifecycleControls.mapM fun control =>
        controlReasons case reference controls control.1 control.2
      pure (failed ++ identity ++ samples ++ outcomes.flatten)

/-- The cases are missing, are not as many as expected, or do not match the plan. -/
def planIncomplete (lifecycle : JsonObject) : Bool :=
  match (lifecycle.get "cases").asList? with
  | none => true
  | some cases =>
      !(Json.int cases.length).pyEq (lifecycle.get "expected_cases") ||
        !(lifecycle.get "plan_matches").truthy

/-- The cases are those of the plan, and each of them is in order. -/
def planCaseReasons (lifecycle : JsonObject) : Py (List ValidityReason) := do
  let plan := invalidIf (planIncomplete lifecycle) "lifecycle_plan_incomplete"
    "Lifecycle reports do not match the declared case plan." []
  let cases := ((lifecycle.get "cases").asList?).getD []
  let reasons ← cases.mapM fun case =>
    match case.asObject? with
    | some fields => caseReasons fields
    | none => pure [invalidReason "lifecycle_case_invalid"
        "Lifecycle process diagnostics are malformed." []]
  pure (plan ++ reasons.flatten ++ pidReuseFrom [] (ownedPids (cases.filterMap Json.asObject?)))

/-- The variation of one field of a row is above the limit. -/
def highVariationReason (row : JsonObject) (field : String) : Py (List ValidityReason) := do
  let value ← optionalFloatField row field
  match value with
  | some variation =>
      if PyFloat.lt (.finite lifecycleVariationLimitPercent) variation then
        pure [validityReason .warning "lifecycle_high_variation"
          (field ++ " is " ++ fixedOne variation ++
            "%, above the predeclared 10% criterion across fresh repetitions.")
          (rowReference row)]
      else pure []
  | none => pure []

/-- The repetitions of a row were configured alike and vary little. -/
def aggregateRowReasons (row : JsonObject) : Py (List ValidityReason) := do
  let configurations := invalidIf (!(row.get "configurations_match").isTrue)
    "lifecycle_configuration_mismatch"
    "Fresh repetitions used different or missing lifecycle configurations." (rowReference row)
  let samples ← intField row "variation_sample_count"
  if samples < lifecycleMinVariationRepetitions then pure configurations
  else do
    let streams ← highVariationReason row "streams_s_cv_percent"
    let duration ← highVariationReason row "duration_s_cv_percent"
    pure (configurations ++ streams ++ duration)

/-- The reasons of all rows. -/
def aggregateReasons (rows : List JsonObject) : Py (List ValidityReason) := do
  let reasons ← rows.mapM aggregateRowReasons
  pure reasons.flatten

/-- The reasons of a lifecycle report. -/
def lifecycleReportReasons (metadata : JsonObject) (rows : List JsonObject) :
    Py (List ValidityReason) :=
  if usesStreamingProfile metadata rows .lifecycle then
    match (metadata.get "lifecycle").asObject? with
    | none => pure [invalidReason "lifecycle_cases_missing"
        "Lifecycle process diagnostics are missing." []]
    | some lifecycle => do
        let plan ← planCaseReasons lifecycle
        let aggregates ← aggregateReasons rows
        pure (plan ++ aggregates)
  else pure []

end Lifecycle

end FogHttpBenchmark.Validity
