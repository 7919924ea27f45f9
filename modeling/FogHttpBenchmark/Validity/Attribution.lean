import FogHttpBenchmark.Attribution.Fingerprint
import FogHttpBenchmark.Validity.Reports

/-!
# Reasons of attribution reports

The checks of async-bytes reports: schema, fingerprints, the case plan, the raw evidence,
provenance, and for each row the integrity of its streams, its primary metric, its variation
and its resource evidence.
-/

set_option autoImplicit false

namespace FogHttpBenchmark.Validity

open Library Library.Checked Python Attribution

variable [PyRuntime]

/-! ## Reading values -/

section Values

/-- A number that is positive, or 0 where that is allowed. -/
def positiveNumber (value : Json) (allowZero : Bool) : Py (Option ℚ) := do
  let number ← finiteNumber value
  pure (number.filter fun q => 0 ≤ q && (allowZero || 0 < q))

/-- An integer of at least the given value. -/
def integerAtLeast (value : Json) (minimum : ℤ) : Bool :=
  value.asInt?.any fun n => minimum ≤ n

/-- `reason(status, code, message, row)`. -/
def attributionReason (status : ValidityStatus) (code message : String) (row : JsonObject) :
    ValidityReason :=
  validityReason status code message (rowReference row)

/-- `[reason(…)]` under a condition. -/
def reasonIf (condition : Bool) (status : ValidityStatus) (code message : String)
    (row : JsonObject) : List ValidityReason :=
  if condition then [attributionReason status code message row] else []

end Values

/-! ## Rows -/

section Rows

/-- The recorded fingerprint is that of the recorded conditions. -/
def fingerprintValid (value : JsonObject) : Py Bool :=
  match (value.get "conditions").asObject? with
  | none => pure false
  | some conditions =>
      match conditionFingerprint conditions with
      | .ok fingerprint => pure ((Json.str fingerprint).pyEq (value.get "condition_fingerprint"))
      | .error e => if e.isTypeOrValueError then pure false else throw e

/-- The measurement conditions have their own fingerprint. -/
def fingerprintReasons (value : JsonObject) : Py (List ValidityReason) := do
  let valid ← fingerprintValid value
  pure (reasonIf (!valid) .invalid "attribution_conditions_invalid"
    "Measurement conditions or their canonical fingerprint are missing or inconsistent." value)

/-- The declared number of streams, the body size and the verified bytes of a row, where they
are integers in the right proportion. -/
def verifiedTotal (row configuration : JsonObject) : Bool :=
  match (row.get "expected_streams_total").asInt?, (configuration.get "body_bytes").asInt?,
      (row.get "verified_bytes_total").asInt? with
  | some expected, some payload, some verified =>
      0 < expected && 0 < payload && verified = expected * payload
  | _, _, _ => false

/-- Every stream of the row has complete evidence. -/
def integrityComplete (row : JsonObject) : Bool :=
  let configuration := objectValue (row.get "configuration")
  let expected := row.get "expected_streams_total"
  verifiedTotal row configuration &&
    (row.get "complete_streams_total").pyEq expected &&
    (row.get "stream_samples_total").pyEq expected &&
    (row.get "integrity_failures_total").pyEq (.int 0) &&
    (row.get "successful_repeats").pyEq (row.get "repeats") &&
    (row.get "stream_measurement_evidence_complete").isTrue &&
    (row.get "declared_workload_complete").isTrue &&
    (row.get "gc_configuration_matches").isTrue &&
    (Json.obj configuration).pyEq
      (.obj (objectValue ((objectValue (row.get "conditions")).get "configuration")))

/-- One of the numbers is missing or negative. -/
def anyNumberMissing (value : JsonObject) (fields : List String) : Py Bool :=
  match fields with
  | [] => pure false
  | field :: rest => do
      let number ← positiveNumber (value.get field) true
      if number.isNone then pure true else anyNumberMissing value rest

/-- The processor values that a row needs. -/
def cpuFields : List String :=
  ["user_s_median", "system_s_median", "total_s_median", "cpu_seconds_per_verified_byte_median",
    "cpu_seconds_per_wall_second_median"]

/-- The replay times that a row needs. -/
def overheadFields : List String :=
  ["scalar_only_s_median", "sha256_only_s_median", "combined_s_median"]

/-- The processor evidence of one role is complete. -/
def cpuReasons (row : JsonObject) (role : String) : Py (List ValidityReason) := do
  let cpu := objectValue ((objectValue (row.get "cpu")).get role)
  let missing ← if (cpu.get "complete").isTrue then anyNumberMissing cpu cpuFields else pure true
  pure (reasonIf missing .needsRerun "attribution_cpu_incomplete"
    ("Separate " ++ role ++
      " load CPU evidence is unavailable; retained reasons do not replace measurement.") row)

/-- The processor evidence of both roles and the replay are complete. -/
def resourceEvidenceReasons (row : JsonObject) : Py (List ValidityReason) := do
  let client ← cpuReasons row "client"
  let server ← cpuReasons row "server"
  let overhead := objectValue (row.get "overhead")
  let missing ←
    if (overhead.get "complete").isTrue && (overhead.get "distribution_complete").isTrue then
      anyNumberMissing overhead overheadFields
    else pure true
  pure (client ++ server ++ reasonIf missing .needsRerun "attribution_overhead_incomplete"
    "Bounded replay did not qualify hashing/scalar overhead on the complete observed distribution."
    row)

/-- The reasons of one row of the async-bytes profile. -/
def attributionRowReasons (row : JsonObject) : Py (List ValidityReason) := do
  let fingerprint ← fingerprintReasons row
  let configuration := objectValue (row.get "configuration")
  let attribution := objectValue (configuration.get "attribution")
  let duration := reasonIf
    ((attribution.get "minimum_duration_s").truthy &&
      !(row.get "duration_window_complete").isTrue)
    .needsRerun "attribution_duration_short"
    "A duration window reached its hard stream cap before the declared minimum load time." row
  let integrity := reasonIf (!integrityComplete row) .invalid "attribution_integrity_incomplete"
    ("Every expected stream must have complete EOF, framing, byte count and digest evidence " ++
      "before contributing verified bytes.") row
  let primaryValue ← positiveNumber (row.get "verified_bytes_s_median") false
  let primary := reasonIf primaryValue.isNone .invalid "attribution_primary_missing"
    "Verified byte throughput is missing or nonpositive." row
  let diagnostic := reasonIf
    (!(row.get "instrumentation").pyEq (.str "control") || !(row.get "profiler_label").isNone)
    .needsRerun "attribution_diagnostic_only"
    "Diagnostic tracing/profiler runs cannot serve as control measurements." row
  let profile := reasonIf
    ((attribution.get "profiler").pyEq (.str "cprofile") &&
      !(row.get "python_profile_thread_scope_qualified").isTrue)
    .needsRerun "attribution_python_profile_unqualified"
    "Interpreter monitoring cannot provide thread-scoped timing or caller attribution." row
  let health := reasonIf (!(row.get "server_health_complete").isTrue) .invalid
    "attribution_server_health_incomplete" "Server health/EOF evidence is missing or failed." row
  let pids := reasonIf (!(row.get "cpu_pid_identity_valid").isTrue) .invalid
    "attribution_cpu_pid_mismatch"
    "CPU observations do not match the owned client and server PIDs." row
  let repetitions := reasonIf
    (!integerAtLeast (row.get "variation_sample_count") lifecycleMinVariationRepetitions)
    .needsRerun "attribution_repetitions_insufficient"
    "At least three fresh complete repetitions are required to assess variation." row
  let variationValue ← positiveNumber (row.get "verified_bytes_s_cv_percent") true
  let variation := reasonIf
    (variationValue.all fun value => lifecycleVariationLimitPercent < value)
    .needsRerun "attribution_variation_unqualified"
    ("Verified byte throughput variation is missing or exceeds the predeclared 10% criterion.") row
  let resources ← resourceEvidenceReasons row
  pure (fingerprint ++ duration ++ integrity ++ primary ++ diagnostic ++ profile ++ health ++
    pids ++ repetitions ++ variation ++ resources)

end Rows

/-! ## Reports -/

section Reports

/-- `FOGHTTP_BASELINE.ref`. -/
def foghttpBaselineRef : String := "refs/heads/release/0.4.2"

/-- The raw evidence was verified from disk, for every declared case. -/
def evidenceVerified (metadata lifecycle : JsonObject) : Bool :=
  let evidence := objectValue (metadata.get "raw_evidence_validation")
  (evidence.get "status").pyEq (.str "ok") &&
    (evidence.get "checked").pyEq (lifecycle.get "expected_cases") &&
    (evidence.get "aggregates_match").isTrue

/-- The research manifest names a verified release wheel. -/
def provenanceVerified (metadata : JsonObject) : Bool :=
  let provenance := objectValue (metadata.get "research_provenance")
  let manifest := objectValue (provenance.get "manifest")
  let source := objectValue (manifest.get "source")
  let installation := objectValue (provenance.get "installation")
  hexDigest (provenance.get "manifest_sha256") digestLength &&
    hexDigest (installation.get "native_sha256") digestLength &&
    hexDigest (source.get "sha") gitShaLength &&
    (source.get "ref").pyEq (.str foghttpBaselineRef) &&
    ((objectValue (manifest.get "build")).get "profile").pyEq (.str "release")

/-- The reasons of a report of the async-bytes profile. -/
def attributionReportReasons (metadata : JsonObject) (rows : List JsonObject) :
    Py (List ValidityReason) :=
  if usesStreamingProfile metadata rows .asyncBytes then do
    let schema := reasonIf
      (!(metadata.get "schema_version").pyEq (.int attributionSchemaVersion) ||
        !(metadata.get "policy_version").pyEq (.str attributionPolicyVersion))
      .invalid "attribution_schema_missing" "Attribution schema/policy evidence is missing." []
    let fingerprint ← fingerprintReasons metadata
    let lifecycle := objectValue (metadata.get "lifecycle")
    let plan ← planCaseReasons lifecycle
    let aggregates ← aggregateReasons rows
    let evidence := reasonIf (!evidenceVerified metadata lifecycle) .invalid
      "attribution_raw_evidence_invalid"
      "Raw sidecars are missing, changed or not verified from disk." []
    let provenance := reasonIf (!provenanceVerified metadata) .needsRerun
      "attribution_provenance_missing"
      "A verified release-wheel research manifest is mandatory for a performance conclusion." []
    let missing := reasonIf rows.isEmpty .invalid "attribution_rows_missing"
      "No measured attribution cells are present." []
    let harnessDigest ← harnessFingerprint metadata
    let harness := reasonIf harnessDigest.isNone .needsRerun
      "attribution_harness_provenance_missing"
      ("Harness commit, tracked diff and complete file fingerprints " ++
        "are required for a performance conclusion.") []
    let perRow ← rows.mapM attributionRowReasons
    pure (schema ++ fingerprint ++ plan ++ aggregates ++ evidence ++ provenance ++ missing ++
      harness ++ perRow.flatten)
  else pure []

end Reports

end FogHttpBenchmark.Validity
