import FogHttpBenchmark.MeasurementTiming
import FogHttpBenchmark.ReportSchema.Ordinary
import FogHttpBenchmark.ReportSchema.Resources
import FogHttpBenchmark.Validity.Serialization

/-!
# Admission of reports

`decode_report_payload`: what a saved report has to satisfy before anything is computed from
it. It fixes the suite, migrates the rows of legacy reports, and checks metadata, rows,
resource coverage, recorded validity and the identities of the aggregate rows.
-/

set_option autoImplicit false

namespace FogHttpBenchmark.ReportSchema

open Library Library.Checked Python Validity MeasurementTiming

/-! ## Finite numbers -/

section Finite

mutual

/-- The path of the first number in the value that is not finite. -/
def nonFinitePath (path : String) : Json → Option String
  | .float x => if x.isFinite then none else some path
  | .arr items => nonFiniteItem path 0 items
  | .obj fields => nonFiniteField path fields
  | _ => none

/-- The path of the first number of a list that is not finite. -/
def nonFiniteItem (path : String) : ℕ → List Json → Option String
  | _, [] => none
  | index, item :: items =>
      match nonFinitePath (path ++ "[" ++ toString index ++ "]") item with
      | some found => some found
      | none => nonFiniteItem path (index + 1) items

/-- The path of the first number of an object that is not finite. -/
def nonFiniteField (path : String) : List (String × Json) → Option String
  | [] => none
  | (key, value) :: fields =>
      match nonFinitePath (path ++ "." ++ key) value with
      | some found => some found
      | none => nonFiniteField path fields

end

/-- No number of a report is infinite or `NaN`. -/
def validateFiniteJson (value : Json) (path : String) : Py Unit :=
  match nonFinitePath path value with
  | some found => throw (valueError (found ++ " must not contain a non-finite JSON number"))
  | none => pure ()

mutual

theorem nonFinitePath_eq_none : ∀ (path : String) {value : Json},
    nonFinitePath path value = none ↔ value.isFinite = true
  | path, .null => by simp [nonFinitePath, Json.isFinite]
  | path, .bool _ => by simp [nonFinitePath, Json.isFinite]
  | path, .int _ => by simp [nonFinitePath, Json.isFinite]
  | path, .float x => by simp [nonFinitePath, Json.isFinite]
  | path, .str _ => by simp [nonFinitePath, Json.isFinite]
  | path, .arr items => by
      rw [nonFinitePath, Json.isFinite]
      exact nonFiniteItem_eq_none path 0
  | path, .obj fields => by
      rw [nonFinitePath, Json.isFinite]
      exact nonFiniteField_eq_none path

theorem nonFiniteItem_eq_none : ∀ (path : String) (index : ℕ) {items : List Json},
    nonFiniteItem path index items = none ↔ Json.isFiniteItems items = true
  | path, index, [] => by simp [nonFiniteItem, Json.isFiniteItems]
  | path, index, item :: items => by
      rw [nonFiniteItem, Json.isFiniteItems, Bool.and_eq_true,
        ← nonFinitePath_eq_none (path ++ "[" ++ toString index ++ "]"),
        ← nonFiniteItem_eq_none path (index + 1)]
      cases nonFinitePath (path ++ "[" ++ toString index ++ "]") item <;> simp

theorem nonFiniteField_eq_none : ∀ (path : String) {fields : List (String × Json)},
    nonFiniteField path fields = none ↔ Json.isFiniteFields fields = true
  | path, [] => by simp [nonFiniteField, Json.isFiniteFields]
  | path, (key, value) :: fields => by
      rw [nonFiniteField, Json.isFiniteFields, Bool.and_eq_true,
        ← nonFinitePath_eq_none (path ++ "." ++ key), ← nonFiniteField_eq_none path]
      cases nonFinitePath (path ++ "." ++ key) value <;> simp

end

/-- The check returns exactly on values whose floats are finite. -/
theorem validateFiniteJson_eq_ok {value : Json} {path : String} :
    validateFiniteJson value path = .ok () ↔ value.isFinite = true := by
  rw [validateFiniteJson, ← nonFinitePath_eq_none path]
  split
  case h_1 found hfound => simp [hfound]
  case h_2 hnone => simp [hnone]

end Finite

/-! ## Layouts -/

section Layouts

/-- The layouts that the fields of a row fit, in the order of the signatures. -/
def rowLayouts (row : JsonObject) (run : Bool) : List Suite :=
  let operations := if run then "operations_per_second" else "ops_s_median"
  let requests := if run then "ok_requests_per_second" else "ok_req_s_median"
  let streams := if run then "ok_streams_per_second" else "ok_streams_s_median"
  let signatures : List (Suite × Bool) :=
    [(.requests, row.has "scenario" && row.has requests),
      (.clientCreation, row.has "client_count" && row.has operations),
      (.resourceBackpressure, row.has "max_pending_requests"),
      (.oneUpstream, row.has "profile" && row.has "case" && row.has requests),
      (.requestBuilder, row.has "kind" && row.has operations),
      (.responseStreaming, row.has streams || row.has "verified_bytes_s_median"),
      (.proxyConnect, row.has "target_scheme" && row.has "config")]
  (signatures.filter Prod.snd).map Prod.fst

/-- The suite of a row of a report that does not declare one. -/
def legacyRowSuite (row : JsonObject) : Py Suite :=
  match rowLayouts row false with
  | [suite] => pure suite
  | _ => throw (valueError
      "metadata.suite cannot be inferred from an unknown or ambiguous legacy row")

variable [PyRuntime]

/-- The suite of a report, declared or inferred from all its rows. -/
def reportSuite (metadata : JsonObject) (rows : List JsonObject) : Py Suite :=
  if metadata.has "suite" then do
    let name ← requireString (metadata.get "suite") "metadata.suite"
    match Suite.ofName? name with
    | some suite => pure suite
    | none => throw (valueError ("metadata.suite is unsupported: " ++ reprString name))
  else do
    let inferred ← rows.mapM legacyRowSuite
    match inferred.dedup with
    | [suite] => pure suite
    | _ => throw (valueError
        "metadata.suite is required for empty, mixed or ambiguous legacy layouts")

/-- The layout of a suite: compressed responses are laid out like requests. -/
def suiteLayout (suite : Suite) : Suite :=
  if suite = .compressedResponse then .requests else suite

/-- A row has no field that belongs to another suite. -/
def validateRowLayout (suite : Suite) (runs : Bool) (row : JsonObject) (path : String) :
    Py Unit := do
  raiseIf (row.has "schema_version")
    (valueError (path ++ ".schema_version is reserved for async-bytes rows"))
  let markers := rowLayouts row false ++ if runs then rowLayouts row true else []
  let foreign :=
    (markers.dedup.filter fun candidate => candidate ≠ suiteLayout suite).map Suite.name
  raiseIf (!foreign.isEmpty)
    (valueError (path ++ " contains incompatible layout markers for " ++ suite.name ++ ": " ++
      String.intercalate ", " (foreign.insertionSort (· ≤ ·))))

/-- No row has a field that belongs to another suite. -/
def validateLayoutMarkers (suite : Suite) (runs : Bool) (rows : List JsonObject) : Py Unit :=
  forIndexed rows fun index row =>
    validateRowLayout suite runs row (if runs then runPath index else aggregatePath index)

/-- `row.setdefault(key, value)`. -/
def setDefault (row : JsonObject) (key : String) (value : Json) : JsonObject :=
  if row.has key then row else Dict.set key value row

/-- A value that is looked up in a set has to be hashable. -/
def requireHashable (value : Json) : Py Unit :=
  match value with
  | .arr _ => throw (typeError "unhashable type: 'list'")
  | .obj _ => throw (typeError "unhashable type: 'dict'")
  | _ => pure ()

/-- A row under the field names of the current schema. -/
def migrateLegacyRow (suite : Suite) (row : JsonObject) (path : String) : Py JsonObject := do
  let limited ←
    if row.has "max_connections" then do
      let old ← requireInteger (row.get "max_connections") (path ++ ".max_connections") 0
      raiseIf (row.has "request_limit" && !(row.get "request_limit").pyEq (.int old))
        (valueError (path ++ ".request_limit disagrees with max_connections"))
      pure (setDefault row "request_limit" (.int old))
    else pure row
  if suite = .responseStreaming then do
    requireHashable (limited.get "profile")
    if (declaredResearchProfile (limited.get "profile")).isNone then
      pure (setDefault limited "read" (.str "bytes"))
    else pure limited
  else pure limited

/-- All rows, each with its own path. -/
def migrateLegacyRows (suite : Suite) (path : ℕ → String) (rows : List JsonObject) :
    Py (List JsonObject) :=
  rows.zipIdx.mapM fun row => migrateLegacyRow suite row.1 (path row.2)

end Layouts

/-! ## Metadata -/

section Metadata

/-- A version of the metadata is the supported one, where it is declared. -/
def validateVersion (metadata : JsonObject) (suite : Suite) (key : String) (supported : ℤ) :
    Py Unit :=
  if metadata.has key then do
    let version ← requireInteger (metadata.get key) ("metadata." ++ key) 1
    raiseIf (version ≠ supported ||
        (key = "streaming_metric_schema_version" && suite ≠ .responseStreaming))
      (valueError ("metadata." ++ key ++ " is unsupported for " ++ suite.name ++ ": " ++
        toString version))
  else pure ()

/-- All versions that the metadata may declare. -/
def validateVersions (metadata : JsonObject) (suite : Suite) : Py Unit := do
  if metadata.has "report_schema_version" then do
    let version ← requireInteger (metadata.get "report_schema_version")
      "metadata.report_schema_version" 1
    raiseIf (version ≠ reportSchemaVersion)
      (valueError ("metadata.report_schema_version is unsupported: " ++ toString version))
  validateVersion metadata suite "resource_metric_schema_version" resourceMetricSchemaVersion
  validateVersion metadata suite "streaming_metric_schema_version" 2
  raiseIf (metadata.has "schema_version" &&
      (suite ≠ .responseStreaming || !usesStreamingProfile metadata [] .asyncBytes))
    (valueError "metadata.schema_version is reserved for async-bytes reports")

/-- A text that the metadata may have. -/
def validateOptionalString (metadata : JsonObject) (key : String) : Py Unit :=
  if metadata.has key then do
    let _ ← requireString (metadata.get key) ("metadata." ++ key)
  else pure ()

/-- An object that the metadata may have; package versions are texts. -/
def validateOptionalObject (metadata : JsonObject) (key : String) : Py Unit :=
  if metadata.has key then do
    let record ← requireObject (metadata.get key) ("metadata." ++ key)
    if key = "package_versions" then
      forM record fun entry => do
        let _ ← requireString entry.2 ("metadata.package_versions." ++ entry.1)
    else pure ()
  else pure ()

/-- The texts and objects that the metadata may have. -/
def validateMetadataObjects (metadata : JsonObject) : Py Unit := do
  forM ["timestamp", "python", "platform"] (validateOptionalString metadata)
  forM ["args", "package_versions", "package_sources", "skipped"]
    (validateOptionalObject metadata)

/-- The metadata of a report of the suite. -/
def validateMetadata (metadata : JsonObject) (suite : Suite) : Py Unit := do
  validateVersions metadata suite
  validateMetadataObjects metadata
  let args ← requireObject (metadata.getOr "args" (.obj [])) "metadata.args"
  raiseIf (args.has "suite" && !(args.get "suite").pyEq (.str suite.name))
    (valueError "metadata.args.suite disagrees with metadata.suite")
  raiseIf (suite ≠ .responseStreaming && metadata.has "profile")
    (valueError "metadata.profile is reserved for response-streaming reports")

variable [PyRuntime]

/-- One of the return codes of a child; a research child may have none. -/
def validateReturncode (child : JsonObject) (path field : String) (research : Bool) : Py Unit :=
  if field = "server_returncode" && !child.has field then pure ()
  else if research && (child.get field).isNone then pure ()
  else raiseIf (child.get field).asInt?.isNone
    (typeError (path ++ "." ++ field ++ " must be an integer" ++
      if research then " or null for a research failure" else ""))

/-- The outcome of one isolated child; only a research failure may leave it out. -/
def validateChildDiagnostic (child : JsonObject) (path : String) (research : Bool) :
    Py Unit := do
  forM ["returncode", "server_returncode"] fun field =>
    validateReturncode child path field research
  if (child.get "report_path").isNone then pure ()
  else do
    let _ ← requireString (child.get "report_path") (path ++ ".report_path")
  if child.has "sequence" then do
    let _ ← requireInteger (child.get "sequence") (path ++ ".sequence") 1
  if child.has "duration_s" then do
    let _ ← requireNumber (child.get "duration_s") (path ++ ".duration_s") (some 0)
  if child.has "validity" then do
    let validity ← requireObject (child.get "validity") (path ++ ".validity")
    let _ ← validitySummaryFromPayload validity

/-- The children of an isolated report, as many as it declares. -/
def validateIsolationMetadata (metadata : JsonObject) : Py Unit :=
  if metadata.has "isolation" then do
    let isolation ← requireObject (metadata.get "isolation") "metadata.isolation"
    if isolation.has "children" then do
      let children ← requireRows (isolation.get "children") "metadata.isolation.children"
      if isolation.has "child_count" then do
        let count ← requireInteger (isolation.get "child_count")
          "metadata.isolation.child_count" 0
        raiseIf (count ≠ children.length)
          (valueError "metadata.isolation.child_count must match children")
      let research := (isolation.get "mode").pyEq (.str "per-lifecycle-case")
      forIndexed children fun index child =>
        validateChildDiagnostic child
          ("metadata.isolation.children[" ++ toString index ++ "]") research
    else pure ()
  else pure ()

end Metadata

/-! ## Rows -/

section Rows

/-- A metric of a research row is absent, null or a number. -/
def validateResearchMetric (row : JsonObject) (path key : String) : Py Unit :=
  if (row.get key).isNone then pure ()
  else do
    let _ ← requireNumber (row.get key) (path ++ "." ++ key) (some 0)

/-- The fields that a row of a research profile needs. -/
def validateResearchRow (row : JsonObject) (path : String) : Py Unit := do
  forM ["mode", "client", "case", "read", "consume"] fun key => do
    let _ ← requireString (row.get key) (path ++ "." ++ key)
  forM ["concurrency", "request_limit"] fun key => do
    let _ ← requireInteger (row.get key) (path ++ "." ++ key) 1
  forM ["errors_total", "warmup_errors_total"] fun key => do
    let _ ← requireInteger (row.get key) (path ++ "." ++ key) 0
  forM ["verified_bytes_s_median", "ok_streams_s_median", "p95_ms_median", "p99_ms_median"]
    (validateResearchMetric row path)
  let resources ← requireObject (row.getOr "resources" (.obj [])) (path ++ ".resources")
  forM ["client", "server"] fun role =>
    if resources.has role then do
      let observation ← requireObject (resources.get role) (path ++ ".resources." ++ role)
      let _ ← validateResourceCoverage observation (path ++ ".resources." ++ role) false
    else pure ()

/-- All rows of a research profile. -/
def validateResearchRows (rows : List JsonObject) : Py Unit :=
  forIndexed rows fun index row => validateResearchRow row (aggregatePath index)

variable [PyRuntime]

/-- The report has a research layout. -/
def isResearch (suite : Suite) (metadata : JsonObject) (rows : List JsonObject) : Bool :=
  suite = .responseStreaming &&
    (usesStreamingProfile metadata rows .lifecycle ||
      usesStreamingProfile metadata rows .asyncBytes)

/-- The rows and the timing scope of a report without a research profile. -/
def validateOrdinaryReport (suite : Suite) (metadata : JsonObject)
    (aggregate runs : List JsonObject) : Py Unit := do
  validateLayoutMarkers suite false aggregate
  validateLayoutMarkers suite true runs
  validateOrdinaryRows suite aggregate runs
  match (metadata.get "timing_scope").asString? with
  | some scope => do
      validateRowScopes scope aggregate
      validateRowScopes scope runs
  | none => pure ()
  validateOrdinaryResourceCoverage suite aggregate runs
    ((metadata.get "resource_metric_schema_version").pyEq (.int resourceMetricSchemaVersion))

/-- The rows, by whether the report belongs to a research profile. -/
def validateRows (suite : Suite) (metadata : JsonObject) (aggregate runs : List JsonObject) :
    Py Unit :=
  if isResearch suite metadata aggregate then validateResearchRows aggregate
  else validateOrdinaryReport suite metadata aggregate runs

end Rows

/-! ## Migrated rows -/

section Migration

variable [PyRuntime]

/-- A field that every admitted row of a suite has keeps the migration from setting it. -/
theorem identity_setDefault {suite : Suite} {row : JsonObject} {key : String} {value : Json}
    (hcommon : key ∉ commonIdentityFields)
    (hfield : key ∈ aggregateIdentityFields suite → row.has key = true) :
    aggregateIdentity suite (setDefault row key value) = aggregateIdentity suite row := by
  rw [setDefault]
  split
  case isTrue => rfl
  case isFalse hmissing =>
    refine aggregateIdentity_congr ?_ hcommon fun hmem => hmissing (hfield hmem)
    intro field hne
    exact Dict.lookup_set_of_ne hne value row

/-- The fields that a migration can set and that are part of the identity are there. -/
def HasMigratedFields (suite : Suite) (row : JsonObject) : Prop :=
  ∀ key ∈ ["request_limit", "read"], key ∈ aggregateIdentityFields suite → row.has key = true

omit [PyRuntime] in
theorem has_setDefault {row : JsonObject} {key other : String} {value : Json}
    (h : row.has other = true) : (setDefault row key value).has other = true := by
  rw [setDefault]
  split
  case isTrue => exact h
  case isFalse hmissing =>
    rw [JsonObject.has, Dict.contains, Dict.lookup_set_of_ne]
    · exact h
    · rintro rfl
      exact hmissing h

omit [PyRuntime] in
/-- All that a migration does is to set the request limit and the read mode where they are
missing. -/
theorem steps_of_migrateLegacyRow {suite : Suite} {row migrated : JsonObject} {path : String}
    (h : migrateLegacyRow suite row path = .ok migrated) :
    ∃ limited, (limited = row ∨ ∃ n, limited = setDefault row "request_limit" (.int n)) ∧
      (migrated = limited ∨ migrated = setDefault limited "read" (.str "bytes")) := by
  have hread : ∀ limited : JsonObject,
      (if suite = .responseStreaming then (do
          requireHashable (limited.get "profile")
          if (declaredResearchProfile (limited.get "profile")).isNone then
            pure (setDefault limited "read" (.str "bytes"))
          else pure limited)
        else pure limited) = (.ok migrated : Py JsonObject) →
      migrated = limited ∨ migrated = setDefault limited "read" (.str "bytes") := by
    intro limited hlimited
    split at hlimited
    case isTrue =>
      obtain ⟨-, hlimited⟩ := seq_eq_ok.1 hlimited
      split at hlimited
      case isTrue => exact .inr (pure_eq_ok.1 hlimited).symm
      case isFalse => exact .inl (pure_eq_ok.1 hlimited).symm
    case isFalse => exact .inl (pure_eq_ok.1 hlimited).symm
  rw [migrateLegacyRow] at h
  split at h
  case isTrue =>
    obtain ⟨old, -, h⟩ := bind_eq_ok.1 h
    obtain ⟨-, h⟩ := seq_eq_ok.1 h
    exact ⟨_, .inr ⟨_, rfl⟩, hread _ h⟩
  case isFalse => exact ⟨row, .inl rfl, hread _ h⟩

omit [PyRuntime] in
theorem isFinite_setDefault {row : JsonObject} (h : (Json.obj row).isFinite = true) (key : String)
    {value : Json} (hvalue : value.isFinite = true) :
    (Json.obj (setDefault row key value)).isFinite = true := by
  rw [setDefault]
  split
  case isTrue => exact h
  case isFalse => exact Json.isFinite_set h key hvalue

omit [PyRuntime] in
theorem isFinite_migrateLegacyRow {suite : Suite} {row migrated : JsonObject} {path : String}
    (hfinite : (Json.obj row).isFinite = true)
    (h : migrateLegacyRow suite row path = .ok migrated) :
    (Json.obj migrated).isFinite = true := by
  obtain ⟨limited, hlimited, hmigrated⟩ := steps_of_migrateLegacyRow h
  have hfinite' : (Json.obj limited).isFinite = true := by
    rcases hlimited with rfl | ⟨n, rfl⟩
    · exact hfinite
    · exact isFinite_setDefault hfinite _ rfl
  rcases hmigrated with rfl | rfl
  · exact hfinite'
  · exact isFinite_setDefault hfinite' _ rfl

/-- Migration keeps the identity of a row that has its identity fields. -/
theorem identity_migrateLegacyRow {suite : Suite} {row migrated : JsonObject} {path : String}
    (hfields : HasMigratedFields suite row)
    (h : migrateLegacyRow suite row path = .ok migrated) :
    aggregateIdentity suite migrated = aggregateIdentity suite row := by
  obtain ⟨limited, hlimited, hmigrated⟩ := steps_of_migrateLegacyRow h
  have hstep : aggregateIdentity suite limited = aggregateIdentity suite row ∧
      HasMigratedFields suite limited := by
    rcases hlimited with rfl | ⟨value, rfl⟩
    · exact ⟨rfl, hfields⟩
    · exact ⟨identity_setDefault (by decide) (hfields _ (by simp)),
        fun key hkey hmem => has_setDefault (hfields key hkey hmem)⟩
  rcases hmigrated with rfl | rfl
  · exact hstep.1
  · rw [identity_setDefault (by decide) (hstep.2 _ (by simp)), hstep.1]

omit [PyRuntime] in
theorem has_of_isCount {row : JsonObject} {key : String} {minimum : ℤ}
    (h : IsCount (row.get key) minimum) : row.has key = true := by
  obtain ⟨n, hn, -⟩ := h
  exact JsonObject.has_of_get_ne_null (by rw [hn]; exact nofun)

omit [PyRuntime] in
/-- The identity checks of a row make sure of the fields that a migration could set. -/
theorem hasMigratedFields_of_validateIdentity {suite : Suite} {row : JsonObject} {path : String}
    (h : validateIdentity suite row path = .ok ()) : HasMigratedFields suite row := by
  obtain ⟨hfields, hworkload, -⟩ := validateIdentity_eq_ok.1 h
  intro key hkey hmem
  rw [List.mem_cons, List.mem_singleton] at hkey
  rcases hkey with rfl | rfl
  · have hrequests : suite.isOperation = false := by
      cases suite <;> first | rfl | exact absurd hmem (by decide)
    rw [WorkloadOk, hrequests, if_neg Bool.false_ne_true] at hworkload
    exact has_of_isCount hworkload.2
  · have hread : "read" ∈ identityFields suite := by
      cases suite <;> first | decide | exact absurd hmem (by decide)
    obtain ⟨s, hs, -⟩ := hfields "read" (by simp [hread])
    exact JsonObject.has_of_get_ne_null (by rw [hs]; exact Json.noConfusion)

omit [PyRuntime] in
/-- So do the checks of a research row. -/
theorem hasMigratedFields_of_validateResearchRow {suite : Suite} {row : JsonObject}
    {path : String} (h : validateResearchRow row path = .ok ()) : HasMigratedFields suite row := by
  rw [validateResearchRow] at h
  obtain ⟨hstrings, h⟩ := seq_eq_ok.1 h
  obtain ⟨hcounts, -⟩ := seq_eq_ok.1 h
  intro key hkey _
  rw [List.mem_cons, List.mem_singleton] at hkey
  rcases hkey with rfl | rfl
  · have hlimit := forM_eq_ok.1 hcounts "request_limit" (by simp)
    rw [bind_requireCount_eq_ok] at hlimit
    exact has_of_isCount hlimit.1
  · have hread := forM_eq_ok.1 hstrings "read" (by simp)
    obtain ⟨s, hs, -⟩ := bind_eq_ok.1 hread
    exact JsonObject.has_of_get_ne_null (by rw [(requireString_eq_ok.1 hs).1]; exact nofun)

end Migration

/-! ## Reports -/

section Reports

variable [PyRuntime]

/-- The rows of a report that declares no schema version are migrated. -/
def currentRows (suite : Suite) (metadata : JsonObject) (path : ℕ → String)
    (rows : List JsonObject) : Py (List JsonObject) :=
  if metadata.has "report_schema_version" then pure rows else migrateLegacyRows suite path rows

/-- The suite of a report, where it is the expected one. -/
def expectedReportSuite (metadata : JsonObject) (aggregate : List JsonObject)
    (expectedSuite : Option String) : Py Suite := do
  raiseIf (metadata.has "report_schema_version" && !metadata.has "suite")
    (valueError "metadata.suite is required by report_schema_version")
  let suite ← reportSuite metadata aggregate
  raiseIf (expectedSuite.any fun expected => suite.name ≠ expected)
    (valueError ("metadata.suite " ++ reprString suite.name ++
      " does not match parent suite " ++ reprString (expectedSuite.getD "")))
  pure suite

/-- The recorded validity of a report, if there is one, can be read. -/
def validateRecordedValidity (metadata : JsonObject) : Py Unit :=
  if metadata.has "validity" then do
    let validity ← requireObject (metadata.get "validity") "metadata.validity"
    let _ ← validitySummaryFromPayload validity
  else pure ()

/-- `decode_report_payload(value, expected_suite)`: the checks in their order, then the migrated
report. -/
def decodeReportPayload (value : Json) (expectedSuite : Option String) : Py DecodedReport := do
  let payload ← requireObject value "report"
  validateFiniteJson (.obj payload) "report"
  let declared ← requireObject (payload.get "metadata") "metadata"
  let aggregate ← requireRows (payload.get "aggregate") "aggregate"
  let runs ← requireRows (payload.get "runs") "runs"
  let suite ← expectedReportSuite declared aggregate expectedSuite
  let metadata := Dict.set "suite" (.str suite.name) declared
  validateMetadata metadata suite
  validateIsolationMetadata metadata
  let aggregate ← currentRows suite metadata aggregatePath aggregate
  let runs ← currentRows suite metadata runPath runs
  validateRows suite metadata aggregate runs
  validateRecordedValidity metadata
  validateUniqueAggregateRows suite aggregate
  pure ⟨suite, metadata, aggregate, runs⟩

/-- What the admission of a payload has found: the parts of the payload, the suite, the current
rows, and that every check has passed. -/
structure Admits (payload declared : JsonObject) (aggregate runs : List JsonObject)
    (expectedSuite : Option String) (report : DecodedReport) : Prop where
  finite : validateFiniteJson (.obj payload) "report" = .ok ()
  declaredPart : payload.get "metadata" = .obj declared
  aggregatePart : payload.get "aggregate" = .arr (aggregate.map .obj)
  runsPart : payload.get "runs" = .arr (runs.map .obj)
  suite : expectedReportSuite declared aggregate expectedSuite = .ok report.suite
  metadata : report.metadata = Dict.set "suite" (.str report.suite.name) declared
  metadataChecked : validateMetadata report.metadata report.suite = .ok ()
  isolationChecked : validateIsolationMetadata report.metadata = .ok ()
  aggregateRows : currentRows report.suite report.metadata aggregatePath aggregate =
    .ok report.aggregateRows
  runRows : currentRows report.suite report.metadata runPath runs = .ok report.runRows
  rowsChecked : validateRows report.suite report.metadata report.aggregateRows report.runRows =
    .ok ()
  validityChecked : validateRecordedValidity report.metadata = .ok ()
  unique : validateUniqueAggregateRows report.suite report.aggregateRows = .ok ()

theorem decodeReportPayload_eq_ok {value : Json} {expectedSuite : Option String}
    {report : DecodedReport} :
    decodeReportPayload value expectedSuite = .ok report ↔
      ∃ payload declared aggregate runs, value = .obj payload ∧
        Admits payload declared aggregate runs expectedSuite report := by
  simp only [decodeReportPayload, bind_eq_ok, pure_eq_ok, requireObject_eq_ok, requireRows_eq_ok]
  constructor
  · rintro ⟨payload, rfl, ⟨⟩, hfinite, declared, hdeclared, aggregate, haggregate, runs, hruns,
      suite, hsuite, ⟨⟩, hmetadata, ⟨⟩, hisolation, rows, hrows, runRows, hrunRows, ⟨⟩, hchecked,
      ⟨⟩, hvalidity, ⟨⟩, hunique, rfl⟩
    exact ⟨payload, declared, aggregate, runs, rfl, hfinite, hdeclared, haggregate, hruns, hsuite,
      rfl, hmetadata, hisolation, hrows, hrunRows, hchecked, hvalidity, hunique⟩
  · rintro ⟨payload, declared, aggregate, runs, rfl, h⟩
    obtain ⟨suite, metadata, rows, runRows⟩ := report
    obtain ⟨hfinite, hdeclared, haggregate, hruns, hsuite, hmetadata, hmetadataChecked, hisolation,
      hrows, hrunRows, hchecked, hvalidity, hunique⟩ := h
    dsimp only at hmetadata
    subst hmetadata
    exact ⟨payload, rfl, ⟨⟩, hfinite, declared, hdeclared, aggregate, haggregate, runs, hruns,
      suite, hsuite, ⟨⟩, hmetadataChecked, ⟨⟩, hisolation, rows, hrows, runRows, hrunRows, ⟨⟩,
      hchecked, ⟨⟩, hvalidity, ⟨⟩, hunique, rfl⟩

omit [PyRuntime] in
/-- The current rows are as finite as the rows of the payload. -/
theorem isFinite_currentRows {suite : Suite} {metadata : JsonObject} {path : ℕ → String}
    {rows current : List JsonObject} (hrows : ∀ row ∈ rows, (Json.obj row).isFinite = true)
    (h : currentRows suite metadata path rows = .ok current) :
    ∀ row ∈ current, (Json.obj row).isFinite = true := by
  intro row hrow
  rw [currentRows] at h
  split at h
  case isTrue =>
    rw [pure_eq_ok] at h
    rw [← h] at hrow
    exact hrows row hrow
  case isFalse =>
    rw [migrateLegacyRows] at h
    obtain ⟨source, hsource, hmigrated⟩ := exists_source_of_mapM_eq_ok h hrow
    exact isFinite_migrateLegacyRow (hrows source.1 (List.fst_mem_of_mem_zipIdx hsource)) hmigrated

/-- The metadata and all rows of an admitted report are finite. -/
theorem Admits.isFinite {payload declared : JsonObject} {aggregate runs : List JsonObject}
    {expectedSuite : Option String} {report : DecodedReport}
    (h : Admits payload declared aggregate runs expectedSuite report) :
    (Json.obj report.metadata).isFinite = true ∧
      (∀ row ∈ report.aggregateRows, (Json.obj row).isFinite = true) ∧
      ∀ row ∈ report.runRows, (Json.obj row).isFinite = true := by
  have hpayload := validateFiniteJson_eq_ok.1 h.finite
  have hdeclared := Json.isFinite_get hpayload "metadata"
  rw [h.declaredPart] at hdeclared
  have hpart : ∀ {key : String} {rows : List JsonObject},
      JsonObject.get payload key = .arr (rows.map .obj) →
        ∀ row ∈ rows, (Json.obj row).isFinite = true := by
    intro key rows hkey row hrow
    have hitems := Json.isFinite_get hpayload key
    rw [hkey, Json.isFinite, Json.isFiniteItems_iff] at hitems
    exact hitems _ (List.mem_map_of_mem hrow)
  refine ⟨?_, isFinite_currentRows (hpart h.aggregatePart) h.aggregateRows,
    isFinite_currentRows (hpart h.runsPart) h.runRows⟩
  rw [h.metadata]
  exact Json.isFinite_set hdeclared _ rfl

/-- Nothing in an admitted report is infinite or not a number. -/
theorem isFinite_of_decode {value : Json} {expectedSuite : Option String} {report : DecodedReport}
    (h : decodeReportPayload value expectedSuite = .ok report) :
    (Json.obj report.metadata).isFinite = true ∧
      ∀ row ∈ report.aggregateRows, (Json.obj row).isFinite = true := by
  obtain ⟨payload, declared, aggregate, runs, -, hadmits⟩ := decodeReportPayload_eq_ok.1 h
  exact ⟨hadmits.isFinite.1, hadmits.isFinite.2.1⟩

/-- The rows of an admitted report have passed the row checks of its layout. -/
theorem validateRows_of_decode {value : Json} {expectedSuite : Option String}
    {report : DecodedReport} (h : decodeReportPayload value expectedSuite = .ok report) :
    validateRows report.suite report.metadata report.aggregateRows report.runRows = .ok () := by
  obtain ⟨payload, declared, aggregate, runs, -, hadmits⟩ := decodeReportPayload_eq_ok.1 h
  exact hadmits.rowsChecked

/-- Outside the streaming suite every admitted aggregate row has passed the ordinary checks. -/
theorem validateAggregateRow_of_decode {value : Json} {expectedSuite : Option String}
    {report : DecodedReport} (h : decodeReportPayload value expectedSuite = .ok report)
    (hsuite : report.suite ≠ .responseStreaming) {row : JsonObject}
    (hrow : row ∈ report.aggregateRows) :
    ∃ path, validateAggregateRow report.suite row path = .ok () := by
  have hrows := validateRows_of_decode h
  have hordinary : isResearch report.suite report.metadata report.aggregateRows = false := by
    simp [isResearch, hsuite]
  rw [validateRows, hordinary, if_neg Bool.false_ne_true, validateOrdinaryReport] at hrows
  obtain ⟨-, hrows⟩ := seq_eq_ok.1 hrows
  obtain ⟨-, hrows⟩ := seq_eq_ok.1 hrows
  obtain ⟨hrows, -⟩ := seq_eq_ok.1 hrows
  obtain ⟨haggregates, -⟩ := seq_eq_ok.1 hrows
  obtain ⟨index, hindex⟩ := List.mem_iff_getElem?.1 hrow
  exact ⟨_, forIndexed_eq_ok.1 haggregates index row hindex⟩

/-- The error maps of an admitted row add up to its totals. -/
theorem errorMaps_of_decode {value : Json} {expectedSuite : Option String}
    {report : DecodedReport} (h : decodeReportPayload value expectedSuite = .ok report)
    (hsuite : report.suite ≠ .responseStreaming) {row : JsonObject}
    (hrow : row ∈ report.aggregateRows) :
    ErrorMapOk row "error_types" "errors_total" ∧
      ErrorMapOk row "warmup_error_types" "warmup_errors_total" := by
  obtain ⟨path, hpath⟩ := validateAggregateRow_of_decode h hsuite hrow
  rw [validateAggregateRow] at hpath
  obtain ⟨-, hpath⟩ := seq_eq_ok.1 hpath
  obtain ⟨haggregate, -⟩ := seq_eq_ok.1 hpath
  obtain ⟨repeats, errors, -, -, -, -, hmaps⟩ := validateAggregate_eq_ok.1 haggregate
  exact hmaps

/-- An admitted report is one of the expected suite, and its rows have different identities. -/
theorem unique_of_decode {value : Json} {suite : Suite} {report : DecodedReport}
    (h : decodeReportPayload value (some suite.name) = .ok report) :
    report.suite = suite ∧ validateUniqueAggregateRows suite report.aggregateRows = .ok () := by
  obtain ⟨payload, declared, aggregate, runs, -, hadmits⟩ := decodeReportPayload_eq_ok.1 h
  have hsame : report.suite = suite := by
    have hsuite := hadmits.suite
    rw [expectedReportSuite] at hsuite
    obtain ⟨-, hsuite⟩ := seq_eq_ok.1 hsuite
    obtain ⟨read, -, hsuite⟩ := bind_eq_ok.1 hsuite
    obtain ⟨hname, hsuite⟩ := seq_eq_ok.1 hsuite
    rw [pure_eq_ok] at hsuite
    rw [← hsuite]
    apply Suite.name_injective
    simpa using raiseIf_eq_ok.1 hname
  exact ⟨hsame, hsame ▸ hadmits.unique⟩

theorem hasMigratedFields_of_decode {value : Json} {expectedSuite : Option String}
    {report : DecodedReport} (h : decodeReportPayload value expectedSuite = .ok report)
    {row : JsonObject} (hrow : row ∈ report.aggregateRows) :
    HasMigratedFields report.suite row := by
  have hrows := validateRows_of_decode h
  obtain ⟨index, hindex⟩ := List.mem_iff_getElem?.1 hrow
  rw [validateRows] at hrows
  split at hrows
  case isTrue =>
    exact hasMigratedFields_of_validateResearchRow (forIndexed_eq_ok.1 hrows index row hindex)
  case isFalse =>
    rw [validateOrdinaryReport] at hrows
    obtain ⟨-, hrows⟩ := seq_eq_ok.1 hrows
    obtain ⟨-, hrows⟩ := seq_eq_ok.1 hrows
    obtain ⟨hrows, -⟩ := seq_eq_ok.1 hrows
    obtain ⟨haggregates, -⟩ := seq_eq_ok.1 hrows
    have hrow := forIndexed_eq_ok.1 haggregates index row hindex
    rw [validateAggregateRow] at hrow
    exact hasMigratedFields_of_validateIdentity (seq_eq_ok.1 hrow).1

end Reports

end FogHttpBenchmark.ReportSchema
