import FogHttpBenchmark.ReportSchema.Decoding

/-!
# Decoded reports are canonical

A decoded report, written as a payload again, is admitted and decoded to itself. The suite that was
inferred is then declared, a migrated row has nothing left to migrate, and every check sees what it
saw the first time.
-/

set_option autoImplicit false

namespace FogHttpBenchmark.ReportSchema

open Library Library.Checked Python Validity

/-! ## Migrated rows -/

section Migration

theorem setDefault_of_has {row : JsonObject} {key : String} (h : row.has key = true)
    (value : Json) : setDefault row key value = row := by
  rw [setDefault, if_pos h]

theorem has_setDefault_self (row : JsonObject) (key : String) (value : Json) :
    (setDefault row key value).has key = true := by
  rw [setDefault]
  split
  case isTrue h => exact h
  case isFalse => rw [JsonObject.has, Dict.contains, Dict.lookup_set_self, Option.isSome_some]

/-- Setting one field leaves what another one holds. -/
theorem lookup_setDefault {row : JsonObject} {key other : String} (hne : other ≠ key)
    (value : Json) : (setDefault row key value).lookup other = row.lookup other := by
  rw [setDefault]
  split
  case isTrue => rfl
  case isFalse => exact Dict.lookup_set_of_ne hne value row

/-- What the migration of the limit has settled: a row with a connection limit has an equal request
limit. -/
def LimitSettled (row : JsonObject) : Prop :=
  row.has "max_connections" = true → ∃ old : ℤ, row.get "max_connections" = .int old ∧ 0 ≤ old ∧
    row.has "request_limit" = true ∧ (row.get "request_limit").pyEq (.int old) = true

/-- What the migration of the read mode has settled: a streaming row without a research profile has
a read mode. -/
def ReadSettled (suite : Suite) (row : JsonObject) : Prop :=
  suite = .responseStreaming → requireHashable (row.get "profile") = .ok () ∧
    ((declaredResearchProfile (row.get "profile")).isNone = true → row.has "read" = true)

/-- Both steps have nothing left to do on the row. -/
def Migrated (suite : Suite) (row : JsonObject) : Prop :=
  LimitSettled row ∧ ReadSettled suite row

theorem LimitSettled.setDefault_read {row : JsonObject} (h : LimitSettled row) (value : Json) :
    LimitSettled (setDefault row "read" value) := by
  have hlimit := @lookup_setDefault row "read" "request_limit" (by decide) value
  have hold := @lookup_setDefault row "read" "max_connections" (by decide) value
  intro hhas
  simp only [JsonObject.has, Dict.contains, JsonObject.get, hlimit, hold] at hhas ⊢
  exact h hhas

theorem limitSettled_setDefault {row : JsonObject} {old : ℤ} (hnonneg : 0 ≤ old)
    (hconnections : row.get "max_connections" = .int old)
    (hagrees : row.has "request_limit" = true → (row.get "request_limit").pyEq (.int old) = true) :
    LimitSettled (setDefault row "request_limit" (.int old)) := by
  intro _
  have hold := @lookup_setDefault row "request_limit" "max_connections" (by decide) (.int old)
  refine ⟨old, ?_, hnonneg, has_setDefault_self row _ _, ?_⟩
  · rw [JsonObject.get, hold]
    exact hconnections
  · rw [setDefault]
    split
    case isTrue h => exact hagrees h
    case isFalse =>
      rw [JsonObject.get, Dict.lookup_set_self]
      simp [Json.pyEq, Json.number?, PyFloat.pyEq]

/-- The first step of a migration: the request limit of a row with a connection limit. -/
def migrateLimit (row : JsonObject) (path : String) : Py JsonObject :=
  if row.has "max_connections" then do
    let old ← requireInteger (row.get "max_connections") (path ++ ".max_connections") 0
    raiseIf (row.has "request_limit" && !(row.get "request_limit").pyEq (.int old))
      (valueError (path ++ ".request_limit disagrees with max_connections"))
    pure (setDefault row "request_limit" (.int old))
  else pure row

/-- The second step: the read mode of a streaming row without a research profile. -/
def migrateRead (suite : Suite) (row : JsonObject) : Py JsonObject :=
  if suite = .responseStreaming then do
    requireHashable (row.get "profile")
    if (declaredResearchProfile (row.get "profile")).isNone then
      pure (setDefault row "read" (.str "bytes"))
    else pure row
  else pure row

theorem migrateLegacyRow_eq (suite : Suite) (row : JsonObject) (path : String) :
    migrateLegacyRow suite row path = migrateLimit row path >>= migrateRead suite := by
  rw [migrateLegacyRow, migrateLimit]
  split
  case isTrue => simp only [bind_assoc, pure_bind, migrateRead]
  case isFalse => simp only [pure_bind, migrateRead]

theorem limitSettled_of_migrateLimit {row limited : JsonObject} {path : String}
    (h : migrateLimit row path = .ok limited) : LimitSettled limited := by
  rw [migrateLimit] at h
  split at h
  case isTrue hhas =>
    obtain ⟨old, hold, h⟩ := bind_eq_ok.1 h
    obtain ⟨hagrees, h⟩ := seq_eq_ok.1 h
    obtain ⟨hconnections, hnonneg⟩ := requireInteger_eq_ok.1 hold
    rw [← pure_eq_ok.1 h]
    apply limitSettled_setDefault hnonneg hconnections
    intro hrequest
    have hraise := raiseIf_eq_ok.1 hagrees
    rw [hrequest, Bool.true_and, Bool.not_eq_false'] at hraise
    exact hraise
  case isFalse hhas =>
    rw [← pure_eq_ok.1 h]
    exact fun h => absurd h hhas

theorem migrateLimit_of_settled {row : JsonObject} (h : LimitSettled row) (path : String) :
    migrateLimit row path = .ok row := by
  rw [migrateLimit]
  split
  case isTrue hhas =>
    obtain ⟨old, hold, hnonneg, hrequest, hagrees⟩ := h hhas
    rw [bind_eq_ok]
    refine ⟨old, requireInteger_eq_ok.2 ⟨hold, hnonneg⟩, seq_eq_ok.2 ⟨?_, ?_⟩⟩
    · rw [raiseIf_eq_ok, hrequest, hagrees]
      rfl
    · rw [setDefault_of_has hrequest]
      rfl
  case isFalse => rfl

/-- The second step settles the read mode and leaves the limits as they are. -/
theorem migrated_of_migrateRead {suite : Suite} {limited row : JsonObject}
    (hlimit : LimitSettled limited) (h : migrateRead suite limited = .ok row) :
    Migrated suite row := by
  rw [migrateRead] at h
  split at h
  case isTrue hsuite =>
    obtain ⟨hhashable, h⟩ := seq_eq_ok.1 h
    split at h
    case isTrue hprofile =>
      rw [← pure_eq_ok.1 h]
      have hsame := @lookup_setDefault limited "read" "profile" (by decide) (.str "bytes")
      refine ⟨hlimit.setDefault_read _, fun _ => ⟨?_, fun _ => has_setDefault_self _ _ _⟩⟩
      rw [JsonObject.get, hsame]
      exact hhashable
    case isFalse hprofile =>
      rw [← pure_eq_ok.1 h]
      exact ⟨hlimit, fun _ => ⟨hhashable, fun hnone => absurd hnone hprofile⟩⟩
  case isFalse hsuite =>
    rw [← pure_eq_ok.1 h]
    exact ⟨hlimit, fun h => absurd h hsuite⟩

theorem migrateRead_of_settled {suite : Suite} {row : JsonObject} (h : ReadSettled suite row) :
    migrateRead suite row = .ok row := by
  rw [migrateRead]
  split
  case isTrue hsuite =>
    obtain ⟨hhashable, hhas⟩ := h hsuite
    refine seq_eq_ok.2 ⟨hhashable, ?_⟩
    split
    case isTrue hprofile =>
      rw [setDefault_of_has (hhas hprofile)]
      rfl
    case isFalse => rfl
  case isFalse => rfl

/-- A migrated row has nothing left to migrate. -/
theorem migrated_of_migrateLegacyRow {suite : Suite} {row migrated : JsonObject} {path : String}
    (h : migrateLegacyRow suite row path = .ok migrated) : Migrated suite migrated := by
  rw [migrateLegacyRow_eq, bind_eq_ok] at h
  obtain ⟨limited, hlimited, h⟩ := h
  exact migrated_of_migrateRead (limitSettled_of_migrateLimit hlimited) h

/-- A row with nothing left to migrate is its own migration. -/
theorem migrateLegacyRow_of_migrated {suite : Suite} {row : JsonObject} (h : Migrated suite row)
    (path : String) : migrateLegacyRow suite row path = .ok row := by
  rw [migrateLegacyRow_eq, migrateLimit_of_settled h.1]
  exact migrateRead_of_settled h.2

/-- The current rows of a report are current. -/
theorem currentRows_idempotent {suite : Suite} {metadata : JsonObject} {path : ℕ → String}
    {rows current : List JsonObject} (h : currentRows suite metadata path rows = .ok current) :
    currentRows suite metadata path current = .ok current := by
  rw [currentRows] at h ⊢
  split
  case isTrue => rfl
  case isFalse hversion =>
    rw [if_neg hversion, migrateLegacyRows] at h
    have hmigrated : ∀ row ∈ current, Migrated suite row := by
      intro row hrow
      obtain ⟨source, -, hsource⟩ := exists_source_of_mapM_eq_ok h hrow
      exact migrated_of_migrateLegacyRow hsource
    rw [migrateLegacyRows, mapM_eq_ok]
    apply List.forall₂_iff_get.2
    refine ⟨List.length_zipIdx, fun i hi hi' => ?_⟩
    rw [List.get_eq_getElem, List.get_eq_getElem, List.getElem_zipIdx]
    exact migrateLegacyRow_of_migrated (hmigrated _ (List.getElem_mem hi')) _

end Migration

/-! ## Reports -/

section Reports

variable [PyRuntime]

/-- The report as a payload: its metadata, its aggregate rows and its runs. -/
def DecodedReport.payload (report : DecodedReport) : JsonObject :=
  [("metadata", .obj report.metadata), ("aggregate", .arr (report.aggregateRows.map .obj)),
    ("runs", .arr (report.runRows.map .obj))]

/-- A declared suite is read as it is, and it is the expected one. -/
theorem expectedReportSuite_declared {suite : Suite} {declared : JsonObject}
    {expectedSuite : Option String} (hexpected : ∀ name ∈ expectedSuite, suite.name = name)
    (rows : List JsonObject) :
    expectedReportSuite (Dict.set "suite" (.str suite.name) declared) rows expectedSuite =
      .ok suite := by
  have hlookup : (Dict.set "suite" (.str suite.name) declared).lookup "suite" =
      some (.str suite.name) := Dict.lookup_set_self _ _ _
  have hhas : JsonObject.has (Dict.set "suite" (.str suite.name) declared) "suite" = true := by
    rw [JsonObject.has, Dict.contains, hlookup, Option.isSome_some]
  have hget : JsonObject.get (Dict.set "suite" (.str suite.name) declared) "suite" =
      .str suite.name := by
    rw [JsonObject.get, hlookup, Option.getD_some]
  have hsuite : reportSuite (Dict.set "suite" (.str suite.name) declared) rows = .ok suite := by
    rw [reportSuite, if_pos hhas, hget, bind_eq_ok]
    refine ⟨suite.name, requireString_eq_ok.2 ⟨rfl, by cases suite <;> decide⟩, ?_⟩
    rw [Suite.ofName?_name]
    rfl
  rw [expectedReportSuite, hsuite]
  refine seq_eq_ok.2 ⟨?_, bind_eq_ok.2 ⟨suite, rfl, seq_eq_ok.2 ⟨?_, rfl⟩⟩⟩
  · rw [raiseIf_eq_ok, hhas, Bool.not_true, Bool.and_false]
  · rw [raiseIf_eq_ok]
    cases hexpects : expectedSuite with
    | none => rfl
    | some name =>
        have hname : suite.name = name := hexpected name hexpects
        simp [hname]

/-- The suite of a report is the one that its reader expected. -/
theorem expected_of_expectedReportSuite {declared : JsonObject} {rows : List JsonObject}
    {expectedSuite : Option String} {suite : Suite}
    (h : expectedReportSuite declared rows expectedSuite = .ok suite) :
    ∀ name ∈ expectedSuite, suite.name = name := by
  intro name hname
  rw [expectedReportSuite] at h
  obtain ⟨-, h⟩ := seq_eq_ok.1 h
  obtain ⟨read, -, h⟩ := bind_eq_ok.1 h
  obtain ⟨hmatches, h⟩ := seq_eq_ok.1 h
  rw [pure_eq_ok] at h
  rw [← h]
  have hraise := raiseIf_eq_ok.1 hmatches
  rw [Option.mem_def.1 hname] at hraise
  simpa using hraise

/-- What an admission found is found again in the payload of the decoded report. -/
theorem Admits.again {payload declared : JsonObject} {aggregate runs : List JsonObject}
    {expectedSuite : Option String} {report : DecodedReport}
    (h : Admits payload declared aggregate runs expectedSuite report) {expected : Option String}
    (hexpected : ∀ name ∈ expected, report.suite.name = name) :
    Admits report.payload report.metadata report.aggregateRows report.runRows expected report where
  finite := by
    obtain ⟨hmetadata, haggregate, hruns⟩ := h.isFinite
    rw [validateFiniteJson_eq_ok, DecodedReport.payload]
    simp only [Json.isFinite, Json.isFiniteFields, Json.isFiniteItems_iff, Bool.and_eq_true,
      List.forall_mem_map] at hmetadata haggregate hruns ⊢
    exact ⟨hmetadata, haggregate, hruns, trivial⟩
  declaredPart := rfl
  aggregatePart := rfl
  runsPart := rfl
  suite := by
    rw [h.metadata]
    exact expectedReportSuite_declared hexpected _
  metadata := by
    rw [h.metadata, Dict.set_set]
  metadataChecked := h.metadataChecked
  isolationChecked := h.isolationChecked
  aggregateRows := currentRows_idempotent h.aggregateRows
  runRows := currentRows_idempotent h.runRows
  rowsChecked := h.rowsChecked
  validityChecked := h.validityChecked
  unique := h.unique

/-- Decoding is a canonicalization: the payload of a decoded report is admitted and decoded to the
same report, with the expected suite of its reader and without one. -/
theorem decodeReportPayload_canonical {value : Json} {expectedSuite : Option String}
    {report : DecodedReport} (h : decodeReportPayload value expectedSuite = .ok report) :
    decodeReportPayload (.obj report.payload) expectedSuite = .ok report ∧
      decodeReportPayload (.obj report.payload) none = .ok report := by
  obtain ⟨payload, declared, aggregate, runs, -, hadmits⟩ := decodeReportPayload_eq_ok.1 h
  constructor
  · apply decodeReportPayload_eq_ok.2
    exact ⟨_, _, _, _, rfl, hadmits.again (expected_of_expectedReportSuite hadmits.suite)⟩
  · apply decodeReportPayload_eq_ok.2
    exact ⟨_, _, _, _, rfl, hadmits.again fun _ hname => nomatch hname⟩

/-- A legacy row of the request suite, with a connection limit in place of a request limit. -/
def legacyRow : JsonObject :=
  [("mode", .str "sync"), ("client", .str "httpx"), ("scenario", .str "json-small"),
    ("concurrency", .int 1), ("max_connections", .int 4), ("requests", .int 5),
    ("repeats", .int 1), ("ok_req_s_median", .ofFloat 1), ("errors_total", .int 0),
    ("warmup_errors_total", .int 0)]

/-- A report that declares neither its suite nor a schema version, and its decoded form. -/
def legacyReport : Json :=
  .obj [("metadata", .obj []), ("aggregate", .arr [.obj legacyRow]), ("runs", .arr [])]

def legacyDecoded : DecodedReport where
  suite := .requests
  metadata := [("suite", .str "requests")]
  aggregateRows := [legacyRow ++ [("request_limit", .int 4)]]
  runRows := []

omit [PyRuntime] in
theorem decodeReportPayload_canonical_legacy :
    ∃ _ : PyRuntime, decodeReportPayload legacyReport (some "requests") = .ok legacyDecoded ∧
      decodeReportPayload (.obj legacyDecoded.payload) (some "requests") = .ok legacyDecoded := by
  let _ : PyRuntime := plainRuntime
  have hlegacy : decodeReportPayload legacyReport (some "requests") = .ok legacyDecoded := rfl
  exact ⟨plainRuntime, hlegacy, (decodeReportPayload_canonical hlegacy).1⟩

end Reports

end FogHttpBenchmark.ReportSchema
