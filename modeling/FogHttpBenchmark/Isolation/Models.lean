import FogHttpBenchmark.ReportSchema.Decoding

/-!
# Isolated children

The results of the child processes of an isolated benchmark, the arguments of the parent, and
what the merge reads from its surroundings: the clock, the interpreter, the provenance
variables and the report files of the children.
-/

set_option autoImplicit false

namespace FogHttpBenchmark.Isolation

open Library Library.Checked Python ReportSchema Validity

/-! ## Children -/

section Children

/-- The resource peaks of a child, where they could be read. -/
structure ChildResourcePeaks where
  rssMb : Option PyFloat
  threads : Option ℤ
  fds : Option ℤ

/-- How a child ended, and where its report is. -/
structure ChildProcessResult where
  sequence : ℤ
  client : String
  scenario : Option String
  outputDir : String
  reportPath : Option String
  command : List String
  returncode : ℤ
  durationS : PyFloat
  peaks : ChildResourcePeaks
  stdoutTail : String
  stderrTail : String

/-- `result.returncode == 0 and result.report_path is not None`. -/
def ChildProcessResult.succeeded (result : ChildProcessResult) : Bool :=
  result.returncode = 0 && result.reportPath.isSome

/-- `child_result_payload(result)`. -/
def childResultPayload (result : ChildProcessResult) : JsonObject :=
  [("sequence", .int result.sequence), ("client", .str result.client),
    ("scenario", .ofOption .str result.scenario), ("output_dir", .str result.outputDir),
    ("report_path", .ofOption .str result.reportPath),
    ("command", .arr (result.command.map .str)), ("returncode", .int result.returncode),
    ("duration_s", .float result.durationS),
    ("peaks", .obj [("rss_mb", .ofOption .float result.peaks.rssMb),
      ("threads", .ofOption .int result.peaks.threads), ("fds", .ofOption .int result.peaks.fds)]),
    ("stdout_tail", .str result.stdoutTail), ("stderr_tail", .str result.stderrTail)]

end Children

/-! ## Arguments -/

section Arguments

/-- The isolation mode with a child for each client and scenario. -/
def perClientScenarioIsolation : String := "per-client-scenario"

/-- The arguments of the benchmark; `vars` are all of them. -/
structure BenchmarkArgs where
  suite : Suite
  isolation : String
  vars : JsonObject

/-- What a child measures. -/
def isolationUnit (args : BenchmarkArgs) : String :=
  if args.isolation = perClientScenarioIsolation then "client-scenario" else "client"

end Arguments

/-! ## Surroundings -/

section Surroundings

/-- What the parent process reads besides its arguments. -/
structure Environment where
  timestamp : String
  python : String
  platform : String
  packageVersions : JsonObject
  /-- `research_provenance_from_env()`. -/
  researchProvenance : Py (Option JsonObject)
  /-- `package_sources(["foghttp"])`. -/
  packageSources : Py JsonObject

/-- The report files: their JSON content, and the validation of the raw evidence next to a
report. -/
structure ReportFiles where
  readJson : String → Py Json
  revalidateAttributionRows : JsonObject → List JsonObject → String → Py JsonObject

variable [PyRuntime]

/-- The decoded report of a file, with the outcome of its evidence validation. -/
def readReport (files : ReportFiles) (path : String) (expectedSuite : Option String) :
    Py DecodedReport := do
  let value ← files.readJson path
  let report ← decodeReportPayload value expectedSuite
  if usesStreamingProfile report.metadata report.aggregateRows .asyncBytes then do
    let evidence ← files.revalidateAttributionRows report.metadata report.aggregateRows path
    pure { report with
      metadata := Dict.set "raw_evidence_validation" (.obj evidence) report.metadata }
  else pure report

/-- `load_report(path, expected_suite)`: an error of the payload names its file. -/
def loadReport (files : ReportFiles) (path : String) (expectedSuite : Option String) :
    Py DecodedReport :=
  match readReport files path expectedSuite with
  | .ok report => pure report
  | .error e =>
      if e.isTypeOrValueError then throw (valueError (path ++ ": " ++ e.message)) else throw e

/-- A loaded report is an admitted one, up to the outcome of its evidence validation. -/
theorem admitted_of_loadReport {files : ReportFiles} {path : String}
    {expectedSuite : Option String} {report : DecodedReport}
    (h : loadReport files path expectedSuite = .ok report) :
    ∃ value admitted, files.readJson path = .ok value ∧
      decodeReportPayload value expectedSuite = .ok admitted ∧
      report.aggregateRows = admitted.aggregateRows ∧ report.runRows = admitted.runRows ∧
      ∀ key, key ≠ "raw_evidence_validation" →
        report.metadata.lookup key = admitted.metadata.lookup key := by
  rw [loadReport] at h
  split at h
  case h_2 =>
    split at h
    case isTrue => exact absurd h throw_ne_ok
    case isFalse => exact absurd h throw_ne_ok
  case h_1 read hread =>
    rw [pure_eq_ok] at h
    subst h
    rw [readReport, bind_eq_ok] at hread
    obtain ⟨value, hvalue, hread⟩ := hread
    obtain ⟨admitted, hadmitted, hread⟩ := bind_eq_ok.1 hread
    refine ⟨value, admitted, hvalue, hadmitted, ?_⟩
    split at hread
    case isTrue =>
      obtain ⟨evidence, -, hread⟩ := bind_eq_ok.1 hread
      rw [pure_eq_ok] at hread
      subst hread
      refine ⟨rfl, rfl, ?_⟩
      intro key hkey
      rw [Dict.lookup_set_of_ne hkey]
    case isFalse =>
      rw [pure_eq_ok] at hread
      subst hread
      exact ⟨rfl, rfl, fun _ _ => rfl⟩

end Surroundings

end FogHttpBenchmark.Isolation
