import FogHttpBenchmark.Isolation.Models
import FogHttpBenchmark.Isolation.Selection

/-!
# The isolation plan

One child process for each selected client and scenario, or for each client where the suite is
not split by scenario. Every child has a directory of its own, whose name starts with the number
of the child.
-/

set_option autoImplicit false

namespace FogHttpBenchmark.Isolation

open Library Library.Checked Python ReportSchema

/-! ## Directories -/

section Directories

/-- The parts of a path. -/
abbrev PathParts := List String

/-- A character that `SAFE_DIR_CHARS` leaves alone. -/
def isSafeChar (c : Char) : Bool :=
  ('A' ≤ c && c ≤ 'Z') || ('a' ≤ c && c ≤ 'z') || ('0' ≤ c && c ≤ '9') || c = '_' || c = '.' ||
    c = '-'

/-- `SAFE_DIR_CHARS.sub("-", text)`; the flag tells whether a run of other characters has
already been replaced. -/
def replaceRuns : Bool → List Char → List Char
  | _, [] => []
  | replaced, c :: cs =>
      if isSafeChar c then c :: replaceRuns false cs
      else if replaced then replaceRuns true cs
      else '-' :: replaceRuns true cs

/-- `SAFE_DIR_CHARS.sub("-", text).strip("-") or fallback`. -/
def safeName (text fallback : String) : List Char :=
  let name := ((replaceRuns false text.toList).dropWhile (· = '-')).rdropWhile (· = '-')
  if name = [] then fallback.toList else name

/-- `f"{sequence:03d}"`. -/
def paddedSequence (sequence : ℕ) : List Char :=
  let digits := Nat.toDigits 10 sequence
  List.replicate (3 - digits.length) '0' ++ digits

/-- What follows the number in the name of a directory. -/
def dirSuffix (client : String) (scenario : Option String) : List Char :=
  match scenario with
  | none => safeName client "client"
  | some scenario => safeName client "client" ++ '-' :: safeName scenario "scenario"

/-- The directory of a child, which names its sequence, client and scenario. -/
def childOutputDir (baseDir : PathParts) (sequence : ℕ) (client : String)
    (scenario : Option String) : PathParts :=
  baseDir ++ [String.ofList (paddedSequence sequence ++ '-' :: dirSuffix client scenario)]

theorem paddedSequence_injective : Function.Injective paddedSequence := by
  intro sequence other h
  have hvalue := congrArg (fun digits => Nat.ofDigitChars 10 digits 0) h
  simpa [paddedSequence, Nat.ofDigitChars_append] using hvalue

theorem dash_notMem_paddedSequence (sequence : ℕ) : '-' ∉ paddedSequence sequence := by
  rw [paddedSequence, List.mem_append, not_or]
  constructor
  · intro h
    exact absurd (List.eq_of_mem_replicate h) (by decide)
  · intro h
    exact absurd (Nat.isDigit_of_mem_toDigits (by decide) (by decide) h) (by decide)

/-- The number of a child can be read off its directory. -/
theorem sequence_of_childOutputDir {baseDir : PathParts} {sequence other : ℕ}
    {client client' : String} {scenario scenario' : Option String}
    (h : childOutputDir baseDir sequence client scenario =
      childOutputDir baseDir other client' scenario') : sequence = other := by
  rw [childOutputDir, childOutputDir, List.append_cancel_left_eq, List.singleton_inj,
    String.ofList_inj] at h
  have htake : ∀ (sequence : ℕ) (rest : List Char),
      (paddedSequence sequence ++ '-' :: rest).takeWhile (· ≠ '-') = paddedSequence sequence := by
    intro sequence rest
    rw [List.takeWhile_append_of_pos]
    · simp
    · intro c hc
      simp only [ne_eq, decide_not, Bool.not_eq_true', decide_eq_false_iff_not]
      rintro rfl
      exact dash_notMem_paddedSequence sequence hc
  have hprefix := congrArg (List.takeWhile (· ≠ '-')) h
  rw [htake, htake] at hprefix
  exact paddedSequence_injective hprefix

end Directories

/-! ## Plans -/

section Plans

/-- The arguments that the planning reads, and the interpreter that runs the children. -/
structure LaunchArgs extends BenchmarkArgs where
  executable : String
  clients : String
  modes : String
  concurrency : String
  requests : ℤ
  warmup : ℤ
  repeats : ℤ
  maxRedirects : ℤ
  seed : ℤ
  noShuffle : Bool
  /-- The parts of the resolved output directory. -/
  outputDir : PathParts
  scenarios : String
  iterations : ℤ
  clientCounts : String

/-- A child that is to be started. -/
structure ClientIsolationPlanItem where
  sequence : ℕ
  client : String
  scenario : Option String
  outputDir : PathParts
  command : List String
  deriving DecidableEq

/-- `str(path)` of an absolute path. -/
def pathText (path : PathParts) : String := "/" ++ String.intercalate "/" path

/-- The command of a child. -/
def benchmarkChildCommand (args : LaunchArgs) (client : String) (outputDir : PathParts)
    (scenario : Option String) : List String :=
  [args.executable, "-m", "foghttp_benchmark._child", "--suite", args.suite.name,
    "--clients", client, "--modes", args.modes, "--concurrency", args.concurrency,
    "--requests", toString args.requests, "--warmup", toString args.warmup,
    "--repeats", toString args.repeats, "--max-redirects", toString args.maxRedirects,
    "--seed", toString args.seed, "--output-dir", pathText outputDir,
    "--scenarios", scenario.getD args.scenarios, "--iterations", toString args.iterations,
    "--client-counts", args.clientCounts, "--no-progress"] ++
  if args.noShuffle then ["--no-shuffle"] else []

/-- The child with a number. -/
def planItem (args : LaunchArgs) (sequence : ℕ) (client : String) (scenario : Option String) :
    ClientIsolationPlanItem :=
  let outputDir := childOutputDir (args.outputDir ++ ["isolated"]) sequence client scenario
  { sequence := sequence
    client := client
    scenario := scenario
    outputDir := outputDir
    command := benchmarkChildCommand args client outputDir scenario }

/-- The children are numbered from one on. -/
def numberedItems (args : LaunchArgs) (cells : List (String × Option String)) :
    List ClientIsolationPlanItem :=
  (cells.zipIdx 1).map fun cell => planItem args cell.2 cell.1.1 cell.1.2

/-- One child for each client. -/
def buildClientIsolationPlan (args : LaunchArgs) (clients : List String) :
    List ClientIsolationPlanItem :=
  numberedItems args (clients.map fun client => (client, none))

/-- One child for each client and scenario. -/
def buildClientScenarioIsolationPlan (args : LaunchArgs) (clients scenarios : List String) :
    List ClientIsolationPlanItem :=
  numberedItems args (clients.flatMap fun client =>
    scenarios.map fun scenario => (client, some scenario))

/-- The plan of either isolation mode. -/
def buildIsolationPlan (args : LaunchArgs) (clients scenarios : List String) :
    List ClientIsolationPlanItem :=
  if scenarios = [] then buildClientIsolationPlan args clients
  else buildClientScenarioIsolationPlan args clients scenarios

variable [PyRuntime]

/-- What `run_isolated_benchmark` plans before it starts the first child. -/
def isolationPlan (importError : ImportError) (args : LaunchArgs) :
    Py (List ClientIsolationPlanItem) := do
  let selection := selectClients args.suite importError args.clients args.modes
  raiseIf selection.clients.isEmpty
    (valueError ("No requested clients are available for isolated run: " ++
      reprJson (.obj (selection.skipped.map fun entry => (entry.1, .str entry.2)))))
  pure (buildIsolationPlan args selection.clients (isolationScenarios args.suite args.scenarios))

end Plans

/-! ## What a plan contains -/

section Contents

/-- The client and the scenario that a child measures. -/
def ClientIsolationPlanItem.pair (item : ClientIsolationPlanItem) : String × Option String :=
  (item.client, item.scenario)

theorem pairs_numberedItems (args : LaunchArgs) (cells : List (String × Option String)) :
    (numberedItems args cells).map ClientIsolationPlanItem.pair = cells := by
  rw [numberedItems, List.map_map]
  exact List.zipIdx_map_fst 1 cells

theorem nodup_outputDirs (args : LaunchArgs) (cells : List (String × Option String)) :
    ((numberedItems args cells).map ClientIsolationPlanItem.outputDir).Nodup := by
  have hsequences : ((cells.zipIdx 1).map Prod.snd).Nodup := by
    rw [List.zipIdx_map_snd]
    exact List.nodup_range' ..
  rw [numberedItems, List.map_map]
  rw [List.Nodup, List.pairwise_map] at hsequences ⊢
  exact hsequences.imp fun hne heq => hne (sequence_of_childOutputDir heq)

/-- The scenarios of the plan; where there are none, a child runs all of its client. -/
def plannedScenarios (scenarios : List String) : List (Option String) :=
  if scenarios = [] then [none] else scenarios.map some

/-- The plan has one child for each client and planned scenario, in order. -/
theorem pairs_buildIsolationPlan (args : LaunchArgs) (clients scenarios : List String) :
    (buildIsolationPlan args clients scenarios).map ClientIsolationPlanItem.pair =
      clients.flatMap fun client =>
        (plannedScenarios scenarios).map fun scenario => (client, scenario) := by
  rw [buildIsolationPlan, plannedScenarios]
  split
  case isTrue =>
    rw [buildClientIsolationPlan, pairs_numberedItems]
    simp only [List.map_singleton]
    exact List.map_eq_flatMap
  case isFalse =>
    rw [buildClientScenarioIsolationPlan, pairs_numberedItems]
    simp only [List.map_map]
    rfl

theorem nodup_outputDirs_buildIsolationPlan (args : LaunchArgs)
    (clients scenarios : List String) :
    ((buildIsolationPlan args clients scenarios).map
      ClientIsolationPlanItem.outputDir).Nodup := by
  rw [buildIsolationPlan]
  split
  case isTrue => exact nodup_outputDirs _ _
  case isFalse => exact nodup_outputDirs _ _

theorem nodup_plannedScenarios (scenarios : List String) :
    (plannedScenarios scenarios).Nodup ↔ scenarios.Nodup := by
  rw [plannedScenarios]
  split
  case isTrue h =>
    rw [h]
    simp
  case isFalse => exact List.nodup_map_iff (Option.some_injective _)

/-- No pair is planned twice exactly where no client and no scenario is selected twice. -/
theorem nodup_pairs_iff {args : LaunchArgs} {clients scenarios : List String}
    (hclients : clients ≠ []) :
    ((buildIsolationPlan args clients scenarios).map ClientIsolationPlanItem.pair).Nodup ↔
      clients.Nodup ∧ scenarios.Nodup := by
  have hplanned : plannedScenarios scenarios ≠ [] := by
    rw [plannedScenarios]
    split
    case isTrue => exact List.cons_ne_nil _ _
    case isFalse h => exact fun hmap => h (List.map_eq_nil_iff.1 hmap)
  rw [pairs_buildIsolationPlan, ← nodup_plannedScenarios scenarios]
  constructor
  · intro hnodup
    rw [List.nodup_flatMap] at hnodup
    obtain ⟨client, hclient⟩ := List.exists_mem_of_ne_nil _ hclients
    obtain ⟨scenario, hscenario⟩ := List.exists_mem_of_ne_nil _ hplanned
    refine ⟨?_, (hnodup.1 client hclient).of_map _⟩
    refine hnodup.2.imp fun {first second} hdisjoint heq => ?_
    subst heq
    exact hdisjoint (List.mem_map_of_mem hscenario) (List.mem_map_of_mem hscenario)
  · rintro ⟨hnodup, hscenarios⟩
    rw [List.nodup_flatMap]
    refine ⟨fun client _ => hscenarios.map (Prod.mk_right_injective client), ?_⟩
    refine hnodup.imp fun {first second} hne => ?_
    intro pair hfirst hsecond
    obtain ⟨scenario, -, rfl⟩ := List.mem_map.1 hfirst
    obtain ⟨scenario', -, heq⟩ := List.mem_map.1 hsecond
    exact hne (congrArg Prod.fst heq).symm

end Contents

end FogHttpBenchmark.Isolation
