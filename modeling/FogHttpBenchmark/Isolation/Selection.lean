import FogHttpBenchmark.Library.Dict
import FogHttpBenchmark.Python.Strings
import FogHttpBenchmark.ReportSchema.Models

/-!
# Selected clients and scenarios

How the parent reads the comma-separated selections, and which clients of the registry of a
suite it finds available. Requested names keep their order, and a name that is requested twice
is selected twice.
-/

set_option autoImplicit false

namespace FogHttpBenchmark.Isolation

open Library Python ReportSchema

/-! ## Selections -/

section Csv

/-- `parse_csv(value)`. -/
def parseCsv (value : String) : List String :=
  ((splitText ',' value).map stripText).filter fun item => item ≠ ""

/-- A selected name selects itself, so a child reads back the one name that it is given. -/
theorem parseCsv_item {value item : String} (h : item ∈ parseCsv value) :
    parseCsv item = [item] := by
  rw [parseCsv, List.mem_filter, List.mem_map] at h
  obtain ⟨⟨part, hpart, rfl⟩, hitem⟩ := h
  have hcomma : ',' ∉ (stripText part).toList := fun hmem =>
    notMem_of_mem_splitText hpart (mem_of_mem_stripText hmem)
  rw [parseCsv, splitText_of_notMem hcomma, List.map_singleton, stripText_stripText,
    List.filter_singleton, hitem]
  rfl

end Csv

/-! ## Registries -/

section Registries

/-- A client in one of its modes. -/
structure ClientSpec where
  mode : String
  name : String
  deriving DecidableEq

/-- The asynchronous mode. -/
def asyncMode : String := "async"

/-- The synchronous mode. -/
def syncMode : String := "sync"

/-- The specs of the common clients. -/
def commonSpecs : List ClientSpec :=
  [⟨asyncMode, "foghttp"⟩, ⟨asyncMode, "httpx"⟩, ⟨asyncMode, "httpxyz"⟩, ⟨asyncMode, "aiohttp"⟩,
    ⟨asyncMode, "zapros"⟩, ⟨asyncMode, "zapros-pyreqwest"⟩, ⟨syncMode, "foghttp"⟩,
    ⟨syncMode, "httpx"⟩, ⟨syncMode, "httpxyz"⟩, ⟨syncMode, "zapros"⟩,
    ⟨syncMode, "zapros-pyreqwest"⟩]

/-- The specs of the three clients that the specialized suites compare. -/
def comparableSpecs : List ClientSpec :=
  [⟨asyncMode, "foghttp"⟩, ⟨asyncMode, "httpx"⟩, ⟨asyncMode, "httpxyz"⟩, ⟨syncMode, "foghttp"⟩,
    ⟨syncMode, "httpx"⟩, ⟨syncMode, "httpxyz"⟩]

/-- The clients of the streaming suite. -/
def streamingSpecs : List ClientSpec :=
  [⟨asyncMode, "foghttp"⟩, ⟨asyncMode, "httpx"⟩, ⟨asyncMode, "httpxyz"⟩, ⟨asyncMode, "aiohttp"⟩,
    ⟨syncMode, "foghttp"⟩, ⟨syncMode, "httpx"⟩, ⟨syncMode, "httpxyz"⟩]

/-- The clients that a suite registers. -/
def registrySpecs : Suite → List ClientSpec
  | .requests => commonSpecs
  | .clientCreation => commonSpecs
  | .resourceBackpressure => commonSpecs
  | .compressedResponse => commonSpecs
  | .oneUpstream => comparableSpecs
  | .requestBuilder => comparableSpecs
  | .responseStreaming => streamingSpecs
  | .proxyConnect => comparableSpecs

/-- Why a suite skips a client that it does not register. -/
def unknownReason : Suite → String
  | .oneUpstream => "one-upstream suite requires comparable client defaults support"
  | .requestBuilder => "request-builder suite requires build_request support"
  | .responseStreaming => "response-streaming suite requires comparable streaming support"
  | .proxyConnect => "proxy-connect suite requires comparable client-level proxy support"
  | _ => "unknown client"

/-- The available clients, and the reason for each skipped one. -/
structure Availability where
  clients : List ClientSpec
  skipped : List (String × String)

/-- The text of the error that importing a client raises in a mode, if it raises one. -/
abbrev ImportError := String → String → Option String

/-- A requested client is available, or it is skipped with the reason. -/
def addName (suite : Suite) (importError : ImportError) (mode : String) (found : Availability)
    (name : String) : Availability :=
  if (⟨mode, name⟩ : ClientSpec) ∈ registrySpecs suite then
    match importError mode name with
    | some error => { found with skipped := Dict.set (mode ++ ":" ++ name) error found.skipped }
    | none => { found with clients := found.clients ++ [⟨mode, name⟩] }
  else { found with
    skipped := Dict.set (mode ++ ":" ++ name) (unknownReason suite) found.skipped }

/-- The requested clients of one mode. -/
def addMode (suite : Suite) (importError : ImportError) (names : List String)
    (found : Availability) (mode : String) : Availability :=
  if mode = asyncMode ∨ mode = syncMode then
    names.foldl (addName suite importError mode) found
  else { found with skipped := Dict.set (mode ++ ":*") "unknown mode" found.skipped }

/-- `available_clients(requested_clients, requested_modes)` of the registry of the suite. -/
def availableClients (suite : Suite) (importError : ImportError)
    (requestedClients requestedModes : List String) : Availability :=
  requestedModes.foldl (addMode suite importError requestedClients) ⟨[], []⟩

theorem mem_addNames {suite : Suite} {importError : ImportError} {mode : String}
    {names : List String} {spec : ClientSpec} :
    ∀ {found : Availability}, spec ∈ (names.foldl (addName suite importError mode) found).clients ↔
      spec ∈ found.clients ∨ spec.mode = mode ∧ spec.name ∈ names ∧ spec ∈ registrySpecs suite ∧
        importError spec.mode spec.name = none := by
  induction names with
  | nil =>
      intro found
      simp
  | cons name names ih =>
      intro found
      -- the name is registered and can be imported, cannot be imported, or is not registered
      rw [List.foldl_cons, ih, addName]
      split
      case isTrue hspec =>
        cases himport : importError mode name with
        | some error =>
            simp only
            constructor
            · rintro (hfound | ⟨hmode, hname, hrest⟩)
              · exact .inl hfound
              · exact .inr ⟨hmode, List.mem_cons_of_mem _ hname, hrest⟩
            · rintro (hfound | ⟨rfl, hname, hregistered, hnone⟩)
              · exact .inl hfound
              · rcases List.mem_cons.1 hname with rfl | hname
                · rw [himport] at hnone
                  exact nomatch hnone
                · exact .inr ⟨rfl, hname, hregistered, hnone⟩
        | none =>
            simp only [List.mem_append, List.mem_singleton]
            constructor
            · rintro ((hfound | rfl) | ⟨hmode, hname, hrest⟩)
              · exact .inl hfound
              · exact .inr ⟨rfl, List.mem_cons_self, hspec, himport⟩
              · exact .inr ⟨hmode, List.mem_cons_of_mem _ hname, hrest⟩
            · rintro (hfound | ⟨rfl, hname, hrest⟩)
              · exact .inl (.inl hfound)
              · rcases List.mem_cons.1 hname with rfl | hname
                · exact .inl (.inr rfl)
                · exact .inr ⟨rfl, hname, hrest⟩
      case isFalse hspec =>
        constructor
        · rintro (hfound | ⟨hmode, hname, hrest⟩)
          · exact .inl hfound
          · exact .inr ⟨hmode, List.mem_cons_of_mem _ hname, hrest⟩
        · rintro (hfound | ⟨rfl, hname, hregistered, hnone⟩)
          · exact .inl hfound
          · rcases List.mem_cons.1 hname with rfl | hname
            · exact absurd hregistered hspec
            · exact .inr ⟨rfl, hname, hregistered, hnone⟩

/-- A client is available in a known mode that is requested, where its suite registers it and
it can be imported. -/
theorem mem_availableClients {suite : Suite} {importError : ImportError}
    {names modes : List String} {spec : ClientSpec} :
    spec ∈ (availableClients suite importError names modes).clients ↔
      spec.mode ∈ modes ∧ (spec.mode = asyncMode ∨ spec.mode = syncMode) ∧ spec.name ∈ names ∧
        spec ∈ registrySpecs suite ∧ importError spec.mode spec.name = none := by
  have hfold : ∀ (modes : List String) (found : Availability),
      spec ∈ (modes.foldl (addMode suite importError names) found).clients ↔
        spec ∈ found.clients ∨ spec.mode ∈ modes ∧
          (spec.mode = asyncMode ∨ spec.mode = syncMode) ∧ spec.name ∈ names ∧
            spec ∈ registrySpecs suite ∧ importError spec.mode spec.name = none := by
    intro modes
    induction modes with
    | nil =>
        intro found
        simp
    | cons mode modes ih =>
        intro found
        rw [List.foldl_cons, ih, addMode]
        split
        case isTrue hmode =>
          rw [mem_addNames]
          constructor
          · rintro ((hfound | ⟨rfl, hrest⟩) | ⟨hmem, hrest⟩)
            · exact .inl hfound
            · exact .inr ⟨List.mem_cons_self, hmode, hrest⟩
            · exact .inr ⟨List.mem_cons_of_mem _ hmem, hrest⟩
          · rintro (hfound | ⟨hmem, hknown, hrest⟩)
            · exact .inl (.inl hfound)
            · rcases List.mem_cons.1 hmem with heq | hmem
              · exact .inl (.inr ⟨heq, hrest⟩)
              · exact .inr ⟨hmem, hknown, hrest⟩
        case isFalse hmode =>
          constructor
          · rintro (hfound | ⟨hmem, hrest⟩)
            · exact .inl hfound
            · exact .inr ⟨List.mem_cons_of_mem _ hmem, hrest⟩
          · rintro (hfound | ⟨hmem, hknown, hrest⟩)
            · exact .inl hfound
            · rcases List.mem_cons.1 hmem with rfl | hmem
              · exact absurd hknown hmode
              · exact .inr ⟨hmem, hknown, hrest⟩
  rw [availableClients, hfold]
  simp

end Registries

/-! ## Selection of the parent -/

section Selection

/-- The clients that get a child of their own, and those that are skipped. -/
structure ClientIsolationSelection where
  clients : List String
  skipped : List (String × String)

/-- `isolation_selection(args, clients, skipped)`. -/
def isolationSelection (requested : String) (found : Availability) : ClientIsolationSelection where
  clients := (parseCsv requested).filter fun name => name ∈ found.clients.map ClientSpec.name
  skipped := found.skipped

/-- `foghttp_resource_clients`: the resource suite needs the statistics of one client. -/
def foghttpResourceClients (found : Availability) : Availability where
  clients := found.clients.filter fun spec => spec.name = "foghttp"
  skipped := found.clients.foldl (fun skipped spec =>
    if spec.name = "foghttp" then skipped
    else Dict.set (spec.mode ++ ":" ++ spec.name)
      "resource-backpressure suite requires FogHTTP stats" skipped) found.skipped

/-- The clients that the suite finds available for a request. -/
def suiteClients (suite : Suite) (importError : ImportError) (clients modes : String) :
    Availability :=
  let found := availableClients suite importError (parseCsv clients) (parseCsv modes)
  if suite = .resourceBackpressure then foghttpResourceClients found else found

/-- `get_suite(suite).select_clients(args)`. -/
def selectClients (suite : Suite) (importError : ImportError) (clients modes : String) :
    ClientIsolationSelection :=
  isolationSelection clients (suiteClients suite importError clients modes)

/-- `get_suite(suite).isolation_scenarios(args)`. -/
def isolationScenarios (suite : Suite) (scenarios : String) : List String :=
  if suite = .clientCreation then [] else parseCsv scenarios

end Selection

end FogHttpBenchmark.Isolation
