import FogHttpBenchmark.Library.Dict
import FogHttpBenchmark.Python.Text

/-!
# Load results

What a scenario expects of a response, the outcome that a client reports for one request, and
the result of a load: the merge of the private results of its workers.
-/

set_option autoImplicit false

namespace FogHttpBenchmark.Load

open Library Python

/-! ## Responses -/

section Responses

/-- What a response to the scenario has to look like. -/
structure Scenario where
  expectedStatus : ℤ := 200
  expectedContentLength : Option ℤ := none
  expectedRedirects : Option ℤ := none
  expectedFinalPath : Option String := none

structure ResponseOutcome where
  statusCode : ℤ
  jsonOk : Bool := true
  contentLength : Option ℤ := none
  historyCount : Option ℤ := none
  finalUrl : Option String := none

def outcomeMatches (scenario : Scenario) (outcome : ResponseOutcome) : Bool :=
  if outcome.statusCode ≠ scenario.expectedStatus then false
  else if !outcome.jsonOk then false
  else if scenario.expectedContentLength.isSome &&
      outcome.contentLength ≠ scenario.expectedContentLength then false
  else if scenario.expectedRedirects.isSome && outcome.historyCount.isSome &&
      outcome.historyCount ≠ scenario.expectedRedirects then false
  else
    match scenario.expectedFinalPath, outcome.finalUrl with
    | some path, some url => path.toList.isSuffixOf url.toList
    | _, _ => true

end Responses

/-! ## Results -/

section Results

structure LoadResult where
  latenciesMs : List ℚ
  errors : ℤ
  errorTypes : List (String × ℤ)

/-- `LoadResult(latencies, sum(error_types.values()), error_types)`. -/
def LoadResult.ofTypes (latenciesMs : List ℚ) (errorTypes : List (String × ℤ)) : LoadResult :=
  ⟨latenciesMs, Dict.total errorTypes, errorTypes⟩

/-- `elapsed_ms(started_ns)`, with the clock read at `finished`. -/
def elapsedMs (started finished : ℤ) : ℚ := (finished - started : ℤ) / 1000000

end Results

end FogHttpBenchmark.Load
