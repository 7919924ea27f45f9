import FogHttpBenchmark.Python.Value

/-!
# Suites and decoded reports

The eight suites with the names under which reports declare them, the schema
versions, and the decoded report that the reader returns.
-/

set_option autoImplicit false

namespace FogHttpBenchmark

open Python

/-- `REPORT_SUITES`. -/
inductive Suite where
  | requests
  | clientCreation
  | resourceBackpressure
  | oneUpstream
  | requestBuilder
  | compressedResponse
  | responseStreaming
  | proxyConnect
  deriving DecidableEq, Repr

namespace Suite

def name : Suite → String
  | requests => "requests"
  | clientCreation => "client-creation"
  | resourceBackpressure => "resource-backpressure"
  | oneUpstream => "one-upstream"
  | requestBuilder => "request-builder"
  | compressedResponse => "compressed-response"
  | responseStreaming => "response-streaming"
  | proxyConnect => "proxy-connect"

def reportSuites : List Suite :=
  [requests, clientCreation, resourceBackpressure, oneUpstream, requestBuilder,
    compressedResponse, responseStreaming, proxyConnect]

/-- The suite with the given name; another name has none. -/
def ofName? (text : String) : Option Suite := reportSuites.find? fun suite => suite.name = text

theorem ofName?_name (suite : Suite) : ofName? suite.name = some suite := by
  cases suite <;> decide

theorem name_injective {s t : Suite} (h : s.name = t.name) : s = t := by
  have hs := ofName?_name s
  rw [h, ofName?_name t, Option.some.injEq] at hs
  exact hs.symm

/-- `OPERATION_SUITES`. -/
def isOperation : Suite → Bool
  | clientCreation => true
  | requestBuilder => true
  | _ => false

end Suite

namespace ReportSchema

/-- `REPORT_SCHEMA_VERSION`. -/
def reportSchemaVersion : ℤ := 1

/-- `RESOURCE_METRIC_SCHEMA_VERSION`. -/
def resourceMetricSchemaVersion : ℤ := 2

/-- A report after admission. -/
structure DecodedReport where
  suite : Suite
  metadata : JsonObject
  aggregateRows : List JsonObject
  runRows : List JsonObject

end ReportSchema

end FogHttpBenchmark
