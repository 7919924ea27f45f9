import FogHttpBenchmark.ReportSchema.Models
import FogHttpBenchmark.Validity.Reports

/-!
# Timing scopes

What the timed part of a measurement covers. A report declares one scope in its metadata,
and every row that declares a scope has to agree with it.
-/

set_option autoImplicit false

namespace FogHttpBenchmark.MeasurementTiming

open Library Library.Checked Python Validity

variable [PyRuntime]

inductive TimingScope where
  | requests
  | oneUpstream
  | proxyConnect
  | resourceBackpressure
  | clientCreation
  | requestBuilder
  | streaming
  | lifecycle
  | asyncBytes
  | legacyRequests
  | legacyOneUpstream
  | legacyProxyConnect
  | legacyResourceBackpressure
  | legacyStreaming
  deriving DecidableEq

namespace TimingScope

def value : TimingScope → String
  | requests => "requests-load-only-v2"
  | oneUpstream => "one-upstream-load-only-v2"
  | proxyConnect => "proxy-connect-load-only-v2"
  | resourceBackpressure => "resource-backpressure-load-only-v2"
  | clientCreation => "client-creation-operation-v1"
  | requestBuilder => "request-builder-load-only-v1"
  | streaming => "load-only-v2"
  | lifecycle => "lifecycle-round-load-v1"
  | asyncBytes => "load-only-incremental-sha256-v1"
  | legacyRequests => "requests-sampler-inclusive-v1"
  | legacyOneUpstream => "one-upstream-sampler-inclusive-v1"
  | legacyProxyConnect => "proxy-connect-sampler-inclusive-v1"
  | legacyResourceBackpressure => "resource-backpressure-sampler-inclusive-v1"
  | legacyStreaming => "legacy-sampler-v1"

/-- `CURRENT_SCOPES`. -/
def current : Suite → TimingScope
  | .requests => requests
  | .compressedResponse => requests
  | .oneUpstream => oneUpstream
  | .proxyConnect => proxyConnect
  | .resourceBackpressure => resourceBackpressure
  | .clientCreation => clientCreation
  | .requestBuilder => requestBuilder
  | .responseStreaming => streaming

/-- `LEGACY_SCOPES`. -/
def legacy : Suite → Option TimingScope
  | .requests => some legacyRequests
  | .compressedResponse => some legacyRequests
  | .oneUpstream => some legacyOneUpstream
  | .proxyConnect => some legacyProxyConnect
  | .resourceBackpressure => some legacyResourceBackpressure
  | .responseStreaming => some legacyStreaming
  | .clientCreation => none
  | .requestBuilder => none

end TimingScope

/-- `report_profile`; `none` is `"default"`. -/
def reportProfile (suite : Suite) (metadata : JsonObject) (rows : List JsonObject) :
    Option ResearchProfile :=
  if suite = .responseStreaming then
    if usesStreamingProfile metadata rows .asyncBytes then some .asyncBytes
    else if usesStreamingProfile metadata rows .lifecycle then some .lifecycle
    else none
  else none

/-- `current_timing_scope`; a research profile is one of the streaming suite. -/
def currentTimingScope (suite : Suite) : Option ResearchProfile → TimingScope
  | some .lifecycle => .lifecycle
  | some .asyncBytes => .asyncBytes
  | none => TimingScope.current suite

/-- The scopes that a report of the suite and profile may declare. -/
def supportedScopes (suite : Suite) (profile : Option ResearchProfile) : List TimingScope :=
  currentTimingScope suite profile ::
    if profile.isNone then (TimingScope.legacy suite).toList else []

/-- `validate_row_scopes`: no row declares a scope, or every row declares this one. -/
def validateRowScopes (scope : String) (rows : List JsonObject) : Py Unit :=
  let declared := rows.filter fun row => row.has "timing_scope"
  raiseIf (!declared.isEmpty &&
      (declared.length ≠ rows.length ||
        declared.any fun row => !(row.get "timing_scope").pyEq (.str scope)))
    (valueError "Report rows disagree on timing scope")

/-- The scope that a report declares, in its metadata or, for ordinary streaming reports, in
its rows. -/
def declaredScope (suite : Suite) (profile : Option ResearchProfile) (metadata : JsonObject)
    (rows : List JsonObject) : Json :=
  match metadata.get "timing_scope", rows with
  | .null, row :: _ =>
      if suite = .responseStreaming && profile.isNone &&
          rows.all (fun row => row.has "timing_scope") then row.get "timing_scope"
      else .null
  | declared, _ => declared

def reportTimingScope (suite : Suite) (metadata : JsonObject) (rows runs : List JsonObject) :
    Py TimingScope := do
  let profile := reportProfile suite metadata rows
  let declared := declaredScope suite profile metadata rows
  match (supportedScopes suite profile).find? fun scope => declared.pyEq (.str scope.value) with
  | none => throw (valueError ("Unknown or unsupported timing scope for suite=" ++
      reprString suite.name ++ ": " ++ reprJson declared))
  | some scope => do
      validateRowScopes scope.value rows
      validateRowScopes scope.value runs
      let scopes := metadata.get "timing_scopes"
      raiseIf (suite = .responseStreaming && metadata.has "timing_scopes" &&
          !scopes.pyEq (.arr [.str scope.value]) && !(rows.isEmpty && scopes.pyEq (.arr [])))
        (valueError "Report timing scopes disagree with its declared timing scope")
      pure scope

/-- The two reports of a comparison timed the same part. -/
def validateTimingCompatibility (suite : Suite) (oldMetadata : JsonObject)
    (oldRows oldRuns : List JsonObject) (newMetadata : JsonObject)
    (newRows newRuns : List JsonObject) : Py Unit := do
  let oldScope ← reportTimingScope suite oldMetadata oldRows oldRuns
  let newScope ← reportTimingScope suite newMetadata newRows newRuns
  raiseIf (oldScope ≠ newScope)
    (valueError ("Report timing scopes differ: old=" ++ oldScope.value ++ ", new=" ++
      newScope.value))

end FogHttpBenchmark.MeasurementTiming
