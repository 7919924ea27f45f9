import FogHttpBenchmark.Validity.Helpers

/-!
# Saved validity

The encoding of a summary in the metadata of a report and its reader. The reader recounts
the reasons, and a stored status or flag can only be made stricter by it: the status is
combined with those of the reasons, and a stored `True` does not survive reasons or a
status that contradict it.
-/

set_option autoImplicit false

namespace FogHttpBenchmark.Validity

open Library Library.Checked Python

/-! ## Writing -/

section Write

/-- A reason as the metadata has it. -/
def reasonPayload (reason : ValidityReason) : JsonObject :=
  [("status", .str reason.status.name), ("code", .str reason.code),
    ("message", .str reason.message), ("row_label", .str reason.rowLabel), ("row", .obj reason.row)]

/-- A summary as the metadata has it. -/
def validityPayload (summary : ValiditySummary) : JsonObject :=
  [("status", .str summary.status.name), ("is_valid", .bool summary.isValid),
    ("can_compare", .bool summary.canCompare), ("reason_count", .int summary.reasonCount),
    ("reason_counts", .obj (encodeCounts summary.reasonCounts)),
    ("reasons", .arr (summary.reasons.map fun reason => .obj (reasonPayload reason)))]

end Write

/-! ## Reading -/

section Read

/-- A status of the metadata, which must be one of the known ones. -/
def statusValue (value : Json) (path : String) : Py ValidityStatus :=
  let refused := valueError
    (path ++ " must be one of " ++
      String.intercalate ", " (ValidityStatus.validityStatuses.map ValidityStatus.name))
  match value with
  | .str text =>
      match ValidityStatus.ofName? text with
      | some status => pure status
      | none => throw refused
  | _ => throw refused

/-- `string_field(payload, key, path)`, with a default or without one. -/
def stringField (payload : JsonObject) (key path : String) (default : Option String) :
    Py String :=
  match payload.getOr key (Json.ofOption .str default) with
  | .str text => pure text
  | _ => throw (typeError (path ++ "." ++ key ++ " must be a string"))

/-- A flag of the metadata, with its default. -/
def boolField (payload : JsonObject) (key : String) (default : Bool) : Py Bool :=
  match payload.lookup key with
  | none => pure default
  | some (.bool b) => pure b
  | some _ => throw (typeError ("metadata.validity." ++ key ++ " must be a boolean"))

/-- The path of a reason in the errors. -/
def reasonPath (index : ℕ) : String := "metadata.validity.reasons[" ++ toString index ++ "]"

/-- `reason_from_payload` on an object; the keys of a JSON object are always texts. -/
def reasonFromObject (payload : JsonObject) (path : String) : Py ValidityReason := do
  let status ← statusValue (payload.get "status") (path ++ ".status")
  let code ← stringField payload "code" path none
  raiseIf (code = "") (valueError (path ++ ".code must be nonempty"))
  match payload.getOr "row" (.obj []) with
  | .obj row => do
      let message ← stringField payload "message" path (some "")
      let label ← stringField payload "row_label" path (some "-")
      pure ⟨status, code, message, label, row⟩
  | _ => throw (valueError (path ++ ".row must be an object with string keys"))

/-- A reason of the metadata. -/
def reasonFromPayload (value : Json) (index : ℕ) : Py ValidityReason :=
  match value with
  | .obj payload => reasonFromObject payload (reasonPath index)
  | _ => throw (typeError (reasonPath index ++ " must be an object"))

/-- The reasons of the metadata, in their order. -/
def reasonsFromPayload (items : List Json) : Py (List ValidityReason) :=
  items.zipIdx.mapM fun item => reasonFromPayload item.1 item.2

/-- One entry of `reason_counts`: its key is a status and its count a nonnegative integer. -/
def validateReasonCount (entry : String × Json) : Py Unit := do
  let _ ← statusValue (.str entry.1) "metadata.validity.reason_counts key"
  raiseIf (!entry.2.asInt?.any (fun count => 0 ≤ count))
    (valueError ("metadata.validity.reason_counts." ++ entry.1 ++
      " must be a nonnegative integer"))

/-- The counts of the metadata are those of its reasons. -/
def validateReasonCounts (payload : JsonObject) (reasons : List ValidityReason)
    (expected : List (String × ℤ)) : Py Unit := do
  raiseIf (payload.has "reason_count" &&
      (payload.get "reason_count").asInt? ≠ some (reasons.length : ℤ))
    (valueError ("metadata.validity.reason_count must be an integer matching the number of " ++
      "reasons"))
  if payload.has "reason_counts" then
    match payload.get "reason_counts" with
    | .obj counts => do
        forM counts validateReasonCount
        let kept := counts.filter fun entry => entry.2.truthy
        raiseIf (!(Json.obj kept).pyEq (.obj (encodeCounts expected)))
          (valueError "metadata.validity.reason_counts must match the reason statuses")
    | _ => throw (typeError "metadata.validity.reason_counts must be an object")
  else pure ()

/-- `validity_summary_from_payload(payload)`: the flags may only be stricter than the reasons. -/
def validitySummaryFromPayload (payload : JsonObject) : Py ValiditySummary := do
  let declared ← statusValue (payload.get "status") "metadata.validity.status"
  match payload.get "reasons" with
  | .arr items => do
      let reasons ← reasonsFromPayload items
      let status := combinedStatus (declared :: reasons.map ValidityReason.status)
      let counts := countReasons reasons
      validateReasonCounts payload reasons counts
      let statusIsValid := status = .valid
      let statusCanCompare := status.isComparable && reasonsAllowComparison reasons
      let isValid ← boolField payload "is_valid" statusIsValid
      let canCompare ← boolField payload "can_compare" statusCanCompare
      pure {
        status := status
        isValid := isValid && statusIsValid
        canCompare := canCompare && statusCanCompare
        reasonCount := reasons.length
        reasonCounts := counts
        reasons := reasons }
  | _ => throw (typeError "metadata.validity.reasons must be a list")

end Read

end FogHttpBenchmark.Validity
