import FogHttpBenchmark.Python.Text

/-!
# Fingerprints of attribution reports

The canonical fingerprint of measurement conditions and of the measured harness: the SHA-256
of their sorted, compact JSON text.
-/

set_option autoImplicit false

namespace FogHttpBenchmark.Attribution

open Library Library.Checked Python

variable [PyRuntime]

/-- `ATTRIBUTION_SCHEMA_VERSION`. -/
def attributionSchemaVersion : ℤ := 3

/-- `ATTRIBUTION_POLICY_VERSION`. -/
def attributionPolicyVersion : String := "async-bytes-v2"

/-- `object_value(value)`. -/
def objectValue (value : Json) : JsonObject := value.asObject?.getD []

/-- `object_list(value)`. -/
def objectList (value : Json) : List JsonObject :=
  (value.asList?.getD []).filterMap Json.asObject?

/-- The length of a commit's name. -/
def gitShaLength : ℕ := 40

/-- `hashlib.sha256().digest_size * 2`. -/
def digestLength : ℕ := 64

/-- A text of hexadecimal digits of the given length. -/
def hexDigest (value : Json) (length : ℕ) : Bool :=
  value.asString?.any fun text =>
    text.length = length && text.toList.all fun c => c ∈ "0123456789abcdef".toList

/-- The digest of the canonical text of the conditions. -/
def conditionFingerprint (conditions : JsonObject) : Py String := do
  let encoded ← dumps (",", ":") false (.obj conditions)
  pure (PyRuntime.sha256 (encode encoded))

/-- The files of a harness: at least one, each with a name and a digest. -/
def filesComplete (files : JsonObject) : Bool :=
  !files.isEmpty && files.all fun entry => entry.1 ≠ "" && hexDigest entry.2 digestLength

/-- The commit and the diff of the harness that the provenance names. -/
def harnessFingerprint (metadata : JsonObject) : Py (Option String) :=
  let manifest := objectValue ((objectValue (metadata.get "research_provenance")).get "manifest")
  match (manifest.get "harness").asObject? with
  | none => pure none
  | some harness =>
      let sha := JsonObject.get harness "sha"
      let diff := JsonObject.get harness "diff_sha256"
      match (JsonObject.get harness "files_sha256").asObject? with
      | none => pure none
      | some files =>
          if hexDigest sha gitShaLength && hexDigest diff digestLength && filesComplete files then do
            -- checkout paths and branch names are no part of the measured harness
            let filesDigest ← conditionFingerprint files
            let digest ← conditionFingerprint
              [("sha", sha), ("diff_sha256", diff), ("files_sha256_sha256", .str filesDigest)]
            pure (some digest)
          else pure none

end FogHttpBenchmark.Attribution
