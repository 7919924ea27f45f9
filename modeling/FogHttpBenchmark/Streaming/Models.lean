import FogHttpBenchmark.Python.Text

/-!
# Streaming cases and outcomes

A streaming case with what its response must look like, and the outcome that a
consumer reports for one response.
-/

set_option autoImplicit false

namespace FogHttpBenchmark.Streaming

/-- `StreamConsumeMode`. -/
inductive StreamConsumeMode where
  | all
  | firstChunk
  | firstLine
  deriving DecidableEq, Repr

/-- `StreamReadMode`. -/
inductive StreamReadMode where
  | bytes
  | text
  | lines
  deriving DecidableEq, Repr

structure StreamingCase where
  name : String
  sizeBytes : ℤ
  read : StreamReadMode := .bytes
  consume : StreamConsumeMode := .all
  expectedLines : Option ℤ := none
  expectedSha256 : Option String := none
  deriving DecidableEq, Repr

structure StreamingOutcome where
  statusCode : ℤ
  bytesRead : ℤ
  chunksRead : ℤ
  firstChunkMs : Option ℚ
  textCharsRead : ℤ := 0
  linesRead : ℤ := 0
  bodySha256 : Option String := none
  eofReceived : Bool := false

end FogHttpBenchmark.Streaming
