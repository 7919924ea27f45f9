import FogHttpBenchmark.Streaming.Models

/-!
# Payloads and case builders

The text payloads with their declared line counts, and the builders that derive the
size, the line count and the digest of a case from its payload.

The lines of a text are its runs: two neighbours are on different lines when the first
ends a line, and the two characters of a carriage return and line feed stay together.
Which characters end a line is a parameter of the client that reads the lines.
-/

set_option autoImplicit false

namespace FogHttpBenchmark.Streaming

open Library Python

/-! ## Lines -/

section Lines

variable (isBreak : Char → Bool)

/-- The second character stands on the line of the first. -/
def sameLine (c d : Char) : Bool := !isBreak c || (c == '\r' && d == '\n' && isBreak '\n')

/-- The lines of a text, each with its terminator. -/
def splitLines (text : String) : List (List Char) := text.toList.splitBy (sameLine isBreak)

/-- What stands before the last line of a text. -/
def beforeLastLine (text : String) : List Char :=
  Runs.beforeLastRun (sameLine isBreak) text.toList

theorem splitLines_eq_nil {text : String} : splitLines isBreak text = [] ↔ text = "" := by
  rw [splitLines, List.splitBy_eq_nil, String.toList_eq_nil_iff]

/-- A text whose only break is its last character is one line. -/
theorem length_splitLines_of_noBreak {content : List Char} {last : Char}
    (h : ∀ c ∈ content, isBreak c = false) :
    (splitLines isBreak (String.ofList (content ++ [last]))).length = 1 := by
  have hchain : (content ++ [last]).IsChain fun c d => sameLine isBreak c d = true := by
    induction content with
    | nil => simp
    | cons c content ih =>
        have hc : ∀ d, sameLine isBreak c d = true := by
          intro d
          rw [sameLine, h c List.mem_cons_self]
          rfl
        rw [List.cons_append, List.isChain_cons]
        exact ⟨fun d _ => hc d, ih fun d hd => h d (List.mem_cons_of_mem _ hd)⟩
  rw [splitLines, String.toList_ofList, List.splitBy_of_isChain (by simp) hchain]
  rfl

end Lines

/-! ## Payloads -/

section Payloads

/-- A text payload; a declared line count is the number of lines that a client reads. -/
structure TextPayload (isBreak : Char → Bool) where
  name : String
  body : String
  lineCount : Option ℕ
  counted : ∀ n, lineCount = some n → n = (splitLines isBreak body).length

/-- `len(self.body)`. -/
def TextPayload.sizeBytes {isBreak : Char → Bool} (payload : TextPayload isBreak) : ℤ :=
  (encode payload.body).length

/-- `LONG_LINE_CHARS`. -/
def longLineChars : ℕ := 1048576

/-- The line terminator of the repository's payloads. -/
def isLineFeed (c : Char) : Bool := c == '\n'

def longLineText : String := String.ofList (List.replicate longLineChars 'x' ++ ['\n'])

theorem length_splitLines_longLineText : (splitLines isLineFeed longLineText).length = 1 := by
  apply length_splitLines_of_noBreak
  intro c hc
  rw [List.eq_of_mem_replicate hc]
  rfl

/-- The payload `long-line-1m`: one line of 1 MiB. -/
def longLine1m : TextPayload isLineFeed where
  name := "long-line-1m"
  body := longLineText
  lineCount := some 1
  counted := by
    intro n hn
    rw [length_splitLines_longLineText]
    exact (Option.some.inj hn).symm

end Payloads

/-! ## Case builders -/

section Builders

variable [PyRuntime]

/-- A case that reads a whole byte payload: its size and its digest. -/
def bytesCase (name : String) (body : List UInt8) : StreamingCase where
  name := name
  sizeBytes := body.length
  expectedSha256 := some (PyRuntime.sha256 body)

/-- `_text_case`. -/
def textCase {isBreak : Char → Bool} (name : String) (payload : TextPayload isBreak) :
    StreamingCase where
  name := name
  sizeBytes := payload.sizeBytes
  read := .text

/-- `_line_case`. -/
def lineCase {isBreak : Char → Bool} (name : String) (payload : TextPayload isBreak)
    (consume : StreamConsumeMode) : StreamingCase where
  name := name
  sizeBytes := payload.sizeBytes
  read := .lines
  consume := consume
  expectedLines := payload.lineCount.map Int.ofNat

end Builders

end FogHttpBenchmark.Streaming
