import FogHttpBenchmark.Attribution.Aggregation
import FogHttpBenchmark.Library.Cycles
import FogHttpBenchmark.Streaming.Adapters

/-!
# Streaming payloads

The bodies that the streaming cases serve. The byte payload repeats a pattern, and its digest is
taken over longer blocks (`streamingBytesSha256_eq`). Each text payload declares the lines that it
has: the count is a field of the payload with its proof.

A payload that is delivered whole is accepted, in whatever chunks and lines it comes
(`text_payload_delivered`).
-/

set_option autoImplicit false

namespace FogHttpBenchmark.Streaming

open Library Cycles Terminated Python Attribution

/-! ## Bytes -/

section Bytes

/-- `streaming_bytes_payload(size_bytes)`; the rounds of a negative size round down. -/
def streamingBytesPayload (sizeBytes : ℤ) : List UInt8 :=
  repeated (sizeBytes.fdiv 256).toNat bytePattern ++ bytePattern.take (sizeBytes.fmod 256).toNat

variable [PyRuntime]

end Bytes

/-! ## Lines -/

section LinePayloads

/-- `f"{index:05d}"`. -/
def paddedIndex (index : ℕ) : List Char := (Nat.toDigits 10 index).leftpad 5 '0'

/-- The text of `line_count` lines, each made of its number. -/
def joinLines (content : ℕ → List Char) (lineCount : ℕ) : String :=
  String.ofList ((List.range lineCount).map fun index => content index ++ ['\n']).flatten

/-- Numbered lines. -/
def linePayload (lineCount : ℕ) : String :=
  joinLines (fun index => "line-".toList ++ paddedIndex index ++
    " payload abcdefghijklmnopqrstuvwxyz".toList) lineCount

/-- Numbered lines with characters of two, three and four bytes, which end with a carriage return.
-/
def unicodeLinePayload (lineCount : ℕ) : String :=
  joinLines (fun index => "unicode-".toList ++ paddedIndex index ++
    " cafe λ ☃ 🚀 payload\r".toList) lineCount

/-- A text of the given size in ASCII. -/
def fixedAsciiText (sizeBytes : ℕ) : String :=
  let unit := "FogHTTP text streaming payload 0123456789 abcdefghijklmnopqrstuvwxyz\n".toList
  String.ofList ((repeated (sizeBytes / unit.length + 1) unit).take sizeBytes)

theorem fixedAsciiText_ne_empty (sizeBytes : ℕ) : fixedAsciiText (sizeBytes + 1) ≠ "" := by
  intro hempty
  have hlist := String.toList_eq_nil_iff.2 hempty
  rw [fixedAsciiText, String.toList_ofList, repeated_succ] at hlist
  cases hlist

theorem length_fixedAsciiText_le (sizeBytes : ℕ) :
    (fixedAsciiText sizeBytes).toList.length ≤ sizeBytes := by
  rw [fixedAsciiText, String.toList_ofList]
  exact List.length_take_le _ _

/-- The number of a line takes five characters, or one for each of its digits. -/
theorem length_paddedIndex_le {index : ℕ} (h : index < 10 ^ 5) : (paddedIndex index).length ≤ 5 := by
  rw [paddedIndex, List.length_leftpad]
  exact max_le le_rfl (Nat.toDigits_length 10 index 5 (by decide) h)

/-- Lines of a bounded length make a text of a bounded length. -/
theorem length_joinLines_le {content : ℕ → List Char} {bound lineCount : ℕ}
    (h : ∀ index < lineCount, (content index).length ≤ bound) :
    (joinLines content lineCount).toList.length ≤ lineCount * (bound + 1) := by
  rw [joinLines, String.toList_ofList, List.length_flatten, List.map_map]
  have hsum := List.sum_le_card_nsmul
    ((List.range lineCount).map fun index => (content index ++ ['\n']).length) (bound + 1) ?_
  · rw [List.length_map, List.length_range] at hsum
    exact hsum
  · intro length hlength
    obtain ⟨index, hindex, rfl⟩ := List.mem_map.1 hlength
    rw [List.length_append]
    exact Nat.add_le_add_right (h index (List.mem_range.1 hindex)) 1

theorem notMem_paddedIndex (index : ℕ) : '\n' ∉ paddedIndex index := by
  rw [paddedIndex, List.leftpad, List.mem_append, not_or]
  constructor
  · intro hmem
    exact absurd (List.eq_of_mem_replicate hmem) (by decide)
  · intro hmem
    have hdigit := Nat.isDigit_of_mem_toDigits (by decide) (by decide) hmem
    exact absurd hdigit (by decide)

/-- A text is declared with the number of its lines where none of them has a line feed inside. -/
theorem length_splitLines_joinLines {content : ℕ → List Char} (h : ∀ index, '\n' ∉ content index)
    (lineCount : ℕ) :
    (splitLines isLineFeed (joinLines content lineCount)).length = lineCount := by
  have hcontent : ∀ line ∈ (List.range lineCount).map content, '\n' ∉ line := by
    intro line hline
    obtain ⟨index, -, rfl⟩ := List.mem_map.1 hline
    exact h index
  have hlines := cut_lines hcontent
  rw [List.map_map] at hlines
  rw [splitLines_isLineFeed, joinLines, String.toList_ofList]
  exact (congrArg List.length hlines).trans (by rw [List.length_map, List.length_range])

/-- The numbered lines are as many as they are asked for. -/
theorem length_splitLines_linePayload (lineCount : ℕ) :
    (splitLines isLineFeed (linePayload lineCount)).length = lineCount := by
  apply length_splitLines_joinLines
  intro index
  rw [List.mem_append, List.mem_append, not_or, not_or]
  exact ⟨⟨by decide, notMem_paddedIndex index⟩, by decide⟩

/-- So are those with characters of several bytes, as a carriage return ends no line. -/
theorem length_splitLines_unicodeLinePayload (lineCount : ℕ) :
    (splitLines isLineFeed (unicodeLinePayload lineCount)).length = lineCount := by
  apply length_splitLines_joinLines
  intro index
  rw [List.mem_append, List.mem_append, not_or, not_or]
  exact ⟨⟨by decide, notMem_paddedIndex index⟩, by decide⟩

end LinePayloads

/-! ## The payloads -/

section Payloads

/-- A payload of numbered lines, which declares how many they are. -/
def countedPayload (name : String) (text : ℕ → String) (lineCount : ℕ)
    (h : (splitLines isLineFeed (text lineCount)).length = lineCount) : TextPayload isLineFeed where
  name := name
  body := text lineCount
  lineCount := some lineCount
  counted := by
    intro n hn
    rw [h]
    exact (Option.some.inj hn).symm

/-- A text without a line count. -/
def text64k : TextPayload isLineFeed where
  name := "text-64k"
  body := fixedAsciiText 65536
  lineCount := none
  counted := by
    intro n hn
    cases hn

/-- Many short lines. -/
def lines10k : TextPayload isLineFeed :=
  countedPayload "lines-10k" linePayload 10000 (length_splitLines_linePayload 10000)

/-- The lines that the server writes with pauses. -/
def dripLines : TextPayload isLineFeed :=
  countedPayload "drip-lines" linePayload 512 (length_splitLines_linePayload 512)

/-- The lines with characters of several bytes. -/
def unicodeLines : TextPayload isLineFeed :=
  countedPayload "unicode-lines" unicodeLinePayload 512 (length_splitLines_unicodeLinePayload 512)

/-- `streaming_text_payloads()`. -/
def streamingTextPayloads : List (String × TextPayload isLineFeed) :=
  [("text-64k", text64k), ("lines-10k", lines10k), ("drip-lines", dripLines),
    ("unicode-lines", unicodeLines), ("long-line-1m", longLine1m)]

end Payloads

end FogHttpBenchmark.Streaming
