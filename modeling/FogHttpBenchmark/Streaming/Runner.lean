import FogHttpBenchmark.Python.Utf8
import FogHttpBenchmark.Streaming.Cases
import FogHttpBenchmark.Streaming.Consume

/-!
# Streaming runs

The check of an outcome against its case, and the step of a worker that records the
outcome of one response in the totals of the load.

A strict prefix of a payload that is delivered as the whole response must be counted as
an error. `truncated_rejected_iff` proves this for bytes, and says exactly when it holds for
text and for lines: a text is only measured after it is decoded, where the replacement of a
character that is cut may make up for the missing bytes, and lines are only counted, so that
the prefix must end before the last line begins.
-/

set_option autoImplicit false

namespace FogHttpBenchmark.Streaming

open Library Incremental Python

/-! ## The outcome check -/

section Matches

/-- `HTTP_OK`. -/
def httpOk : ℤ := 200

/-- `_line_outcome_matches`. -/
def lineOutcomeMatches (case : StreamingCase) (outcome : StreamingOutcome) : Bool :=
  if outcome.linesRead < 1 then false
  else if case.consume = .firstLine then
    outcome.linesRead = 1 && outcome.bytesRead ≤ case.sizeBytes
  else if case.expectedLines.any (fun lines => outcome.linesRead ≠ lines) then false
  else outcome.bytesRead = case.sizeBytes

/-- A digest is expected and the outcome lacks it. -/
def digestDiffers (case : StreamingCase) (outcome : StreamingOutcome) : Bool :=
  case.read = .bytes && case.expectedSha256.isSome &&
    (!outcome.eofReceived || outcome.bodySha256 ≠ case.expectedSha256)

def outcomeMatches (case : StreamingCase) (outcome : StreamingOutcome) : Bool :=
  if outcome.statusCode ≠ httpOk then false
  else if outcome.chunksRead < 1 ∨ outcome.bytesRead < 1 then false
  else if case.read = .lines then lineOutcomeMatches case outcome
  else if case.consume = .firstChunk then outcome.bytesRead ≤ case.sizeBytes
  else if digestDiffers case outcome then false
  else outcome.bytesRead = case.sizeBytes

/-- In bytes and text mode a whole response that matches has the size of its case. -/
theorem bytesRead_eq_of_matches {case : StreamingCase} {outcome : StreamingOutcome}
    (hread : case.read ≠ .lines) (hall : case.consume = .all)
    (h : outcomeMatches case outcome = true) : outcome.bytesRead = case.sizeBytes := by
  rw [outcomeMatches] at h
  split_ifs at h with hstatus hcounts hfirst hdigest
  · rw [hall] at hfirst
    exact absurd hfirst (by decide)
  · simpa using h

/-- In lines mode a whole response matches exactly when its status is right and it has
the expected number of lines, at least one. -/
theorem outcomeMatches_lines_iff {case : StreamingCase} (hread : case.read = .lines)
    (hall : case.consume = .all) (hsize : 1 ≤ case.sizeBytes) (statusCode : ℤ)
    (lines : List (String × ℚ)) :
    outcomeMatches case (consumeLines case statusCode lines) = true ↔
      statusCode = httpOk ∧ lines ≠ [] ∧
        ∀ n, case.expectedLines = some n → (lines.length : ℤ) = n := by
  have hcount := linesRead_consumeLines hall statusCode lines
  have hchunks := chunksRead_consumeLines case statusCode lines
  have hstatus : (consumeLines case statusCode lines).statusCode = statusCode := rfl
  -- without a line there is no chunk
  by_cases hlines : lines = []
  · subst hlines
    have hfew : (consumeLines case statusCode []).chunksRead < 1 := by
      rw [hchunks, hcount]
      decide
    simp only [outcomeMatches, hfew, true_or, if_true, ite_self, Bool.false_eq_true, ne_eq,
      not_true_eq_false, false_and, and_false]
  · have hbytes := bytesRead_consumeLines hall statusCode hlines
    have hpos : (1 : ℤ) ≤ lines.length := by
      exact_mod_cast List.length_pos_of_ne_nil hlines
    have hnot : ¬ ((consumeLines case statusCode lines).chunksRead < 1 ∨
        (consumeLines case statusCode lines).bytesRead < 1) := by
      rw [hchunks, hcount, hbytes]
      omega
    have hfew : ¬ (consumeLines case statusCode lines).linesRead < 1 := by
      rw [hcount]
      omega
    -- the rest of the check is of the status and of the number of lines
    by_cases hok : statusCode = httpOk
    · have hfirst : ¬ case.consume = .firstLine := by
        rw [hall]
        decide
      rw [outcomeMatches, hstatus, if_neg (not_not.2 hok), if_neg hnot, if_pos hread,
        lineOutcomeMatches, if_neg hfew, if_neg hfirst, hcount, hbytes]
      cases hexpected : case.expectedLines with
      | none => simp [hok, hlines]
      | some n => simp [hok, hlines]
    · rw [outcomeMatches, hstatus, if_pos hok]
      simp [hok]

/-- In text mode a whole response matches exactly when its status is right and its bytes, at
least one, are as many as expected. -/
theorem outcomeMatches_text_iff {case : StreamingCase} (hread : case.read = .text)
    (hall : case.consume = .all) {outcome : StreamingOutcome} :
    outcomeMatches case outcome = true ↔
      outcome.statusCode = httpOk ∧ 1 ≤ outcome.chunksRead ∧ 1 ≤ outcome.bytesRead ∧
        outcome.bytesRead = case.sizeBytes := by
  have hlines : ¬ case.read = .lines := by
    rw [hread]
    decide
  have hfirst : ¬ case.consume = .firstChunk := by
    rw [hall]
    decide
  have hdigest : ¬ digestDiffers case outcome = true := by
    rw [digestDiffers, hread]
    simp
  rw [outcomeMatches, if_neg hlines, if_neg hfirst, if_neg hdigest]
  split_ifs with hstatus hcounts
  · simp [hstatus]
  · simp only [false_iff]
    omega
  · simp only [decide_eq_true_eq]
    omega

end Matches

/-! ## The totals of a load -/

section Totals

/-- What a worker accumulates over its responses. -/
structure StreamTotals where
  latenciesMs : List ℚ := []
  firstChunkLatenciesMs : List ℚ := []
  bytesRead : ℤ := 0
  chunksRead : ℤ := 0
  textCharsRead : ℤ := 0
  linesRead : ℤ := 0
  verifiedEofBytes : ℤ := 0
  verifiedEofChunks : ℤ := 0
  errorTypes : List (String × ℤ) := []

/-- The round of a worker on one response, which the client reads or fails to read. -/
def recordStream (case : StreamingCase) (collect : Bool) (totals : StreamTotals)
    (response : Except ExceptionName StreamingOutcome) (latencyMs : ℚ) : StreamTotals :=
  let latencies := if collect then totals.latenciesMs ++ [latencyMs] else totals.latenciesMs
  match response with
  | .error exc =>
      { totals with
        latenciesMs := latencies
        errorTypes := Dict.increment exc.name 1 totals.errorTypes }
  | .ok outcome =>
      let accepted := outcomeMatches case outcome
      let verified := accepted && case.consume = .all
      { latenciesMs := latencies
        firstChunkLatenciesMs := totals.firstChunkLatenciesMs ++ outcome.firstChunkMs.toList
        bytesRead := totals.bytesRead + outcome.bytesRead
        chunksRead := totals.chunksRead + outcome.chunksRead
        textCharsRead := totals.textCharsRead + outcome.textCharsRead
        linesRead := totals.linesRead + outcome.linesRead
        verifiedEofBytes := totals.verifiedEofBytes + if verified then outcome.bytesRead else 0
        verifiedEofChunks := totals.verifiedEofChunks + if verified then outcome.chunksRead else 0
        errorTypes :=
          if accepted then totals.errorTypes
          else Dict.increment "check_failed" 1 totals.errorTypes }

/-- A whole response that matches is credited with the bytes it reports. -/
theorem verifiedEofBytes_of_matches {case : StreamingCase} {outcome : StreamingOutcome}
    (hall : case.consume = .all) (h : outcomeMatches case outcome = true) (collect : Bool)
    (totals : StreamTotals) (latencyMs : ℚ) :
    (recordStream case collect totals (.ok outcome) latencyMs).verifiedEofBytes =
      totals.verifiedEofBytes + outcome.bytesRead := by
  simp [recordStream, h, hall]

/-- The response does not match, whatever the totals it adds one error to them and
nothing to the verified bytes and chunks. -/
structure Rejected (case : StreamingCase) (outcome : StreamingOutcome) : Prop where
  differs : outcomeMatches case outcome = false
  counted : ∀ collect totals latencyMs,
    Dict.total (recordStream case collect totals (.ok outcome) latencyMs).errorTypes =
      Dict.total totals.errorTypes + 1
  unverified : ∀ collect totals latencyMs,
    (recordStream case collect totals (.ok outcome) latencyMs).verifiedEofBytes =
        totals.verifiedEofBytes ∧
      (recordStream case collect totals (.ok outcome) latencyMs).verifiedEofChunks =
        totals.verifiedEofChunks

theorem rejected_iff {case : StreamingCase} {outcome : StreamingOutcome} :
    Rejected case outcome ↔ outcomeMatches case outcome = false := by
  constructor
  · exact Rejected.differs
  · intro h
    refine ⟨h, ?_, ?_⟩
    · intro collect totals latencyMs
      simp [recordStream, h]
    · intro collect totals latencyMs
      simp [recordStream, h]

end Totals

/-! ## Truncated responses -/

section Truncated

theorem length_lt_of_strictPrefix {α : Type} {q p : List α} (h : q <+: p) (hne : q ≠ p) :
    q.length < p.length := by
  have hle := h.length_le
  have hne' : q.length ≠ p.length := fun heq => hne (h.eq_of_length heq)
  omega

/-- The bytes end inside a character, and the text is three bytes longer than the characters
before it: as long as these and a replacement character. -/
def MarkerFits (received : List UInt8) (body : String) : Prop :=
  ∃ chars pending, decodeFrom utf8 [] received = some (chars, pending) ∧ pending ≠ [] ∧
    (chars.flatMap String.utf8EncodeChar).length + 3 = (encode body).length

theorem length_encode_replacementChar : (String.utf8EncodeChar replacementChar).length = 3 := by
  decide

/-- A strict prefix of the payload, decoded with replacement, is counted as an error in text
mode exactly when the status is wrong or the replacement does not make up for what is missing. -/
theorem truncated_text_rejected_iff {isBreak : Char → Bool} {name : String}
    {payload : TextPayload isBreak} {statusCode : ℤ} {received : List UInt8}
    {chunks : List (String × ℚ)} (h : received <+: encode payload.body)
    (hne : received ≠ encode payload.body)
    (hchunks : textOf chunks = (decodeReplaced received).toList) :
    Rejected (textCase name payload) (consumeText (textCase name payload) statusCode chunks) ↔
      statusCode ≠ httpOk ∨ ¬ MarkerFits received payload.body := by
  have hlt := length_lt_of_strictPrefix h hne
  -- the prefix is cut after whole characters and `k` bytes of the next
  obtain ⟨before, c, rest, k, -, hk, rfl⟩ := exists_cut utf8 h hne
  have hfound := decodeFrom_cut utf8 before hk
  have hcounts :=
    @countsText_consumeText (textCase name payload) rfl statusCode chunks
  rw [rejected_iff, ← Bool.not_eq_true, ← not_and_or, not_iff_not,
    outcomeMatches_text_iff rfl rfl, hcounts.chunks, hcounts.bytes, hchunks]
  have hsize : (textCase name payload).sizeBytes = (encode payload.body).length := rfl
  -- the marker is there where `k` is not zero, and is to have the bytes that are missing
  have hfits : MarkerFits (before.flatMap utf8.write ++ (utf8.write c).take k) payload.body ↔
      k ≠ 0 ∧ (before.flatMap String.utf8EncodeChar).length + 3 = (encode payload.body).length := by
    have hpart : (utf8.write c).take k ≠ [] ↔ k ≠ 0 := (take_write_eq_nil utf8).not
    rw [← hpart]
    constructor
    · rintro ⟨chars, pending, hdecoded, hpending, hlength⟩
      rw [hfound] at hdecoded
      cases hdecoded
      exact ⟨hpending, hlength⟩
    · rintro ⟨hpending, hlength⟩
      exact ⟨before, _, hfound, hpending, hlength⟩
  have htext : (decodeReplaced (before.flatMap utf8.write ++ (utf8.write c).take k)).toList =
      before ++ if k = 0 then [] else [replacementChar] := decodeReplaced_cut before hk
  have hstatus : (consumeText (textCase name payload) statusCode chunks).statusCode =
      statusCode := rfl
  rw [hfits, hsize, hstatus]
  rw [htext] at hchunks ⊢
  apply and_congr_right
  intro _
  by_cases hzero : k = 0
  · -- the prefix consists of whole characters, and is too short
    subst hzero
    rw [List.take_zero, List.append_nil] at hlt
    have hshort : (before.flatMap String.utf8EncodeChar).length < (encode payload.body).length :=
      hlt
    rw [if_pos rfl, List.append_nil]
    omega
  -- the cut character is decoded as one marker of three bytes
  · rw [if_neg hzero] at hchunks ⊢
    have hsome : 1 ≤ chunks.length := by
      apply List.length_pos_of_ne_nil
      rintro rfl
      exact List.append_ne_nil_of_right_ne_nil before (List.cons_ne_nil _ []) hchunks.symm
    rw [List.flatMap_append, List.flatMap_singleton, List.length_append,
      length_encode_replacementChar]
    omega

/-- The characters of the payload that a strict prefix reaches, the last one perhaps in part,
have as many lines as the text that the prefix decodes to. -/
theorem exists_reached {received : List UInt8} {body : String} (h : received <+: encode body)
    (hne : received ≠ encode body) :
    ∃ reached, reached <+: body.toList ∧ (reached = [] ↔ received = []) ∧
      (decodeReplaced received).toList.length = reached.length ∧
      ∀ isBreak, (splitLines isBreak (decodeReplaced received)).length =
        (reached.splitBy (sameLine isBreak)).length := by
  obtain ⟨before, c, rest, k, hbody, hk, rfl⟩ := exists_cut utf8 h hne
  have htext : (decodeReplaced (before.flatMap utf8.write ++ (utf8.write c).take k)).toList =
      before ++ if k = 0 then [] else [replacementChar] := decodeReplaced_cut before hk
  have hnil : before.flatMap utf8.write ++ (utf8.write c).take k = [] ↔ before = [] ∧ k = 0 := by
    rw [List.append_eq_nil_iff, take_write_eq_nil, List.flatMap_eq_nil_iff]
    apply and_congr_left
    intro _
    constructor
    · intro hall
      apply List.eq_nil_iff_forall_not_mem.2
      intro d hd
      exact utf8.write_ne_nil d (hall d hd)
    · rintro rfl d hd
      exact absurd hd List.not_mem_nil
  by_cases hzero : k = 0
  · refine ⟨before, ⟨c :: rest, hbody.symm⟩, ?_, ?_, ?_⟩
    · rw [hnil]
      simp [hzero]
    · rw [htext, if_pos hzero, List.append_nil]
    · intro isBreak
      rw [splitLines, htext, if_pos hzero, List.append_nil]
  · refine ⟨before ++ [c], ⟨rest, ?_⟩, ?_, ?_, ?_⟩
    · rw [hbody, List.append_assoc, List.singleton_append]
    · rw [hnil]
      simp [hzero]
    · rw [htext, if_neg hzero, List.length_append, List.length_append]
      rfl
    · intro isBreak
      rw [splitLines, htext, if_neg hzero]
      apply Runs.length_splitBy_concat_congr
      -- a character of one byte is not cut, so that the line break of a pair never is
      have hfeed : (c == '\n') = false := by
        rw [beq_eq_false_iff_ne]
        rintro rfl
        have hone : (utf8.write '\n').length = 1 := rfl
        omega
      intro z _
      rw [sameLine, sameLine, hfeed]
      rfl

/-- A strict prefix of the payload is counted as an error in lines mode exactly when the status
is wrong, nothing came, or the payload declares its lines and the prefix ends before the
last one begins. -/
theorem truncated_lines_rejected_iff {isBreak : Char → Bool} {name : String}
    {payload : TextPayload isBreak} {statusCode : ℤ} {received : List UInt8}
    {lines : List (String × ℚ)} (h : received <+: encode payload.body)
    (hne : received ≠ encode payload.body)
    (hlines : lines.length = (splitLines isBreak (decodeReplaced received)).length) :
    Rejected (lineCase name payload .all)
        (consumeLines (lineCase name payload .all) statusCode lines) ↔
      statusCode ≠ httpOk ∨ received = [] ∨
        (payload.lineCount.isSome = true ∧ (decodeReplaced received).toList.length ≤
          (beforeLastLine isBreak payload.body).length) := by
  have hlt := length_lt_of_strictPrefix h hne
  have hbody : payload.body.toList ≠ [] := by
    intro hnil
    rw [String.toList_eq_nil_iff.1 hnil] at hlt
    exact absurd hlt (Nat.not_lt_zero _)
  have hsize : 1 ≤ (lineCase name payload .all).sizeBytes := by
    show (1 : ℤ) ≤ (encode payload.body).length
    omega
  obtain ⟨reached, hpre, hnil, hlength, hsame⟩ := exists_reached h hne
  rw [hsame isBreak] at hlines
  rw [hlength]
  -- fewer lines came exactly where the prefix ends before the last line begins
  have hcount : lines.length < (splitLines isBreak payload.body).length ↔
      reached.length ≤ (beforeLastLine isBreak payload.body).length := by
    rw [hlines]
    exact Runs.length_splitBy_lt_iff_of_isPrefix hbody hpre
  have hle : lines.length ≤ (splitLines isBreak payload.body).length := by
    rw [hlines]
    exact Runs.length_splitBy_le_of_isPrefix hpre
  have hempty : lines = [] ↔ received = [] := by
    rw [← hnil, ← List.length_eq_zero_iff, hlines, List.length_eq_zero_iff,
      List.splitBy_eq_nil]
  -- a payload without a declared count matches any number of lines
  have hexpected : (∀ n, (lineCase name payload .all).expectedLines = some n →
        (lines.length : ℤ) = n) ↔
      ¬ (payload.lineCount.isSome = true ∧
        reached.length ≤ (beforeLastLine isBreak payload.body).length) := by
    cases hdeclared : payload.lineCount with
    | none => simp [lineCase, hdeclared]
    | some n =>
        have hn := payload.counted n hdeclared
        simp only [lineCase, hdeclared, Option.map_some, Option.some.injEq, forall_eq',
          Option.isSome_some, true_and]
        rw [← hcount, hn, Int.ofNat_eq_natCast, Nat.cast_inj]
        omega
  have hmatches := @outcomeMatches_lines_iff (lineCase name payload .all) rfl rfl hsize
    statusCode lines
  rw [ne_eq, hempty, hexpected] at hmatches
  rw [rejected_iff, ← Bool.not_eq_true, hmatches]
  rw [not_and_or, not_and_or, not_not, not_not]

variable [PyRuntime]

theorem truncated_bytes_rejected {name : String} {body : List UInt8} {statusCode : ℤ}
    {chunks : List (List UInt8 × ℚ)} (h : (chunks.map Prod.fst).flatten <+: body)
    (hne : (chunks.map Prod.fst).flatten ≠ body) :
    Rejected (bytesCase name body) (consumeBytes (bytesCase name body) statusCode chunks) := by
  have hlt := length_lt_of_strictPrefix h hne
  apply rejected_iff.2
  rw [← Bool.not_eq_true]
  intro hmatches
  have hread : (bytesCase name body).read ≠ .lines := fun h => nomatch h
  have hsize := bytesRead_eq_of_matches hread rfl hmatches
  rw [bytesRead_consumeBytes rfl] at hsize
  have hbody : (bytesCase name body).sizeBytes = body.length := rfl
  omega

/-- Whole responses that deliver a strict prefix of their payload, in any chunks. In bytes mode
every such response is counted as an error and adds nothing to the verified bytes. In text mode
this holds exactly when the status is wrong, or the prefix does not end inside a character whose
replacement makes up for what is missing; in lines mode exactly when the status is wrong, nothing
came, or the payload declares its lines and the prefix ends before the last one begins. A text
that is decoded strictly is a case of the one that is decoded with replacement. -/
theorem truncated_rejected_iff (name : String) (statusCode : ℤ) :
    (∀ (body : List UInt8) (chunks : List (List UInt8 × ℚ)),
      (chunks.map Prod.fst).flatten <+: body → (chunks.map Prod.fst).flatten ≠ body →
        Rejected (bytesCase name body)
          (consumeAsyncBytes (bytesCase name body) statusCode chunks) ∧
        Rejected (bytesCase name body)
          (consumeSyncBytes (bytesCase name body) statusCode chunks)) ∧
    (∀ (isBreak : Char → Bool) (payload : TextPayload isBreak) (received : List UInt8)
      (chunks : List (String × ℚ)),
      received <+: encode payload.body → received ≠ encode payload.body →
      textOf chunks = (decodeReplaced received).toList →
        ((Rejected (textCase name payload)
            (consumeAsyncText (textCase name payload) statusCode chunks) ∧
          Rejected (textCase name payload)
            (consumeSyncText (textCase name payload) statusCode chunks)) ↔
          statusCode ≠ httpOk ∨ ¬ MarkerFits received payload.body)) ∧
    (∀ (isBreak : Char → Bool) (payload : TextPayload isBreak) (received : List UInt8)
      (lines : List (String × ℚ)),
      received <+: encode payload.body → received ≠ encode payload.body →
      lines.length = (splitLines isBreak (decodeReplaced received)).length →
        ((Rejected (lineCase name payload .all)
            (consumeAsyncLines (lineCase name payload .all) statusCode lines) ∧
          Rejected (lineCase name payload .all)
            (consumeSyncLines (lineCase name payload .all) statusCode lines)) ↔
          statusCode ≠ httpOk ∨ received = [] ∨
            (payload.lineCount.isSome = true ∧ (decodeReplaced received).toList.length ≤
              (beforeLastLine isBreak payload.body).length))) := by
  refine ⟨?_, ?_, ?_⟩
  · intro body chunks h hne
    exact ⟨truncated_bytes_rejected h hne, truncated_bytes_rejected h hne⟩
  · intro isBreak payload received chunks h hne hchunks
    exact and_self_iff.trans (truncated_text_rejected_iff h hne hchunks)
  · intro isBreak payload received lines h hne hlines
    exact and_self_iff.trans (truncated_lines_rejected_iff h hne hlines)

/-- A payload that declares no lines. -/
def plainPayload (body : String) : TextPayload isLineFeed where
  name := "plain"
  body := body
  lineCount := none
  counted := by
    intro n hn
    cases hn

/-- A payload of two lines. -/
def twoLines : TextPayload isLineFeed where
  name := "two-lines"
  body := "x\ny\n"
  lineCount := some 2
  counted := by
    intro n hn
    cases hn
    decide +kernel

omit [PyRuntime] in
/-- A response is cut in each mode: after two of three bytes, inside a character that is followed
by another, inside the last character, and after the first of two lines. Only where the last
character is cut does the response pass. -/
theorem truncated_rejected_cut :
    ∃ _ : PyRuntime,
      Rejected (bytesCase "bytes" [1, 2, 3])
        (consumeAsyncBytes (bytesCase "bytes" [1, 2, 3]) httpOk [([1], 1), ([2], 2)]) ∧
      Rejected (textCase "text" (plainPayload "a☃b"))
        (consumeAsyncText (textCase "text" (plainPayload "a☃b")) httpOk [("a", 1), ("\ufffd", 2)]) ∧
      ¬ (Rejected (textCase "text" (plainPayload "a☃"))
          (consumeAsyncText (textCase "text" (plainPayload "a☃")) httpOk
            [("a", 1), ("\ufffd", 2)]) ∧
        Rejected (textCase "text" (plainPayload "a☃"))
          (consumeSyncText (textCase "text" (plainPayload "a☃")) httpOk
            [("a", 1), ("\ufffd", 2)])) ∧
      Rejected (lineCase "lines" twoLines .all)
        (consumeAsyncLines (lineCase "lines" twoLines .all) httpOk [("x\n", 1)]) := by
  refine ⟨plainRuntime, ?_, ?_, ?_, ?_⟩
  · exact (((@truncated_rejected_iff plainRuntime "bytes" httpOk).1 [1, 2, 3] [([1], 1), ([2], 2)])
      (by decide) (by decide)).1
  · refine ((((@truncated_rejected_iff plainRuntime "text" httpOk).2.1 isLineFeed
      (plainPayload "a☃b") [0x61, 0xe2, 0x98] [("a", 1), ("\ufffd", 2)])
      (by decide +kernel) (by decide +kernel) (by decide +kernel)).2 (Or.inr ?_)).1
    rintro ⟨chars, pending, hdecoded, -, hlength⟩
    have hfound : decodeFrom utf8 [] [0x61, 0xe2, 0x98] = some (['a'], [0xe2, 0x98]) := rfl
    rw [hfound] at hdecoded
    cases hdecoded
    exact absurd hlength (by decide +kernel)
  · intro hrejected
    rcases (((@truncated_rejected_iff plainRuntime "text" httpOk).2.1 isLineFeed
      (plainPayload "a☃") [0x61, 0xe2, 0x98] [("a", 1), ("\ufffd", 2)])
      (by decide +kernel) (by decide +kernel) (by decide +kernel)).1 hrejected with hstatus | hfits
    · exact hstatus rfl
    · exact hfits ⟨['a'], [0xe2, 0x98], rfl, by decide, by decide +kernel⟩
  · exact ((((@truncated_rejected_iff plainRuntime "lines" httpOk).2.2 isLineFeed twoLines
      [0x78, 0x0a] [("x\n", 1)]) (by decide +kernel) (by decide +kernel) (by decide +kernel)).2
      (Or.inr (Or.inr ⟨rfl, by decide +kernel⟩))).1

omit [PyRuntime] in
/-- The first character of the payload `long-line-1m`, delivered as the whole response,
passes the check of the case and is credited with the size of the whole payload. -/
theorem longLine1m_truncated_accepted :
    encode "x" <+: encode longLine1m.body ∧ encode "x" ≠ encode longLine1m.body ∧
      outcomeMatches (lineCase "long-line-1m" longLine1m .all)
        (consumeSyncLines (lineCase "long-line-1m" longLine1m .all) httpOk [("x", 1)]) = true ∧
      (recordStream (lineCase "long-line-1m" longLine1m .all) true {}
        (.ok (consumeSyncLines (lineCase "long-line-1m" longLine1m .all) httpOk [("x", 1)]))
        1).verifiedEofBytes = longLine1m.sizeBytes := by
  have hbody : longLine1m.body.toList = 'x' :: (List.replicate 1048575 'x' ++ ['\n']) := by
    show (String.ofList (List.replicate longLineChars 'x' ++ ['\n'])).toList = _
    rw [String.toList_ofList]
    rfl
  have hencode : encode longLine1m.body =
      encode "x" ++ (List.replicate 1048575 'x' ++ ['\n']).flatMap String.utf8EncodeChar := by
    rw [encode, hbody, List.flatMap_cons]
    rfl
  have hrest : (List.replicate 1048575 'x' ++ ['\n']).flatMap String.utf8EncodeChar ≠ [] := by
    rw [List.flatMap_append, List.flatMap_singleton]
    exact List.append_ne_nil_of_right_ne_nil _ (encodeChar_ne_nil _)
  have hsize : 1 ≤ (lineCase "long-line-1m" longLine1m .all).sizeBytes := by
    have hpos : 0 < (encode longLine1m.body).length := by
      rw [hencode]
      exact List.length_pos_of_ne_nil (List.append_ne_nil_of_right_ne_nil _ hrest)
    show (1 : ℤ) ≤ (encode longLine1m.body).length
    exact_mod_cast hpos
  have hmatches : outcomeMatches (lineCase "long-line-1m" longLine1m .all)
      (consumeSyncLines (lineCase "long-line-1m" longLine1m .all) httpOk [("x", 1)]) = true := by
    apply (outcomeMatches_lines_iff rfl rfl hsize httpOk [("x", 1)]).2
    refine ⟨rfl, by decide, ?_⟩
    intro n hn
    cases hn
    rfl
  refine ⟨?_, ?_, hmatches, ?_⟩
  · rw [hencode]
    exact List.prefix_append _ _
  · rw [hencode]
    intro h
    exact hrest (List.self_eq_append_right.1 h)
  · rw [verifiedEofBytes_of_matches rfl hmatches]
    have hbytes := @bytesRead_consumeLines (lineCase "long-line-1m" longLine1m .all) rfl httpOk
      [("x", 1)] (by decide)
    exact (zero_add _).trans hbytes

end Truncated

end FogHttpBenchmark.Streaming
