import FogHttpBenchmark.Library.Terminated
import FogHttpBenchmark.Python.Utf8
import FogHttpBenchmark.Streaming.Runner

/-!
# Streaming adapters

How an adapter turns a response into the outcome of one of the consumers. For aiohttp the
adapter decodes the body itself: the chunks through an incremental decoder, the lines one by one.

The verdict on a response in text mode depends on its bytes alone and not on the chunks in which
they came (`aiohttp_text_accepted_iff`); in lines mode the lines of the bytes are the lines of the
text (`aiohttp_lines_accepted_iff`).
-/

set_option autoImplicit false

namespace FogHttpBenchmark.Streaming

open Library Incremental Terminated Python

/-! ## Iterations -/

section Iterations

/-- What an iterator yields, and the exception that it ends with, if any. -/
structure Iteration (α : Type) where
  items : List α
  raised : Option ExceptionName := none

/-- What a loop gets from an iterator. A loop that leaves after the first item does not get to
the exception. -/
def Iteration.seen {α : Type} (iteration : Iteration α) (stop : Bool) :
    Except ExceptionName (List α) :=
  if stop && !iteration.items.isEmpty then .ok iteration.items
  else
    match iteration.raised with
    | none => .ok iteration.items
    | some exc => .error exc

theorem Iteration.seen_eq_ok {α : Type} {iteration : Iteration α} {items : List α} :
    iteration.seen false = .ok items ↔ iteration.raised = none ∧ iteration.items = items := by
  rw [Iteration.seen, Bool.false_and, if_neg Bool.false_ne_true]
  cases iteration.raised with
  | none => simp
  | some exc => simp

/-- `UnicodeDecodeError`. -/
def unicodeDecodeError : ExceptionName := ⟨"UnicodeDecodeError", rfl⟩

/-- The characters that a chunk completes are yielded, if there are any. -/
def Iteration.yieldText (chars : List Char) (time : ℚ) (later : Iteration (String × ℚ)) :
    Iteration (String × ℚ) :=
  if chars.isEmpty then later
  else { later with items := (String.ofList chars, time) :: later.items }

/-- The loop of `_iter_aiohttp_text`. -/
def iterTextFrom (raised : Option ExceptionName) (pending : List UInt8) :
    List (List UInt8 × ℚ) → Iteration (String × ℚ)
  | [] =>
      -- the final call of the decoder raises for what is pending, and yields nothing else
      ⟨[], raised.or (if pending.isEmpty then none else some unicodeDecodeError)⟩
  | chunk :: chunks =>
      match decodeFrom utf8 pending chunk.1 with
      | none => ⟨[], some unicodeDecodeError⟩
      | some found => .yieldText found.1 chunk.2 (iterTextFrom raised found.2 chunks)

/-- `_iter_aiohttp_text`: the chunks, decoded with the bytes that the last one has left. -/
def iterAiohttpText (content : Iteration (List UInt8 × ℚ)) : Iteration (String × ℚ) :=
  iterTextFrom content.raised [] content.items

/-- `text.rstrip("\r\n")`. -/
def rstripLineEnd (text : String) : String :=
  String.ofList (text.toList.rdropWhile fun c => c == '\r' || c == '\n')

/-- The loop of `_iter_aiohttp_lines` over the lines before the empty one. -/
def iterLinesFrom (raised : Option ExceptionName) :
    List (List UInt8 × ℚ) → Iteration (String × ℚ)
  | [] => ⟨[], raised⟩
  | line :: lines =>
      match decodeUtf8 line.1 with
      | none => ⟨[], some unicodeDecodeError⟩
      | some text =>
          let later := iterLinesFrom raised lines
          { later with items := (rstripLineEnd text, line.2) :: later.items }

/-- `_iter_aiohttp_lines`: each line, decoded by itself and without its end. -/
def iterAiohttpLines (lines : Iteration (List UInt8 × ℚ)) : Iteration (String × ℚ) :=
  iterLinesFrom lines.raised lines.items

end Iterations

/-! ## Adapters -/

section Adapters

variable [PyRuntime]

/-- A response of a client that decodes by itself. -/
structure StreamResponse where
  statusCode : ℤ
  bytes : Iteration (List UInt8 × ℚ)
  text : Iteration (String × ℚ)
  lines : Iteration (String × ℚ)

/-- The outcome of reading a response in the mode of its case. -/
def consumeAsyncResponse (case : StreamingCase) (response : StreamResponse) :
    Except ExceptionName StreamingOutcome :=
  match case.read with
  | .text => do
      let chunks ← response.text.seen (case.consume == .firstChunk)
      pure (consumeAsyncText case response.statusCode chunks)
  | .lines => do
      let lines ← response.lines.seen (case.consume == .firstLine)
      pure (consumeAsyncLines case response.statusCode lines)
  | .bytes => do
      let chunks ← response.bytes.seen (case.consume == .firstChunk)
      pure (consumeAsyncBytes case response.statusCode chunks)

/-- The content of an aiohttp response, as `iter_chunked` yields it and as `readline` does. A
line ends with its line feed, and the last one may end with the body. -/
structure AiohttpContent where
  chunks : Iteration (List UInt8 × ℚ)
  lines : Iteration (List UInt8 × ℚ)
  lines_cut : lines.items.map Prod.fst = cut 10 (lines.items.map Prod.fst).flatten

/-- The bytes of the chunks that came. -/
def AiohttpContent.chunkBytes (content : AiohttpContent) : List UInt8 :=
  (content.chunks.items.map Prod.fst).flatten

/-- The bytes of the lines that came. -/
def AiohttpContent.lineBytes (content : AiohttpContent) : List UInt8 :=
  (content.lines.items.map Prod.fst).flatten

/-- `AioHTTPAsyncStreamingAdapter.stream`. -/
def aiohttpStream (case : StreamingCase) (statusCode : ℤ) (content : AiohttpContent) :
    Except ExceptionName StreamingOutcome :=
  consumeAsyncResponse case
    { statusCode := statusCode
      bytes := content.chunks
      text := iterAiohttpText content.chunks
      lines := iterAiohttpLines content.lines }

end Adapters

/-! ## Text -/

section Text

theorem raised_yieldText (chars : List Char) (time : ℚ) (later : Iteration (String × ℚ)) :
    (later.yieldText chars time).raised = later.raised := by
  rw [Iteration.yieldText]
  split_ifs <;> rfl

theorem textOf_yieldText (chars : List Char) (time : ℚ) (later : Iteration (String × ℚ)) :
    textOf (later.yieldText chars time).items = chars ++ textOf later.items := by
  rw [Iteration.yieldText]
  split_ifs with hempty
  · rw [List.isEmpty_iff.1 hempty, List.nil_append]
  · rw [textOf, List.flatMap_cons, String.toList_ofList]
    rfl

theorem iterTextFrom_some {raised : Option ExceptionName} {pending : List UInt8}
    {chunk : List UInt8 × ℚ} {found : List Char × List UInt8}
    (h : decodeFrom utf8 pending chunk.1 = some found) (chunks : List (List UInt8 × ℚ)) :
    iterTextFrom raised pending (chunk :: chunks) =
      (iterTextFrom raised found.2 chunks).yieldText found.1 chunk.2 := by
  rw [iterTextFrom, h]

/-- The iteration ends well exactly when the chunks do and their bytes end with a character. -/
theorem raised_iterTextFrom {raised : Option ExceptionName} {pending : List UInt8}
    {chunks : List (List UInt8 × ℚ)} :
    (iterTextFrom raised pending chunks).raised = none ↔
      raised = none ∧
        ∃ chars, decodeFrom utf8 pending (chunks.map Prod.fst).flatten = some (chars, []) := by
  induction chunks generalizing pending with
  | nil =>
      rw [iterTextFrom, List.map_nil, List.flatten_nil, decodeFrom, Option.or_eq_none_iff]
      simp [List.isEmpty_iff]
  | cons chunk chunks ih =>
      rw [List.map_cons, List.flatten_cons, decodeFrom_append]
      cases hpiece : decodeFrom utf8 pending chunk.1 with
      | none => simp [iterTextFrom, hpiece]
      | some found =>
          rw [iterTextFrom_some hpiece, raised_yieldText, ih]
          simp [Option.map_eq_some_iff, Prod.ext_iff]

/-- The texts are what the bytes decode to. -/
theorem textOf_iterTextFrom {raised : Option ExceptionName} {pending : List UInt8}
    {chunks : List (List UInt8 × ℚ)} {found : List Char × List UInt8}
    (h : decodeFrom utf8 pending (chunks.map Prod.fst).flatten = some found) :
    textOf (iterTextFrom raised pending chunks).items = found.1 := by
  induction chunks generalizing pending found with
  | nil =>
      cases h
      rfl
  | cons chunk chunks ih =>
      rw [List.map_cons, List.flatten_cons, decodeFrom_append] at h
      obtain ⟨first, hfirst, hrest⟩ := Option.bind_eq_some_iff.1 h
      obtain ⟨later, hlater, rfl⟩ := Option.map_eq_some_iff.1 hrest
      rw [iterTextFrom_some hfirst, textOf_yieldText, ih hlater]

theorem length_iterTextFrom (raised : Option ExceptionName) (pending : List UInt8)
    (chunks : List (List UInt8 × ℚ)) :
    (iterTextFrom raised pending chunks).items.length ≤ chunks.length := by
  induction chunks generalizing pending with
  | nil => exact Nat.le_refl 0
  | cons chunk chunks ih =>
      cases hpiece : decodeFrom utf8 pending chunk.1 with
      | none =>
          rw [iterTextFrom, hpiece]
          exact Nat.zero_le _
      | some found =>
          have hlater := ih found.2
          rw [iterTextFrom_some hpiece, Iteration.yieldText, List.length_cons]
          split_ifs
          · omega
          · rw [List.length_cons]
            omega

/-- The iteration ends well exactly when the chunks do and their bytes are the bytes of a text. -/
theorem raised_iterAiohttpText {content : Iteration (List UInt8 × ℚ)} :
    (iterAiohttpText content).raised = none ↔
      content.raised = none ∧ ∃ text, (content.items.map Prod.fst).flatten = encode text := by
  rw [iterAiohttpText, raised_iterTextFrom]
  refine and_congr_right fun _ => ?_
  constructor
  · rintro ⟨chars, hchars⟩
    refine ⟨String.ofList chars, ?_⟩
    rw [encode, String.toList_ofList]
    exact (decodeFrom_eq_some_nil utf8).1 hchars
  · rintro ⟨text, htext⟩
    exact ⟨text.toList, (decodeFrom_eq_some_nil utf8).2 htext⟩

/-- What is yielded is the text of the body, whatever the chunks. -/
theorem textOf_iterAiohttpText {content : Iteration (List UInt8 × ℚ)} {text : String}
    (h : (content.items.map Prod.fst).flatten = encode text) :
    textOf (iterAiohttpText content).items = text.toList :=
  textOf_iterTextFrom ((decodeFrom_eq_some_nil utf8).2 h)

variable [PyRuntime]

theorem aiohttpStream_text {case : StreamingCase} (hread : case.read = .text)
    (hall : case.consume = .all) {statusCode : ℤ} {content : AiohttpContent}
    {outcome : StreamingOutcome} :
    aiohttpStream case statusCode content = .ok outcome ↔
      (iterAiohttpText content.chunks).raised = none ∧
        consumeText case statusCode (iterAiohttpText content.chunks).items = outcome := by
  have hstream : aiohttpStream case statusCode content =
      (iterAiohttpText content.chunks).seen false >>= fun chunks =>
        pure (consumeText case statusCode chunks) := by
    rw [aiohttpStream, consumeAsyncResponse, hread, hall]
    rfl
  rw [hstream, Checked.bind_eq_ok]
  constructor
  · rintro ⟨chunks, hseen, houtcome⟩
    obtain ⟨hraised, rfl⟩ := Iteration.seen_eq_ok.1 hseen
    exact ⟨hraised, Checked.pure_eq_ok.1 houtcome⟩
  · rintro ⟨hraised, rfl⟩
    exact ⟨_, Iteration.seen_eq_ok.2 ⟨hraised, rfl⟩, rfl⟩

omit [PyRuntime] in
/-- What the outcome counts of a body that is a text. -/
theorem counts_of_delivered_text {case : StreamingCase} (hall : case.consume = .all)
    {statusCode : ℤ} {content : AiohttpContent} {text : String}
    (htext : content.chunkBytes = encode text) {outcome : StreamingOutcome}
    (houtcome : consumeText case statusCode (iterAiohttpText content.chunks).items = outcome) :
    outcome.bytesRead = content.chunkBytes.length ∧
      outcome.textCharsRead = text.toList.length ∧
      outcome.chunksRead = (iterAiohttpText content.chunks).items.length := by
  subst houtcome
  have hcount := countsText_consumeText hall statusCode (iterAiohttpText content.chunks).items
  refine ⟨?_, ?_, hcount.chunks⟩
  · rw [hcount.bytes, textOf_iterAiohttpText htext, htext]
    rfl
  · rw [hcount.chars, textOf_iterAiohttpText htext]

/-- A text of the expected size is accepted, whatever the chunks in which it comes. -/
theorem accepted_of_delivered_text {case : StreamingCase} (hread : case.read = .text)
    (hall : case.consume = .all) {content : AiohttpContent} {text : String}
    (hend : content.chunks.raised = none) (htext : content.chunkBytes = encode text)
    (hne : content.chunkBytes ≠ []) (hsize : (content.chunkBytes.length : ℤ) = case.sizeBytes) :
    ∃ outcome, aiohttpStream case httpOk content = .ok outcome ∧
      outcomeMatches case outcome = true := by
  have hraised := raised_iterAiohttpText.2 ⟨hend, text, htext⟩
  obtain ⟨hbytes, hchars, hchunks⟩ :=
    @counts_of_delivered_text case hall httpOk content text htext _ rfl
  have hlength : 1 ≤ content.chunkBytes.length := List.length_pos_of_ne_nil hne
  -- a body that is not empty yields a text that is not empty
  have hitems : (iterAiohttpText content.chunks).items ≠ [] := by
    intro hnil
    have htextOf := textOf_iterAiohttpText htext
    rw [hnil] at htextOf
    rw [htext, encode, ← htextOf] at hne
    exact hne rfl
  have hsome : 1 ≤ (iterAiohttpText content.chunks).items.length :=
    List.length_pos_of_ne_nil hitems
  refine ⟨_, (aiohttpStream_text hread hall).2 ⟨hraised, rfl⟩, ?_⟩
  rw [outcomeMatches_text_iff hread hall]
  refine ⟨rfl, ?_, ?_, ?_⟩
  · rw [hchunks]
    exact_mod_cast hsome
  · rw [hbytes]
    exact_mod_cast hlength
  · rw [hbytes, hsize]

/-- A text response that is read whole through aiohttp is accepted exactly when its status is
right, its chunks end well, and their bytes are a text, not empty and as long as expected. The
outcome counts the bytes and the characters of the body, and no more chunks than came. -/
theorem aiohttp_text_accepted_iff {case : StreamingCase} (hread : case.read = .text)
    (hall : case.consume = .all) (statusCode : ℤ) (content : AiohttpContent) :
    ((∃ outcome, aiohttpStream case statusCode content = .ok outcome ∧
        outcomeMatches case outcome = true) ↔
      statusCode = httpOk ∧ content.chunks.raised = none ∧ content.chunkBytes ≠ [] ∧
        (content.chunkBytes.length : ℤ) = case.sizeBytes ∧
        ∃ text, content.chunkBytes = encode text) ∧
    ∀ outcome, aiohttpStream case statusCode content = .ok outcome →
      ∃ text, content.chunkBytes = encode text ∧
        outcome.bytesRead = content.chunkBytes.length ∧
        outcome.textCharsRead = text.toList.length ∧
        outcome.chunksRead ≤ content.chunks.items.length := by
  constructor
  · constructor
    · rintro ⟨outcome, hstream, hmatches⟩
      obtain ⟨hraised, houtcome⟩ := (aiohttpStream_text hread hall).1 hstream
      obtain ⟨hend, text, htext⟩ := raised_iterAiohttpText.1 hraised
      obtain ⟨hbytes, -, -⟩ := counts_of_delivered_text hall htext houtcome
      obtain ⟨hstatus, -, hpos, hsize⟩ := (outcomeMatches_text_iff hread hall).1 hmatches
      rw [hbytes] at hpos hsize
      refine ⟨?_, hend, ?_, hsize, text, htext⟩
      · rw [← hstatus, ← houtcome]
        rfl
      · intro hnil
        rw [hnil] at hpos
        exact absurd hpos (by decide)
    · rintro ⟨rfl, hend, hne, hsize, text, htext⟩
      exact accepted_of_delivered_text hread hall hend htext hne hsize
  · intro outcome hstream
    obtain ⟨hraised, houtcome⟩ := (aiohttpStream_text hread hall).1 hstream
    obtain ⟨-, text, htext⟩ := raised_iterAiohttpText.1 hraised
    obtain ⟨hbytes, hchars, hchunks⟩ := counts_of_delivered_text hall htext houtcome
    refine ⟨text, htext, hbytes, hchars, ?_⟩
    rw [hchunks]
    exact_mod_cast length_iterTextFrom _ _ _

/-- A text of three bytes and the line feed after it. -/
def splitCase : StreamingCase where
  name := "split"
  sizeBytes := 4
  read := .text

/-- The bytes of the text, each in a chunk of its own. -/
def splitContent : AiohttpContent where
  chunks := ⟨[([0xe2], 1), ([0x98], 2), ([0x83], 3), ([0x0a], 4)], none⟩
  lines := ⟨[], none⟩
  lines_cut := rfl

omit [PyRuntime] in
theorem aiohttp_text_accepted_split :
    ∃ outcome, @aiohttpStream plainRuntime splitCase httpOk splitContent = .ok outcome ∧
      outcomeMatches splitCase outcome = true :=
  (@aiohttp_text_accepted_iff plainRuntime splitCase rfl rfl httpOk splitContent).1.2
    ⟨rfl, rfl, by decide, by decide, "☃\n", by decide⟩

end Text

/-! ## Lines -/

section Lines

theorem keepsMark_encodeChar : KeepsMark String.utf8EncodeChar '\n' 10 where
  ne_nil := encodeChar_ne_nil
  write_mark := rfl
  other c hc := by
    intro hmem
    have hnumber := toNat_of_mem_encodeChar (by decide) hmem
    exact hc (Char.toNat_inj.1 hnumber)

theorem splitLines_isLineFeed (text : String) :
    splitLines isLineFeed text = cut '\n' text.toList := by
  have hsame : sameLine isLineFeed = fun c _ => c != '\n' := by
    funext c d
    rw [sameLine, isLineFeed, bne]
    by_cases hc : c = '\n'
    · subst hc
      rfl
    · simp [hc]
  rw [splitLines, hsame]
  rfl

/-- The lines of the bytes of a text are the bytes of its lines. -/
theorem cut_encode (text : String) :
    cut 10 (encode text) =
      (splitLines isLineFeed text).map fun line => line.flatMap String.utf8EncodeChar := by
  rw [splitLines_isLineFeed]
  exact keepsMark_encodeChar.cut_flatMap text.toList

theorem iterLinesFrom_some {raised : Option ExceptionName} {line : List UInt8 × ℚ} {text : String}
    (h : decodeUtf8 line.1 = some text) (lines : List (List UInt8 × ℚ)) :
    iterLinesFrom raised (line :: lines) =
      ⟨(rstripLineEnd text, line.2) :: (iterLinesFrom raised lines).items,
        (iterLinesFrom raised lines).raised⟩ := by
  rw [iterLinesFrom, h]

theorem raised_iterLinesFrom {raised : Option ExceptionName} {lines : List (List UInt8 × ℚ)} :
    (iterLinesFrom raised lines).raised = none ↔
      raised = none ∧ ∀ line ∈ lines, ∃ text, line.1 = encode text := by
  induction lines with
  | nil => simp [iterLinesFrom]
  | cons line lines ih =>
      rw [List.forall_mem_cons]
      cases hline : decodeUtf8 line.1 with
      | none =>
          have hbad : ¬ ∃ text, line.1 = encode text := by
            rintro ⟨text, htext⟩
            rw [decodeUtf8_eq_some.2 htext] at hline
            cases hline
          simp [iterLinesFrom, hline, hbad]
      | some text =>
          have hgood : ∃ text, line.1 = encode text := ⟨text, decodeUtf8_eq_some.1 hline⟩
          rw [iterLinesFrom_some hline, ih]
          simp only [hgood, true_and]

theorem length_iterLinesFrom {raised : Option ExceptionName} {lines : List (List UInt8 × ℚ)}
    (h : ∀ line ∈ lines, ∃ text, line.1 = encode text) :
    (iterLinesFrom raised lines).items.length = lines.length := by
  induction lines with
  | nil => rfl
  | cons line lines ih =>
      obtain ⟨text, htext⟩ := h line List.mem_cons_self
      rw [iterLinesFrom_some (decodeUtf8_eq_some.2 htext), List.length_cons, List.length_cons,
        ih fun other hother => h other (List.mem_cons_of_mem _ hother)]

/-- Lines that can be decoded one by one can be decoded together. -/
theorem exists_encode_flatten {lines : List (List UInt8)}
    (h : ∀ line ∈ lines, ∃ text, line = encode text) : ∃ text, lines.flatten = encode text := by
  induction lines with
  | nil => exact ⟨"", rfl⟩
  | cons line lines ih =>
      obtain ⟨text, rfl⟩ := h line List.mem_cons_self
      obtain ⟨others, hothers⟩ := ih fun other hother => h other (List.mem_cons_of_mem _ hother)
      refine ⟨text ++ others, ?_⟩
      rw [List.flatten_cons, hothers, encode, encode, encode, String.toList_append,
        List.flatMap_append]

/-- The lines of a body can be decoded exactly when the body can. -/
theorem encoded_lines_iff {lines : List (List UInt8)} (hcut : lines = cut 10 lines.flatten) :
    (∀ line ∈ lines, ∃ text, line = encode text) ↔ ∃ text, lines.flatten = encode text := by
  refine ⟨exists_encode_flatten, ?_⟩
  rintro ⟨text, htext⟩ line hline
  rw [hcut, htext, cut_encode] at hline
  obtain ⟨chars, -, rfl⟩ := List.mem_map.1 hline
  exact ⟨String.ofList chars, by rw [encode, String.toList_ofList]⟩

variable [PyRuntime]

theorem aiohttpStream_lines {case : StreamingCase} (hread : case.read = .lines)
    (hall : case.consume = .all) {statusCode : ℤ} {content : AiohttpContent}
    {outcome : StreamingOutcome} :
    aiohttpStream case statusCode content = .ok outcome ↔
      (iterAiohttpLines content.lines).raised = none ∧
        consumeLines case statusCode (iterAiohttpLines content.lines).items = outcome := by
  have hstream : aiohttpStream case statusCode content =
      (iterAiohttpLines content.lines).seen false >>= fun lines =>
        pure (consumeLines case statusCode lines) := by
    rw [aiohttpStream, consumeAsyncResponse, hread, hall]
    rfl
  rw [hstream, Checked.bind_eq_ok]
  constructor
  · rintro ⟨lines, hseen, houtcome⟩
    obtain ⟨hraised, rfl⟩ := Iteration.seen_eq_ok.1 hseen
    exact ⟨hraised, Checked.pure_eq_ok.1 houtcome⟩
  · rintro ⟨hraised, rfl⟩
    exact ⟨_, Iteration.seen_eq_ok.2 ⟨hraised, rfl⟩, rfl⟩

omit [PyRuntime] in
/-- The lines that the adapter yields are the lines of the text of the body. -/
theorem length_iterAiohttpLines {content : AiohttpContent} {text : String}
    (htext : content.lineBytes = encode text) :
    (∀ line ∈ content.lines.items, ∃ text, line.1 = encode text) ∧
      (iterAiohttpLines content.lines).items.length = (splitLines isLineFeed text).length := by
  have hencoded : ∀ line ∈ content.lines.items, ∃ text, line.1 = encode text := by
    have hlines := (encoded_lines_iff content.lines_cut).2 ⟨text, htext⟩
    rwa [List.forall_mem_map] at hlines
  refine ⟨hencoded, (length_iterLinesFrom hencoded).trans ?_⟩
  have hlength := congrArg List.length content.lines_cut
  rw [← AiohttpContent.lineBytes, htext, cut_encode, List.length_map, List.length_map] at hlength
  exact hlength

omit [PyRuntime] in
theorem iterAiohttpLines_eq_nil {content : AiohttpContent} {text : String}
    (htext : content.lineBytes = encode text) :
    (iterAiohttpLines content.lines).items = [] ↔ text = "" := by
  rw [← List.length_eq_zero_iff, (length_iterAiohttpLines htext).2, List.length_eq_zero_iff,
    splitLines_eq_nil]

/-- A text with the expected number of lines is accepted. -/
theorem accepted_of_delivered_lines {case : StreamingCase} (hread : case.read = .lines)
    (hall : case.consume = .all) (hsize : 1 ≤ case.sizeBytes) {content : AiohttpContent}
    {text : String} (hend : content.lines.raised = none)
    (htext : content.lineBytes = encode text) (hne : text ≠ "")
    (hexpected : ∀ n, case.expectedLines = some n →
      ((splitLines isLineFeed text).length : ℤ) = n) :
    ∃ outcome, aiohttpStream case httpOk content = .ok outcome ∧
      outcomeMatches case outcome = true := by
  obtain ⟨hencoded, hcount⟩ := length_iterAiohttpLines htext
  have hraised := raised_iterLinesFrom.2 ⟨hend, hencoded⟩
  refine ⟨_, (aiohttpStream_lines hread hall).2 ⟨hraised, rfl⟩, ?_⟩
  rw [outcomeMatches_lines_iff hread hall hsize]
  refine ⟨rfl, ?_, ?_⟩
  · rw [ne_eq, iterAiohttpLines_eq_nil htext]
    exact hne
  · rw [hcount]
    exact hexpected

/-- A response in lines mode that is read whole through aiohttp is accepted exactly when its
status is right, its lines end well, and their bytes are a text, not empty and with as many lines
as expected. -/
theorem aiohttp_lines_accepted_iff {case : StreamingCase} (hread : case.read = .lines)
    (hall : case.consume = .all) (hsize : 1 ≤ case.sizeBytes) (statusCode : ℤ)
    (content : AiohttpContent) :
    (∃ outcome, aiohttpStream case statusCode content = .ok outcome ∧
        outcomeMatches case outcome = true) ↔
      statusCode = httpOk ∧ content.lines.raised = none ∧
        ∃ text, content.lineBytes = encode text ∧ text ≠ "" ∧
          ∀ n, case.expectedLines = some n → ((splitLines isLineFeed text).length : ℤ) = n := by
  constructor
  · rintro ⟨outcome, hstream, hmatches⟩
    obtain ⟨hraised, rfl⟩ := (aiohttpStream_lines hread hall).1 hstream
    obtain ⟨hend, hlines⟩ := raised_iterLinesFrom.1 hraised
    obtain ⟨text, htext⟩ := (encoded_lines_iff content.lines_cut).1
      (List.forall_mem_map.2 hlines)
    obtain ⟨hstatus, hne, hexpected⟩ := (outcomeMatches_lines_iff hread hall hsize _ _).1 hmatches
    rw [ne_eq, iterAiohttpLines_eq_nil htext] at hne
    rw [(length_iterAiohttpLines htext).2] at hexpected
    exact ⟨hstatus, hend, text, htext, hne, hexpected⟩
  · rintro ⟨rfl, hend, text, htext, hne, hexpected⟩
    exact accepted_of_delivered_lines hread hall hsize hend htext hne hexpected

/-- Two lines with a character of three bytes in each. -/
def snowmanLines : AiohttpContent where
  chunks := ⟨[], none⟩
  lines := ⟨[([0xe2, 0x98, 0x83, 0x0d, 0x0a], 1), ([0xe2, 0x98, 0x83], 2)], none⟩
  lines_cut := rfl

/-- The case of the example. -/
def snowmanCase : StreamingCase where
  name := "snowmen"
  sizeBytes := 8
  read := .lines
  expectedLines := some 2

omit [PyRuntime] in
theorem aiohttp_lines_accepted_snowmen :
    ∃ outcome, @aiohttpStream plainRuntime snowmanCase httpOk snowmanLines = .ok outcome ∧
      outcomeMatches snowmanCase outcome = true := by
  refine (@aiohttp_lines_accepted_iff plainRuntime snowmanCase rfl rfl (by decide) httpOk
    snowmanLines).2 ⟨rfl, rfl, "☃\r\n☃", by decide, by decide, ?_⟩
  intro n hn
  cases hn
  rfl

end Lines

end FogHttpBenchmark.Streaming
