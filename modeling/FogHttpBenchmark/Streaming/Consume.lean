import FogHttpBenchmark.Streaming.Models

/-!
# Consumers

The loops that read one response in bytes, text or lines mode and report its outcome.
An item of the response comes with the time at which it arrived. The three loops share
their counters and differ in what they count of an item and where they stop early.
-/

set_option autoImplicit false

namespace FogHttpBenchmark.Streaming

open Python

/-! ## The reading loop -/

section Loop

/-- The counters of a reading loop. -/
structure Reading where
  bytesRead : ℤ := 0
  itemsRead : ℤ := 0
  textCharsRead : ℤ := 0
  firstItemMs : Option ℚ := none

variable {α : Type}

/-- One item: its bytes and characters are counted, and its time if it is the first. -/
def Reading.add (bytes chars : α → ℤ) (reading : Reading) (item : α × ℚ) : Reading where
  bytesRead := reading.bytesRead + bytes item.1
  itemsRead := reading.itemsRead + 1
  textCharsRead := reading.textCharsRead + chars item.1
  firstItemMs := some (reading.firstItemMs.getD item.2)

/-- The loop over the items, which ends after the first one when `stop` is set. -/
def readItems (bytes chars : α → ℤ) (stop : Bool) : Reading → List (α × ℚ) → Reading
  | reading, [] => reading
  | reading, item :: items =>
      if stop then reading.add bytes chars item
      else readItems bytes chars stop (reading.add bytes chars item) items

theorem bytesRead_readItems (bytes chars : α → ℤ) (reading : Reading) (items : List (α × ℚ)) :
    (readItems bytes chars false reading items).bytesRead =
      reading.bytesRead + (items.map fun item => bytes item.1).sum := by
  induction items generalizing reading with
  | nil => simp [readItems]
  | cons item items ih =>
      rw [readItems, if_neg Bool.false_ne_true, ih, List.map_cons, List.sum_cons]
      show reading.bytesRead + bytes item.1 + _ = _
      omega

theorem itemsRead_readItems (bytes chars : α → ℤ) (reading : Reading) (items : List (α × ℚ)) :
    (readItems bytes chars false reading items).itemsRead =
      reading.itemsRead + items.length := by
  induction items generalizing reading with
  | nil => simp [readItems]
  | cons item items ih =>
      rw [readItems, if_neg Bool.false_ne_true, ih, List.length_cons]
      show reading.itemsRead + 1 + _ = _
      push_cast
      omega

theorem textCharsRead_readItems (bytes chars : α → ℤ) (reading : Reading)
    (items : List (α × ℚ)) :
    (readItems bytes chars false reading items).textCharsRead =
      reading.textCharsRead + (items.map fun item => chars item.1).sum := by
  induction items generalizing reading with
  | nil => simp [readItems]
  | cons item items ih =>
      rw [readItems, if_neg Bool.false_ne_true, ih, List.map_cons, List.sum_cons]
      show reading.textCharsRead + chars item.1 + _ = _
      omega

end Loop

/-! ## Bytes -/

section Bytes

variable [PyRuntime]

/-- The outcome of reading chunks of bytes, as both modes have it. -/
def consumeBytes (case : StreamingCase) (statusCode : ℤ) (chunks : List (List UInt8 × ℚ)) :
    StreamingOutcome :=
  let reading := readItems (fun chunk => (chunk.length : ℤ)) (fun _ => 0)
    (case.consume == .firstChunk) {} chunks
  { statusCode := statusCode
    bytesRead := reading.bytesRead
    chunksRead := reading.itemsRead
    firstChunkMs := reading.firstItemMs
    -- the digest is updated chunk by chunk, and only when the whole body is read
    bodySha256 :=
      if case.consume = .all then some (PyRuntime.sha256 (chunks.map Prod.fst).flatten) else none
    eofReceived := case.consume == .all }

/-- `consume_async_bytes`. -/
def consumeAsyncBytes (case : StreamingCase) (statusCode : ℤ)
    (chunks : List (List UInt8 × ℚ)) : StreamingOutcome :=
  consumeBytes case statusCode chunks

/-- `consume_sync_bytes`. -/
def consumeSyncBytes (case : StreamingCase) (statusCode : ℤ)
    (chunks : List (List UInt8 × ℚ)) : StreamingOutcome :=
  consumeBytes case statusCode chunks

/-- All chunks are counted by their bytes. -/
theorem bytesRead_consumeBytes {case : StreamingCase} (hall : case.consume = .all)
    (statusCode : ℤ) (chunks : List (List UInt8 × ℚ)) :
    (consumeBytes case statusCode chunks).bytesRead = (chunks.map Prod.fst).flatten.length := by
  have hloop := bytesRead_readItems (fun chunk : List UInt8 => (chunk.length : ℤ)) (fun _ => 0)
    {} chunks
  rw [consumeBytes, hall]
  refine hloop.trans ?_
  rw [List.length_flatten, List.map_map, zero_add, Nat.cast_list_sum, List.map_map]
  rfl

end Bytes

/-! ## Text -/

section Text

/-- The outcome of reading texts, whose bytes are those of their encoding. -/
def consumeText (case : StreamingCase) (statusCode : ℤ) (chunks : List (String × ℚ)) :
    StreamingOutcome :=
  let reading := readItems (fun chunk => ((encode chunk).length : ℤ))
    (fun chunk => (chunk.toList.length : ℤ)) (case.consume == .firstChunk) {} chunks
  { statusCode := statusCode
    bytesRead := reading.bytesRead
    chunksRead := reading.itemsRead
    firstChunkMs := reading.firstItemMs
    textCharsRead := reading.textCharsRead }

/-- `consume_async_text`. -/
def consumeAsyncText (case : StreamingCase) (statusCode : ℤ) (chunks : List (String × ℚ)) :
    StreamingOutcome :=
  consumeText case statusCode chunks

/-- `consume_sync_text`. -/
def consumeSyncText (case : StreamingCase) (statusCode : ℤ) (chunks : List (String × ℚ)) :
    StreamingOutcome :=
  consumeText case statusCode chunks

/-- All texts are counted by the bytes of their encoding. -/
theorem bytesRead_consumeText {case : StreamingCase} (hall : case.consume = .all)
    (statusCode : ℤ) (chunks : List (String × ℚ)) :
    (consumeText case statusCode chunks).bytesRead =
      (chunks.map fun chunk => encode chunk.1).flatten.length := by
  have hloop := bytesRead_readItems (fun chunk : String => ((encode chunk).length : ℤ))
    (fun chunk => (chunk.toList.length : ℤ)) {} chunks
  rw [consumeText, hall]
  refine hloop.trans ?_
  rw [List.length_flatten, List.map_map, zero_add, Nat.cast_list_sum, List.map_map]
  rfl

/-- The characters of the chunks that a loop got. -/
def textOf (chunks : List (String × ℚ)) : List Char := chunks.flatMap fun chunk => chunk.1.toList

/-- The bytes of the texts are those of their concatenation. -/
theorem encode_textOf (chunks : List (String × ℚ)) :
    (chunks.map fun chunk => encode chunk.1).flatten =
      (textOf chunks).flatMap String.utf8EncodeChar := by
  rw [textOf, List.flatMap_assoc, ← List.flatMap_def]
  rfl

/-- What a loop over a whole text counts. -/
structure CountsText (chunks : List (String × ℚ)) (outcome : StreamingOutcome) : Prop where
  bytes : outcome.bytesRead = ((textOf chunks).flatMap String.utf8EncodeChar).length
  chars : outcome.textCharsRead = (textOf chunks).length
  chunks : outcome.chunksRead = chunks.length

/-- Bytes and characters of a text are counted together. -/
theorem countsText_consumeText {case : StreamingCase} (hall : case.consume = .all)
    (statusCode : ℤ) (chunks : List (String × ℚ)) :
    CountsText chunks (consumeText case statusCode chunks) := by
  constructor
  · rw [bytesRead_consumeText hall, encode_textOf]
  · have hloop := textCharsRead_readItems (fun chunk : String => ((encode chunk).length : ℤ))
      (fun chunk => (chunk.toList.length : ℤ)) {} chunks
    rw [consumeText, hall]
    refine hloop.trans ?_
    rw [textOf, List.length_flatMap, zero_add, Nat.cast_list_sum, List.map_map]
    rfl
  · have hloop := itemsRead_readItems (fun chunk : String => ((encode chunk).length : ℤ))
      (fun chunk => (chunk.toList.length : ℤ)) {} chunks
    rw [consumeText, hall]
    exact hloop.trans (zero_add _)

end Text

/-! ## Lines -/

section Lines

/-- `_line_bytes_read`: a whole response counts as its declared size once a line came. -/
def lineBytesRead (case : StreamingCase) (measuredBytes linesRead : ℤ) : ℤ :=
  if case.consume = .all ∧ 0 < linesRead then case.sizeBytes else measuredBytes

/-- The outcome of reading lines, to which the line feeds that were cut off are added. -/
def consumeLines (case : StreamingCase) (statusCode : ℤ) (lines : List (String × ℚ)) :
    StreamingOutcome :=
  let reading := readItems (fun line => ((encode line).length : ℤ))
    (fun line => (line.toList.length : ℤ)) (case.consume == .firstLine) {} lines
  { statusCode := statusCode
    bytesRead := lineBytesRead case reading.bytesRead reading.itemsRead
    chunksRead := reading.itemsRead
    firstChunkMs := reading.firstItemMs
    textCharsRead := reading.textCharsRead
    linesRead := reading.itemsRead }

/-- `consume_async_lines`. -/
def consumeAsyncLines (case : StreamingCase) (statusCode : ℤ) (lines : List (String × ℚ)) :
    StreamingOutcome :=
  consumeLines case statusCode lines

/-- `consume_sync_lines`. -/
def consumeSyncLines (case : StreamingCase) (statusCode : ℤ) (lines : List (String × ℚ)) :
    StreamingOutcome :=
  consumeLines case statusCode lines

/-- All lines are counted. -/
theorem linesRead_consumeLines {case : StreamingCase} (hall : case.consume = .all)
    (statusCode : ℤ) (lines : List (String × ℚ)) :
    (consumeLines case statusCode lines).linesRead = lines.length := by
  have hloop := itemsRead_readItems (fun line : String => ((encode line).length : ℤ))
    (fun line => (line.toList.length : ℤ)) {} lines
  rw [consumeLines, hall]
  refine hloop.trans ?_
  rw [zero_add]

theorem chunksRead_consumeLines (case : StreamingCase) (statusCode : ℤ)
    (lines : List (String × ℚ)) :
    (consumeLines case statusCode lines).chunksRead =
      (consumeLines case statusCode lines).linesRead := rfl

/-- Every line-mode response with at least one line reports the declared size. -/
theorem bytesRead_consumeLines {case : StreamingCase} (hall : case.consume = .all)
    (statusCode : ℤ) {lines : List (String × ℚ)} (hlines : lines ≠ []) :
    (consumeLines case statusCode lines).bytesRead = case.sizeBytes := by
  have hcount := linesRead_consumeLines hall statusCode lines
  have hpos : 0 < (consumeLines case statusCode lines).linesRead := by
    rw [hcount]
    exact_mod_cast List.length_pos_of_ne_nil hlines
  exact if_pos ⟨hall, hpos⟩

end Lines

end FogHttpBenchmark.Streaming
