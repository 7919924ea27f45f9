import FogHttpBenchmark.Library.Delimited
import FogHttpBenchmark.Library.Dict
import FogHttpBenchmark.Python.Latin1

/-!
# Requests that the servers read

How the benchmark server and the proxy read a request from a connection: the block of the
request line and the headers, up to the first empty line, and a body of the declared length.

A request whose line and headers are written line by line is read as it was written
(`readRequest_written`). The limit of the stream reader is in `Server/Connection`; the timeout of
the read is left out.
-/

set_option autoImplicit false

namespace FogHttpBenchmark

open Library Library.Delimited Library.Checked Python

/-! ## Headers -/

section Headers

/-- `text.split("\r\n")`. -/
def splitLines (text : String) : List String :=
  (splitPair '\r' '\n' text.toList).map String.ofList

/-- The body of the loop over the header lines. -/
def addHeader (headers : List (String × String)) (line : String) : List (String × String) :=
  if line = "" then headers
  else
    let header := partitionText ':' line
    Dict.set (lowerText (stripText header.1)) (stripText header.2) headers

def parseRequestHeaders (headerBlock : List UInt8) : String × List (String × String) :=
  let lines := splitLines (decodeLatin1 headerBlock)
  (lines.headD "", lines.tail.foldl addHeader [])

/-- A text within Latin-1 without a line break. -/
structure IsLine (text : String) : Prop where
  unbroken : Unbroken '\r' '\n' text.toList
  latin1 : Latin1 text.toList

theorem isLine_empty : IsLine "" := ⟨.nil, fun _ hc => absurd hc List.not_mem_nil⟩

/-- A text without a carriage return is one line. -/
theorem isLine_of_notMem {text : String} (hbreak : '\r' ∉ text.toList)
    (hlatin1 : Latin1 text.toList) : IsLine text := ⟨unbroken_of_notMem hbreak, hlatin1⟩

/-- A part of a line is one. -/
theorem IsLine.part {text other : String} (h : IsLine other)
    (hpart : text.toList <:+: other.toList) : IsLine text :=
  ⟨h.unbroken.part hpart, h.latin1.subset hpart.subset⟩

/-- A name and a value as the parser returns them. -/
structure ParsedHeader (name value : String) : Prop where
  lower : lowerText name = name
  stripped : stripText name = name
  colon : ':' ∉ name.toList
  value_stripped : stripText value = value
  lines : IsLine name ∧ IsLine value

/-- What lies between two line breaks is a line. -/
theorem isLine_of_mem_splitLines {data : List UInt8} {line : String}
    (h : line ∈ splitLines (decodeLatin1 data)) : IsLine line := by
  obtain ⟨part, hpart, rfl⟩ := List.mem_map.1 h
  constructor
  · rw [String.toList_ofList]
    exact unbroken_of_mem_splitPair hpart
  · rw [String.toList_ofList]
    exact (latin1_decodeLatin1 data).subset (subset_of_mem_splitPair hpart)

theorem stripText_isInfix (text : String) : (stripText text).toList <:+: text.toList := by
  rw [stripText, String.toList_ofList]
  exact (List.rdropWhile_prefix _ _).isInfix.trans (List.dropWhile_suffix _).isInfix

/-- A stripped line is one. -/
theorem IsLine.stripText {text : String} (h : IsLine text) : IsLine (stripText text) :=
  h.part (stripText_isInfix text)

/-- A line in lower case is one. -/
theorem IsLine.lowerText {text : String} (h : IsLine text) : IsLine (lowerText text) where
  unbroken := by
    rw [Python.lowerText, String.toList_ofList]
    exact h.unbroken.map fun c _ =>
      ⟨fun hr => eq_of_lowerChar_eq (by decide) hr, fun hn => eq_of_lowerChar_eq (by decide) hn⟩
  latin1 := by
    rw [Python.lowerText, String.toList_ofList]
    exact h.latin1.lower

/-- The parts of a line are lines. -/
theorem IsLine.partitionText {text : String} (h : IsLine text) (separator : Char) :
    IsLine (partitionText separator text).1 ∧ IsLine (partitionText separator text).2 := by
  have hbefore : (Python.partitionText separator text).1.toList <:+: text.toList := by
    rw [Python.partitionText, String.toList_ofList]
    exact (List.takeWhile_prefix _).isInfix
  have hafter : (Python.partitionText separator text).2.toList <:+: text.toList := by
    rw [Python.partitionText, String.toList_ofList]
    exact (List.drop_suffix _ _).isInfix.trans (List.dropWhile_suffix _).isInfix
  exact ⟨h.part hbefore, h.part hafter⟩

/-- Every header of a line is a parsed one. -/
theorem parsedHeader_of_isLine {line : String} (h : IsLine line) :
    ParsedHeader (lowerText (stripText (partitionText ':' line).1))
      (stripText (partitionText ':' line).2) := by
  have hname := (h.partitionText ':').1.stripText.lowerText
  have hvalue := (h.partitionText ':').2.stripText
  refine ⟨lowerText_lowerText _, ?_, ?_, stripText_stripText _, hname, hvalue⟩
  · rw [stripText_lowerText, stripText_stripText]
  · intro hcolon
    rw [lowerText, String.toList_ofList] at hcolon
    obtain ⟨c, hc, hlower⟩ := List.mem_map.1 hcolon
    rw [eq_of_lowerChar_eq (by decide) hlower] at hc
    exact ne_of_mem_partitionText (mem_of_mem_stripText hc) rfl

/-- The headers have distinct parsed names and parsed values. -/
structure ParsedHeaders (headers : List (String × String)) : Prop where
  nodup : (Dict.keys headers).Nodup
  parsed : ∀ header ∈ headers, ParsedHeader header.1 header.2

/-- A header line adds a header that is written in one line. -/
theorem ParsedHeaders.addHeader {headers : List (String × String)} {line : String}
    (h : ParsedHeaders headers) (hline : IsLine line) : ParsedHeaders (addHeader headers line) := by
  rw [FogHttpBenchmark.addHeader]
  split
  case isTrue => exact h
  case isFalse =>
    refine ⟨Dict.nodup_set h.nodup, fun header hheader => ?_⟩
    rcases Dict.mem_set hheader with rfl | hold
    · exact parsedHeader_of_isLine hline
    · exact h.parsed header hold

theorem parsedHeaders_foldl {lines : List String} (hlines : ∀ line ∈ lines, IsLine line)
    {headers : List (String × String)} (h : ParsedHeaders headers) :
    ParsedHeaders (lines.foldl addHeader headers) := by
  induction lines generalizing headers with
  | nil => exact h
  | cons line lines ih =>
      exact ih (fun other hother => hlines other (List.mem_cons_of_mem _ hother))
        (h.addHeader (hlines line List.mem_cons_self))

/-- All headers of a block are written in one line each. -/
theorem parsedHeaders_parseRequestHeaders (headerBlock : List UInt8) :
    ParsedHeaders (parseRequestHeaders headerBlock).2 :=
  parsedHeaders_foldl
    (fun _ hline => isLine_of_mem_splitLines (List.mem_of_mem_tail hline))
    ⟨List.nodup_nil, fun _ h => absurd h List.not_mem_nil⟩

/-- So is the request line. -/
theorem isLine_parseRequestHeaders (headerBlock : List UInt8) :
    IsLine (parseRequestHeaders headerBlock).1 := by
  rw [parseRequestHeaders]
  cases hlines : splitLines (decodeLatin1 headerBlock) with
  | nil => exact isLine_empty
  | cons line lines =>
      apply isLine_of_mem_splitLines
      rw [hlines]
      exact List.mem_cons_self

end Headers

/-! ## Written headers -/

section Written

/-- `f"{name}: {value}"`. -/
def headerLine (name value : String) : String := name ++ ": " ++ value

theorem stripText_space (text : String) : stripText (" " ++ text) = stripText text := by
  rw [stripText, stripText, String.toList_append]
  congr 2

theorem headerLine_ne_empty (name value : String) : headerLine name value ≠ "" := by
  simp [headerLine]

/-- A header line is read as its name and its value. -/
theorem addHeader_headerLine (headers : List (String × String)) {name : String}
    (hcolon : ':' ∉ name.toList) (value : String) :
    addHeader headers (headerLine name value) =
      Dict.set (lowerText (stripText name)) (stripText value) headers := by
  have hlist : (headerLine name value).toList =
      name.toList ++ ':' :: (" " ++ value).toList := by
    simp [headerLine]
  rw [addHeader, if_neg (headerLine_ne_empty name value), partitionText_append hlist hcolon]
  simp only [stripText_space]

/-- Reading the line of a parsed header gives the header. -/
theorem addHeader_parsed (headers : List (String × String)) {name value : String}
    (h : ParsedHeader name value) :
    addHeader headers (headerLine name value) = Dict.set name value headers := by
  rw [addHeader_headerLine headers h.colon, h.stripped, h.lower, h.value_stripped]

/-- Two lines with another character between them. -/
theorem IsLine.between {separator : Char} (hlatin1 : separator.toNat < 256)
    (hbreak : separator ≠ '\r' ∧ separator ≠ '\n') {first second text : String}
    (htext : text.toList = first.toList ++ separator :: second.toList) (hfirst : IsLine first)
    (hsecond : IsLine second) : IsLine text := by
  constructor
  · rw [htext]
    exact hfirst.unbroken.append_cons hbreak.2 (hsecond.unbroken.cons hbreak.1)
  · rw [htext]
    refine hfirst.latin1.append fun c hc => ?_
    rcases List.mem_cons.1 hc with rfl | hc
    · exact hlatin1
    · exact hsecond.latin1 c hc

theorem isLine_headerLine {name value : String} (hname : IsLine name) (hvalue : IsLine value) :
    IsLine (headerLine name value) := by
  have hspace : IsLine (" " ++ value) :=
    IsLine.between (by decide : ' '.toNat < 256) (by decide) (by simp) isLine_empty hvalue
  exact IsLine.between (by decide : ':'.toNat < 256) (by decide) (by simp [headerLine]) hname
    hspace

/-- Reading the lines of headers with distinct new names adds them in their order. -/
theorem foldl_addHeader {new headers : List (String × String)}
    (hparsed : ∀ header ∈ new, ParsedHeader header.1 header.2)
    (hnodup : (Dict.keys (headers ++ new)).Nodup) :
    (new.map fun header => headerLine header.1 header.2).foldl addHeader headers =
      headers ++ new := by
  induction new generalizing headers with
  | nil => simp
  | cons header new ih =>
      have hfresh : header.1 ∉ Dict.keys headers := by
        rw [Dict.keys, List.map_append, List.map_cons] at hnodup
        intro hold
        exact List.disjoint_of_nodup_append hnodup hold List.mem_cons_self
      -- a new name goes to the end, so the order of the lines is the order of the headers
      rw [List.map_cons, List.foldl_cons, addHeader_parsed headers
        (hparsed header List.mem_cons_self), Dict.set_of_notMem hfresh,
        ih (fun other hother => hparsed other (List.mem_cons_of_mem _ hother))
          (by rwa [List.append_assoc]), List.append_assoc]
      rfl

theorem latin1_lineBreak : Latin1 ['\r', '\n'] := by
  intro c hc
  rcases List.mem_pair.1 hc with rfl | rfl
  · decide
  · decide

/-- The lines within Latin-1 stay so when they are ended. -/
theorem latin1_endLines {lines : List String} (h : ∀ line ∈ lines, IsLine line) :
    Latin1 (endLines '\r' '\n' (lines.map String.toList)) := by
  intro c hc
  obtain ⟨chars, hchars, hmem⟩ := List.mem_flatMap.1 hc
  obtain ⟨line, hline, rfl⟩ := List.mem_map.1 hchars
  rcases List.mem_append.1 hmem with hmem | hmem
  · exact (h line hline).latin1 c hmem
  · exact latin1_lineBreak c hmem

/-- The byte of a line break comes from a line break. -/
theorem latin1Byte_eq_iff {c d : Char} (hc : c.toNat < 256) (hd : d.toNat < 256) :
    latin1Byte c = latin1Byte d ↔ c = d := by
  constructor
  · intro h
    rw [← ofNat_latin1Byte hc, h, ofNat_latin1Byte hd]
  · rintro rfl
    rfl

/-- The bytes of lines that are joined and encoded, with the line break that follows them. -/
theorem encode_joined {firstLine : String} {lines : List String}
    (hlines : ∀ line ∈ firstLine :: lines, IsLine line) :
    ∃ block, encodeLatin1 ("\r\n".intercalate (firstLine :: lines)) = .ok block ∧
      block ++ [13, 10] =
        (endLines '\r' '\n' ((firstLine :: lines).map String.toList)).map latin1Byte := by
  have hjoined : ("\r\n".intercalate (firstLine :: lines)).toList ++ ['\r', '\n'] =
      endLines '\r' '\n' ((firstLine :: lines).map String.toList) := by
    rw [String.toList_intercalate, List.map_cons]
    exact intercalate_append firstLine.toList (lines.map String.toList)
  refine ⟨_, if_pos ?_, ?_⟩
  · have hlatin1 := latin1_endLines hlines
    rw [← hjoined] at hlatin1
    exact hlatin1.subset (List.subset_append_left _ _)
  · rw [← hjoined, List.map_append]
    rfl

/-- A line within Latin-1 without a line break has none in its bytes either. -/
theorem IsLine.unbroken_bytes {text : String} (h : IsLine text) :
    Unbroken 13 10 (text.toList.map latin1Byte) :=
  h.unbroken.map fun _ hc =>
    ⟨(latin1Byte_eq_iff (d := '\r') (h.latin1 _ hc) (by decide)).1,
      (latin1Byte_eq_iff (d := '\n') (h.latin1 _ hc) (by decide)).1⟩

/-- A block of lines is read line by line. -/
theorem parse_endLines {firstLine : String} {lines : List String}
    (hlines : ∀ line ∈ firstLine :: lines, IsLine line) {block : List UInt8}
    (hblock : block ++ [13, 10] =
      (endLines '\r' '\n' ((firstLine :: lines).map String.toList)).map latin1Byte) :
    parseRequestHeaders (block ++ [13, 10, 13, 10]) = (firstLine, lines.foldl addHeader []) := by
  have hlatin1 := (latin1_endLines hlines).append latin1_lineBreak
  have hdecode : decodeLatin1 (block ++ [13, 10, 13, 10]) = String.ofList
      (endLines '\r' '\n' ((firstLine :: lines).map String.toList) ++ ['\r', '\n']) := by
    have hbytes : block ++ [13, 10, 13, 10] =
        (endLines '\r' '\n' ((firstLine :: lines).map String.toList) ++
          ['\r', '\n']).map latin1Byte := by
      rw [List.map_append, ← hblock, List.append_assoc]
      rfl
    rw [decodeLatin1, hbytes, map_ofNat_latin1Byte hlatin1]
  have hsplit : splitLines (decodeLatin1 (block ++ [13, 10, 13, 10])) =
      firstLine :: (lines ++ ["", ""]) := by
    have hunbroken : ∀ chars ∈ (firstLine :: lines).map String.toList,
        Unbroken '\r' '\n' chars := by
      intro chars hchars
      obtain ⟨line, hline, rfl⟩ := List.mem_map.1 hchars
      exact (hlines line hline).unbroken
    rw [hdecode, splitLines, String.toList_ofList, splitPair_endLines (by decide) hunbroken,
      List.map_append, List.map_map]
    simp [splitPair, Function.comp_def]
  -- the two empty lines at the end are skipped
  rw [parseRequestHeaders, hsplit]
  simp [addHeader]

/-- The lines of a block, joined and encoded, are read as they were written. -/
theorem written_block {firstLine : String} {lines : List String}
    (hlines : ∀ line ∈ firstLine :: lines, IsLine line) (hne : ∀ line ∈ lines, line ≠ "") :
    ∃ block, encodeLatin1 ("\r\n".intercalate (firstLine :: lines)) = .ok block ∧
      (∀ rest, readUntil (blockEnd 13 10) (block ++ [13, 10, 13, 10] ++ rest) =
        some (block ++ [13, 10, 13, 10], rest)) ∧
      parseRequestHeaders (block ++ [13, 10, 13, 10]) =
        (firstLine, lines.foldl addHeader []) := by
  obtain ⟨block, hencode, hblock⟩ := encode_joined hlines
  refine ⟨block, hencode, fun rest => ?_, parse_endLines hlines hblock⟩
  have hunbroken : ∀ bytes ∈ firstLine.toList.map latin1Byte ::
      lines.map (fun line => line.toList.map latin1Byte), Unbroken 13 10 bytes := by
    intro bytes hbytes
    rcases List.mem_cons.1 hbytes with rfl | hbytes
    · exact (hlines firstLine List.mem_cons_self).unbroken_bytes
    · obtain ⟨line, hline, rfl⟩ := List.mem_map.1 hbytes
      exact (hlines line (List.mem_cons_of_mem _ hline)).unbroken_bytes
  have hnonempty : ∀ bytes ∈ lines.map (fun line => line.toList.map latin1Byte), bytes ≠ [] := by
    intro bytes hbytes hempty
    obtain ⟨line, hline, rfl⟩ := List.mem_map.1 hbytes
    exact hne line hline (String.toList_eq_nil_iff.1 (List.map_eq_nil_iff.1 hempty))
  have hbytes : block ++ [13, 10] = endLines 13 10 (firstLine.toList.map latin1Byte ::
      lines.map fun line => line.toList.map latin1Byte) := by
    rw [hblock, map_endLines, List.map_map]
    rfl
  have hread := readUntil_block (by decide) hunbroken hnonempty rest
  rw [← hbytes] at hread
  simpa using hread

end Written

/-! ## Reading -/

section Reading

/-- A request as it is read from a connection. -/
structure HttpRequest where
  method : String
  target : String
  version : String
  headers : List (String × String)
  body : List UInt8
  keepAlive : Bool
  deriving DecidableEq

/-- `MAX_SPLIT_ONCE`. -/
def maxSplitOnce : ℕ := 1

/-- `await reader.readexactly(n)`, and what is left on the connection. -/
def readExactly (n : ℤ) (stream : List UInt8) : Py (List UInt8 × List UInt8) := do
  raiseIf (decide (n < 0)) (valueError "readexactly size can not be less than zero")
  raiseIf (decide ((stream.length : ℤ) < n)) ⟨.eofError, toString stream.length ++
    " bytes read on a total of " ++ toString n ++ " expected bytes"⟩
  pure (stream.take n.toNat, stream.drop n.toNat)

variable [PyRuntime]

/-- `int(headers.get("content-length", "0"))`. -/
def contentLength (headers : List (String × String)) : Py ℤ :=
  match headers.lookup "content-length" with
  | none => pure 0
  | some text =>
      match PyRuntime.intOfText text with
      | some n => pure n
      | none => throw (valueError ("invalid literal for int() with base 10: " ++ reprString text))

/-- The body of the declared length. -/
def readBody (headers : List (String × String)) (stream : List UInt8) :
    Py (List UInt8 × List UInt8) := do
  let length ← contentLength headers
  if length = 0 then pure ([], stream) else readExactly length stream

/-- One request and what is left on the connection; nothing where the connection ends before an
empty line, or where the first line has less than three parts. The header that decides whether
the connection is kept is a parameter. -/
def readRequest (connectionHeader : List (String × String) → String) (stream : List UInt8) :
    Py (Option (HttpRequest × List UInt8)) :=
  match readUntil (blockEnd 13 10) stream with
  | none => pure none
  | some (headerBlock, afterBlock) =>
      let (firstLine, headers) := parseRequestHeaders headerBlock
      if firstLine = "" then pure none
      else
        match splitTextMax ' ' (maxSplitOnce + 1) firstLine with
        | [method, target, version] => do
            let (body, rest) ← readBody headers afterBlock
            let keepAlive := lowerText (connectionHeader headers) ≠ "close"
            pure (some (⟨method, target, version, headers, body, keepAlive⟩, rest))
        | _ => pure none

/-- The request that `handle_connection` reads. -/
def readServerRequest (stream : List UInt8) : Py (Option (HttpRequest × List UInt8)) :=
  readRequest (fun headers => (headers.lookup "connection").getD "") stream

/-- What a request that is read comes from. -/
theorem readRequest_eq_some {connectionHeader : List (String × String) → String}
    {stream rest : List UInt8} {request : HttpRequest} :
    readRequest connectionHeader stream = .ok (some (request, rest)) ↔
      ∃ headerBlock afterBlock firstLine,
        readUntil (blockEnd 13 10) stream = some (headerBlock, afterBlock) ∧
        parseRequestHeaders headerBlock = (firstLine, request.headers) ∧
        firstLine ≠ "" ∧
        splitTextMax ' ' (maxSplitOnce + 1) firstLine =
          [request.method, request.target, request.version] ∧
        readBody request.headers afterBlock = .ok (request.body, rest) ∧
        request.keepAlive =
          decide (lowerText (connectionHeader request.headers) ≠ "close") := by
  constructor
  · intro h
    -- the branches that return nothing cannot have returned a request
    rw [readRequest] at h
    cases hblock : readUntil (blockEnd 13 10) stream with
    | none => simp [hblock] at h
    | some found =>
        obtain ⟨headerBlock, afterBlock⟩ := found
        simp only [hblock] at h
        split at h
        case isTrue => simp at h
        case isFalse hfirst =>
          split at h
          case h_1 method target version hsplit =>
            obtain ⟨⟨body, afterBody⟩, hbody, h⟩ := bind_eq_ok.1 h
            rw [pure_eq_ok] at h
            obtain ⟨rfl, rfl⟩ := Prod.mk.inj (Option.some.inj h)
            exact ⟨headerBlock, afterBlock, _, rfl, rfl, hfirst, hsplit, hbody, rfl⟩
          case h_2 => simp at h
  · rintro ⟨headerBlock, afterBlock, firstLine, hblock, hparse, hfirst, hsplit, hbody, hkeep⟩
    rw [readRequest, hblock]
    simp only [hparse, if_neg hfirst, hsplit, hbody, ok_bind, pure_eq_ok, ← hkeep]

/-- The body has the declared length. -/
theorem contentLength_of_readBody {headers : List (String × String)}
    {stream body rest : List UInt8} (h : readBody headers stream = .ok (body, rest)) :
    contentLength headers = .ok (body.length : ℤ) := by
  rw [readBody] at h
  obtain ⟨length, hlength, h⟩ := bind_eq_ok.1 h
  split at h
  -- a length of zero reads nothing
  case isTrue hzero =>
    obtain ⟨rfl, -⟩ := Prod.mk.inj (pure_eq_ok.1 h)
    rw [hlength, hzero]
    rfl
  case isFalse =>
    rw [readExactly] at h
    obtain ⟨hnegative, h⟩ := seq_eq_ok.1 h
    obtain ⟨hshort, h⟩ := seq_eq_ok.1 h
    rw [raiseIf_eq_ok, decide_eq_false_iff_not] at hnegative hshort
    obtain ⟨rfl, -⟩ := Prod.mk.inj (pure_eq_ok.1 h)
    rw [hlength, List.length_take, min_eq_left (by omega), Int.toNat_of_nonneg (by omega)]

/-- A body of the declared length is read before anything that follows it. -/
theorem readBody_append {headers : List (String × String)} {body : List UInt8}
    (h : contentLength headers = .ok (body.length : ℤ)) (more : List UInt8) :
    readBody headers (body ++ more) = .ok (body, more) := by
  rw [readBody, h, ok_bind]
  split
  case isTrue hzero =>
    obtain rfl : body = [] := List.length_eq_zero_iff.1 (Int.ofNat_eq_zero.1 hzero)
    rfl
  case isFalse =>
    have hnegative : decide ((body.length : ℤ) < 0) = false := by
      rw [decide_eq_false_iff_not]
      omega
    have hshort : decide (((body ++ more).length : ℤ) < body.length) = false := by
      rw [decide_eq_false_iff_not, List.length_append]
      omega
    rw [readExactly, hnegative, hshort, raiseIf_false, raiseIf_false, ok_bind, ok_bind,
      Int.toNat_natCast, List.take_left, List.drop_left]
    rfl

/-- A request that is written line by line, with a body of the declared length, is read as it
was written, and what follows it stays on the connection. -/
theorem readRequest_written (connectionHeader : List (String × String) → String)
    {request : HttpRequest} {firstLine : String} {lines : List String}
    (hlines : ∀ line ∈ firstLine :: lines, IsLine line) (hne : ∀ line ∈ lines, line ≠ "")
    (hsplit : splitTextMax ' ' (maxSplitOnce + 1) firstLine =
      [request.method, request.target, request.version])
    (hheaders : lines.foldl addHeader [] = request.headers)
    (hlength : contentLength request.headers = .ok (request.body.length : ℤ))
    (hkeep : request.keepAlive =
      decide (lowerText (connectionHeader request.headers) ≠ "close")) :
    ∃ block, encodeLatin1 ("\r\n".intercalate (firstLine :: lines)) = .ok block ∧
      ∀ more, readRequest connectionHeader
        (block ++ [13, 10, 13, 10] ++ request.body ++ more) = .ok (some (request, more)) := by
  obtain ⟨block, hencode, hread, hparse⟩ := written_block hlines hne
  rw [hheaders] at hparse
  refine ⟨block, hencode, fun more => readRequest_eq_some.2 ?_⟩
  have hfirst : firstLine ≠ "" := by
    rintro rfl
    simp [splitTextMax, splitMax] at hsplit
  refine ⟨_, _, firstLine, ?_, hparse, hfirst, hsplit, readBody_append hlength more, hkeep⟩
  rw [List.append_assoc]
  exact hread _

end Reading

end FogHttpBenchmark
