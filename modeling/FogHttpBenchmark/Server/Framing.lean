import FogHttpBenchmark.Python.JsonText
import FogHttpBenchmark.Server.Connection

/-!
# Framing of responses

A reader of a response takes the block up to the first empty line and then the declared length.
The header block of a response is encoded as UTF-8 and read as Latin-1; it ends where it was
written to end, and it declares the length of the body (`head_length`), whatever the path of
the request has put into the value of a header.
-/

set_option autoImplicit false

namespace FogHttpBenchmark

open Library Library.Delimited Library.Checked Python

/-! ## Encoded lines -/

section Encoded

theorem encode_append (first second : String) :
    encode (first ++ second) = encode first ++ encode second := by
  rw [encode, String.toList_append, List.flatMap_append]
  rfl

/-- A text has at most four bytes for each character. -/
theorem length_encode_le (text : String) : (encode text).length ≤ text.toList.length * 4 := by
  have hsizes : (encode text).length =
      (text.toList.map fun c => (String.utf8EncodeChar c).length).sum := List.length_flatMap
  rw [hsizes, ← List.length_map fun c => (String.utf8EncodeChar c).length]
  apply List.sum_le_card_nsmul
  intro size hsize
  obtain ⟨c, -, rfl⟩ := List.mem_map.1 hsize
  rw [String.length_utf8EncodeChar]
  exact c.utf8Size_le_four

/-- The first byte of a text is one of its first character. -/
theorem head?_flatMap {d : Char} {chars : List Char} {byte : UInt8}
    (h : byte ∈ ((d :: chars).flatMap String.utf8EncodeChar).head?) :
    byte ∈ String.utf8EncodeChar d := by
  rw [List.flatMap_cons, List.head?_append_of_ne_nil _ (encodeChar_ne_nil d)] at h
  exact List.mem_of_mem_head? h

/-- The bytes of a text without a line break have none. -/
theorem unbroken_flatMap {chars : List Char} (h : Unbroken '\r' '\n' chars) :
    Unbroken 13 10 (chars.flatMap String.utf8EncodeChar) := by
  induction chars with
  | nil => exact .nil
  | cons c chars ih =>
      have hrest := ih (h.part (List.suffix_cons c chars).isInfix)
      rw [List.flatMap_cons]
      by_cases hc : c = '\r'
      · -- the byte of the carriage return is not followed by a line feed
        subst hc
        cases chars with
        | nil => exact .singleton _
        | cons d chars =>
            have hd : d ≠ '\n' := fun hd => (List.isChain_cons_cons.1 h).1 ⟨rfl, hd⟩
            refine List.IsChain.cons hrest fun byte hbyte hboth => hd ?_
            have hmem := head?_flatMap hbyte
            rw [hboth.2] at hmem
            exact Char.toNat_inj.1 (toNat_of_mem_encodeChar (by decide) hmem)
      · have hnone : (13 : UInt8) ∉ String.utf8EncodeChar c := by
          intro hmem
          exact hc (Char.toNat_inj.1 (toNat_of_mem_encodeChar (by decide) hmem))
        refine List.IsChain.append (unbroken_of_notMem hnone) hrest ?_
        rintro byte hbyte next - ⟨rfl, -⟩
        exact hnone (List.mem_of_mem_getLast? hbyte)

/-- A text without a line break has none in its bytes, as the breaks are ASCII. -/
theorem unbroken_encode {text : String} (h : Unbroken '\r' '\n' text.toList) :
    Unbroken 13 10 (encode text) := unbroken_flatMap h

/-- The bytes of lines with their breaks are those of the lines, with the bytes of the breaks. -/
theorem flatMap_endLines (lines : List (List Char)) :
    (endLines '\r' '\n' lines).flatMap String.utf8EncodeChar =
      endLines 13 10 (lines.map fun line => line.flatMap String.utf8EncodeChar) := by
  induction lines with
  | nil => rfl
  | cons line lines ih =>
      rw [endLines, List.flatMap_cons, ← endLines, List.flatMap_append, List.flatMap_append, ih]
      rfl

/-- The bytes of lines that are joined and ended. -/
theorem encode_joined_utf8 (firstLine : String) (lines : List String) :
    encode ("\r\n".intercalate (firstLine :: lines)) ++ [13, 10] =
      endLines 13 10 ((firstLine :: lines).map encode) := by
  have hjoined : ("\r\n".intercalate (firstLine :: lines)).toList ++ ['\r', '\n'] =
      endLines '\r' '\n' ((firstLine :: lines).map String.toList) := by
    rw [String.toList_intercalate, List.map_cons]
    exact intercalate_append firstLine.toList (lines.map String.toList)
  have hbytes := congrArg (fun chars => chars.flatMap String.utf8EncodeChar) hjoined
  rw [List.flatMap_append, flatMap_endLines, List.map_map] at hbytes
  exact hbytes

/-- What the reader of Latin-1 makes of the bytes of a text. -/
def recoded (text : String) : String := decodeLatin1 (encode text)

theorem recoded_append (first second : String) :
    recoded (first ++ second) = recoded first ++ recoded second := by
  rw [recoded, encode_append, decodeLatin1, List.map_append, String.ofList_append]
  rfl

/-- A text in ASCII. -/
def Ascii (text : String) : Prop := ∀ c ∈ text.toList, c.toNat < 0x80

instance (text : String) : Decidable (Ascii text) :=
  List.decidableBAll (fun c : Char => c.toNat < 0x80) text.toList

/-- ASCII is read as it was written. -/
theorem recoded_of_ascii {text : String} (h : Ascii text) : recoded text = text := by
  have hchar : ∀ c : Char, c.toNat < 0x80 →
      (String.utf8EncodeChar c).map (fun byte => Char.ofNat byte.toNat) = [c] := by
    intro c hc
    have hbytes : (String.utf8EncodeChar c).map UInt8.toNat = [c.toNat] := by
      rw [map_toNat_encodeChar, writeNumber, if_pos (by omega)]
    have hmap := congrArg (List.map Char.ofNat) hbytes
    rw [List.map_map, List.map_singleton, Char.ofNat_toNat] at hmap
    exact hmap
  have hlist : ∀ chars : List Char, (∀ c ∈ chars, c.toNat < 0x80) →
      (chars.flatMap String.utf8EncodeChar).map (fun byte => Char.ofNat byte.toNat) = chars := by
    intro chars hchars
    induction chars with
    | nil => rfl
    | cons c chars ih =>
        rw [List.flatMap_cons, List.map_append, hchar c (hchars c List.mem_cons_self),
          ih fun d hd => hchars d (List.mem_cons_of_mem _ hd), List.singleton_append]
  rw [recoded, decodeLatin1, encode, hlist text.toList h, String.ofList_toList]

/-- A text without a line break is read as a line, in whatever characters. -/
theorem isLine_recoded {text : String} (h : Unbroken '\r' '\n' text.toList) :
    IsLine (recoded text) := by
  constructor
  · rw [recoded, decodeLatin1, String.toList_ofList]
    refine (unbroken_encode h).map fun byte _ => ⟨fun hr => ?_, fun hn => ?_⟩
    · have hnumber := congrArg Char.toNat hr
      rw [toNat_ofByte] at hnumber
      exact UInt8.toNat_inj.1 hnumber
    · have hnumber := congrArg Char.toNat hn
      rw [toNat_ofByte] at hnumber
      exact UInt8.toNat_inj.1 hnumber
  · exact latin1_decodeLatin1 (encode text)

/-- Reading Latin-1 keeps the bytes. -/
theorem map_latin1Byte_recoded (text : String) :
    (recoded text).toList.map latin1Byte = encode text := by
  rw [recoded, decodeLatin1, String.toList_ofList, List.map_map]
  refine (List.map_congr_left fun byte _ => ?_).trans (List.map_id _)
  show latin1Byte (Char.ofNat byte.toNat) = byte
  rw [latin1Byte, toNat_ofByte, UInt8.ofNat_toNat]

end Encoded

/-! ## The header block -/

section Head

/-- The lines of a block that is encoded as UTF-8, as the reader takes them. -/
theorem parse_encoded {firstLine : String} {lines : List String}
    (hlines : ∀ line ∈ firstLine :: lines, Unbroken '\r' '\n' line.toList) :
    parseRequestHeaders (encode ("\r\n".intercalate (firstLine :: lines)) ++ [13, 10, 13, 10]) =
      (recoded firstLine, (lines.map recoded).foldl addHeader []) := by
  apply parse_endLines
  · intro line hline
    rw [← List.map_cons] at hline
    obtain ⟨text, htext, rfl⟩ := List.mem_map.1 hline
    exact isLine_recoded (hlines text htext)
  · rw [encode_joined_utf8, map_endLines, ← List.map_cons, List.map_map, List.map_map]
    congr 1
    exact List.map_congr_left fun line _ => (map_latin1Byte_recoded line).symm

/-- The block is read up to its end, whatever follows. -/
theorem readUntil_encoded {firstLine : String} {lines : List String}
    (hlines : ∀ line ∈ firstLine :: lines, Unbroken '\r' '\n' line.toList)
    (hne : ∀ line ∈ lines, line ≠ "") (rest : List UInt8) :
    readUntil (blockEnd 13 10)
        (encode ("\r\n".intercalate (firstLine :: lines)) ++ [13, 10, 13, 10] ++ rest) =
      some (encode ("\r\n".intercalate (firstLine :: lines)) ++ [13, 10, 13, 10], rest) := by
  have hunbroken : ∀ bytes ∈ encode firstLine :: lines.map encode, Unbroken 13 10 bytes := by
    intro bytes hbytes
    rw [← List.map_cons] at hbytes
    obtain ⟨line, hline, rfl⟩ := List.mem_map.1 hbytes
    exact unbroken_encode (hlines line hline)
  have hnonempty : ∀ bytes ∈ lines.map encode, bytes ≠ [] := by
    intro bytes hbytes hempty
    obtain ⟨line, hline, rfl⟩ := List.mem_map.1 hbytes
    have hnil : line.toList = [] := by
      cases hchars : line.toList with
      | nil => rfl
      | cons c chars =>
          rw [encode, hchars, List.flatMap_cons, List.append_eq_nil_iff] at hempty
          exact absurd hempty.1 (encodeChar_ne_nil c)
    exact hne line hline (String.toList_eq_nil_iff.1 hnil)
  have hread := readUntil_block (by decide) hunbroken hnonempty rest
  rw [← List.map_cons, ← encode_joined_utf8] at hread
  simpa using hread

/-- A header that a response may have: a name in ASCII as the parser returns names, and a value
without a line break. -/
structure CleanHeader (name value : String) : Prop where
  ascii : Ascii name
  lower : lowerText name = name
  stripped : stripText name = name
  colon : ':' ∉ name.toList
  unbroken : Unbroken '\r' '\n' (headerLine name value).toList

/-- A header line is read as the header that it was written from. -/
theorem addHeader_recoded {name value : String} (h : CleanHeader name value)
    (headers : List (String × String)) :
    addHeader headers (recoded (headerLine name value)) =
      Dict.set name (stripText (recoded value)) headers := by
  have hline : recoded (headerLine name value) = headerLine name (recoded value) := by
    have hmark : Ascii ": " := by decide
    rw [headerLine, recoded_append, recoded_append, recoded_of_ascii h.ascii,
      recoded_of_ascii hmark]
    rfl
  rw [hline, addHeader_headerLine headers h.colon, h.stripped, h.lower]

/-- Headers with other names leave the value of a name as it is. -/
theorem lookup_foldl_addHeader {name : String} {new : List (String × String)}
    (hclean : ∀ header ∈ new, CleanHeader header.1 header.2)
    (hother : ∀ header ∈ new, header.1 ≠ name) (headers : List (String × String)) :
    (((new.map fun header => headerLine header.1 header.2).map recoded).foldl addHeader
      headers).lookup name = headers.lookup name := by
  induction new generalizing headers with
  | nil => rfl
  | cons header new ih =>
      rw [List.map_cons, List.map_cons, List.foldl_cons,
        addHeader_recoded (hclean header List.mem_cons_self),
        ih (fun other h => hclean other (List.mem_cons_of_mem _ h))
          (fun other h => hother other (List.mem_cons_of_mem _ h)),
        Dict.lookup_set_of_ne (hother header List.mem_cons_self).symm]

end Head

/-! ## Responses -/

section Responses

/-- A header line is one line. -/
theorem unbroken_headerLine {name value : String} (hname : '\r' ∉ name.toList)
    (hvalue : Unbroken '\r' '\n' value.toList) :
    Unbroken '\r' '\n' (headerLine name value).toList := by
  have hlist : (headerLine name value).toList = name.toList ++ ':' :: ' ' :: value.toList := by
    simp [headerLine]
  rw [hlist]
  exact (unbroken_of_notMem hname).append_cons (by decide)
    ((hvalue.cons (by decide)).cons (by decide))

theorem notMem_toString {c : Char} (hdigit : c.isDigit = false) (hsign : c ≠ '-') (n : ℤ) :
    c ∉ (toString n).toList := by
  intro hmem
  rcases isDigit_or_of_mem_int hmem with h | h
  · rw [hdigit] at h
    cases h
  · exact hsign h

/-- The characters of a number are digits. -/
theorem toNat_of_mem_toString {n : ℕ} {c : Char} (h : c ∈ (toString n).toList) :
    48 ≤ c.toNat ∧ c.toNat ≤ 57 := by
  rw [Nat.toString_eq_repr, Nat.toList_repr] at h
  have hdigit := Nat.isDigit_of_mem_toDigits (by decide) (by decide) h
  simp only [Char.isDigit, Bool.and_eq_true, decide_eq_true_eq, ge_iff_le,
    UInt32.le_iff_toNat_le] at hdigit
  exact hdigit

/-- A count is written in ASCII. -/
theorem ascii_toString (n : ℕ) : Ascii (toString n) := by
  intro c hc
  have hrange := toNat_of_mem_toString hc
  omega

theorem unbroken_toString (n : ℕ) : Unbroken '\r' '\n' (toString n).toList := by
  apply unbroken_of_notMem
  intro hmem
  exact absurd (toNat_of_mem_toString hmem).1 (by decide)

/-- A text without blanks is not stripped. -/
theorem stripText_of_notSpace {text : String} (h : ∀ c ∈ text.toList, isSpace c = false) :
    stripText text = text := by
  have hleft : text.toList.dropWhile isSpace = text.toList := by
    rw [List.dropWhile_eq_self_iff]
    intro hlength
    rw [Bool.not_eq_true]
    exact h _ (List.getElem_mem hlength)
  have hright : text.toList.rdropWhile isSpace = text.toList := by
    rw [List.rdropWhile_eq_self_iff]
    intro hne
    rw [Bool.not_eq_true]
    exact h _ (List.getLast_mem hne)
  rw [stripText, hleft, hright, String.ofList_toList]

theorem stripText_toString (n : ℕ) : stripText (toString n) = toString n := by
  apply stripText_of_notSpace
  intro c hc
  have hrange := toNat_of_mem_toString hc
  rw [isSpace, Bool.eq_false_iff]
  intro hspace
  simp only [Bool.or_eq_true, Bool.and_eq_true, decide_eq_true_eq, beq_iff_eq] at hspace
  omega

/-- The first line of a response. -/
theorem unbroken_statusLine (statusCode : ℤ) :
    Unbroken '\r' '\n'
      ("HTTP/1.1 " ++ toString statusCode ++ " " ++ reasonOf statusCode).toList := by
  have hreason : '\r' ∉ (reasonOf statusCode).toList := by
    rw [reasonOf]
    cases hlookup : httpReasons.lookup statusCode with
    | none => decide
    | some reason =>
        have hall : ∀ entry ∈ httpReasons, '\r' ∉ entry.2.toList := by decide
        exact hall _ (Dict.mem_of_lookup hlookup)
  apply unbroken_of_notMem
  simp only [String.toList_append, List.mem_append, not_or]
  exact ⟨⟨⟨by decide, notMem_toString (by decide) (by decide) statusCode⟩, by decide⟩, hreason⟩

/-- The names of the headers that a response has after the common ones. -/
def extraNames : List String := ["location", "content-encoding", "x-benchmark-delay-ms"]

/-- A response whose headers have no line break. -/
structure CleanResponse (response : Response) : Prop where
  contentType : Unbroken '\r' '\n' response.contentType.toList
  extra : ∀ header ∈ response.extraHeaders,
    header.1 ∈ extraNames ∧ Unbroken '\r' '\n' header.2.toList

/-- The headers that the server knows have clean names. -/
theorem cleanHeader_of_name {name value : String}
    (hname : name ∈ "content-length" :: "content-type" :: "connection" :: extraNames)
    (hvalue : Unbroken '\r' '\n' value.toList) : CleanHeader name value := by
  have hall : ∀ name ∈ "content-length" :: "content-type" :: "connection" :: extraNames,
      Ascii name ∧ lowerText name = name ∧ stripText name = name ∧ ':' ∉ name.toList ∧
        '\r' ∉ name.toList := by decide
  obtain ⟨hascii, hlower, hstripped, hcolon, hbreak⟩ := hall name hname
  exact ⟨hascii, hlower, hstripped, hcolon, unbroken_headerLine hbreak hvalue⟩

/-- The headers that follow the length. -/
def laterHeaders (response : Response) (keepAlive : Bool) : List (String × String) :=
  ("content-type", response.contentType) ::
    ("connection", if keepAlive then "keep-alive" else "close") :: response.extraHeaders

/-- The headers after the length are clean, and none of them is another length. -/
theorem cleanHeader_later {response : Response} (h : CleanResponse response) (keepAlive : Bool) :
    ∀ header ∈ laterHeaders response keepAlive,
      CleanHeader header.1 header.2 ∧ header.1 ≠ "content-length" := by
  intro header hheader
  rcases List.mem_cons.1 hheader with rfl | hheader
  · have hname : "content-type" ≠ "content-length" := by decide
    exact ⟨cleanHeader_of_name (List.mem_cons_of_mem _ List.mem_cons_self) h.contentType, hname⟩
  · rcases List.mem_cons.1 hheader with rfl | hheader
    · have hname : "connection" ≠ "content-length" := by decide
      refine ⟨cleanHeader_of_name
        (List.mem_cons_of_mem _ (List.mem_cons_of_mem _ List.mem_cons_self)) ?_, hname⟩
      cases keepAlive
      · exact unbroken_of_notMem (by decide)
      · exact unbroken_of_notMem (by decide)
    · obtain ⟨hname, hvalue⟩ := h.extra header hheader
      refine ⟨cleanHeader_of_name ?_ hvalue, ?_⟩
      · exact List.mem_cons_of_mem _ (List.mem_cons_of_mem _ (List.mem_cons_of_mem _ hname))
      · have hall : ∀ name ∈ extraNames, name ≠ "content-length" := by decide
        exact hall _ hname

theorem commonHeaders_append (response : Response) (keepAlive : Bool) :
    commonHeaders response.body.length response.contentType keepAlive ++ response.extraHeaders =
      ("content-length", toString response.body.length) :: laterHeaders response keepAlive := rfl

/-- The lines of the head of a response are unbroken, and none is empty but the last. -/
theorem unbroken_head {response : Response} (h : CleanResponse response) (statusCode : ℤ)
    (length : ℕ) (keepAlive : Bool) :
    ∀ line ∈ ("HTTP/1.1 " ++ toString statusCode ++ " " ++ reasonOf statusCode) ::
      (("content-length", toString length) :: laterHeaders response keepAlive).map
        (fun header => headerLine header.1 header.2), Unbroken '\r' '\n' line.toList := by
  intro line hline
  rcases List.mem_cons.1 hline with rfl | hline
  · exact unbroken_statusLine statusCode
  · obtain ⟨header, hheader, rfl⟩ := List.mem_map.1 hline
    rcases List.mem_cons.1 hheader with rfl | hheader
    · exact (cleanHeader_of_name List.mem_cons_self (unbroken_toString length)).unbroken
    · exact (cleanHeader_later h keepAlive header hheader).1.unbroken

/-- `sys.int_info.default_max_str_digits`: a text with more digits is no number for `int(text)`. -/
def maxStrDigits : ℕ := 4300

/-- The first number that is too long to be read. -/
def numberLimit : ℕ := 10 ^ maxStrDigits

theorem lt_numberLimit {n : ℕ} (h : n < 10 ^ 20) : n < numberLimit :=
  h.trans_le (Nat.pow_le_pow_right (by decide) (by decide))

/-- `int(text)` reads the decimal digits of a number that is not too long. -/
def ReadsNumbers [PyRuntime] : Prop :=
  ∀ n < numberLimit, PyRuntime.intOfText (toString n) = some (n : ℤ)

/-- A runtime that reads decimal digits, and no other numbers. -/
@[reducible] def decimalRuntime : PyRuntime where
  floatRepr _ := ""
  isPrintable c := 32 ≤ c.toNat && c.toNat ≤ 126
  intOfText text :=
    if text.toList.all Char.isDigit && !text.toList.isEmpty then
      some (Nat.ofDigitChars 10 text.toList 0)
    else none
  floatOfText _ := none
  sha256 _ := ""

/-- The runtime of the examples reads the numbers that it writes. -/
theorem readsNumbers_decimalRuntime : @ReadsNumbers decimalRuntime := by
  intro n _
  have hdigits : (toString n).toList = Nat.toDigits 10 n := by
    rw [Nat.toString_eq_repr, Nat.toList_repr]
  have hall : ((toString n).toList.all Char.isDigit && !(toString n).toList.isEmpty) = true := by
    rw [Bool.and_eq_true, List.all_eq_true, hdigits]
    refine ⟨fun c hc => Nat.isDigit_of_mem_toDigits (by decide) (by decide) hc, ?_⟩
    rw [Bool.not_eq_true', List.isEmpty_eq_false_iff]
    exact Nat.toDigits_ne_nil
  show (if _ then some _ else none) = _
  rw [if_pos hall, hdigits, Nat.ofDigitChars_ten_toDigits]

/-- The head of a response is read up to its end. -/
theorem head_read {response : Response} (h : CleanResponse response) (keepAlive : Bool)
    (rest : List UInt8) :
    let head := responseHead response.statusCode
      (commonHeaders response.body.length response.contentType keepAlive ++
        response.extraHeaders)
    readUntil (blockEnd 13 10) (head ++ rest) = some (head, rest) := by
  rw [commonHeaders_append]
  intro head
  apply readUntil_encoded (unbroken_head h response.statusCode response.body.length keepAlive)
  intro line hline
  obtain ⟨header, -, rfl⟩ := List.mem_map.1 hline
  exact headerLine_ne_empty _ _

/-- The head of a response declares the length that was written. -/
theorem head_length [PyRuntime] (hnumbers : ReadsNumbers) {response : Response}
    (h : CleanResponse response) (hshort : response.body.length < numberLimit)
    (keepAlive : Bool) :
    contentLength (parseRequestHeaders (responseHead response.statusCode
      (commonHeaders response.body.length response.contentType keepAlive ++
        response.extraHeaders))).2 = .ok (response.body.length : ℤ) := by
  rw [commonHeaders_append]
  have hlines := unbroken_head h response.statusCode response.body.length keepAlive
  have hlater := cleanHeader_later h keepAlive
  have hfirst := @cleanHeader_of_name "content-length" (toString response.body.length)
    List.mem_cons_self (unbroken_toString _)
  have hparse : (parseRequestHeaders (responseHead response.statusCode
      (("content-length", toString response.body.length) ::
        laterHeaders response keepAlive))).2 =
      (((("content-length", toString response.body.length) ::
        laterHeaders response keepAlive).map fun header => headerLine header.1 header.2).map
          recoded).foldl addHeader [] := by
    rw [responseHead, parse_encoded hlines]
  -- the length comes first, and no later header has its name
  have hlookup : (parseRequestHeaders (responseHead response.statusCode
      (("content-length", toString response.body.length) ::
        laterHeaders response keepAlive))).2.lookup "content-length" =
      some (toString response.body.length) := by
    rw [hparse, List.map_cons, List.map_cons, List.foldl_cons,
      lookup_foldl_addHeader (fun header hheader => (hlater header hheader).1)
        (fun header hheader => (hlater header hheader).2),
      addHeader_recoded hfirst, Dict.lookup_set_self, recoded_of_ascii (ascii_toString _),
      stripText_toString]
  simp only [contentLength, hlookup, hnumbers _ hshort]
  rfl

end Responses

/-! ## Built responses -/

section Built

/-- The parts between separators stand in the list that was split. -/
theorem infix_of_mem_splitOn {separator : Char} {chars part : List Char}
    (h : part ∈ chars.splitOn separator) : part <:+: chars := by
  -- the first part is a prefix, which the induction needs to go on
  have hsplit : ∀ (chars first : List Char) (parts : List (List Char)),
      chars.splitOn separator = first :: parts →
        first <+: chars ∧ ∀ part ∈ parts, part <:+: chars := by
    intro chars
    induction chars with
    | nil =>
        intro first parts h
        rw [List.splitOn_nil] at h
        cases h
        exact ⟨List.prefix_refl _, fun part hpart => absurd hpart List.not_mem_nil⟩
    | cons c chars ih =>
        intro first parts h
        rw [List.splitOn_cons_eq_if_modifyHead] at h
        cases hrest : chars.splitOn separator with
        | nil => exact absurd hrest (List.splitOn_ne_nil _ _)
        | cons next others =>
            obtain ⟨hnext, hothers⟩ := ih next others hrest
            rw [hrest] at h
            split_ifs at h with hc
            · cases h
              refine ⟨List.nil_prefix, fun part hpart => ?_⟩
              rcases List.mem_cons.1 hpart with rfl | hpart
              · exact hnext.isInfix.trans (List.suffix_cons c chars).isInfix
              · exact (hothers part hpart).trans (List.suffix_cons c chars).isInfix
            · cases h
              refine ⟨(List.prefix_cons_inj c).2 hnext, fun part hpart => ?_⟩
              exact (hothers part hpart).trans (List.suffix_cons c chars).isInfix
  cases hparts : chars.splitOn separator with
  | nil => exact absurd hparts (List.splitOn_ne_nil _ _)
  | cons first parts =>
      rw [hparts] at h
      obtain ⟨hfirst, hothers⟩ := hsplit chars first parts hparts
      rcases List.mem_cons.1 h with rfl | h
      · exact hfirst.isInfix
      · exact hothers part h

/-- The parts of an unbroken text are unbroken. -/
theorem unbroken_of_mem_splitText {separator : Char} {text part : String}
    (h : Unbroken '\r' '\n' text.toList) (hpart : part ∈ splitText separator text) :
    Unbroken '\r' '\n' part.toList := by
  obtain ⟨chars, hchars, rfl⟩ := List.mem_map.1 hpart
  rw [String.toList_ofList]
  exact h.part (infix_of_mem_splitOn hchars)

/-- So is a path that is joined of them. -/
theorem unbroken_slashes {parts : List String}
    (h : ∀ part ∈ parts, Unbroken '\r' '\n' part.toList) :
    Unbroken '\r' '\n' ("/" ++ "/".intercalate parts).toList := by
  have hjoin : ∀ chars : List (List Char), (∀ part ∈ chars, Unbroken '\r' '\n' part) →
      Unbroken '\r' '\n' ('/' :: List.intercalate ['/'] chars) := by
    intro chars hchars
    induction chars with
    | nil => exact .singleton _
    | cons part parts ih =>
        have hpart := hchars part List.mem_cons_self
        have hrest := ih fun other hother => hchars other (List.mem_cons_of_mem _ hother)
        cases parts with
        | nil =>
            rw [List.intercalate_singleton]
            exact hpart.cons (by decide)
        | cons next parts =>
            rw [List.intercalate_cons_cons, List.append_assoc]
            exact (hpart.append_cons (by decide) hrest).cons (by decide)
  rw [String.toList_append, String.toList_intercalate]
  apply hjoin
  intro chars hchars
  obtain ⟨part, hpart, rfl⟩ := List.mem_map.1 hchars
  exact h part hpart

/-- The parts of a path stand in it. -/
theorem unbroken_requestPath {path : String} (h : Unbroken '\r' '\n' path.toList) :
    Unbroken '\r' '\n' (requestPath path).toList := by
  rw [requestPath, partitionText, String.toList_ofList]
  exact h.part (List.takeWhile_prefix _).isInfix

theorem unbroken_stripSlashes {path : String} (h : Unbroken '\r' '\n' path.toList) :
    Unbroken '\r' '\n' (stripSlashes path).toList := by
  rw [stripSlashes, String.toList_ofList]
  exact h.part ((List.rdropWhile_prefix _ _).isInfix.trans (List.dropWhile_suffix _).isInfix)

theorem unbroken_lastPart {path : String} (h : Unbroken '\r' '\n' path.toList) :
    Unbroken '\r' '\n' (lastPart path).toList := by
  rw [lastPart, String.toList_ofList]
  exact h.part (List.rtakeWhile_suffix _ _).isInfix

/-- A response without further headers is clean if its type is. -/
theorem cleanResponse_plain (statusCode : ℤ) (body : List UInt8) {contentType : String}
    (h : '\r' ∉ contentType.toList) : CleanResponse ⟨statusCode, body, contentType, []⟩ :=
  ⟨unbroken_of_notMem h, fun _ hheader => absurd hheader List.not_mem_nil⟩

variable [PyRuntime]

/-- The target of a redirect is part of the path, so it breaks no line. -/
theorem cleanResponse_redirect {path : String} (h : Unbroken '\r' '\n' path.toList)
    {response : Response} (hresponse : redirectResponse path = .ok (some response)) :
    CleanResponse response := by
  rw [redirectResponse] at hresponse
  split at hresponse
  case h_2 => cases hresponse
  case h_1 status rest hparts =>
    obtain ⟨statusCode, -, hresponse⟩ := bind_eq_ok.1 hresponse
    cases hresponse
    have htype : '\r' ∉ "text/plain".toList := by decide
    refine ⟨unbroken_of_notMem htype, fun header hheader => ?_⟩
    cases List.mem_singleton.1 hheader
    refine ⟨List.mem_cons_self, ?_⟩
    show Unbroken '\r' '\n' (if rest = [] then "/json-small" else _).toList
    split_ifs
    · exact unbroken_of_notMem (by decide)
    · apply unbroken_slashes
      intro part hpart
      apply unbroken_of_mem_splitText (unbroken_stripSlashes h)
      rw [hparts]
      exact List.mem_cons_of_mem _ (List.mem_cons_of_mem _ hpart)

omit [PyRuntime] in
theorem cleanResponse_compressed [Compressors] {path : String} {response : Response}
    (hresponse : compressedResponseBody path = some response) : CleanResponse response := by
  rw [compressedResponseBody] at hresponse
  split_ifs at hresponse
  obtain ⟨body, hbody, rfl⟩ := Option.map_eq_some_iff.1 hresponse
  have hall : ∀ entry ∈ compressedResponseBodies, '\r' ∉ entry.2.contentType.toList := by
    intro entry hentry
    have hmem := List.mem_map_of_mem (f := fun entry => entry.2.contentType) hentry
    have htypes : ∀ contentType ∈ ["application/json", "application/octet-stream",
        "application/octet-stream", "application/octet-stream", "application/octet-stream",
        "application/octet-stream"], '\r' ∉ contentType.toList := by decide
    exact htypes _ hmem
  refine ⟨unbroken_of_notMem (hall _ (Dict.mem_of_lookup hbody)), fun header hheader => ?_⟩
  obtain ⟨encoding, -, rfl⟩ := List.mem_map.1 hheader
  refine ⟨List.mem_cons_of_mem _ List.mem_cons_self, unbroken_of_notMem ?_⟩
  cases encoding
  · decide
  · decide
  · decide

/-- Every response to a request whose target breaks no line is clean. -/
theorem cleanResponse_buildResponse [Compressors] [PyUrls] {request : HttpRequest}
    (h : Unbroken '\r' '\n' request.target.toList) {response : Response}
    (hresponse : buildResponse request = .ok response) : CleanResponse response := by
  have hpath := unbroken_requestPath h
  rw [buildResponse] at hresponse
  obtain ⟨redirect, hredirect, hresponse⟩ := bind_eq_ok.1 hresponse
  -- by the branches of the response, in the order in which the source tries them
  cases redirect with
  | some found =>
      cases hresponse
      exact cleanResponse_redirect hpath hredirect
  | none =>
      simp only at hresponse
      split at hresponse
      · obtain ⟨body, -, hresponse⟩ := bind_eq_ok.1 hresponse
        cases hresponse
        exact cleanResponse_plain 200 body (by decide)
      split at hresponse
      · cases hresponse
        exact cleanResponse_plain 200 smallJson (by decide)
      obtain ⟨bytes, -, hresponse⟩ := bind_eq_ok.1 hresponse
      cases bytes with
      | some body =>
          cases hresponse
          exact cleanResponse_plain 200 body (by decide)
      | none =>
          cases hcompressed : compressedResponseBody (requestPath request.target) with
          | some found =>
              simp only [hcompressed] at hresponse
              cases hresponse
              exact cleanResponse_compressed hcompressed
          | none =>
              simp only [hcompressed] at hresponse
              split at hresponse
              · cases hresponse
                exact cleanResponse_plain 200 request.body (by decide)
              split at hresponse
              -- the delay is repeated from the path, which breaks no line
              · cases hresponse
                have htype : '\r' ∉ "application/json".toList := by decide
                refine ⟨unbroken_of_notMem htype, fun header hheader => ?_⟩
                cases List.mem_singleton.1 hheader
                have hname : "x-benchmark-delay-ms" ∈ extraNames := by decide
                exact ⟨hname, unbroken_lastPart hpath⟩
              · cases hresponse
                exact cleanResponse_plain 404 _ (by decide)

end Built

/-! ## Whole answers -/

section Answers

variable [PyRuntime]

/-- The size of the pieces that a path with four parts asks for. -/
def pieceSize (path : String) : Option ℤ :=
  match splitText '/' (stripSlashes (requestPath path)) with
  | [_, _, chunkText, _] => PyRuntime.intOfText chunkText
  | _ => none

theorem intOf_eq_ok {text : String} {n : ℤ} :
    intOf text = .ok n ↔ PyRuntime.intOfText text = some n := by
  rw [intOf]
  cases PyRuntime.intOfText text with
  | none => simp
  | some m => simp

/-- What is written in pieces, by the size of the pieces that the path asks for. -/
theorem writeDripResponse_eq_some {request : HttpRequest} {written : Written}
    (h : writeDripResponse request = .ok (some written)) :
    ∃ body chunkSize delayMs contentType,
      pieceSize request.target = some chunkSize ∧ '\r' ∉ contentType.toList ∧
        written = writeStreamingResponse request.method body chunkSize delayMs contentType
          request.keepAlive := by
  rw [writeDripResponse] at h
  split at h
  case h_2 => cases h
  case h_1 kind what chunkText delayText hparts =>
    have hpiece : ∀ n, intOf chunkText = .ok n → pieceSize request.target = some n := by
      intro n hn
      rw [pieceSize, hparts]
      exact intOf_eq_ok.1 hn
    have hoctets : '\r' ∉ "application/octet-stream".toList := by decide
    have htext : '\r' ∉ textStreamContentType.toList := by decide
    split at h
    · obtain ⟨size, -, h⟩ := bind_eq_ok.1 h
      obtain ⟨chunkSize, hchunk, h⟩ := bind_eq_ok.1 h
      obtain ⟨delayMs, -, h⟩ := bind_eq_ok.1 h
      rw [pure_eq_ok, Option.some.injEq] at h
      exact ⟨_, chunkSize, delayMs, _, hpiece _ hchunk, hoctets, h.symm⟩
    split at h
    · cases h
    split at h
    · cases h
    · obtain ⟨chunkSize, hchunk, h⟩ := bind_eq_ok.1 h
      obtain ⟨delayMs, -, h⟩ := bind_eq_ok.1 h
      rw [pure_eq_ok, Option.some.injEq] at h
      exact ⟨_, chunkSize, delayMs, _, hpiece _ hchunk, htext, h.symm⟩

omit [PyRuntime] in
/-- A body that is written in pieces to the end is written whole, where the pieces have no
negative size or are not asked for. -/
theorem whole_writeStreamingResponse {method : String} {body : List UInt8} {chunkSize delayMs : ℤ}
    {contentType : String} {keepAlive : Bool} (hsize : method ≠ "HEAD" → 0 ≤ chunkSize)
    (hraised : (writeStreamingResponse method body chunkSize delayMs contentType
      keepAlive).raised = none) :
    (writeStreamingResponse method body chunkSize delayMs contentType keepAlive).pieces.flatten =
      writeResponse method ⟨200, body, contentType, []⟩ keepAlive := by
  rw [writeStreamingResponse] at hraised ⊢
  rw [writeResponse, List.append_nil]
  by_cases hhead : method = "HEAD"
  · rw [if_pos hhead, if_pos hhead, List.flatten_singleton, List.append_nil]
  rw [if_neg hhead] at hraised ⊢
  rw [if_neg hhead]
  by_cases hzero : chunkSize = 0
  · rw [if_pos hzero] at hraised
    cases hraised
  have hpositive := hsize hhead
  have hnegative : ¬ chunkSize < 0 := by omega
  rw [if_neg hzero, if_neg hnegative] at hraised ⊢
  have hslices := flatten_slices (by omega : 0 < chunkSize.toNat) body
  cases hpause : pauseMs delayMs with
  | ok _ =>
      rw [writeSlices, List.flatten_cons, hslices]
  | error exc =>
      rw [hpause] at hraised
      cases hbodies : slices chunkSize.toNat body with
      | nil =>
          -- nothing is left to pause after
          rw [hbodies, List.flatten_nil] at hslices
          rw [← hslices, List.append_nil]
          exact List.flatten_singleton
      | cons first rest =>
          rw [hbodies] at hraised
          cases hraised

/-- The server answers a request with one whole response, where no exception is raised and no
pieces of a negative size are asked for. -/
theorem whole_handleRequest [Compressors] [PyUrls] {request : HttpRequest}
    (htarget : Unbroken '\r' '\n' request.target.toList)
    (hsize : request.method ≠ "HEAD" → ∀ n, pieceSize request.target = some n → 0 ≤ n)
    (hraised : (handleRequest request).raised = none) :
    ∃ response, CleanResponse response ∧ (handleRequest request).pieces.flatten =
      writeResponse request.method response request.keepAlive := by
  rw [handleRequest] at hraised ⊢
  cases hrespond : respond request with
  | error exc =>
      rw [hrespond] at hraised
      cases hraised
  | ok written =>
      rw [hrespond] at hraised
      have h := hrespond
      rw [respond] at h
      obtain ⟨-, -, h⟩ := bind_eq_ok.1 h
      obtain ⟨drip, hdrip, h⟩ := bind_eq_ok.1 h
      cases drip with
      | some found =>
          rw [pure_eq_ok] at h
          subst h
          obtain ⟨body, chunkSize, delayMs, contentType, hpiece, htype, hfound⟩ :=
            writeDripResponse_eq_some hdrip
          refine ⟨_, cleanResponse_plain 200 body htype, ?_⟩
          rw [hfound] at hraised ⊢
          exact whole_writeStreamingResponse (fun hmethod => hsize hmethod chunkSize hpiece) hraised
      | none =>
          obtain ⟨response, hresponse, h⟩ := bind_eq_ok.1 h
          rw [pure_eq_ok] at h
          subst h
          exact ⟨response, cleanResponse_buildResponse htarget hresponse, List.flatten_singleton⟩

/-- The target of a request that was read has no line break. -/
theorem unbroken_target {connectionHeader : List (String × String) → String}
    {stream rest : List UInt8} {request : HttpRequest}
    (h : readRequest connectionHeader stream = .ok (some (request, rest))) :
    Unbroken '\r' '\n' request.target.toList := by
  obtain ⟨headerBlock, afterBlock, firstLine, -, hparse, -, hsplit, -, -⟩ :=
    readRequest_eq_some.1 h
  have hfirst := isLine_parseRequestHeaders headerBlock
  rw [hparse] at hfirst
  obtain ⟨hline, -, -⟩ := eq_of_splitTextMax_two hsplit
  refine hfirst.unbroken.part ?_
  rw [hline]
  exact ⟨request.method.toList ++ [' '], ' ' :: request.version.toList, by simp⟩

end Answers

end FogHttpBenchmark
