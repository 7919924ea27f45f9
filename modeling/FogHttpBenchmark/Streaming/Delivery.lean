import FogHttpBenchmark.Server.Framing

/-!
# Delivery of the payloads

The path of a streaming case and what the benchmark server writes for it. The body that comes
back is the payload of the case, and a client that gets it whole accepts it
(`bytes_payload_delivered`, `text_payload_delivered`): neither the pieces in which the server
writes nor the chunks and lines in which the client reads make a difference.
-/

set_option autoImplicit false

namespace FogHttpBenchmark.Streaming

open Library Library.Cycles Library.Delimited Library.Checked Python Attribution

/-! ## Paths -/

section Paths

/-- `f"/{first}/{second}/{third}/{fourth}"`. -/
def casePath (parts : List String) : String := "/" ++ "/".intercalate parts

/-- `f"/drip-text/{payload.name}/{chunk_size_bytes}/{delay_ms}"`. -/
def textPath (name : String) (chunkSizeBytes delayMs : ℕ) : String :=
  casePath ["drip-text", name, toString chunkSizeBytes, toString delayMs]

/-- A part of a path: not empty, without a slash or a question mark. -/
structure PathPart (part : String) : Prop where
  ne_empty : part ≠ ""
  slash : '/' ∉ part.toList
  query : '?' ∉ part.toList

/-- A number is a part of a path. -/
theorem pathPart_toString (n : ℕ) : PathPart (toString n) := by
  constructor
  · intro hempty
    have hdigits : (toString n).toList = Nat.toDigits 10 n := by
      rw [Nat.toString_eq_repr, Nat.toList_repr]
    rw [hempty] at hdigits
    exact Nat.toDigits_ne_nil hdigits.symm
  · intro hmem
    exact absurd (toNat_of_mem_toString hmem).1 (by decide)
  · intro hmem
    exact absurd (toNat_of_mem_toString hmem).2 (by decide)

/-- What parts that are joined with slashes are made of. -/
structure Joined (chars : List Char) : Prop where
  query : '?' ∉ chars
  head : chars.head? ≠ some '/'
  last : chars.getLast? ≠ some '/'

theorem joined_part {part : String} (h : PathPart part) : Joined part.toList where
  query := h.query
  head hhead := h.slash (List.mem_of_mem_head? hhead)
  last hlast := h.slash (List.mem_of_mem_getLast? hlast)

/-- Parts that are joined by slashes can be split again. -/
theorem joined_parts {parts : List String} (h : ∀ part ∈ parts, PathPart part) :
    Joined (List.intercalate ['/'] (parts.map String.toList)) := by
  induction parts with
  | nil => exact ⟨by decide, by decide, by decide⟩
  | cons part parts ih =>
      have hpart := h part List.mem_cons_self
      have hrest := ih fun other hother => h other (List.mem_cons_of_mem _ hother)
      cases parts with
      | nil =>
          rw [List.map_singleton, List.intercalate_singleton]
          exact joined_part hpart
      | cons next parts =>
          have hne : part.toList ≠ [] := fun hnil =>
            hpart.ne_empty (String.toList_eq_nil_iff.1 hnil)
          rw [List.map_cons, List.map_cons, List.intercalate_cons_cons, ← List.map_cons]
          constructor
          · simp only [List.mem_append, List.mem_singleton, not_or]
            exact ⟨⟨hpart.query, by decide⟩, hrest.query⟩
          · rw [List.append_assoc, List.head?_append_of_ne_nil _ hne]
            exact (joined_part hpart).head
          · -- the last part is not empty, so the last character is one of it
            cases hjoined : List.intercalate ['/'] ((next :: parts).map String.toList) with
            | nil =>
                have hnext := (h next (List.mem_cons_of_mem _ List.mem_cons_self)).ne_empty
                cases parts with
                | nil =>
                    rw [List.map_singleton, List.intercalate_singleton] at hjoined
                    exact absurd (String.toList_eq_nil_iff.1 hjoined) hnext
                | cons other parts =>
                    rw [List.map_cons, List.map_cons, List.intercalate_cons_cons] at hjoined
                    simp at hjoined
            | cons c chars =>
                rw [List.getLast?_append_of_ne_nil _ (List.cons_ne_nil c chars), ← hjoined]
                exact hrest.last

theorem toList_casePath (parts : List String) :
    (casePath parts).toList = '/' :: List.intercalate ['/'] (parts.map String.toList) := by
  rw [casePath, String.toList_append, String.toList_intercalate]
  rfl

/-- The path of a case is all of its request path. -/
theorem requestPath_casePath {parts : List String} (h : ∀ part ∈ parts, PathPart part) :
    requestPath (casePath parts) = casePath parts := by
  have hquery : '?' ∉ (casePath parts).toList := by
    rw [toList_casePath, List.mem_cons, not_or]
    exact ⟨by decide, (joined_parts h).query⟩
  rw [requestPath, partitionText_of_notMem hquery]

/-- The server takes the parts of a path as they were put into it. -/
theorem splitText_casePath {parts : List String} (hne : parts ≠ [])
    (h : ∀ part ∈ parts, PathPart part) :
    splitText '/' (stripSlashes (requestPath (casePath parts))) = parts := by
  have hjoined := joined_parts h
  have hleft : (casePath parts).toList.dropWhile (· == '/') =
      List.intercalate ['/'] (parts.map String.toList) := by
    rw [toList_casePath, List.dropWhile_cons_of_pos rfl, List.dropWhile_eq_self_iff]
    intro hlength hslash
    apply hjoined.head
    rw [List.head?_eq_getElem?, List.getElem?_eq_getElem hlength, beq_iff_eq.1 hslash]
  have hright : (List.intercalate ['/'] (parts.map String.toList)).rdropWhile (· == '/') =
      List.intercalate ['/'] (parts.map String.toList) := by
    rw [List.rdropWhile_eq_self_iff]
    intro hnil hslash
    apply hjoined.last
    rw [List.getLast?_eq_some_getLast hnil, beq_iff_eq.1 hslash]
  have hsplit : (List.intercalate ['/'] (parts.map String.toList)).splitOn '/' =
      parts.map String.toList := by
    apply List.splitOn_intercalate
    · intro chars hchars
      obtain ⟨part, hpart, rfl⟩ := List.mem_map.1 hchars
      exact (h part hpart).slash
    · exact fun hnil => hne (List.map_eq_nil_iff.1 hnil)
  rw [requestPath_casePath h, stripSlashes, hleft, hright, splitText, String.toList_ofList, hsplit,
    List.map_map]
  exact (List.map_congr_left fun part _ => String.ofList_toList).trans (List.map_id _)

end Paths

/-! ## Served bodies -/

section Served

variable [PyRuntime]

/-- A path that asks for a body in pieces asks for no other delay. -/
theorem delayRequest_casePath {kind : String} {parts : List String}
    (hkind : kind = "drip-bytes" ∨ kind = "drip-text")
    (h : ∀ part ∈ kind :: parts, PathPart part) :
    delayRequest (casePath (kind :: parts)) = .ok () := by
  have hstart : startsWith "/delay/" (casePath (kind :: parts)) = false := by
    have hchars : ∃ rest, (casePath (kind :: parts)).toList = '/' :: 'd' :: 'r' :: rest := by
      rw [toList_casePath]
      cases parts with
      | nil => rcases hkind with rfl | rfl <;> exact ⟨_, rfl⟩
      | cons part parts =>
          rw [List.map_cons, List.map_cons, List.intercalate_cons_cons]
          rcases hkind with rfl | rfl <;> exact ⟨_, rfl⟩
    obtain ⟨rest, hrest⟩ := hchars
    rw [startsWith, hrest]
    rfl
  have hstart' : ¬ startsWith "/delay/" (casePath (kind :: parts)) = true := by
    rw [hstart]
    exact Bool.false_ne_true
  rw [delayRequest, delayFromPath, requestPath_casePath h, if_neg hstart']
  rfl

omit [PyRuntime] in
/-- The path of a case has parts only. -/
theorem pathPart_parts {kind what : String} (hkind : PathPart kind) (hwhat : PathPart what)
    (chunkSizeBytes delayMs : ℕ) :
    ∀ part ∈ [kind, what, toString chunkSizeBytes, toString delayMs], PathPart part := by
  intro part hpart
  simp only [List.mem_cons, List.not_mem_nil, or_false] at hpart
  rcases hpart with rfl | rfl | rfl | rfl
  · exact hkind
  · exact hwhat
  · exact pathPart_toString chunkSizeBytes
  · exact pathPart_toString delayMs

/-- A number that is not too long is read as it was written. -/
theorem intOf_toString (hnumbers : ReadsNumbers) {n : ℕ} (h : n < numberLimit) :
    intOf (toString n) = .ok (n : ℤ) := by
  rw [intOf, hnumbers n h]
  rfl

omit [PyRuntime] in
/-- The largest float is below a power of two. -/
theorem exists_lt_of_fitsFloat {n : ℤ} (h : fitsFloat n = true) :
    ∃ exponent ≤ 1024, n.natAbs < 2 ^ exponent := by
  -- the exponents stay variables, as no tactic is to evaluate these powers
  have hpower : ∀ exponent lower : ℕ, 2 ^ exponent - 2 ^ lower ≤ 2 ^ exponent := fun _ _ =>
    Nat.sub_le _ _
  unfold fitsFloat at h
  exact ⟨1024, le_rfl, (of_decide_eq_true h).trans_le (hpower 1024 970)⟩

omit [PyRuntime] in
/-- A delay that can be waited is not too long to be read. -/
theorem lt_numberLimit_of_pauseMs {delayMs : ℕ} (h : pauseMs delayMs = .ok ()) :
    delayMs < numberLimit := by
  by_cases hpositive : (0 : ℤ) < delayMs
  · rw [pauseMs, if_pos hpositive, sleepMs, raiseIf_eq_ok, Bool.not_eq_false'] at h
    obtain ⟨exponent, hexponent, hseconds⟩ := exists_lt_of_fitsFloat h
    have hquotient : delayMs / 1000 < 2 ^ exponent := hseconds
    have hdigits : 3 + exponent ≤ maxStrDigits := by
      rw [maxStrDigits]
      omega
    calc delayMs < 10 ^ 3 * (delayMs / 1000 + 1) := Nat.lt_mul_div_succ delayMs (by decide)
      _ ≤ 10 ^ 3 * 10 ^ exponent :=
          Nat.mul_le_mul_left _ (hquotient.trans_le (Nat.pow_le_pow_left (by decide) exponent))
      _ = 10 ^ (3 + exponent) := (pow_add 10 3 exponent).symm
      _ ≤ numberLimit := Nat.pow_le_pow_right (by decide) hdigits
  · have hzero : delayMs = 0 := by omega
    rw [hzero]
    exact lt_numberLimit (by decide)

variable [PyUrls] [Compressors]

/-- A response that is written with pauses needs no other one. -/
theorem respond_of_drip {request : HttpRequest} {written : Written}
    (hdelay : delayRequest request.target = .ok ())
    (hdrip : writeDripResponse request = .ok (some written)) : respond request = .ok written := by
  rw [respond, hdelay, ok_bind, hdrip]
  rfl

/-- A request for a text payload is answered with its text in pieces. -/
theorem respond_textPath (hnumbers : ReadsNumbers) {name : String}
    {payload : TextPayload isLineFeed}
    (hname : PathPart name) (hpayload : streamingTextPayloads.lookup name = some payload)
    {request : HttpRequest} {chunkSizeBytes delayMs : ℕ} (hchunk : chunkSizeBytes < numberLimit)
    (hdelay : delayMs < numberLimit)
    (htarget : request.target = textPath name chunkSizeBytes delayMs) :
    respond request = .ok (writeStreamingResponse request.method (encode payload.body)
      chunkSizeBytes delayMs textStreamContentType request.keepAlive) := by
  have hkind : PathPart "drip-text" := ⟨by decide, by decide, by decide⟩
  have hparts := pathPart_parts hkind hname chunkSizeBytes delayMs
  have hbytes : ¬ "drip-text" = "drip-bytes" := by decide
  apply respond_of_drip
  · rw [htarget]
    exact delayRequest_casePath (.inr rfl) hparts
  · rw [writeDripResponse, htarget, textPath, splitText_casePath (List.cons_ne_nil _ _) hparts]
    simp only [if_neg hbytes, hpayload, intOf_toString hnumbers hchunk,
      intOf_toString hnumbers hdelay, ok_bind]
    rfl

/-- What a client reads of a response that was written: the body after its header block, which
says that it succeeded and how long the body is. -/
structure Delivers (written : Written) (body : List UInt8) : Prop where
  complete : written.raised = none
  read : ∃ head, readUntil (blockEnd 13 10) written.pieces.flatten = some (head, body) ∧
    (parseRequestHeaders head).1 = "HTTP/1.1 200 OK" ∧
    contentLength (parseRequestHeaders head).2 = .ok (body.length : ℤ)

omit [PyUrls] [Compressors] in
/-- A body that is written in pieces is delivered. -/
theorem delivers_writeStreamingResponse (hnumbers : ReadsNumbers) {method contentType : String}
    (hmethod : method ≠ "HEAD") (hclean : '\r' ∉ contentType.toList) {chunkSize delayMs : ℤ}
    (hchunk : 0 < chunkSize) (hdelay : pauseMs delayMs = .ok ()) {body : List UInt8}
    (hshort : body.length < numberLimit) (keepAlive : Bool) :
    Delivers (writeStreamingResponse method body chunkSize delayMs contentType keepAlive) body := by
  obtain ⟨hraised, hpieces⟩ :=
    flatten_writeStreamingResponse method body hchunk hdelay contentType keepAlive
  have hresponse := cleanResponse_plain 200 body hclean
  have hread := head_read hresponse keepAlive body
  refine ⟨hraised, _, ?_, ?_, head_length hnumbers hresponse hshort keepAlive⟩
  · rw [hpieces, writeResponse, if_neg hmethod]
    exact hread
  · have hline : "HTTP/1.1 " ++ toString (200 : ℤ) ++ " " ++ reasonOf 200 = "HTTP/1.1 200 OK" := by
      decide
    have hascii : Ascii "HTTP/1.1 200 OK" := by decide
    rw [commonHeaders_append, responseHead,
      parse_encoded (unbroken_head hresponse 200 body.length keepAlive), hline,
      recoded_of_ascii hascii]

end Served

/-! ## Accepted bodies -/

section Accepted

/-- The payloads are found under their own names, can stand in a path, and are not empty. -/
theorem payload_of_lookup {name : String} {payload : TextPayload isLineFeed}
    (h : streamingTextPayloads.lookup name = some payload) :
    payload.name = name ∧ PathPart name ∧ payload.body ≠ "" := by
  have hcounted : ∀ (payload : TextPayload isLineFeed) (n : ℕ), payload.lineCount = some (n + 1) →
      payload.body ≠ "" := by
    intro payload n hn hempty
    have hlines := payload.counted _ hn
    rw [(splitLines_eq_nil isLineFeed).2 hempty] at hlines
    cases hlines
  have hmem := Dict.mem_of_lookup h
  simp only [streamingTextPayloads, List.mem_cons, Prod.mk.injEq, List.not_mem_nil, or_false] at hmem
  rcases hmem with ⟨rfl, rfl⟩ | ⟨rfl, rfl⟩ | ⟨rfl, rfl⟩ | ⟨rfl, rfl⟩ | ⟨rfl, rfl⟩
  · exact ⟨rfl, ⟨by decide, by decide, by decide⟩, fixedAsciiText_ne_empty 65535⟩
  · exact ⟨rfl, ⟨by decide, by decide, by decide⟩, hcounted lines10k 9999 rfl⟩
  · exact ⟨rfl, ⟨by decide, by decide, by decide⟩, hcounted dripLines 511 rfl⟩
  · exact ⟨rfl, ⟨by decide, by decide, by decide⟩, hcounted unicodeLines 511 rfl⟩
  · exact ⟨rfl, ⟨by decide, by decide, by decide⟩, hcounted longLine1m 0 rfl⟩

/-- Numbered lines are as long as the longest of them at most. -/
theorem length_linePayload_le {lineCount : ℕ} (h : lineCount ≤ 10 ^ 5) :
    (linePayload lineCount).toList.length ≤ lineCount * 46 := by
  apply length_joinLines_le
  intro index hindex
  have hdigits := length_paddedIndex_le (hindex.trans_le h)
  simp only [List.length_append]
  have hprefix : "line-".toList.length = 5 := rfl
  have hsuffix : " payload abcdefghijklmnopqrstuvwxyz".toList.length = 35 := rfl
  omega

theorem length_unicodeLinePayload_le {lineCount : ℕ} (h : lineCount ≤ 10 ^ 5) :
    (unicodeLinePayload lineCount).toList.length ≤ lineCount * 36 := by
  apply length_joinLines_le
  intro index hindex
  have hdigits := length_paddedIndex_le (hindex.trans_le h)
  simp only [List.length_append]
  have hprefix : "unicode-".toList.length = 8 := rfl
  have hsuffix : " cafe λ ☃ 🚀 payload\r".toList.length = 20 := rfl
  omega

/-- No payload is so long that its length could not be read. -/
theorem length_payload_lt {name : String} {payload : TextPayload isLineFeed}
    (h : streamingTextPayloads.lookup name = some payload) :
    (encode payload.body).length < 10 ^ 20 := by
  have hchars : payload.body.toList.length ≤ 2 ^ 21 := by
    have hmem := Dict.mem_of_lookup h
    simp only [streamingTextPayloads, List.mem_cons, Prod.mk.injEq, List.not_mem_nil,
      or_false] at hmem
    rcases hmem with ⟨-, rfl⟩ | ⟨-, rfl⟩ | ⟨-, rfl⟩ | ⟨-, rfl⟩ | ⟨-, rfl⟩
    · exact (length_fixedAsciiText_le 65536).trans (by decide)
    · exact (length_linePayload_le (by decide : 10000 ≤ 10 ^ 5)).trans (by decide)
    · exact (length_linePayload_le (by decide : 512 ≤ 10 ^ 5)).trans (by decide)
    · exact (length_unicodeLinePayload_le (by decide : 512 ≤ 10 ^ 5)).trans (by decide)
    · show longLineText.toList.length ≤ 2 ^ 21
      rw [longLineText, String.toList_ofList, List.length_append, List.length_replicate]
      decide
  calc (encode payload.body).length ≤ payload.body.toList.length * 4 := length_encode_le payload.body
    _ ≤ 2 ^ 21 * 4 := Nat.mul_le_mul_right 4 hchars
    _ < 10 ^ 20 := by decide

variable [PyRuntime]

variable [PyUrls] [Compressors]

/-- A request for a text payload is answered with a body that its cases accept: the text whatever
the chunks in which it comes, and the lines, of which there are as many as the payload declares. -/
theorem text_payload_delivered (hnumbers : ReadsNumbers) {name : String}
    {payload : TextPayload isLineFeed}
    (hpayload : streamingTextPayloads.lookup name = some payload) {request : HttpRequest}
    {chunkSizeBytes delayMs : ℕ} (hchunk : 0 < chunkSizeBytes ∧ chunkSizeBytes < numberLimit)
    (hdelay : pauseMs delayMs = .ok ()) (hmethod : request.method ≠ "HEAD")
    (htarget : request.target = textPath payload.name chunkSizeBytes delayMs) :
    ∃ written body, respond request = .ok written ∧ Delivers written body ∧
      ∀ content : AiohttpContent,
        (content.chunks.raised = none → content.chunkBytes = body →
          ∃ outcome, aiohttpStream (textCase name payload) httpOk content = .ok outcome ∧
            outcomeMatches (textCase name payload) outcome = true) ∧
        (content.lines.raised = none → content.lineBytes = body →
          ∃ outcome, aiohttpStream (lineCase name payload .all) httpOk content = .ok outcome ∧
            outcomeMatches (lineCase name payload .all) outcome = true) := by
  obtain ⟨hname, hpart, hne⟩ := payload_of_lookup hpayload
  have hpositive : (0 : ℤ) < chunkSizeBytes := by exact_mod_cast hchunk.1
  have hbytes : encode payload.body ≠ [] := by
    cases hchars : payload.body.toList with
    | nil => exact absurd (String.toList_eq_nil_iff.1 hchars) hne
    | cons c chars =>
        rw [encode, hchars, List.flatMap_cons]
        exact List.append_ne_nil_of_left_ne_nil (encodeChar_ne_nil c) _
  rw [hname] at htarget
  have hresponse := respond_textPath hnumbers hpart hpayload hchunk.2
    (lt_numberLimit_of_pauseMs hdelay) htarget
  refine ⟨_, encode payload.body, hresponse, ?_, ?_⟩
  · exact delivers_writeStreamingResponse hnumbers hmethod (by decide) hpositive hdelay
      (lt_numberLimit (length_payload_lt hpayload)) _
  -- what is delivered is the payload, whole and in order
  · intro content
    constructor
    · intro hend hbody
      apply accepted_of_delivered_text rfl rfl hend hbody
      · rwa [hbody]
      · rw [hbody]
        rfl
    · intro hend hbody
      have hsize : 1 ≤ (lineCase name payload .all).sizeBytes := by
        have hpos : 1 ≤ (encode payload.body).length := List.length_pos_of_ne_nil hbytes
        show (1 : ℤ) ≤ (encode payload.body).length
        omega
      apply accepted_of_delivered_lines rfl rfl hsize hend hbody hne
      -- the declared lines are those of the payload
      intro n hn
      obtain ⟨count, hcount, rfl⟩ := Option.map_eq_some_iff.1 hn
      rw [payload.counted count hcount]
      rfl

omit [PyRuntime] [PyUrls] [Compressors] in
theorem text_payload_delivered_unicode :
    let _ : PyRuntime := decimalRuntime
    let _ : PyUrls := plainUrls
    let _ : Compressors := ⟨id, id, id⟩
    ∃ written body,
      respond ⟨"GET", textPath "unicode-lines" 7 0, "HTTP/1.1", [], [], true⟩ = .ok written ∧
        Delivers written body ∧
        ∀ content : AiohttpContent,
          (content.chunks.raised = none → content.chunkBytes = body →
            ∃ outcome,
              aiohttpStream (textCase "unicode-lines" unicodeLines) httpOk content = .ok outcome ∧
                outcomeMatches (textCase "unicode-lines" unicodeLines) outcome = true) ∧
          (content.lines.raised = none → content.lineBytes = body →
            ∃ outcome, aiohttpStream (lineCase "unicode-lines" unicodeLines .all) httpOk content =
                .ok outcome ∧
              outcomeMatches (lineCase "unicode-lines" unicodeLines .all) outcome = true) := by
  intro _ _ _
  exact text_payload_delivered readsNumbers_decimalRuntime rfl
    ⟨by decide, lt_numberLimit (by decide)⟩ rfl (by decide) rfl

end Accepted

end FogHttpBenchmark.Streaming
