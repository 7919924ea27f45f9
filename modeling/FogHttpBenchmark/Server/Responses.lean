import FogHttpBenchmark.Python.Query
import FogHttpBenchmark.Python.Urls
import FogHttpBenchmark.Server
import FogHttpBenchmark.Streaming.Payloads

/-!
# Responses of the benchmark server

What the server answers to a request, and the bytes that it writes for it: a block of headers
with the length of the body, and the body at once or in pieces.

A body that is written in pieces is the body that is written at once
(`flatten_writeStreamingResponse`). The compressors are parameters.
-/

set_option autoImplicit false

namespace FogHttpBenchmark

open Library Library.Delimited Library.Checked Python

/-! ## Bodies -/

section Bodies

/-- `HTTP_REASONS`. -/
def httpReasons : List (ℤ × String) :=
  [(200, "OK"), (301, "Moved Permanently"), (302, "Found"), (303, "See Other"),
    (307, "Temporary Redirect"), (308, "Permanent Redirect"), (404, "Not Found")]

/-- The members of a JSON object, written in their order. -/
def dumpObject (members : List (String × String)) : String :=
  "\x7b" ++ String.intercalate "," (members.map fun member =>
    jsonString member.1 ++ ":" ++ member.2) ++ "\x7d"

/-- An array without blanks, of items that are written already. -/
def dumpArray (items : List String) : String := "[" ++ String.intercalate "," items ++ "]"

/-- `SMALL_JSON`. -/
def smallJson : List UInt8 :=
  encode (dumpObject
    [("ok", "true"), ("message", jsonString "foghttp benchmark"),
      ("items", dumpArray ["1", "2", "3", "4"]),
      ("meta", dumpObject [("client", jsonString "local"), ("shape", jsonString "small-json")])])

/-- `BYTES_64K`. -/
def bytes64k : List UInt8 := List.replicate 65536 120

/-- `HIGH_RATIO_BODY`. -/
def highRatioBody : List UInt8 := List.replicate 1048576 97

/-- The compressors of the encodings that the server offers. -/
class Compressors where
  gzip : List UInt8 → List UInt8
  deflate : List UInt8 → List UInt8
  br : List UInt8 → List UInt8

/-- The encodings; `encode_body` raises for any other name. -/
inductive ContentEncoding where
  | gzip
  | deflate
  | br
  deriving DecidableEq, Repr

/-- The name of the encoding in a header. -/
def ContentEncoding.text : ContentEncoding → String
  | .gzip => "gzip"
  | .deflate => "deflate"
  | .br => "br"

variable [Compressors]

/-- A body in an encoding. -/
def encodeBody (body : List UInt8) : ContentEncoding → List UInt8
  | .gzip => Compressors.gzip body
  | .deflate => Compressors.deflate body
  | .br => Compressors.br body

/-- A body as it is sent, with the encodings that its headers declare. -/
structure CompressedResponseBody where
  encodedBody : List UInt8
  contentType : String
  contentEncodingHeaders : List ContentEncoding

/-- `compressed_response_body(...)` of the payloads. -/
def compressedBody (decodedBody : List UInt8) (contentType : String)
    (encodings : List ContentEncoding) : CompressedResponseBody where
  encodedBody := encodings.foldl encodeBody decodedBody
  contentType := contentType
  contentEncodingHeaders := encodings

/-- `COMPRESSED_RESPONSE_BODIES`. -/
def compressedResponseBodies : List (String × CompressedResponseBody) :=
  [("gzip-json-small", compressedBody smallJson "application/json" [.gzip]),
    ("gzip-64k", compressedBody bytes64k "application/octet-stream" [.gzip]),
    ("deflate-64k", compressedBody bytes64k "application/octet-stream" [.deflate]),
    ("br-64k", compressedBody bytes64k "application/octet-stream" [.br]),
    ("gzip-high-ratio-1m", compressedBody highRatioBody "application/octet-stream" [.gzip]),
    ("multi-gzip-deflate-64k",
      compressedBody bytes64k "application/octet-stream" [.gzip, .deflate])]

end Bodies

/-! ## Answers -/

section Answers

/-- A response before it is written. -/
structure Response where
  statusCode : ℤ
  body : List UInt8
  contentType : String
  extraHeaders : List (String × String)

/-- `path.split("?", 1)[0]`. -/
def requestPath (path : String) : String := (partitionText '?' path).1

/-- `path.strip("/")`. -/
def stripSlashes (path : String) : String :=
  String.ofList ((path.toList.dropWhile (· == '/')).rdropWhile (· == '/'))

/-- `path.rsplit("/", 1)[1]` of a path with a slash. -/
def lastPart (path : String) : String := String.ofList (path.toList.rtakeWhile (· != '/'))

/-- `path.startswith(start)`. -/
def startsWith (start path : String) : Bool := start.toList.isPrefixOf path.toList

/-- `path.endswith(ending)`. -/
def endsWith (ending path : String) : Bool := ending.toList.isSuffixOf path.toList

variable [PyRuntime]

/-- `int(text)`. -/
def intOf (text : String) : Py ℤ :=
  match PyRuntime.intOfText text with
  | some n => pure n
  | none => throw (valueError ("invalid literal for int() with base 10: " ++ reprString text))

/-- A path of at least `MIN_REDIRECT_PATH_PARTS`, of which the first is `redirect`. -/
def redirectResponse (path : String) : Py (Option Response) :=
  match splitText '/' (stripSlashes path) with
  | "redirect" :: status :: rest => do
      let statusCode ← intOf status
      let target := if rest = [] then "/json-small" else "/" ++ "/".intercalate rest
      pure (some ⟨statusCode, [], "text/plain", [("location", target)]⟩)
  | _ => pure none

/-- The body of a path that names its size. -/
def bytesResponseBody (path : String) : Py (Option (List UInt8)) :=
  if path = "/bytes-64k" then pure (some bytes64k)
  else if startsWith "/bytes/" path then do
    let size ← intOf (lastPart path)
    -- a negative size repeats nothing
    pure (some (List.replicate size.toNat 120))
  else pure none

/-- The response of a path that names a compressed body. -/
def compressedResponseBody [Compressors] (path : String) : Option Response :=
  if startsWith "/compressed/" path then
    (compressedResponseBodies.lookup (lastPart path)).map fun body =>
      ⟨200, body.encodedBody, body.contentType,
        body.contentEncodingHeaders.map fun encoding => ("content-encoding", encoding.text)⟩
  else none

/-- The body that repeats what the server has read of a request. -/
def inspectResponse [PyUrls] (request : HttpRequest) : Py (List UInt8) := do
  let parts ← urlsplit request.target
  let items := (parseQsl parts.query).map fun item =>
    dumpArray [jsonString item.1, jsonString item.2]
  pure (encode (dumpObject
    [("ok", "true"), ("method", jsonString request.method), ("path", jsonString parts.path),
      ("query_items", dumpArray items),
      ("headers", dumpObject (request.headers.map fun header => (header.1, jsonString header.2))),
      ("body_text", jsonString (decodeReplaced request.body)),
      ("body_size", toString request.body.length)]))

/-- `build_response`: the first of the responses that the path names. -/
def buildResponse [Compressors] [PyUrls] (request : HttpRequest) : Py Response := do
  let path := requestPath request.target
  match ← redirectResponse path with
  | some response => pure response
  | none =>
      if endsWith "/inspect" path then do
        let body ← inspectResponse request
        pure ⟨200, body, "application/json", []⟩
      else if path = "/json-small" then pure ⟨200, smallJson, "application/json", []⟩
      else do
        match ← bytesResponseBody path with
        | some body => pure ⟨200, body, "application/octet-stream", []⟩
        | none =>
            match compressedResponseBody path with
            | some response => pure response
            | none =>
                if path = "/echo" then
                  pure ⟨200, request.body, "application/octet-stream", []⟩
                else if startsWith "/delay/" path then
                  pure ⟨200, smallJson, "application/json",
                    [("x-benchmark-delay-ms", lastPart path)]⟩
                else pure ⟨404, encode "not found", "text/plain", []⟩

/-- The delay that a path asks for, in milliseconds. -/
def delayFromPath (path : String) : Py (Option ℤ) :=
  if startsWith "/delay/" (requestPath path) then some <$> intOf (lastPart (requestPath path))
  else pure none

end Answers

/-! ## Writing -/

section Writing

/-- `HTTP_REASONS.get(status_code, "OK")`. -/
def reasonOf (statusCode : ℤ) : String := (httpReasons.lookup statusCode).getD "OK"

/-- The header lines that every response has after its first line. -/
def commonHeaders (length : ℕ) (contentType : String) (keepAlive : Bool) :
    List (String × String) :=
  [("content-length", toString length), ("content-type", contentType),
    ("connection", if keepAlive then "keep-alive" else "close")]

/-- The header block of a response, with the empty line at its end. -/
def responseHead (statusCode : ℤ) (headers : List (String × String)) : List UInt8 :=
  encode ("\r\n".intercalate (("HTTP/1.1 " ++ toString statusCode ++ " " ++ reasonOf statusCode) ::
    headers.map fun header => headerLine header.1 header.2)) ++ [13, 10, 13, 10]

/-- The bytes of a response; that to `HEAD` has no body. -/
def writeResponse (method : String) (response : Response) (keepAlive : Bool) : List UInt8 :=
  responseHead response.statusCode
      (commonHeaders response.body.length response.contentType keepAlive ++
        response.extraHeaders) ++
    if method = "HEAD" then [] else response.body

/-- What is written to a connection, call by call, and the exception that ends it, if any. -/
structure Written where
  pieces : List (List UInt8)
  raised : Option PyError := none

/-- `body[offset : offset + chunk_size]` for the offsets of `range(0, len(body), chunk_size)`. -/
def slices (chunkSize : ℕ) (body : List UInt8) : List (List UInt8) :=
  (List.range ((body.length + chunkSize - 1) / chunkSize)).map fun index =>
    (body.drop (index * chunkSize)).take chunkSize

/-- `asyncio.sleep(delay_ms / 1000)`, which only fails where the quotient is no float. -/
def sleepMs (delayMs : ℤ) : Py Unit :=
  raiseIf (!fitsFloat (delayMs.tdiv 1000))
    ⟨.overflowError, "integer division result too large for a float"⟩

/-- The pause after a piece. -/
def pauseMs (delayMs : ℤ) : Py Unit := if 0 < delayMs then sleepMs delayMs else pure ()

/-- The pieces after the head; a pause that fails comes after the first of them. -/
def writeSlices (head : List UInt8) (pause : Py Unit) (bodies : List (List UInt8)) : Written :=
  match pause with
  | .ok () => ⟨head :: bodies, none⟩
  | .error exc =>
      match bodies with
      | [] => ⟨[head], none⟩
      | first :: _ => ⟨[head, first], some exc⟩

/-- The pieces of a response that is written in chunks with pauses. -/
def writeStreamingResponse (method : String) (body : List UInt8) (chunkSize delayMs : ℤ)
    (contentType : String) (keepAlive : Bool) : Written :=
  let head := responseHead 200 (commonHeaders body.length contentType keepAlive)
  if method = "HEAD" then ⟨[head], none⟩
  else if chunkSize = 0 then ⟨[head], some (valueError "range() arg 3 must not be zero")⟩
  -- the range of a negative step is empty
  else if chunkSize < 0 then ⟨[head], none⟩
  else writeSlices head (pauseMs delayMs) (slices chunkSize.toNat body)

/-- `TEXT_STREAM_CONTENT_TYPE`. -/
def textStreamContentType : String := "text/plain; charset=utf-8"

variable [PyRuntime]

/-- What is written for a path that asks for a body in pieces. -/
def writeDripResponse (request : HttpRequest) : Py (Option Written) :=
  match splitText '/' (stripSlashes (requestPath request.target)) with
  | [kind, what, chunkText, delayText] =>
      if kind = "drip-bytes" then do
        let size ← intOf what
        let chunkSize ← intOf chunkText
        let delayMs ← intOf delayText
        pure (some (writeStreamingResponse request.method (Streaming.streamingBytesPayload size)
          chunkSize delayMs "application/octet-stream" request.keepAlive))
      else if kind ≠ "drip-text" then pure none
      else
        match Streaming.streamingTextPayloads.lookup what with
        | none => pure none
        | some payload => do
            let chunkSize ← intOf chunkText
            let delayMs ← intOf delayText
            pure (some (writeStreamingResponse request.method (encode payload.body) chunkSize
              delayMs textStreamContentType request.keepAlive))
  | _ => pure none

end Writing

/-! ## Pieces -/

section Pieces

/-- The slices of a body make it up to any number of them. -/
theorem flatten_slices_range (chunkSize : ℕ) (body : List UInt8) (count : ℕ) :
    ((List.range count).map fun index =>
      (body.drop (index * chunkSize)).take chunkSize).flatten = body.take (count * chunkSize) := by
  induction count with
  | zero => simp
  | succ count ih =>
      rw [List.range_succ, List.map_append, List.flatten_append, ih, List.map_singleton,
        List.flatten_singleton, Nat.succ_mul, List.take_add]

theorem flatten_slices {chunkSize : ℕ} (hpos : 0 < chunkSize) (body : List UInt8) :
    (slices chunkSize body).flatten = body := by
  rw [slices, flatten_slices_range, List.take_of_length_le]
  have hdiv := Nat.div_add_mod' (body.length + chunkSize - 1) chunkSize
  have hmod := Nat.mod_lt (body.length + chunkSize - 1) hpos
  omega

/-- A body in pieces is written as it is at once, with any positive size of the pieces and any
pause that can be made. -/
theorem flatten_writeStreamingResponse (method : String) (body : List UInt8) {chunkSize delayMs : ℤ}
    (hchunk : 0 < chunkSize) (hdelay : pauseMs delayMs = .ok ()) (contentType : String)
    (keepAlive : Bool) :
    (writeStreamingResponse method body chunkSize delayMs contentType keepAlive).raised = none ∧
      (writeStreamingResponse method body chunkSize delayMs contentType keepAlive).pieces.flatten =
        writeResponse method ⟨200, body, contentType, []⟩ keepAlive := by
  rw [writeStreamingResponse, writeResponse, List.append_nil, hdelay]
  by_cases hhead : method = "HEAD"
  · rw [if_pos hhead, if_pos hhead]
    refine ⟨rfl, ?_⟩
    rw [List.flatten_singleton, List.append_nil]
  · have hzero : ¬ chunkSize = 0 := by omega
    have hnegative : ¬ chunkSize < 0 := by omega
    rw [if_neg hhead, if_neg hhead, if_neg hzero, if_neg hnegative, writeSlices]
    refine ⟨rfl, ?_⟩
    rw [List.flatten_cons, flatten_slices (by omega)]

end Pieces

end FogHttpBenchmark
