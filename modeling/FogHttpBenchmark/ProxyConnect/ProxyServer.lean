import FogHttpBenchmark.Python.Urls
import FogHttpBenchmark.Server

/-!
# Forwarding through the proxy

The proxy reads a request with the parser of the benchmark server, splits its absolute target,
and writes the request for the origin line by line: the host of the target first, then the other
headers without the ones that are for the proxy.

The origin's parser reads that request as it was read by the proxy
(`origin_reads_forwarded_request`). Its `host` is the authority of the target without the white
space at its ends, since every value is stripped when it is read (`origin_reads_stripped_host`).
-/

set_option autoImplicit false

namespace FogHttpBenchmark.ProxyConnect

open Library Library.Delimited Library.Checked Python

/-! ## The proxy -/

section Proxy

/-- `headers.get("proxy-connection") or headers.get("connection", "")`. -/
def connectionHeader (headers : List (String × String)) : String :=
  let proxyConnection := (headers.lookup "proxy-connection").getD ""
  if proxyConnection = "" then (headers.lookup "connection").getD "" else proxyConnection

/-- The headers that are not sent to the origin. -/
def withheld (name : String) : Bool :=
  name = "host" || name = "proxy-authorization" || name = "proxy-connection"

def proxyOriginRequest (request : HttpRequest) (host path : String) : Py (List UInt8) := do
  let headerLines := (request.headers.filter fun header => !withheld header.1).map
    fun header => headerLine header.1 header.2
  let block ← encodeLatin1 ("\r\n".intercalate
    ((request.method ++ " " ++ path ++ " " ++ request.version) ::
      headerLine "host" host :: headerLines))
  pure (block ++ [13, 10, 13, 10] ++ request.body)

/-- The path of the target, `/` where it has none. -/
def targetPath (target : SplitResult) : String := if target.path = "" then "/" else target.path

/-- `target_path`, with the query. -/
def originPath (target : SplitResult) : String :=
  if target.query = "" then targetPath target else targetPath target ++ "?" ++ target.query

/-- What the proxy does with a request: it answers with an error, or sends bytes to an origin. -/
inductive ProxyAction where
  | proxyError (status : ℕ) (reason : String)
  | send (host : String) (port : ℕ) (data : List UInt8)

variable [PyRuntime]

def readProxyRequest (stream : List UInt8) : Py (Option (HttpRequest × List UInt8)) :=
  readRequest connectionHeader stream

/-- `target.port or 80`. -/
def targetPort (target : SplitResult) : Py ℕ := do
  let port ← target.port
  -- A declared port of zero counts as missing.
  pure (if port.getD 0 = 0 then 80 else port.getD 0)

variable [PyUrls]

/-- The request is sent on or refused. What comes of `open_connection` is a parameter: whether the
connection is made or an `OSError` was caught, or another exception. -/
def handleHttpProxyRequest (connects : String → ℕ → Py Bool) (request : HttpRequest) :
    Py ProxyAction := do
  let target ← urlsplit request.target
  if lowerText target.scheme ≠ "http" then pure (.proxyError 400 "Bad Request")
  else
    match target.hostname with
    | none => pure (.proxyError 400 "Bad Request")
    | some hostname => do
        let port ← targetPort target
        let connected ← connects hostname port
        if connected then do
          let data ← proxyOriginRequest request target.netloc (originPath target)
          pure (.send hostname port data)
        else pure (.proxyError 502 "Bad Gateway")

/-- What the proxy sends is the written request. -/
theorem proxyOriginRequest_of_send {connects : String → ℕ → Py Bool} {request : HttpRequest}
    {host : String} {port : ℕ} {data : List UInt8}
    (h : handleHttpProxyRequest connects request = .ok (.send host port data)) :
    ∃ target, urlsplit request.target = .ok target ∧ lowerText target.scheme = "http" ∧
      target.hostname = some host ∧
      proxyOriginRequest request target.netloc (originPath target) = .ok data := by
  rw [handleHttpProxyRequest] at h
  obtain ⟨target, htarget, h⟩ := bind_eq_ok.1 h
  split at h
  case isTrue => cases h
  case isFalse hscheme =>
    split at h
    case h_1 => cases h
    case h_2 hostname hhostname =>
      obtain ⟨port, -, h⟩ := bind_eq_ok.1 h
      obtain ⟨connected, -, h⟩ := bind_eq_ok.1 h
      split at h
      case isFalse => cases h
      case isTrue =>
        obtain ⟨sent, hsent, h⟩ := bind_eq_ok.1 h
        cases h
        exact ⟨target, htarget, not_not.1 hscheme, hhostname, hsent⟩

end Proxy

/-! ## What the origin reads -/

section Origin

/-- The origin reads the request that the proxy has read, for the path of the target. -/
structure Forwarded (request : HttpRequest) (target : SplitResult) (received : HttpRequest) :
    Prop where
  method : received.method = request.method
  version : received.version = request.version
  path : partitionText '?' received.target = (targetPath target, target.query)
  body : received.body = request.body
  headers : received.headers = ("host", stripText target.netloc) ::
    request.headers.filter fun header => !withheld header.1
  /-- No header for the proxy is among them, however its name is written. -/
  privacy : ∀ header ∈ received.headers, lowerText (stripText header.1) ≠ "proxy-authorization" ∧
    lowerText (stripText header.1) ≠ "proxy-connection"

/-- What the proxy read: three parts of a line without a space in the first two, and parsed
headers. -/
structure ReadByProxy (request : HttpRequest) : Prop where
  method : IsLine request.method ∧ ' ' ∉ request.method.toList
  target : Latin1 request.target.toList ∧ ' ' ∉ request.target.toList
  version : IsLine request.version
  headers : ParsedHeaders request.headers

/-- The path of a target begins nothing new in the request line. -/
theorem partitionText_originPath {target : SplitResult} (hpath : '?' ∉ target.path.toList) :
    partitionText '?' (originPath target) = (targetPath target, target.query) := by
  have hmark : '?' ∉ (targetPath target).toList := by
    rw [targetPath]
    split
    · decide
    · exact hpath
  rw [originPath]
  split
  case isTrue hquery => rw [partitionText_of_notMem hmark, hquery]
  case isFalse => exact partitionText_append (by simp) hmark

/-- The path that is forwarded is made of the path and the query of the target. -/
theorem mem_originPath {target : SplitResult} {c : Char} (h : c ∈ (originPath target).toList) :
    c = '/' ∨ c = '?' ∨ c ∈ target.path.toList ∨ c ∈ target.query.toList := by
  have hpath : ∀ d ∈ (targetPath target).toList, d = '/' ∨ d ∈ target.path.toList := by
    intro d hd
    rw [targetPath] at hd
    split at hd
    · exact .inl (by simpa using hd)
    · exact .inr hd
  rw [originPath] at h
  split at h
  case isTrue =>
    rcases hpath c h with h | h
    · exact .inl h
    · exact .inr (.inr (.inl h))
  case isFalse =>
    simp only [String.toList_append, List.mem_append] at h
    rcases h with (h | h) | h
    · rcases hpath c h with h | h
      · exact .inl h
      · exact .inr (.inr (.inl h))
    · exact .inr (.inl (by simpa using h))
    · exact .inr (.inr (.inr h))

/-- What is left of a Latin-1 target, with a path and a query, is one part of a request line. -/
theorem isLine_originPath {url : String} {target : SplitResult} (hurl : Latin1 url.toList)
    (hspace : ' ' ∉ url.toList) (hsplits : SplitsOf url target) :
    IsLine (originPath target) ∧ ' ' ∉ (originPath target).toList := by
  have hkept : ∀ c ∈ (originPath target).toList, c = '/' ∨ c = '?' ∨ Kept url c := by
    intro c hc
    rcases mem_originPath hc with h | h | h | h
    · exact .inl h
    · exact .inr (.inl h)
    · exact .inr (.inr (hsplits.path c h).1)
    · exact .inr (.inr (hsplits.query c h))
  refine ⟨isLine_of_notMem (fun hbreak => ?_) fun c hc => ?_, fun hmem => ?_⟩
  · rcases hkept _ hbreak with h | h | h
    · exact absurd h (by decide)
    · exact absurd h (by decide)
    · exact absurd h.2 (by decide)
  · rcases hkept c hc with rfl | rfl | h
    · decide
    · decide
    · exact hurl c h.1
  · rcases hkept _ hmem with h | h | h
    · exact absurd h (by decide)
    · exact absurd h (by decide)
    · exact hspace h.1

/-- The host of a target is written in one line. -/
theorem isLine_netloc {url : String} {target : SplitResult} (hurl : Latin1 url.toList)
    (hsplits : SplitsOf url target) : IsLine target.netloc := by
  refine isLine_of_notMem (fun hbreak => ?_) fun c hc => hurl c (hsplits.netloc c hc).1
  exact absurd (hsplits.netloc _ hbreak).2 (by decide)

/-- The headers that are sent, with the host of the target first. -/
def sentHeaders (request : HttpRequest) (host : String) : List (String × String) :=
  ("host", host) :: request.headers.filter fun header => !withheld header.1

/-- The origin reads the lines of the sent headers as these headers. -/
theorem foldl_sentHeaders {request : HttpRequest} (h : ParsedHeaders request.headers)
    (host : String) :
    ((sentHeaders request host).map fun header => headerLine header.1 header.2).foldl
      addHeader [] = sentHeaders request (stripText host) := by
  have hhost : addHeader [] (headerLine "host" host) = [("host", stripText host)] := by
    rw [addHeader_headerLine [] (by decide)]
    rfl
  -- the client's own `host` is withheld, so that the name occurs once
  have hnodup : (Dict.keys ([("host", stripText host)] ++
      request.headers.filter fun header => !withheld header.1)).Nodup := by
    rw [List.singleton_append, Dict.keys, List.map_cons, List.nodup_cons]
    constructor
    · intro hmem
      obtain ⟨header, hheader, hname⟩ := List.mem_map.1 hmem
      have hkeep := (List.mem_filter.1 hheader).2
      simp [withheld, hname] at hkeep
    · exact h.nodup.sublist (List.filter_sublist.map _)
  rw [sentHeaders, List.map_cons, List.foldl_cons, hhost,
    foldl_addHeader (fun header hheader => h.parsed header (List.mem_filter.1 hheader).1) hnodup]
  rfl

/-- The sent headers declare the length of the body that was read. -/
theorem lookup_sentHeaders (request : HttpRequest) (host : String) :
    (sentHeaders request host).lookup "content-length" =
      request.headers.lookup "content-length" := by
  rw [sentHeaders, Dict.lookup_cons_eq, if_neg (by decide)]
  exact Dict.lookup_filter (p := fun name => !withheld name) (by decide) request.headers

/-- The headers that are sent are not for the proxy. -/
theorem privacy_sentHeaders {request : HttpRequest} (h : ParsedHeaders request.headers)
    (host : String) : ∀ header ∈ sentHeaders request host,
      lowerText (stripText header.1) ≠ "proxy-authorization" ∧
        lowerText (stripText header.1) ≠ "proxy-connection" := by
  intro header hheader
  rcases List.mem_cons.1 hheader with rfl | hheader
  · have hhost : lowerText (stripText "host") = "host" := by decide
    simp [hhost]
  · obtain ⟨hmem, hkeep⟩ := List.mem_filter.1 hheader
    have hparsed := h.parsed header hmem
    rw [hparsed.stripped, hparsed.lower]
    simp only [withheld, Bool.not_eq_true', Bool.or_eq_false_iff, decide_eq_false_iff_not] at hkeep
    exact ⟨hkeep.1.2, hkeep.2⟩

/-- The request that the origin reads. -/
def receivedRequest (request : HttpRequest) (target : SplitResult) : HttpRequest where
  method := request.method
  target := originPath target
  version := request.version
  headers := sentHeaders request (stripText target.netloc)
  body := request.body
  keepAlive :=
    lowerText (((sentHeaders request (stripText target.netloc)).lookup "connection").getD "") ≠
      "close"

/-- The origin reads the request that the proxy has forwarded. -/
theorem forwarded_receivedRequest {request : HttpRequest} {target : SplitResult}
    (h : ReadByProxy request) (hsplits : SplitsOf request.target target) :
    Forwarded request target (receivedRequest request target) where
  method := rfl
  version := rfl
  path := partitionText_originPath fun hmark => (hsplits.path _ hmark).2 rfl
  body := rfl
  headers := rfl
  privacy := privacy_sentHeaders h.headers _

theorem isLine_host : IsLine "host" := isLine_of_notMem (by decide) (by decide)

/-- The lines that the proxy writes. -/
theorem isLine_sentLines {request : HttpRequest} (h : ReadByProxy request) {path host : String}
    (hpath : IsLine path) (hhost : IsLine host) :
    ∀ line ∈ (request.method ++ " " ++ path ++ " " ++ request.version) ::
      (sentHeaders request host).map fun header => headerLine header.1 header.2,
      IsLine line := by
  intro line hline
  rcases List.mem_cons.1 hline with rfl | hline
  · have hrest : IsLine (path ++ " " ++ request.version) :=
      IsLine.between (by decide : ' '.toNat < 256) (by decide) (by simp) hpath h.version
    exact IsLine.between (by decide : ' '.toNat < 256) (by decide) (by simp) h.method.1 hrest
  · obtain ⟨header, hheader, rfl⟩ := List.mem_map.1 hline
    rcases List.mem_cons.1 hheader with rfl | hheader
    · exact isLine_headerLine isLine_host hhost
    · have hparsed := h.headers.parsed header (List.mem_filter.1 hheader).1
      exact isLine_headerLine hparsed.lines.1 hparsed.lines.2

variable [PyRuntime]

/-- What a request has that the proxy has read. -/
theorem readByProxy {stream rest : List UInt8} {request : HttpRequest}
    (h : readProxyRequest stream = .ok (some (request, rest))) : ReadByProxy request := by
  obtain ⟨headerBlock, afterBlock, firstLine, -, hparse, -, hsplit, -, -⟩ :=
    readRequest_eq_some.1 h
  have hfirst := isLine_parseRequestHeaders headerBlock
  have hheaders := parsedHeaders_parseRequestHeaders headerBlock
  rw [hparse] at hfirst hheaders
  obtain ⟨hline, hmethod, htarget⟩ := eq_of_splitTextMax_two hsplit
  refine ⟨⟨hfirst.part ?_, hmethod⟩, ⟨hfirst.latin1.subset ?_, htarget⟩, hfirst.part ?_, hheaders⟩
  · rw [hline]
    exact (List.prefix_append _ _).isInfix
  · rw [hline]
    intro c hc
    simp [hc]
  · rw [hline]
    exact ⟨request.method.toList ++ ' ' :: (request.target.toList ++ [' ']), [], by simp⟩

variable [PyUrls]

/-- What the proxy writes for a request is read as the request that is to be received. -/
theorem readServerRequest_written {stream rest : List UInt8} {request : HttpRequest}
    {target : SplitResult} (hread : readProxyRequest stream = .ok (some (request, rest)))
    (htarget : urlsplit request.target = .ok target) :
    ∃ data, proxyOriginRequest request target.netloc (originPath target) = .ok data ∧
      ∀ more, readServerRequest (data ++ more) =
        .ok (some (receivedRequest request target, more)) := by
  have hrequest := readByProxy hread
  have hsplits := splitsOf_urlsplit htarget
  obtain ⟨hpath, hpathSpace⟩ :=
    isLine_originPath hrequest.target.1 hrequest.target.2 hsplits
  obtain ⟨_, _, _, _, _, _, _, hbody, _⟩ := readRequest_eq_some.1 hread
  -- the declared length is sent on unchanged, and the body has it
  have hlength : contentLength (receivedRequest request target).headers =
      .ok (request.body.length : ℤ) := by
    rw [← contentLength_of_readBody hbody, contentLength, contentLength, receivedRequest,
      lookup_sentHeaders]
  have hsplit : splitTextMax ' ' (maxSplitOnce + 1)
      (request.method ++ " " ++ originPath target ++ " " ++ request.version) =
      [(receivedRequest request target).method, (receivedRequest request target).target,
        (receivedRequest request target).version] :=
    splitTextMax_two (by simp [receivedRequest]) hrequest.method.2 hpathSpace
  have hne : ∀ line ∈ (sentHeaders request target.netloc).map fun header =>
      headerLine header.1 header.2, line ≠ "" := by
    intro line hline
    obtain ⟨header, -, rfl⟩ := List.mem_map.1 hline
    exact headerLine_ne_empty _ _
  obtain ⟨block, hencode, hreceive⟩ := readRequest_written
    (fun headers => (headers.lookup "connection").getD "")
    (isLine_sentLines hrequest hpath (isLine_netloc hrequest.target.1 hsplits)) hne hsplit
    (foldl_sentHeaders hrequest.headers target.netloc) hlength rfl
  -- what the proxy writes are the lines that the origin reads
  refine ⟨block ++ [13, 10, 13, 10] ++ request.body, ?_, hreceive⟩
  rw [sentHeaders, List.map_cons] at hencode
  rw [proxyOriginRequest, hencode]
  rfl

/-- What the proxy sends for a request is read by the origin as that request, for the path and
the authority of the target, without the headers for the proxy. -/
theorem origin_reads_forwarded_request {stream rest : List UInt8} {request : HttpRequest}
    {target : SplitResult} (hread : readProxyRequest stream = .ok (some (request, rest)))
    (htarget : urlsplit request.target = .ok target) :
    ∃ data received,
      proxyOriginRequest request target.netloc (originPath target) = .ok data ∧
      (∀ more, readServerRequest (data ++ more) = .ok (some (received, more))) ∧
      Forwarded request target received ∧
      ∀ connects host port sent,
        handleHttpProxyRequest connects request = .ok (.send host port sent) → sent = data := by
  obtain ⟨data, hsent, hreceive⟩ := readServerRequest_written hread htarget
  refine ⟨data, receivedRequest request target, hsent, hreceive,
    forwarded_receivedRequest (readByProxy hread) (splitsOf_urlsplit htarget),
    fun connects host port sent hsend => ?_⟩
  obtain ⟨target', htarget', -, -, hsent'⟩ := proxyOriginRequest_of_send hsend
  rw [htarget] at htarget'
  obtain rfl := Except.ok.inj htarget'
  exact Except.ok.inj (hsent'.symm.trans hsent)

omit [PyRuntime] [PyUrls] in
theorem origin_reads_forwarded_inspect :
    let _ : PyRuntime := plainRuntime
    let _ : PyUrls := plainUrls
    ∃ request data received, readProxyRequest
        (("GET http://a:80/inspect?q HTTP/1.1\r\nHost:p\r\n" ++
          "PROXY-Authorization : k\r\nX:1\r\n\r\n").toList.map latin1Byte) =
        .ok (some (request, [])) ∧
      proxyOriginRequest request "a:80" "/inspect?q" = .ok data ∧
      (∀ more, readServerRequest (data ++ more) = .ok (some (received, more))) ∧
      received.headers = [("host", "a:80"), ("x", "1")] := by
  intro _ _
  have hread : readProxyRequest
      (("GET http://a:80/inspect?q HTTP/1.1\r\nHost:p\r\n" ++
        "PROXY-Authorization : k\r\nX:1\r\n\r\n").toList.map latin1Byte) =
      .ok (some (⟨"GET", "http://a:80/inspect?q", "HTTP/1.1",
        [("host", "p"), ("proxy-authorization", "k"), ("x", "1")], [], true⟩, [])) := by
    decide +kernel
  have htarget : urlsplit "http://a:80/inspect?q" = .ok ⟨"http", "a:80", "/inspect", "q", ""⟩ := by
    decide +kernel
  obtain ⟨data, received, hsent, hreceive, hforwarded, -⟩ :=
    origin_reads_forwarded_request hread htarget
  refine ⟨_, data, received, hread, hsent, hreceive, ?_⟩
  rw [hforwarded.headers]
  decide +kernel

omit [PyRuntime] [PyUrls] in
/-- A separator at the beginning of the authority is white space for the origin's parser. -/
theorem origin_reads_stripped_host :
    let _ : PyRuntime := plainRuntime
    let _ : PyUrls := plainUrls
    ∃ stream request target data received,
      readProxyRequest stream = .ok (some (request, [])) ∧
      urlsplit request.target = .ok target ∧ lowerText target.scheme = "http" ∧
      target.hostname = some "127.0.0.1" ∧
      proxyOriginRequest request target.netloc (originPath target) = .ok data ∧
      readServerRequest data = .ok (some (received, [])) ∧
      received.headers.lookup "host" ≠ some target.netloc := by
  intro _ _
  refine ⟨"GET http://\x1fuser@127.0.0.1/ HTTP/1.1\r\n\r\n".toList.map latin1Byte,
    ⟨"GET", "http://\x1fuser@127.0.0.1/", "HTTP/1.1", [], [], true⟩,
    ⟨"http", "\x1fuser@127.0.0.1", "/", "", ""⟩,
    "GET / HTTP/1.1\r\nhost: \x1fuser@127.0.0.1\r\n\r\n".toList.map latin1Byte,
    ⟨"GET", "/", "HTTP/1.1", [("host", "user@127.0.0.1")], [], true⟩, ?_⟩
  decide +kernel

end Origin

end FogHttpBenchmark.ProxyConnect
