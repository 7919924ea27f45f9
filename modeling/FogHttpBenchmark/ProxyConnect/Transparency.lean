import FogHttpBenchmark.ProxyConnect.Relay
import FogHttpBenchmark.Server.Framing

/-!
# Through the proxy and directly

A reader that goes by the declared lengths takes the answers of the benchmark server on one
connection apart again (`connection_read_back`). With the benchmark server as the origin, a
client gets through the proxy the bytes that the server answers to the request that is sent to it
directly (`proxy_transparent`). A `HEAD` request does not get through where the response declares
a body (`proxy_head_raises`).

The stream readers take heads within their limit only, and the proxy waits for the head of a
response for a limited time; both are conditions of the results.
-/

set_option autoImplicit false

namespace FogHttpBenchmark.ProxyConnect

open Library Library.Delimited Library.Checked Python

/-! ## One response -/

section OneResponse

/-- The response that is written to `HEAD` requests and to others. -/
theorem writeResponse_eq {method : String} {response : Response}
    (hbody : method = "HEAD" → response.body = []) (keepAlive : Bool) :
    writeResponse method response keepAlive =
      responseHead response.statusCode
        (commonHeaders response.body.length response.contentType keepAlive ++
          response.extraHeaders) ++ response.body := by
  rw [writeResponse]
  by_cases hhead : method = "HEAD"
  · rw [if_pos hhead, hbody hhead]
  · rw [if_neg hhead]

variable [PyRuntime]

/-- A whole response with a head within the limit is read to its end, and what follows it is
left. -/
theorem readOriginResponse_written (hnumbers : ReadsNumbers) {method : String}
    {response : Response} (hclean : CleanResponse response)
    (hbody : method = "HEAD" → response.body = []) {keepAlive : Bool}
    (hwithin : HeadWithin (writeResponse method response keepAlive))
    (hshort : (writeResponse method response keepAlive).length < numberLimit)
    (rest : List UInt8) :
    readOriginResponse (writeResponse method response keepAlive ++ rest) =
      .ok (writeResponse method response keepAlive, rest) := by
  have hblock := head_read hclean keepAlive response.body
  rw [writeResponse_eq hbody] at hwithin hshort ⊢
  -- the body is a part of the response, so its length is read as well
  have hbodyShort : response.body.length < numberLimit := by
    rw [List.length_append] at hshort
    omega
  have hlength := head_length hnumbers hclean hbodyShort keepAlive
  have hhead := readHead_append (readHead_of_within hwithin hblock) rest
  rw [readOriginResponse, hhead]
  simp only
  rw [readBody_append hlength]
  rfl

/-- The length that the head of a response declares. -/
def declaredLength (response : List UInt8) : Py ℤ :=
  match readHead response with
  | .block headerBlock _ => contentLength (parseRequestHeaders headerBlock).2
  | _ => pure 0

/-- The response to a `HEAD` request is not read where it declares a body. -/
theorem readOriginResponse_head {response : Response} (hclean : CleanResponse response)
    {keepAlive : Bool} {length : ℤ}
    (hdeclared : declaredLength (writeResponse "HEAD" response keepAlive) = .ok length)
    (hlength : 0 < length) :
    readOriginResponse (writeResponse "HEAD" response keepAlive) =
      .error ⟨.eofError, "0 bytes read on a total of " ++ toString length ++
        " expected bytes"⟩ := by
  have hblock := head_read hclean keepAlive []
  simp only [List.append_nil] at hblock
  rw [writeResponse, if_pos rfl, List.append_nil] at hdeclared ⊢
  have hhead : HeadWithin (responseHead response.statusCode
      (commonHeaders response.body.length response.contentType keepAlive ++
        response.extraHeaders)) := by
    rw [declaredLength] at hdeclared
    rw [HeadWithin]
    split at hdeclared
    case h_1 headerBlock afterBlock hread =>
      rw [hread]
      rfl
    case h_2 => exact absurd (Except.ok.inj hdeclared) hlength.ne
  have hread := readHead_of_within hhead hblock
  rw [declaredLength, hread] at hdeclared
  -- the declared body is not there, and the connection ends
  have hnegative : decide (length < 0) = false := by
    rw [decide_eq_false_iff_not]
    omega
  have hmissing : decide ((([] : List UInt8).length : ℤ) < length) = true := by
    rw [decide_eq_true_eq, List.length_nil]
    exact hlength
  rw [readOriginResponse, hread]
  simp only at hdeclared ⊢
  rw [readBody, hdeclared, ok_bind, if_neg hlength.ne', readExactly, hnegative, hmissing,
    raiseIf_false, ok_bind]
  rfl

variable [PyUrls]

/-- The origin gets the request that is sent to it. -/
theorem receives_forwarded {stream rest data : List UInt8} {request : HttpRequest}
    {target : SplitResult} (hread : receiveProxyRequest stream = .ok (some (request, rest)))
    (htarget : urlsplit request.target = .ok target)
    (hdata : proxyOriginRequest request target.netloc (originPath target) = .ok data)
    (hwithin : HeadWithin data) : ReadsAs data (receivedRequest request target) := by
  obtain ⟨sent, hsent, hreceive⟩ :=
    readServerRequest_written (receiveRequest_eq_some.1 hread).2 htarget
  rw [hdata] at hsent
  obtain rfl := Except.ok.inj hsent
  have hreads := hreceive []
  rw [List.append_nil] at hreads
  exact receiveRequest_eq_some.2 ⟨hwithin, hreads⟩

/-- The path of the request that is received has no line break. -/
theorem unbroken_originPath {stream rest : List UInt8} {request : HttpRequest}
    {target : SplitResult} (hread : receiveProxyRequest stream = .ok (some (request, rest)))
    (htarget : urlsplit request.target = .ok target) :
    Unbroken '\r' '\n' (originPath target).toList := by
  have hrequest := readByProxy (receiveRequest_eq_some.1 hread).2
  exact (isLine_originPath hrequest.target.1 hrequest.target.2
    (splitsOf_urlsplit htarget)).1.unbroken

end OneResponse

/-! ## Responses in a row -/

section Row

variable [PyRuntime] [PyUrls] [Compressors]

/-- Responses that are read one after the other, each by its declared length. -/
def readResponses : ℕ → List UInt8 → Py (List (List UInt8) × List UInt8)
  | 0, stream => pure ([], stream)
  | count + 1, stream => do
      let first ← readOriginResponse stream
      let later ← readResponses count first.2
      pure (first.1 :: later.1, later.2)

/-- The server answers the request with one response that can be read by its length. -/
structure AnsweredWhole (request : HttpRequest) : Prop where
  target : Unbroken '\r' '\n' request.target.toList
  method : request.method ≠ "HEAD"
  answered : (handleRequest request).raised = none
  pieces : ∀ n, pieceSize request.target = some n → 0 ≤ n
  head : HeadWithin (handleRequest request).pieces.flatten
  short : (handleRequest request).pieces.flatten.length < numberLimit

/-- The reader of the proxy takes a whole response, whatever follows. -/
theorem readOriginResponse_answered (hnumbers : ReadsNumbers) {request : HttpRequest}
    (h : AnsweredWhole request) (rest : List UInt8) :
    readOriginResponse ((handleRequest request).pieces.flatten ++ rest) =
      .ok ((handleRequest request).pieces.flatten, rest) := by
  obtain ⟨response, hclean, hwhole⟩ :=
    whole_handleRequest h.target (fun _ => h.pieces) h.answered
  have hwithin := h.head
  have hshort := h.short
  rw [hwhole] at hwithin hshort ⊢
  exact readOriginResponse_written hnumbers hclean (fun hhead => absurd hhead h.method) hwithin
    hshort rest

/-- The responses of a connection are read one by one. -/
theorem answers_read_back (hnumbers : ReadsNumbers) {requests : List HttpRequest}
    (h : ∀ request ∈ requests, AnsweredWhole request) :
    (answers requests).raised = none ∧
      readResponses (untilClosed HttpRequest.keepAlive requests).length
          (answers requests).pieces.flatten =
        .ok ((untilClosed HttpRequest.keepAlive requests).map
          (fun request => (handleRequest request).pieces.flatten), []) := by
  induction requests with
  | nil => exact ⟨rfl, rfl⟩
  | cons request requests ih =>
      have hone := h request List.mem_cons_self
      obtain ⟨hraised, hread⟩ := ih fun other hother => h other (List.mem_cons_of_mem _ hother)
      rw [answers, untilClosed, hone.answered, Option.isSome_none, Bool.false_or]
      cases hkeep : request.keepAlive with
      | true =>
          refine ⟨hraised, ?_⟩
          show readResponses _ (List.flatten (_ ++ _)) = _
          rw [List.flatten_append, if_pos rfl, List.length_cons, readResponses,
            readOriginResponse_answered hnumbers hone, ok_bind, hread]
          rfl
      | false =>
          refine ⟨hone.answered, ?_⟩
          have hlast := readOriginResponse_answered hnumbers hone []
          rw [List.append_nil] at hlast
          show readResponses 1 (handleRequest request).pieces.flatten = _
          rw [readResponses, hlast]
          rfl

/-- A connection that carries requests one after the other is answered, up to the first request
that closes it, with one response each: a reader that goes by the declared lengths gets these
responses in the order of the requests, and nothing is left. -/
theorem connection_read_back (hnumbers : ReadsNumbers)
    {requests : List (List UInt8 × HttpRequest)}
    (hreads : ∀ sent ∈ requests, ReadsAs sent.1 sent.2)
    (hmethod : ∀ sent ∈ requests, sent.2.method ≠ "HEAD")
    (hanswered : ∀ sent ∈ requests, (handleRequest sent.2).raised = none)
    (hpieces : ∀ sent ∈ requests, ∀ n, pieceSize sent.2.target = some n → 0 ≤ n)
    (hheads : ∀ sent ∈ requests, HeadWithin (handleRequest sent.2).pieces.flatten)
    (hshort : ∀ sent ∈ requests, (handleRequest sent.2).pieces.flatten.length < numberLimit) :
    let answered := untilClosed HttpRequest.keepAlive (requests.map Prod.snd)
    let written := handleConnection (requests.flatMap Prod.fst)
    written.raised = none ∧
      readResponses answered.length written.pieces.flatten =
        .ok (answered.map (fun request => (handleRequest request).pieces.flatten), []) := by
  intro answered written
  have hwritten : written = answers (requests.map Prod.snd) := handleConnection_requests hreads
  rw [hwritten]
  apply answers_read_back hnumbers
  intro request hrequest
  obtain ⟨sent, hsent, rfl⟩ := List.mem_map.1 hrequest
  exact ⟨unbroken_target (receiveRequest_eq_some.1 (hreads sent hsent)).2, hmethod sent hsent,
    hanswered sent hsent, hpieces sent hsent, hheads sent hsent, hshort sent hsent⟩

/-- A request for an echo that keeps the connection, and one that closes it. -/
def echoRequests : List (List UInt8 × HttpRequest) :=
  [("POST /echo HTTP/1.1\r\nContent-Length: 2\r\n\r\nok".toList.map latin1Byte,
      ⟨"POST", "/echo", "HTTP/1.1", [("content-length", "2")], [111, 107], true⟩),
    ("GET /echo HTTP/1.1\r\nConnection: close\r\n\r\n".toList.map latin1Byte,
      ⟨"GET", "/echo", "HTTP/1.1", [("connection", "close")], [], false⟩)]

@[reducible] def plainCompressors : Compressors := ⟨id, id, id⟩

omit [PyRuntime] [PyUrls] [Compressors] in
theorem connection_read_back_echo :
    let _ : PyRuntime := decimalRuntime
    let _ : PyUrls := plainUrls
    let _ : Compressors := plainCompressors
    readResponses 2 (handleConnection (echoRequests.flatMap Prod.fst)).pieces.flatten =
      .ok ((echoRequests.map Prod.snd).map fun request =>
        (handleRequest request).pieces.flatten, []) := by
  intro _ _ _
  have hpath : ∀ sent ∈ echoRequests, sent.2.target = "/echo" := by decide
  refine (@connection_read_back decimalRuntime plainUrls plainCompressors
    readsNumbers_decimalRuntime echoRequests ?_ ?_ ?_ ?_ ?_ ?_).2
  · intro sent hsent
    rcases List.mem_pair.1 hsent with rfl | rfl
    · show receiveServerRequest _ = _
      decide +kernel
    · show receiveServerRequest _ = _
      decide +kernel
  · decide
  · intro sent hsent
    rcases List.mem_pair.1 hsent with rfl | rfl
    · rfl
    · rfl
  · intro sent hsent n hn
    rw [hpath sent hsent] at hn
    cases hn
  · decide +kernel
  · have hlengths : ∀ sent ∈ echoRequests,
        (handleRequest sent.2).pieces.flatten.length < 10 ^ 20 := by
      decide +kernel
    exact fun sent hsent => lt_numberLimit (hlengths sent hsent)

end Row

/-! ## Through the proxy -/

section Transparency

variable [PyRuntime] [PyUrls] [Compressors]

/-- The server answers two requests alike: they are one request, or they differ at most in the
version and the headers, and the path does not ask for the headers. -/
def AnsweredAlike (direct received : HttpRequest) : Prop :=
  direct = received ∨
    (direct.method = received.method ∧ direct.target = received.target ∧
      direct.body = received.body ∧ direct.keepAlive = received.keepAlive ∧
      endsWith "/inspect" (requestPath received.target) = false)

omit [PyUrls] [Compressors] in
theorem writeDripResponse_congr {direct received : HttpRequest}
    (hmethod : direct.method = received.method) (htarget : direct.target = received.target)
    (hkeep : direct.keepAlive = received.keepAlive) :
    writeDripResponse direct = writeDripResponse received := by
  rw [writeDripResponse, writeDripResponse, hmethod, htarget, hkeep]

/-- A response depends on the target and, where it repeats the request, on the body. -/
theorem buildResponse_congr {direct received : HttpRequest}
    (htarget : direct.target = received.target) (hbody : direct.body = received.body)
    (hinspect : endsWith "/inspect" (requestPath received.target) = false) :
    buildResponse direct = buildResponse received := by
  rw [buildResponse, buildResponse, htarget, hbody]
  simp only [hinspect, Bool.false_eq_true, if_false]

/-- Requests that are to be answered alike have the same answer. -/
theorem handleRequest_congr {direct received : HttpRequest} (h : AnsweredAlike direct received) :
    handleRequest direct = handleRequest received := by
  rcases h with rfl | ⟨hmethod, htarget, hbody, hkeep, hinspect⟩
  · rfl
  · rw [handleRequest, handleRequest, respond, respond,
      writeDripResponse_congr hmethod htarget hkeep,
      buildResponse_congr htarget hbody hinspect, htarget, hmethod, hkeep]

/-- A server that gets one request answers it. -/
theorem handleConnection_one {data : List UInt8} {request : HttpRequest}
    (h : ReadsAs data request) :
    (handleConnection data).pieces.flatten = (handleRequest request).pieces.flatten := by
  rw [handleConnection_eq h]
  split_ifs
  · rfl
  · rw [handleConnection_ends rfl, Written.followedBy, List.append_nil]

/-- The pause that the server makes before it answers, in milliseconds. -/
def requestDelay (path : String) : ℤ :=
  match delayFromPath path with
  | .ok (some delayMs) => delayMs
  | _ => 0

/-- The pause before the first answer to what is sent. -/
def answerDelay (data : List UInt8) : ℤ :=
  match receiveServerRequest data with
  | .ok (some (request, _)) => requestDelay request.target
  | _ => 0

omit [PyUrls] [Compressors] in
theorem answerDelay_of_reads {data : List UInt8} {request : HttpRequest}
    (h : ReadsAs data request) : answerDelay data = requestDelay request.target := by
  have hreceive : receiveServerRequest data = .ok (some (request, [])) := h
  rw [answerDelay, hreceive]

/-- `HEADER_TIMEOUT_S`, in milliseconds. -/
def headerTimeoutMs : ℤ := 10000

/-- The benchmark server as an origin: what it answers too late does not come in time. -/
def serverReply (data : List UInt8) : OriginReply :=
  if answerDelay data < headerTimeoutMs then .ends (handleConnection data).pieces.flatten
  else .silent []

/-- The server answers what it has read, if the delay lets it. -/
theorem serverReply_of_reads {data : List UInt8} {request : HttpRequest}
    (h : ReadsAs data request) (hdelay : requestDelay request.target < headerTimeoutMs) :
    serverReply data = .ends (handleRequest request).pieces.flatten := by
  rw [serverReply, answerDelay_of_reads h, if_pos hdelay, handleConnection_one h]

/-- A request that is sent through the proxy, and the request that is sent to the server
instead. -/
structure Exchange where
  data : List UInt8
  request : HttpRequest
  target : SplitResult
  directData : List UInt8
  direct : HttpRequest

/-- A request that the proxy gets and that it forwards to a benchmark server. -/
structure ForwardedTo (origins : Origins) (data rest : List UInt8) (request : HttpRequest)
    (target : SplitResult) : Prop where
  read : receiveProxyRequest data = .ok (some (request, rest))
  connect : upperAscii request.method ≠ "CONNECT"
  split : urlsplit request.target = .ok target
  scheme : lowerText target.scheme = "http"
  reaches : ∃ host port, target.hostname = some host ∧ targetPort target = .ok port ∧
    origins host port = .ok serverReply
  /-- The server takes the head of the request that is forwarded. -/
  within : ∃ sent, proxyOriginRequest request target.netloc (originPath target) = .ok sent ∧
    HeadWithin sent
  /-- The server answers before the proxy has waited too long. -/
  inTime : requestDelay (originPath target) < headerTimeoutMs

/-- The proxy forwards the request, the direct request is answered alike, and the server answers
it with a whole response with a head that the proxy takes. -/
structure Exchange.Proxied (origins : Origins) (exchange : Exchange) : Prop where
  forwarded : ForwardedTo origins exchange.data [] exchange.request exchange.target
  reads : ReadsAs exchange.directData exchange.direct
  alike : AnsweredAlike exchange.direct (receivedRequest exchange.request exchange.target)
  method : exchange.request.method ≠ "HEAD"
  answered : (handleRequest exchange.direct).raised = none
  pieces : ∀ n, pieceSize exchange.direct.target = some n → 0 ≤ n
  head : HeadWithin (handleRequest exchange.direct).pieces.flatten
  short : (handleRequest exchange.direct).pieces.flatten.length < numberLimit

omit [PyRuntime] [PyUrls] [Compressors] in
theorem AnsweredAlike.method {direct received : HttpRequest} (h : AnsweredAlike direct received) :
    direct.method = received.method := by
  rcases h with rfl | h
  · rfl
  · exact h.1

omit [PyRuntime] [PyUrls] [Compressors] in
theorem AnsweredAlike.target {direct received : HttpRequest} (h : AnsweredAlike direct received) :
    direct.target = received.target := by
  rcases h with rfl | h
  · rfl
  · exact h.2.1

omit [Compressors] in
/-- The request is sent to the host and port of its target. -/
theorem handleHttpProxyRequest_send {connects : String → ℕ → Py Bool} {request : HttpRequest}
    {target : SplitResult} {host : String} {port : ℕ} {data : List UInt8}
    (htarget : urlsplit request.target = .ok target) (hscheme : lowerText target.scheme = "http")
    (hhost : target.hostname = some host) (hport : targetPort target = .ok port)
    (hconnects : connects host port = .ok true)
    (hdata : proxyOriginRequest request target.netloc (originPath target) = .ok data) :
    handleHttpProxyRequest connects request = .ok (.send host port data) := by
  have hnot : ¬ lowerText target.scheme ≠ "http" := not_not.2 hscheme
  rw [handleHttpProxyRequest, htarget, ok_bind, if_neg hnot]
  simp only [hhost, hport, ok_bind, hconnects, if_true, hdata]
  rfl

/-- The proxy reads what the server answers to the request that it receives. -/
theorem relayResponse_forwarded {origins : Origins} {stream rest : List UInt8}
    {request : HttpRequest} {target : SplitResult}
    (h : ForwardedTo origins stream rest request target) :
    relayResponse origins request = some (Prod.fst <$> readOriginResponse
      (handleRequest (receivedRequest request target)).pieces.flatten) := by
  obtain ⟨host, port, hhost, hport, horigin⟩ := h.reaches
  obtain ⟨data, hdata, hwithin⟩ := h.within
  have hreads := receives_forwarded h.read h.split hdata hwithin
  have hconnects : connects origins host port = .ok true := by
    rw [connects, horigin]
    rfl
  have hsend := @handleHttpProxyRequest_send _ _ (fun host port => connects origins host port)
    request target host port data h.split h.scheme hhost hport hconnects hdata
  have hreply : serverReply data =
      .ends (handleRequest (receivedRequest request target)).pieces.flatten :=
    serverReply_of_reads hreads h.inTime
  rw [relayResponse_of_send hsend horigin, hreply, awaitOriginResponse]

omit [Compressors] in
/-- One round of the loop for a request that is relayed. -/
theorem handleProxyConnection_relayed {origins : Origins} {stream rest response : List UInt8}
    {request : HttpRequest} (hread : receiveProxyRequest stream = .ok (some (request, rest)))
    (hmethod : upperAscii request.method ≠ "CONNECT")
    (hresponse : relayResponse origins request = some (.ok response)) :
    handleProxyConnection origins stream =
      let after := if request.keepAlive then handleProxyConnection origins rest
        else ⟨[], 0, .closed⟩
      ⟨response :: after.pieces, ⟨1, 0, authorized request, 0, 0⟩ + after.stats,
        after.ending⟩ := by
  rw [handleProxyConnection_eq, proxyRound, hread]
  simp only
  rw [handleProxyRequest, if_neg hmethod, hresponse]

omit [Compressors] in
/-- A connection without a further request ends. -/
theorem handleProxyConnection_ends {origins : Origins} {stream : List UInt8}
    (h : receiveProxyRequest stream = .ok none) :
    handleProxyConnection origins stream = ⟨[], 0, .closed⟩ := by
  rw [handleProxyConnection_eq, proxyRound, h]

/-- The client gets the bytes of the direct answer. -/
theorem relayResponse_proxied (hnumbers : ReadsNumbers) {origins : Origins} {exchange : Exchange}
    (h : exchange.Proxied origins) :
    relayResponse origins exchange.request =
      some (.ok (handleConnection exchange.directData).pieces.flatten) := by
  have hunbroken : Unbroken '\r' '\n' exchange.direct.target.toList := by
    rw [h.alike.target]
    exact unbroken_originPath h.forwarded.read h.forwarded.split
  have hmethod : exchange.direct.method ≠ "HEAD" := by
    rw [h.alike.method]
    exact h.method
  have hresponse := readOriginResponse_answered hnumbers
    ⟨hunbroken, hmethod, h.answered, h.pieces, h.head, h.short⟩ []
  rw [List.append_nil] at hresponse
  -- the origin answers the request that it receives as it answers the direct one
  rw [relayResponse_forwarded h.forwarded, ← handleRequest_congr h.alike, hresponse,
    handleConnection_one h.reads]
  rfl

/-- The exchanges up to the first that closes the connection. -/
def served (exchanges : List Exchange) : List Exchange :=
  untilClosed (fun exchange => exchange.request.keepAlive) exchanges

omit [PyRuntime] [PyUrls] [Compressors] in
theorem served_cons (exchange : Exchange) (exchanges : List Exchange) :
    served (exchange :: exchanges) =
      if exchange.request.keepAlive then exchange :: served exchanges else [exchange] := rfl

/-- A client that sends requests through the proxy gets, one after the other and up to the first
that closes the connection, the bytes that the server answers to the direct requests; the proxy
counts these requests and nothing else. -/
theorem proxy_transparent (hnumbers : ReadsNumbers) {origins : Origins}
    {exchanges : List Exchange} (h : ∀ exchange ∈ exchanges, exchange.Proxied origins) :
    handleProxyConnection origins (exchanges.flatMap Exchange.data) =
      ⟨(served exchanges).map fun exchange => (handleConnection exchange.directData).pieces.flatten,
        ⟨(served exchanges).length, 0,
          ((served exchanges).map fun exchange => authorized exchange.request).sum, 0, 0⟩,
        .closed⟩ := by
  induction exchanges with
  | nil => exact handleProxyConnection_ends rfl
  | cons exchange exchanges ih =>
      have hone := h exchange List.mem_cons_self
      have hrest := ih fun other hother => h other (List.mem_cons_of_mem _ hother)
      have hread := receiveRequest_append hone.forwarded.read (exchanges.flatMap Exchange.data)
      rw [List.flatMap_cons, handleProxyConnection_relayed hread hone.forwarded.connect
        (relayResponse_proxied hnumbers hone), List.nil_append, hrest, served_cons]
      split_ifs with hkeep
      · simp only [List.map_cons, List.length_cons, List.sum_cons]
        congr 1
        rw [Nat.add_comm (served exchanges).length]
        rfl
      · rfl

/-- An echo that closes the connection, through the proxy and directly. -/
def echoExchange : Exchange where
  data := ("POST http://a/echo HTTP/1.1\r\nContent-Length: 2\r\nConnection: close\r\n\r\n" ++
    "ok").toList.map latin1Byte
  request := ⟨"POST", "http://a/echo", "HTTP/1.1",
    [("content-length", "2"), ("connection", "close")], [111, 107], false⟩
  target := ⟨"http", "a", "/echo", "", ""⟩
  directData := ("POST /echo HTTP/1.1\r\nContent-Length: 2\r\nConnection: close\r\n\r\n" ++
    "ok").toList.map latin1Byte
  direct := ⟨"POST", "/echo", "HTTP/1.1", [("content-length", "2"), ("connection", "close")],
    [111, 107], false⟩

/-- What the proxy writes to the origin for it. -/
def echoForwarded : List UInt8 :=
  ("POST /echo HTTP/1.1\r\nhost: a\r\ncontent-length: 2\r\nconnection: close\r\n\r\n" ++
    "ok").toList.map latin1Byte

omit [PyRuntime] [PyUrls] [Compressors] in
theorem proxy_transparent_echo :
    let _ : PyRuntime := decimalRuntime
    let _ : PyUrls := plainUrls
    let _ : Compressors := plainCompressors
    handleProxyConnection (fun _ _ => .ok serverReply) echoExchange.data =
      ⟨[(handleConnection echoExchange.directData).pieces.flatten], ⟨1, 0, 0, 0, 0⟩,
        .closed⟩ := by
  intro _ _ _
  have hforwarded : ForwardedTo (fun _ _ => .ok serverReply) echoExchange.data []
      echoExchange.request echoExchange.target := by
    refine ⟨?_, ?_, ?_, ?_, ⟨"a", 80, ?_, ?_, rfl⟩, ⟨echoForwarded, ?_, ?_⟩, ?_⟩
    · decide +kernel
    · decide
    · decide +kernel
    · decide
    · decide
    · decide
    · decide +kernel
    · decide +kernel
    · decide
  have hproxied : echoExchange.Proxied fun _ _ => .ok serverReply := by
    refine ⟨hforwarded, ?_, .inr ?_, ?_, ?_, ?_, ?_, lt_numberLimit ?_⟩
    · show receiveServerRequest _ = _
      decide +kernel
    · decide +kernel
    · decide
    · rfl
    · intro n hn
      cases hn
    · decide +kernel
    · decide +kernel
  have hall : ∀ exchange ∈ [echoExchange], exchange.Proxied fun _ _ => .ok serverReply := by
    intro exchange hexchange
    rw [List.mem_singleton.1 hexchange]
    exact hproxied
  have hserved : served [echoExchange] = [echoExchange] := rfl
  have hauthorized : authorized echoExchange.request = 0 := by decide
  have h := proxy_transparent readsNumbers_decimalRuntime hall
  rw [hserved, List.map_singleton, List.map_singleton, hauthorized] at h
  exact h

end Transparency

/-! ## Requests without a body in the response -/

section Head

variable [PyRuntime] [PyUrls] [Compressors]

/-- A `HEAD` request through the proxy fails where the response declares a body: the proxy waits
for the body, which the server does not send, and the client gets nothing. -/
theorem proxy_head_raises {origins : Origins} {stream rest : List UInt8} {request : HttpRequest}
    {target : SplitResult} {length : ℤ}
    (h : ForwardedTo origins stream rest request target) (hmethod : request.method = "HEAD")
    (hanswered : (handleRequest (receivedRequest request target)).raised = none)
    (hdeclared : declaredLength (handleRequest (receivedRequest request target)).pieces.flatten =
      .ok length) (hlength : 0 < length) :
    handleProxyConnection origins stream =
      ⟨[], ⟨1, 0, authorized request, 0, 0⟩,
        .raised ⟨.eofError, "0 bytes read on a total of " ++ toString length ++
          " expected bytes"⟩⟩ := by
  -- the server answers with the head of a response alone
  have hunbroken : Unbroken '\r' '\n' (receivedRequest request target).target.toList :=
    unbroken_originPath h.read h.split
  obtain ⟨response, hclean, hwhole⟩ :=
    whole_handleRequest hunbroken (fun hother => absurd hmethod hother) hanswered
  have hreceived : (receivedRequest request target).method = "HEAD" := hmethod
  rw [hwhole, hreceived] at hdeclared
  have hread := readOriginResponse_head hclean hdeclared hlength
  have hrelay := relayResponse_forwarded h
  rw [hwhole, hreceived, hread, Except.map_error] at hrelay
  have hraised : ProxyEnding.ofError ⟨.eofError, "0 bytes read on a total of " ++
      toString length ++ " expected bytes"⟩ = .raised ⟨.eofError, "0 bytes read on a total of " ++
        toString length ++ " expected bytes"⟩ := if_neg ErrorKind.noConfusion
  rw [handleProxyConnection_eq, proxyRound, h.read]
  simp only
  rw [handleProxyRequest, if_neg h.connect, hrelay]
  simp only [hraised]

omit [PyRuntime] [PyUrls] [Compressors] in
theorem proxy_head_raises_missing :
    let _ : PyRuntime := decimalRuntime
    let _ : PyUrls := plainUrls
    let _ : Compressors := plainCompressors
    handleProxyConnection (fun _ _ => .ok serverReply)
        ("HEAD http://a/missing HTTP/1.1\r\n\r\n".toList.map latin1Byte) =
      ⟨[], ⟨1, 0, 0, 0, 0⟩,
        .raised ⟨.eofError, "0 bytes read on a total of 9 expected bytes"⟩⟩ := by
  intro _ _ _
  have hforwarded : ForwardedTo (fun _ _ => .ok serverReply)
      ("HEAD http://a/missing HTTP/1.1\r\n\r\n".toList.map latin1Byte) []
      ⟨"HEAD", "http://a/missing", "HTTP/1.1", [], [], true⟩
      ⟨"http", "a", "/missing", "", ""⟩ := by
    refine ⟨?_, ?_, ?_, ?_, ⟨"a", 80, ?_, ?_, rfl⟩,
      ⟨"HEAD /missing HTTP/1.1\r\nhost: a\r\n\r\n".toList.map latin1Byte, ?_, ?_⟩, ?_⟩
    · decide +kernel
    · decide
    · decide +kernel
    · decide
    · decide
    · decide
    · decide +kernel
    · decide +kernel
    · decide
  have hnine : (0 : ℤ) < 9 := by decide
  refine proxy_head_raises hforwarded rfl ?_ ?_ hnine
  · rfl
  · decide +kernel

end Head

end FogHttpBenchmark.ProxyConnect
