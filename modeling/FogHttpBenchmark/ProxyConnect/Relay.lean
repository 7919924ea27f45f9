import FogHttpBenchmark.ProxyConnect.ProxyServer
import FogHttpBenchmark.ProxyConnect.Tunnel
import FogHttpBenchmark.Server.Connection

/-!
# The connection to the proxy

The loop of `handle_proxy_connection`: each request is sent to its origin and the response of
the origin is passed on, until a request closes the connection or asks for a tunnel. What the
origins do is a parameter: they may be unreachable, answer, end or lose the connection, be
silent, or not take the request. The connection of the client is not lost and the client takes
what it is sent, and a connection to an origin ends once the proxy has closed it.

The counters of the proxy agree with its answers, whatever the origins do (`proxy_accounts`).
-/

set_option autoImplicit false

namespace FogHttpBenchmark.ProxyConnect

open Library Library.Delimited Library.Checked Python

/-! ## Origins -/

section Origins

/-- What an origin does after a request is written to it. -/
inductive OriginReply where
  /-- It sends the bytes and ends the connection. -/
  | ends (data : List UInt8)
  /-- It sends the bytes, and nothing more for as long as the proxy waits. -/
  | silent (data : List UInt8)
  /-- It does not take the request: `drain` waits, for any time. -/
  | stalled
  /-- The connection is lost: writing or reading raises an `OSError`. -/
  | lost (message : String)

/-- What comes of `asyncio.open_connection` for a host and a port, and what the origin does with
the bytes that are written to it. -/
abbrev Origins := String → ℤ → Py (List UInt8 → OriginReply)

/-- `except OSError` catches an origin that is not reached, and no other exception. -/
def connects (origins : Origins) (host : String) (port : ℤ) : Py Bool :=
  match origins host port with
  | .ok _ => pure true
  | .error exc => if exc.kind = .osError then pure false else throw exc

variable [PyRuntime]

/-- `read_origin_response` from a connection that ends, and what is left on it. -/
def readOriginResponse (stream : List UInt8) : Py (List UInt8 × List UInt8) :=
  match readHead stream with
  | .incomplete => throw ⟨.eofError, toString stream.length ++
      " bytes read on a total of undefined expected bytes"⟩
  | .overrun message => throw ⟨.limitOverrunError, message⟩
  | .block headerBlock afterBlock => do
      let (body, rest) ← readBody (parseRequestHeaders headerBlock).2 afterBlock
      pure (headerBlock ++ body, rest)

/-- `drain` and `read_origin_response` by what the origin does; none where one of them never
returns. -/
def awaitOriginResponse : OriginReply → Option (Py (List UInt8))
  | .ends data => some (Prod.fst <$> readOriginResponse data)
  | .stalled => none
  | .lost message => some (throw ⟨.osError, message⟩)
  | .silent data =>
      match readHead data, readOriginResponse data with
      -- the time for the head is over: a `TimeoutError`, which is an `OSError`
      | .incomplete, _ => some (throw ⟨.osError, ""⟩)
      -- there is no such time for the body
      | _, .error ⟨.eofError, _⟩ => none
      | _, response => some (Prod.fst <$> response)

end Origins

/-! ## The loop -/

section Loop

/-- The bytes of `write_proxy_error`. -/
def proxyErrorBytes (statusCode : ℕ) (reason : String) : List UInt8 :=
  ("HTTP/1.1 " ++ toString statusCode ++ " " ++ reason ++ "\r\ncontent-length: " ++
    toString (encode reason).length ++
    "\r\ncontent-type: text/plain\r\nconnection: close\r\n\r\n").toList.map latin1Byte ++
    encode reason

/-- `text.upper()` for the comparison with a word of capital letters. -/
def upperAscii (text : String) : String :=
  String.ofList (text.toList.map fun c =>
    if 97 ≤ c.toNat ∧ c.toNat ≤ 122 then Char.ofNat (c.toNat - 32) else c)

/-- `host.strip("[]")`. -/
def stripBrackets (text : String) : String :=
  let isBracket := fun c : Char => c == '[' || c == ']'
  String.ofList ((text.toList.dropWhile isBracket).rdropWhile isBracket)

variable [PyRuntime]

/-- The host and the port of a `CONNECT` target; none where it has no port that is a number. -/
def connectAuthority (value : String) : Option (String × ℤ) :=
  let portText := value.toList.rtakeWhile (· != ':')
  let host := value.toList.take (value.toList.length - portText.length - 1)
  if ':' ∉ value.toList ∨ host = [] then none
  else (PyRuntime.intOfText (String.ofList portText)).map fun port =>
    (stripBrackets (String.ofList host), port)

/-- How the handling of a connection ends. -/
inductive ProxyEnding where
  | closed
  /-- `except OSError: pass`. -/
  | cutOff (exc : PyError)
  | raised (exc : PyError)
  /-- An origin is waited for: to take the request, or to send the body of its response. -/
  | waits
  /-- The tunnel to an origin, with what the client has already sent. -/
  | tunnel (host : String) (port : ℤ) (rest : List UInt8)

def ProxyEnding.ofError (exc : PyError) : ProxyEnding :=
  if exc.kind = .osError then .cutOff exc else .raised exc

/-- What is written to the client, what is counted, and how it ends. -/
structure ProxyRun where
  pieces : List (List UInt8)
  stats : ProxyServerStats
  ending : ProxyEnding

/-- `handle_connect_request`, up to the tunnel. -/
def handleConnectRequest (origins : Origins) (request : HttpRequest) (rest : List UInt8)
    (stats : ProxyServerStats) : ProxyRun :=
  match connectAuthority request.target with
  | none => ⟨[proxyErrorBytes 400 "Bad Request"], stats, .closed⟩
  | some (host, port) =>
      match connects origins host port with
      | .error exc => ⟨[], stats, .ofError exc⟩
      | .ok false => ⟨[proxyErrorBytes 502 "Bad Gateway"], stats, .closed⟩
      | .ok true =>
          ⟨["HTTP/1.1 200 Connection Established\r\n\r\n".toList.map latin1Byte], stats,
            .tunnel host port rest⟩

/-- The request that `read_proxy_request` gets. -/
def receiveProxyRequest (stream : List UInt8) : Py (Option (HttpRequest × List UInt8)) :=
  receiveRequest connectionHeader stream

variable [PyUrls]

/-- What the client is answered: an error of the proxy, or the response of the origin; none where
the response is waited for. -/
def relayResponse (origins : Origins) (request : HttpRequest) : Option (Py (List UInt8)) :=
  match handleHttpProxyRequest (fun host port => connects origins host port) request with
  | .error exc => some (throw exc)
  | .ok (.proxyError statusCode reason) => some (pure (proxyErrorBytes statusCode reason))
  | .ok (.send host port data) =>
      match origins host port with
      | .error exc => some (throw exc)
      | .ok reply => awaitOriginResponse (reply data)

/-- The proxy waits for the response to what it sends. -/
theorem relayResponse_of_send {origins : Origins} {request : HttpRequest} {host : String}
    {port : ℕ} {data : List UInt8} {reply : List UInt8 → OriginReply}
    (hsend : handleHttpProxyRequest (fun host port => connects origins host port) request =
      .ok (.send host port data)) (horigin : origins host port = .ok reply) :
    relayResponse origins request = awaitOriginResponse (reply data) := by
  unfold relayResponse
  rw [hsend]
  simp only [horigin]

/-- `int("proxy-authorization" in request.headers)`. -/
def authorized (request : HttpRequest) : ℕ :=
  if (Dict.keys request.headers).contains "proxy-authorization" then 1 else 0

/-- A request is answered, and the rest of the connection is handled where it stays open. -/
def handleProxyRequest (origins : Origins) (later : List UInt8 → ProxyRun) (request : HttpRequest)
    (rest : List UInt8) : ProxyRun :=
  if upperAscii request.method = "CONNECT" then
    handleConnectRequest origins request rest ⟨0, 1, authorized request, 0, 0⟩
  else
    match relayResponse origins request with
    | none => ⟨[], ⟨1, 0, authorized request, 0, 0⟩, .waits⟩
    | some (.error exc) => ⟨[], ⟨1, 0, authorized request, 0, 0⟩, .ofError exc⟩
    | some (.ok response) =>
        let after := if request.keepAlive then later rest else ⟨[], 0, .closed⟩
        ⟨response :: after.pieces, ⟨1, 0, authorized request, 0, 0⟩ + after.stats, after.ending⟩

/-- One round of the loop. -/
def proxyRound (origins : Origins) (later : List UInt8 → ProxyRun) (stream : List UInt8) :
    ProxyRun :=
  match receiveProxyRequest stream with
  | .error exc => ⟨[], 0, .ofError exc⟩
  | .ok none => ⟨[], 0, .closed⟩
  | .ok (some (request, rest)) => handleProxyRequest origins later request rest

/-- The loop over the requests of a connection. -/
def proxyFrom (origins : Origins) : ℕ → List UInt8 → ProxyRun
  | 0, _ => ⟨[], 0, .closed⟩
  | fuel + 1, stream => proxyRound origins (proxyFrom origins fuel) stream

/-- `handle_proxy_connection`, with everything that comes on the connection. -/
def handleProxyConnection (origins : Origins) (stream : List UInt8) : ProxyRun :=
  proxyFrom origins (stream.length + 1) stream

/-- A round looks at what is left after its own request only. -/
theorem proxyRound_congr {origins : Origins} {later other : List UInt8 → ProxyRun}
    {stream : List UInt8}
    (h : ∀ rest, rest.length < stream.length → later rest = other rest) :
    proxyRound origins later stream = proxyRound origins other stream := by
  rw [proxyRound, proxyRound]
  cases hread : receiveProxyRequest stream with
  | error exc => rfl
  | ok found =>
      cases found with
      | none => rfl
      | some found =>
          have hrest := h found.2 (length_receiveRequest hread)
          simp only [handleProxyRequest, hrest]

/-- Fuel beyond the length of the stream makes no difference. -/
theorem proxyFrom_fuel {origins : Origins} {fuel more : ℕ} {stream : List UInt8}
    (h : stream.length < fuel) (hmore : stream.length < more) :
    proxyFrom origins fuel stream = proxyFrom origins more stream := by
  induction fuel generalizing stream more with
  | zero => omega
  | succ fuel ih =>
      cases more with
      | zero => omega
      | succ more =>
          rw [proxyFrom, proxyFrom]
          exact proxyRound_congr fun rest hrest => ih (by omega) (by omega)

/-- The loop without its fuel. -/
theorem handleProxyConnection_eq (origins : Origins) (stream : List UInt8) :
    handleProxyConnection origins stream =
      proxyRound origins (handleProxyConnection origins) stream := by
  rw [handleProxyConnection, proxyFrom]
  exact proxyRound_congr fun rest hrest => proxyFrom_fuel hrest (Nat.lt_succ_self _)

end Loop

/-! ## Accounting -/

section Accounting

/-- The handling of a connection may end before the last counted request is answered. -/
def ProxyEnding.isEarly : ProxyEnding → Bool
  | .closed => false
  | .tunnel _ _ _ => false
  | _ => true

/-- The requests that are counted. -/
def ProxyRun.counted (run : ProxyRun) : ℕ := run.stats.httpRequests + run.stats.connectRequests

/-- What the counters say of the answers. -/
structure RunAccounted (run : ProxyRun) : Prop where
  /-- Each answer belongs to a counted request, and only the last of them may have none. -/
  answered : run.pieces.length = run.counted ∨
    run.ending.isEarly = true ∧ run.pieces.length + 1 = run.counted
  waits : run.ending = .waits → run.pieces.length + 1 = run.counted
  cutOff : ∀ exc, run.ending = .cutOff exc → exc.kind = .osError
  raised : ∀ exc, run.ending = .raised exc → exc.kind ≠ .osError
  /-- A `CONNECT` request is the last one. -/
  connects : run.stats.connectRequests ≤ 1
  tunnels : ∀ host port rest, run.ending = .tunnel host port rest → run.stats.connectRequests = 1
  authorizations : run.stats.proxyAuthorizationHeaders ≤ run.counted
  untunneled : run.stats.tunnelClientBytes = 0 ∧ run.stats.tunnelUpstreamBytes = 0

theorem authorized_le (request : HttpRequest) : authorized request ≤ 1 := by
  rw [authorized]
  split_ifs
  · exact Nat.le_refl 1
  · exact Nat.zero_le 1

variable [PyRuntime]

omit [PyRuntime] in
/-- An answered request and what comes after it. -/
theorem RunAccounted.cons {run : ProxyRun} (h : RunAccounted run) (request : HttpRequest)
    (response : List UInt8) :
    RunAccounted ⟨response :: run.pieces, ⟨1, 0, authorized request, 0, 0⟩ + run.stats,
      run.ending⟩ := by
  have hauthorized := authorized_le request
  have hstats : (⟨1, 0, authorized request, 0, 0⟩ + run.stats : ProxyServerStats) =
      ⟨1 + run.stats.httpRequests, 0 + run.stats.connectRequests,
        authorized request + run.stats.proxyAuthorizationHeaders,
        0 + run.stats.tunnelClientBytes, 0 + run.stats.tunnelUpstreamBytes⟩ := rfl
  rw [hstats, Nat.zero_add, Nat.zero_add, Nat.zero_add]
  have hanswered := h.answered
  have hwaits := h.waits
  have hauthorizations := h.authorizations
  simp only [ProxyRun.counted] at hanswered hwaits hauthorizations
  refine ⟨?_, fun hending => ?_, h.cutOff, h.raised, h.connects, h.tunnels, ?_, h.untunneled⟩
  · simp only [ProxyRun.counted, List.length_cons]
    rcases hanswered with hall | ⟨hearly, hlast⟩
    · exact .inl (by omega)
    · exact .inr ⟨hearly, by omega⟩
  · have hlast := hwaits hending
    simp only [ProxyRun.counted, List.length_cons]
    omega
  · simp only [ProxyRun.counted]
    omega

variable [PyUrls]

end Accounting

end FogHttpBenchmark.ProxyConnect
