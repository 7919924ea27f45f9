import FogHttpBenchmark.Python.Value

/-!
# Proxy-connect cases and results

The cases of the proxy-connect suite, the counters of the proxy server, and the
result of one measured run with its JSON row.
-/

set_option autoImplicit false

namespace FogHttpBenchmark.ProxyConnect

open Python

/-! ## Cases -/

/-- The scheme of the server that is requested. -/
inductive ProxyTargetScheme where
  | http
  | https
  deriving DecidableEq, Repr

/-- How the client is told about the proxy. -/
inductive ProxyConfigKind where
  | direct
  | explicit
  | trustEnv
  deriving DecidableEq, Repr

/-- Whether the client is kept between requests. -/
inductive ProxyLifecycle where
  | reusedClient
  | coldClient
  deriving DecidableEq, Repr

/-- The name of the scheme in a report. -/
def ProxyTargetScheme.text : ProxyTargetScheme → String
  | http => "http"
  | https => "https"

/-- The name of the configuration in a report. -/
def ProxyConfigKind.text : ProxyConfigKind → String
  | direct => "direct"
  | explicit => "explicit"
  | trustEnv => "trust-env"

/-- The name of the lifecycle in a report. -/
def ProxyLifecycle.text : ProxyLifecycle → String
  | reusedClient => "reused-client"
  | coldClient => "cold-client"

/-- A case of the proxy-connect suite. -/
structure ProxyConnectCase where
  name : String
  group : String
  targetScheme : ProxyTargetScheme
  config : ProxyConfigKind
  lifecycle : ProxyLifecycle := .reusedClient
  deriving DecidableEq, Repr

/-- `uses_proxy`. -/
def ProxyConnectCase.usesProxy (case : ProxyConnectCase) : Bool := case.config != .direct

/-! ## Counters and results -/

/-- A reading of the proxy's counters, or the difference of two readings. -/
structure ProxyStatsDelta where
  httpRequests : ℤ
  connectRequests : ℤ
  proxyAuthorizationHeaders : ℤ
  tunnelClientBytes : ℤ
  tunnelUpstreamBytes : ℤ
  deriving DecidableEq, Repr

/-- What the proxy has counted between two readings. -/
def proxyDelta (start stop : ProxyStatsDelta) : ProxyStatsDelta where
  httpRequests := stop.httpRequests - start.httpRequests
  connectRequests := stop.connectRequests - start.connectRequests
  proxyAuthorizationHeaders := stop.proxyAuthorizationHeaders - start.proxyAuthorizationHeaders
  tunnelClientBytes := stop.tunnelClientBytes - start.tunnelClientBytes
  tunnelUpstreamBytes := stop.tunnelUpstreamBytes - start.tunnelUpstreamBytes

/-- The result of one repetition of one case. -/
structure ProxyConnectResult where
  client : String
  mode : String
  case : String
  group : String
  targetScheme : String
  config : String
  lifecycle : String
  concurrency : ℤ
  requestLimit : ℤ
  requests : ℤ
  repeatIndex : ℤ
  durationS : ℚ
  requestsPerSecond : ℚ
  okRequestsPerSecond : ℚ
  okRequests : ℤ
  p50Ms : ℚ
  p95Ms : ℚ
  p99Ms : ℚ
  errors : ℤ
  warmupErrors : ℤ
  errorTypes : List (String × ℤ)
  warmupErrorTypes : List (String × ℤ)
  measuredProxy : ProxyStatsDelta
  totalProxy : ProxyStatsDelta
  peakRssMb : Option ℚ
  peakThreads : Option ℤ
  peakFds : Option ℤ
  clientStats : Option (List (String × ℤ))

/-- `asdict(stats)`. -/
def ProxyStatsDelta.row (stats : ProxyStatsDelta) : JsonObject :=
  encodeCounts
    [("http_requests", stats.httpRequests), ("connect_requests", stats.connectRequests),
      ("proxy_authorization_headers", stats.proxyAuthorizationHeaders),
      ("tunnel_client_bytes", stats.tunnelClientBytes),
      ("tunnel_upstream_bytes", stats.tunnelUpstreamBytes)]

/-- `asdict(result)`, the run row of a saved report. -/
def ProxyConnectResult.row (result : ProxyConnectResult) : JsonObject :=
  [("client", .str result.client), ("mode", .str result.mode), ("case", .str result.case),
    ("group", .str result.group), ("target_scheme", .str result.targetScheme),
    ("config", .str result.config), ("lifecycle", .str result.lifecycle),
    ("concurrency", .int result.concurrency), ("request_limit", .int result.requestLimit),
    ("requests", .int result.requests), ("repeat", .int result.repeatIndex),
    ("duration_s", .ofFloat result.durationS),
    ("requests_per_second", .ofFloat result.requestsPerSecond),
    ("ok_requests_per_second", .ofFloat result.okRequestsPerSecond),
    ("ok_requests", .int result.okRequests), ("p50_ms", .ofFloat result.p50Ms),
    ("p95_ms", .ofFloat result.p95Ms), ("p99_ms", .ofFloat result.p99Ms),
    ("errors", .int result.errors), ("warmup_errors", .int result.warmupErrors),
    ("error_types", .obj (encodeCounts result.errorTypes)),
    ("warmup_error_types", .obj (encodeCounts result.warmupErrorTypes)),
    ("measured_proxy", .obj result.measuredProxy.row),
    ("total_proxy", .obj result.totalProxy.row),
    ("peak_rss_mb", .ofOption .ofFloat result.peakRssMb),
    ("peak_threads", .ofOption .int result.peakThreads),
    ("peak_fds", .ofOption .int result.peakFds),
    ("client_stats", .ofOption (fun stats => .obj (encodeCounts stats)) result.clientStats)]

end FogHttpBenchmark.ProxyConnect
