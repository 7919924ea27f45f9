import FogHttpBenchmark.Library.Groups
import FogHttpBenchmark.ProxyConnect.Models
import FogHttpBenchmark.ResourceMetrics
import FogHttpBenchmark.Statistics
import Mathlib.Data.Prod.Lex
import Mathlib.Data.String.Basic

/-!
# Aggregate rows of the proxy-connect suite

The results of the repeats of one measurement are collected under their key and reduced to one
aggregate row. The rows are in the order of the sort key, and carry no ratio yet.
-/

set_option autoImplicit false

namespace FogHttpBenchmark.ProxyConnect

open Library OrderStatistics Groups Python ReportSchema

/-! ## Rows -/

section Rows

/-- The row of all repetitions of one case and client. -/
structure ProxyConnectAggregateRow where
  mode : String
  client : String
  case : String
  group : String
  targetScheme : String
  config : String
  lifecycle : String
  concurrency : ℤ
  requestLimit : ℤ
  requests : ℤ
  repeats : ℤ
  okRequestsTotal : ℤ
  errorsTotal : ℤ
  warmupErrorsTotal : ℤ
  errorRatePercent : ℚ
  okReqSMedian : ℚ
  reqSMedian : ℚ
  reqSCvPercent : ℚ
  directRatio : Option ℚ
  p50MsMedian : ℚ
  p95MsMedian : ℚ
  p99MsMedian : ℚ
  rssMbMax : Option ℚ
  threadsMax : Option ℤ
  fdsMax : Option ℤ
  measuredProxyHttpRequestsMax : ℤ
  measuredProxyConnectRequestsMax : ℤ
  totalProxyHttpRequestsMax : ℤ
  totalProxyConnectRequestsMax : ℤ
  proxyAuthorizationHeadersMax : ℤ
  finalConnectionsOpenedMax : Option ℤ
  finalConnectionsReusedMax : Option ℤ
  finalConnectionsClosedMax : Option ℤ
  finalConnectionsAbortedMax : Option ℤ
  errorTypes : List (String × ℤ)
  resourceCoverage : ResourceCoverage

/-- `asdict(row)`, the aggregate row of a saved report. -/
def ProxyConnectAggregateRow.row (row : ProxyConnectAggregateRow) : JsonObject :=
  [("mode", .str row.mode), ("client", .str row.client), ("case", .str row.case),
    ("group", .str row.group), ("target_scheme", .str row.targetScheme),
    ("config", .str row.config), ("lifecycle", .str row.lifecycle),
    ("concurrency", .int row.concurrency), ("request_limit", .int row.requestLimit),
    ("requests", .int row.requests), ("repeats", .int row.repeats),
    ("ok_requests_total", .int row.okRequestsTotal), ("errors_total", .int row.errorsTotal),
    ("warmup_errors_total", .int row.warmupErrorsTotal),
    ("error_rate_percent", .ofFloat row.errorRatePercent),
    ("ok_req_s_median", .ofFloat row.okReqSMedian), ("req_s_median", .ofFloat row.reqSMedian),
    ("req_s_cv_percent", .ofFloat row.reqSCvPercent),
    ("direct_ratio", .ofOption .ofFloat row.directRatio),
    ("p50_ms_median", .ofFloat row.p50MsMedian), ("p95_ms_median", .ofFloat row.p95MsMedian),
    ("p99_ms_median", .ofFloat row.p99MsMedian),
    ("rss_mb_max", .ofOption .ofFloat row.rssMbMax),
    ("threads_max", .ofOption .int row.threadsMax), ("fds_max", .ofOption .int row.fdsMax),
    ("measured_proxy_http_requests_max", .int row.measuredProxyHttpRequestsMax),
    ("measured_proxy_connect_requests_max", .int row.measuredProxyConnectRequestsMax),
    ("total_proxy_http_requests_max", .int row.totalProxyHttpRequestsMax),
    ("total_proxy_connect_requests_max", .int row.totalProxyConnectRequestsMax),
    ("proxy_authorization_headers_max", .int row.proxyAuthorizationHeadersMax),
    ("final_connections_opened_max", .ofOption .int row.finalConnectionsOpenedMax),
    ("final_connections_reused_max", .ofOption .int row.finalConnectionsReusedMax),
    ("final_connections_closed_max", .ofOption .int row.finalConnectionsClosedMax),
    ("final_connections_aborted_max", .ofOption .int row.finalConnectionsAbortedMax),
    ("error_types", .obj (encodeCounts row.errorTypes)),
    ("resource_coverage", .obj (resourceCoverageRow row.resourceCoverage))]

end Rows

/-! ## Keys -/

section Keys

/-- What the repeats of one measurement share. -/
structure AggregateKey where
  mode : String
  client : String
  case : String
  group : String
  targetScheme : String
  config : String
  lifecycle : String
  concurrency : ℤ
  requestLimit : ℤ
  deriving DecidableEq

/-- The fields that the repetitions of a row share. -/
def aggregateKey (result : ProxyConnectResult) : AggregateKey where
  mode := result.mode
  client := result.client
  case := result.case
  group := result.group
  targetScheme := result.targetScheme
  config := result.config
  lifecycle := result.lifecycle
  concurrency := result.concurrency
  requestLimit := result.requestLimit

/-- The place of a configuration in the order of the rows. -/
def configOrder (config : String) : ℤ :=
  if config = "direct" then 0
  else if config = "explicit" then 1
  else if config = "trust-env" then 2
  else 99

/-- The sort key, compared field by field. -/
abbrev SortKey : Type :=
  String ×ₗ String ×ₗ String ×ₗ ℤ ×ₗ ℤ ×ₗ ℤ ×ₗ String ×ₗ String

/-- The order of the rows of a report. -/
def aggregateSortKey (key : AggregateKey) : SortKey :=
  toLex (key.mode, toLex (key.client, toLex (key.group, toLex (key.concurrency,
    toLex (key.requestLimit, toLex (configOrder key.config,
      toLex (key.lifecycle, key.case)))))))

end Keys

/-! ## Aggregation -/

section Aggregation

/-- `max(values)`; the repeats of a measurement are never empty. -/
def greatest (values : List ℤ) : ℤ := values.max?.getD 0

/-- A counter of the client in each repetition, where it has one. -/
def clientStatValues (items : List ProxyConnectResult) (key : String) : List (Option ℤ) :=
  items.map fun item => item.clientStats.bind fun stats => stats.lookup key

/-- The counters of a client that a row has. -/
def statKeys : List String :=
  ["connections_opened", "connections_reused", "connections_closed", "connections_aborted"]

/-- The coverage of the resource metrics of the repeats. -/
def coverageOf (items : List ProxyConnectResult) : ResourceCoverage :=
  [("rss_mb_max", metricCoverage (items.map ProxyConnectResult.peakRssMb)),
    ("threads_max", metricCoverage (items.map ProxyConnectResult.peakThreads)),
    ("fds_max", metricCoverage (items.map ProxyConnectResult.peakFds))] ++
  statKeys.map fun key => ("final_" ++ key ++ "_max", metricCoverage (clientStatValues items key))

/-- The row of the repetitions with one key. -/
def buildAggregateRow (key : AggregateKey) (items : List ProxyConnectResult) :
    ProxyConnectAggregateRow :=
  let requestsTotal := (items.map ProxyConnectResult.requests).sum
  let errorsTotal := (items.map ProxyConnectResult.errors).sum
  { mode := key.mode
    client := key.client
    case := key.case
    group := key.group
    targetScheme := key.targetScheme
    config := key.config
    lifecycle := key.lifecycle
    concurrency := key.concurrency
    requestLimit := key.requestLimit
    requests := (items.head?.map ProxyConnectResult.requests).getD 0
    repeats := items.length
    okRequestsTotal := (items.map ProxyConnectResult.okRequests).sum
    errorsTotal := errorsTotal
    warmupErrorsTotal := (items.map ProxyConnectResult.warmupErrors).sum
    errorRatePercent := if requestsTotal = 0 then 0 else (errorsTotal : ℚ) / requestsTotal * 100
    okReqSMedian := median (items.map ProxyConnectResult.okRequestsPerSecond)
    reqSMedian := median (items.map ProxyConnectResult.requestsPerSecond)
    reqSCvPercent := coefficientOfVariation (items.map ProxyConnectResult.requestsPerSecond)
    directRatio := none
    p50MsMedian := median (items.map ProxyConnectResult.p50Ms)
    p95MsMedian := median (items.map ProxyConnectResult.p95Ms)
    p99MsMedian := median (items.map ProxyConnectResult.p99Ms)
    rssMbMax := optionalResourceMax (items.map ProxyConnectResult.peakRssMb)
    threadsMax := optionalResourceMax (items.map ProxyConnectResult.peakThreads)
    fdsMax := optionalResourceMax (items.map ProxyConnectResult.peakFds)
    measuredProxyHttpRequestsMax := greatest (items.map fun item => item.measuredProxy.httpRequests)
    measuredProxyConnectRequestsMax :=
      greatest (items.map fun item => item.measuredProxy.connectRequests)
    totalProxyHttpRequestsMax := greatest (items.map fun item => item.totalProxy.httpRequests)
    totalProxyConnectRequestsMax :=
      greatest (items.map fun item => item.totalProxy.connectRequests)
    proxyAuthorizationHeadersMax :=
      greatest (items.map fun item => item.totalProxy.proxyAuthorizationHeaders)
    finalConnectionsOpenedMax :=
      optionalResourceMax (clientStatValues items "connections_opened")
    finalConnectionsReusedMax :=
      optionalResourceMax (clientStatValues items "connections_reused")
    finalConnectionsClosedMax :=
      optionalResourceMax (clientStatValues items "connections_closed")
    finalConnectionsAbortedMax :=
      optionalResourceMax (clientStatValues items "connections_aborted")
    errorTypes := mergeErrorTypes (items.map ProxyConnectResult.errorTypes)
    resourceCoverage := coverageOf items }

/-- The rows of the groups, in the order of the sort key. -/
def groupRows (results : List ProxyConnectResult) : List ProxyConnectAggregateRow :=
  (sortedGroups aggregateKey aggregateSortKey results).map fun group =>
    buildAggregateRow group.1 group.2

end Aggregation

end FogHttpBenchmark.ProxyConnect
