import FogHttpBenchmark.Library.Checked
import FogHttpBenchmark.Library.Dict
import FogHttpBenchmark.Library.Runs
import FogHttpBenchmark.Python.Value
import FogHttpBenchmark.Python.Text
import FogHttpBenchmark.Python.JsonText
import FogHttpBenchmark.ReportSchema.Fields
import FogHttpBenchmark.ReportSchema.Models
import FogHttpBenchmark.ReportSchema.Identity
import FogHttpBenchmark.ReportSchema.Ordinary
import FogHttpBenchmark.Library.OrderStatistics
import FogHttpBenchmark.Statistics
import FogHttpBenchmark.ProxyConnect.Models
import FogHttpBenchmark.ProxyConnect.Runner
import FogHttpBenchmark.RequestBuilder.Models
import FogHttpBenchmark.RequestBuilder.Runner
import FogHttpBenchmark.Streaming.Models
import FogHttpBenchmark.Streaming.Cases
import FogHttpBenchmark.Streaming.Consume
import FogHttpBenchmark.Streaming.Runner
import FogHttpBenchmark.Library.Transition
import FogHttpBenchmark.Lifecycle.Marker
import FogHttpBenchmark.Lifecycle.Protocol
import FogHttpBenchmark.Validity.Helpers
import FogHttpBenchmark.Validity.Serialization
import FogHttpBenchmark.Attribution.Fingerprint
import FogHttpBenchmark.Validity.Attribution
import FogHttpBenchmark.Validity.Classification
import FogHttpBenchmark.MeasurementTiming
import FogHttpBenchmark.ReportSchema.Decoding
import FogHttpBenchmark.Validity.Errors
import FogHttpBenchmark.Isolation.Models
import FogHttpBenchmark.Isolation.Reports
import FogHttpBenchmark.Attribution.ReportValues
import FogHttpBenchmark.Attribution.Lifecycle
import FogHttpBenchmark.Attribution.Window
import FogHttpBenchmark.Attribution.Aggregation
import FogHttpBenchmark.Attribution.VerifiedBytes
import FogHttpBenchmark.Library.Blocks
import FogHttpBenchmark.Load.Models
import FogHttpBenchmark.Creation.Models
import FogHttpBenchmark.Creation.Operations
import FogHttpBenchmark.Creation.Errors
import FogHttpBenchmark.Creation.Clients
import FogHttpBenchmark.Library.Workers
import FogHttpBenchmark.Load.Runner
import FogHttpBenchmark.Load.Conservation
import FogHttpBenchmark.Validity.Children
import FogHttpBenchmark.Compare.Models
import FogHttpBenchmark.Compare.Loading
import FogHttpBenchmark.Compare.Analysis
import FogHttpBenchmark.Compare.Permission
import FogHttpBenchmark.Library.Groups
import FogHttpBenchmark.ResourceMetrics
import FogHttpBenchmark.ProxyConnect.Reports
import FogHttpBenchmark.ProxyConnect.Finalization
import FogHttpBenchmark.ProxyConnect.Merge
import FogHttpBenchmark.Library.Ratios
import FogHttpBenchmark.OneUpstream.Reports
import FogHttpBenchmark.RequestBuilder.Reports
import FogHttpBenchmark.Streaming.Finalization
import FogHttpBenchmark.Isolation.Composition
import FogHttpBenchmark.Python.Strings
import FogHttpBenchmark.Isolation.Selection
import FogHttpBenchmark.Isolation.Planning
import FogHttpBenchmark.Isolation.Mergeable
import FogHttpBenchmark.Validity.Conversions
import FogHttpBenchmark.Validity.FailedChildren
import FogHttpBenchmark.Validity.Gate
import FogHttpBenchmark.ReportSchema.Measurement
import FogHttpBenchmark.Validity.ZeroSuccess
import FogHttpBenchmark.Compare.Swap
import FogHttpBenchmark.Lifecycle.Controls
import FogHttpBenchmark.Lifecycle.Delivery
import FogHttpBenchmark.Compare.Timing
import FogHttpBenchmark.Compare.Wins
import FogHttpBenchmark.Validity.Join
import FogHttpBenchmark.ReportSchema.Canonical
import FogHttpBenchmark.Profile.Receipts
import FogHttpBenchmark.Attribution.Consume
import FogHttpBenchmark.Lifecycle.Resources
import FogHttpBenchmark.Lifecycle.Cleanup
import FogHttpBenchmark.Validity.ReasonRows
import FogHttpBenchmark.Validity.RowOrder
import FogHttpBenchmark.Compare.RowOrder
import FogHttpBenchmark.Isolation.Provenance
import FogHttpBenchmark.Library.Delimited
import FogHttpBenchmark.ProxyConnect.ProxyServer
import FogHttpBenchmark.Requests.Reports
import FogHttpBenchmark.Library.Interleaving
import FogHttpBenchmark.ProxyConnect.TunnelEnd
import FogHttpBenchmark.ProxyConnect.Relay
import FogHttpBenchmark.ProxyConnect.Transparency
import FogHttpBenchmark.Streaming.Delivery
