import OpenApiGateway.Lib.Text
import OpenApiGateway.Lib.Delimited
import OpenApiGateway.Lib.PrefixRouting
import OpenApiGateway.Lib.StableGrouping
import OpenApiGateway.Lib.StableSort
import OpenApiGateway.Lib.TransitionSystem
import OpenApiGateway.Lib.Fallible
import OpenApiGateway.Lib.KeyedLoop
import OpenApiGateway.Lib.KeyedCache
import OpenApiGateway.Lib.KeyedState
import OpenApiGateway.Lib.TokenBucket
import OpenApiGateway.Lib.Notify
import OpenApiGateway.Lib.WireFormat
import OpenApiGateway.Lib.Channel
import OpenApiGateway.Lib.Counters
import OpenApiGateway.Config.Types
import OpenApiGateway.Config.Validation
import OpenApiGateway.Config.Rules
import OpenApiGateway.Envoy.RouteSelection
import OpenApiGateway.Config.EnvoyGen
import OpenApiGateway.Xds.Resources
import OpenApiGateway.Routing.VirtualHosts
import OpenApiGateway.Config.Generation
import OpenApiGateway.Config.Closure
import OpenApiGateway.Auth.Validator
import OpenApiGateway.Auth.Registry
import OpenApiGateway.Auth.Lifecycle
import OpenApiGateway.Auth.Refresh
import OpenApiGateway.Auth.KeyDocument
import OpenApiGateway.RateLimit.Types
import OpenApiGateway.RateLimit.KeySpace
import OpenApiGateway.RateLimit.Arithmetic
import OpenApiGateway.RateLimit.Bucket
import OpenApiGateway.RateLimit.Lua
import OpenApiGateway.RateLimit.Limiter
import OpenApiGateway.RateLimit.Admission
import OpenApiGateway.RateLimit.Independence
import OpenApiGateway.RateLimit.Fallback
import OpenApiGateway.RateLimit.Equivalence
import OpenApiGateway.RateLimit.Waiting
import OpenApiGateway.RateLimit.Reply
import OpenApiGateway.RateLimit.Denial
import OpenApiGateway.RateLimit.Fleet
import OpenApiGateway.RateLimit.FleetAdmission
import OpenApiGateway.Plugins.Types
import OpenApiGateway.Plugins.Registry
import OpenApiGateway.Plugins.Chains
import OpenApiGateway.Plugins.Sdk
import OpenApiGateway.Plugins.Executor
import OpenApiGateway.Plugins.FailOpen
import OpenApiGateway.Plugins.Headers
import OpenApiGateway.Observability.Metrics
import OpenApiGateway.ExtAuthz.Http
import OpenApiGateway.ExtAuthz.Helpers
import OpenApiGateway.ExtAuthz.Handler
import OpenApiGateway.ExtAuthz.Mediation
import OpenApiGateway.ExtAuthz.HeaderOwnership
import OpenApiGateway.ExtAuthz.BucketKeys
import OpenApiGateway.ExtAuthz.ForwardedScopes
import OpenApiGateway.ExtAuthz.Pipeline
import OpenApiGateway.ExtAuthz.ForwardingHeaders
import OpenApiGateway.ExtAuthz.RetryAfter
import OpenApiGateway.ExtAuthz.GeneratedFilter
import OpenApiGateway.ExtAuthz.Accounting
import OpenApiGateway.ExtAuthz.Inflight
import OpenApiGateway.ExtAuthz.RequestFlow
import OpenApiGateway.ExtProc.Processor
import OpenApiGateway.ExtProc.Wire
import OpenApiGateway.ExtProc.Stream
import OpenApiGateway.Routing.Agreement
import OpenApiGateway.Routing.OrderIndependence
import OpenApiGateway.Admin.State
import OpenApiGateway.Admin.Startup
import OpenApiGateway.Plugins.Instances
import OpenApiGateway.Admin.Interleaving
import OpenApiGateway.Admin.Consistency
import OpenApiGateway.Admin.Convergence
import OpenApiGateway.Admin.KeyRegistry
import OpenApiGateway.Admin.DegradedSettings
import OpenApiGateway.Admin.ReloadHistory
import OpenApiGateway.Xds.Protocol
import OpenApiGateway.Xds.Exchange
import OpenApiGateway.Xds.Server
import OpenApiGateway.Xds.Registration
import OpenApiGateway.Xds.Versions
import OpenApiGateway.Xds.PeerStatus
import OpenApiGateway.Xds.Delivery
import OpenApiGateway.Xds.Provenance
import OpenApiGateway.Xds.Wire
import OpenApiGateway.Xds.Peer
import OpenApiGateway.Xds.PeerHistory
import OpenApiGateway.Xds.CatchUp
import OpenApiGateway.Routing.Destinations
import OpenApiGateway.Gateway.StaticPath
