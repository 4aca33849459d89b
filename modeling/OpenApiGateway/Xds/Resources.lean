import Mathlib.Data.List.AList
import OpenApiGateway.Config.EnvoyGen
import OpenApiGateway.Config.Validation
import OpenApiGateway.Lib.Fallible

/-!
# xDS resources and snapshots

`controlplane/src/xds/resources.rs`, `snapshot.rs` and the type URLs of `protocol.rs`: the
messages served over ADS, and the snapshot that holds them for one config version. The wire
encoding of a message belongs to `prost` and is the parameter `encode`.

The main result is `XdsSnapshot.build_ok`: for a config that passed validation a snapshot
can always be built, because validation and `parseEndpoint` split an address at the same
colon and ask the same of both sides.
-/

namespace OpenApiGateway
namespace Xds

open Lib.Text Lib.Fallible Lib.StableGrouping

/-! ## Messages -/

/-- xDS resource build failures. -/
inductive ResourceError where
  | invalidEndpoint (endpoint : String)
  | encode (message : String)
deriving DecidableEq

/-- The text of an error. -/
def ResourceError.display : ResourceError → String
  | invalidEndpoint endpoint => s!"invalid endpoint format '{endpoint}'"
  | encode message => s!"failed to encode xDS resource: {message}"

/-- An encoded message with the URL of its type. -/
structure Any where
  typeUrl : String
  value : List UInt8
deriving DecidableEq

/-- `google.protobuf.Duration`. -/
structure Duration where
  seconds : ℤ
  nanos : ℤ
deriving DecidableEq

/-- The address of an endpoint or of the listener. -/
structure SocketAddress where
  address : String
  portValue : ℕ
deriving DecidableEq

/-- When and how often a request is sent again. -/
structure RetryPolicy where
  retryOn : String
  numRetries : ℕ
deriving DecidableEq

/-- A route: its match and its action. -/
structure Route where
  pathPrefix : String
  cluster : String
  timeout : Duration
  retryPolicy : Option RetryPolicy
deriving DecidableEq

/-- `RouteConfiguration`: the virtual hosts, under the name the listener asks for. -/
structure RouteConfiguration where
  name : String
  virtualHosts : List (Envoy.VirtualHost Route)
deriving DecidableEq

/-- The endpoints of a cluster. -/
structure ClusterLoadAssignment where
  clusterName : String
  lbEndpoints : List SocketAddress
deriving DecidableEq

/-- The active health check of a cluster. -/
structure HealthCheck where
  timeout : Duration
  interval : Duration
  path : String
  unhealthyThreshold : ℕ
  healthyThreshold : ℕ
deriving DecidableEq

/-- `Cluster`: one for each service of the config. -/
structure Cluster where
  name : String
  type : String
  lbPolicy : String
  connectTimeout : Duration
  loadAssignment : ClusterLoadAssignment
  healthChecks : List HealthCheck
deriving DecidableEq

/-- A named filter with its encoded settings, of a listener or of the HTTP chain. -/
structure Filter where
  name : String
  typedConfig : Any
deriving DecidableEq

/-- The network filter that routes HTTP, with its own filters. -/
structure HttpConnectionManager where
  statPrefix : String
  generateRequestId : Bool
  idleTimeout : Duration
  routeConfigName : String
  configSource : String
  httpFilters : List Filter
deriving DecidableEq

/-- `Listener`, with the filters of its one chain. -/
structure Listener where
  name : String
  address : SocketAddress
  filters : List Filter
deriving DecidableEq

/-- The messages that are encoded. -/
inductive Message where
  | httpConnectionManager (m : HttpConnectionManager)
  | listener (m : Listener)
  | routeConfiguration (m : RouteConfiguration)
  | cluster (m : Cluster)
  | clusterLoadAssignment (m : ClusterLoadAssignment)
  | extAuthz (grpcService : String)
  | extProc (grpcService : String)
  | router
deriving DecidableEq

/-- The URLs of the four types that are served. -/
def clusterTypeUrl : String := "type.googleapis.com/envoy.config.cluster.v3.Cluster"
def endpointTypeUrl : String := "type.googleapis.com/envoy.config.endpoint.v3.ClusterLoadAssignment"
def listenerTypeUrl : String := "type.googleapis.com/envoy.config.listener.v3.Listener"
def routeTypeUrl : String := "type.googleapis.com/envoy.config.route.v3.RouteConfiguration"

/-- The URLs of the settings' types of the filters. -/
def httpConnectionManagerTypeUrl : String :=
  "type.googleapis.com/envoy.extensions.filters.network.http_connection_manager.v3." ++
    "HttpConnectionManager"
def extAuthzTypeUrl : String :=
  "type.googleapis.com/envoy.extensions.filters.http.ext_authz.v3.ExtAuthz"
def extProcTypeUrl : String :=
  "type.googleapis.com/envoy.extensions.filters.http.ext_proc.v3.ExtProc"
def routerTypeUrl : String := "type.googleapis.com/envoy.extensions.filters.http.router.v3.Router"

/-- Ordered ADS resource types for state-of-the-world pushes. -/
def typeUrlsInOrder : List String :=
  [clusterTypeUrl, endpointTypeUrl, listenerTypeUrl, routeTypeUrl]

/-! ## Building them -/

/-- The two casts are those of the source: to `i64` and to `i32`. -/
def duration (ms : ℕ) : Duration where
  seconds := Int.bmod (ms / 1000 : ℕ) (2 ^ 64)
  nanos := Int.bmod (ms % 1000 * 1000000 : ℕ) (2 ^ 32)

/-- Split `host:port` at the last colon. -/
def parseEndpoint (endpoint : String) : Except ResourceError (String × ℕ) :=
  match rfind ':' endpoint with
  | none => .error (.invalidEndpoint endpoint)
  | some idx =>
    let host := String.ofList (endpoint.toList.take idx)
    match parseU16 (String.ofList (endpoint.toList.drop (idx + 1))) with
    | none => .error (.invalidEndpoint endpoint)
    | some port =>
      if host = "" then .error (.invalidEndpoint endpoint) else .ok (host, port)

def socketAddress (endpoint : String × ℕ) : SocketAddress := ⟨endpoint.1, endpoint.2⟩

/-- The entry of a route; a retry policy only where there are retries. -/
def buildRoute (route : RouteConfig) : Route where
  pathPrefix := route.pathPrefix
  cluster := route.upstream.service
  timeout := duration route.upstream.requestTimeoutMs
  retryPolicy :=
    if 0 < route.upstream.retries then some ⟨"5xx,connect-failure", route.upstream.retries⟩
    else none

/-- Group the routes in two maps over the sorted hostnames, one for the entries and one for
the name of the first route, and read them out in key order. -/
def buildVirtualHostsWith {ε : Type} (entry : RouteConfig → ε) (routes : List RouteConfig) :
    List (Envoy.VirtualHost ε) :=
  let groups := treeGroups compare RouteConfig.domainKey entry routes
  let names := treeLabels compare RouteConfig.domainKey RouteConfig.name routes
  groups.toList.map fun (domains, entries) => ⟨names[domains]?.getD "vhost", domains, entries⟩

def buildVirtualHosts (routes : List RouteConfig) : List (Envoy.VirtualHost Route) :=
  buildVirtualHostsWith buildRoute routes

/-- The endpoints of a service, unless one of them is no `host:port`. -/
def buildClusterAssignment (service : ServiceConfig) :
    Except ResourceError ClusterLoadAssignment := do
  let endpoints ← service.endpoints.mapM parseEndpoint
  return ⟨service.name, endpoints.map socketAddress⟩

section Encoding
variable (encode : Message → Except String (List UInt8))

/-- Encode a message and put the URL of its type in front. -/
def packAny (typeUrl : String) (message : Message) : Except ResourceError Any :=
  match encode message with
  | .error e => .error (.encode e)
  | .ok value => .ok ⟨typeUrl, value⟩

/-- A filter of the HTTP chain, with the URL of its settings' type. -/
def httpFilter (name typeUrl : String) (message : Message) : Except ResourceError Filter := do
  return ⟨name, ← packAny encode typeUrl message⟩

/-- A filter that is in the chain only when it has an address to call. -/
def optionalFilter (name typeUrl : String) (message : String → Message) :
    Option String → Except ResourceError (List Filter)
  | some address => (httpFilter encode name typeUrl (message address)).map fun filter => [filter]
  | none => .ok []

/-- `ext_authz` and `ext_proc` where they are configured, and the router last. -/
def buildHttpFilters (config : GatewayConfig) : Except ResourceError (List Filter) := do
  let extAuthz ← optionalFilter encode "envoy.filters.http.ext_authz" extAuthzTypeUrl .extAuthz
    config.gateway.extauthzAddress
  let extProc ← optionalFilter encode "envoy.filters.http.ext_proc" extProcTypeUrl .extProc
    (if config.extProc.enabled then some config.extProc.listenAddress else none)
  let router ← httpFilter encode "envoy.filters.http.router" routerTypeUrl .router
  return extAuthz ++ extProc ++ [router]

/-- The one listener, whose connection manager asks for its routes over ADS. -/
def buildListener (config : GatewayConfig) : Except ResourceError Any := do
  let httpFilters ← buildHttpFilters encode config
  let address ← parseEndpoint config.gateway.listenAddress
  let hcm ← packAny encode httpConnectionManagerTypeUrl
    (.httpConnectionManager
      { statPrefix := "ingress_http"
        generateRequestId := true
        idleTimeout := duration config.gateway.idleTimeoutMs
        routeConfigName := "gateway-routes"
        configSource := "ads"
        httpFilters := httpFilters })
  packAny encode listenerTypeUrl
    (.listener
      { name := "main_listener"
        address := socketAddress address
        filters := [⟨"envoy.filters.network.http_connection_manager", hcm⟩] })

/-- The routes, under the name the listener asks for. -/
def buildRouteConfig (config : GatewayConfig) : Except ResourceError Any :=
  packAny encode routeTypeUrl
    (.routeConfiguration ⟨"gateway-routes", buildVirtualHosts config.routes⟩)

/-- The cluster of a service, with one health check. -/
def buildCluster (service : ServiceConfig) : Except ResourceError Any := do
  let assignment ← buildClusterAssignment service
  packAny encode clusterTypeUrl
    (.cluster
      { name := service.name
        type := "STRICT_DNS"
        lbPolicy := "ROUND_ROBIN"
        connectTimeout := duration service.healthCheck.timeoutMs
        loadAssignment := assignment
        healthChecks :=
          [{ timeout := duration service.healthCheck.timeoutMs
             interval := duration service.healthCheck.intervalMs
             path := service.healthCheck.path
             unhealthyThreshold := 3
             healthyThreshold := 1 }] })

def buildClusters (config : GatewayConfig) : Except ResourceError (List Any) :=
  config.services.mapM (buildCluster encode)

def buildEndpoints (config : GatewayConfig) : Except ResourceError (List Any) :=
  config.services.mapM fun service => do
    packAny encode endpointTypeUrl (.clusterLoadAssignment (← buildClusterAssignment service))

end Encoding

/-- Immutable set of xDS resources for one config version. -/
structure XdsSnapshot where
  version : ℕ
  nonce : String
  resources : AList fun _ : String => List Any
deriving DecidableEq

namespace XdsSnapshot

/-- All resources of a config; the first that cannot be built ends it. -/
def build (encode : Message → Except String (List UInt8)) (config : GatewayConfig)
    (version : ℕ) : Except ResourceError XdsSnapshot := do
  let clusters ← buildClusters encode config
  let endpoints ← buildEndpoints encode config
  let listener ← buildListener encode config
  let routes ← buildRouteConfig encode config
  return {
    version := version
    nonce := s!"snapshot-{version}"
    resources := (((AList.insert clusterTypeUrl clusters ∅).insert endpointTypeUrl endpoints).insert
      listenerTypeUrl [listener]).insert routeTypeUrl [routes] }

end XdsSnapshot

/-! ## A validated config always has a snapshot -/

/-- The parser accepts what validation calls an endpoint, with the same host and port. -/
theorem parseEndpoint_eq_ok_iff {value : String} {endpoint : String × ℕ} :
    parseEndpoint value = .ok endpoint ↔ Validation.IsEndpoint value endpoint := by
  rw [Validation.isEndpoint_iff, parseEndpoint]
  cases rfind ':' value with
  | none => simp
  | some i =>
    simp only [Option.some.injEq, exists_eq_left']
    by_cases hhost : String.ofList (value.toList.take i) = ""
    · cases parseU16 (String.ofList (value.toList.drop (i + 1))) with
      | none => simp [hhost]
      | some port => simp [hhost]
    · cases parseU16 (String.ofList (value.toList.drop (i + 1))) with
      | none => simp [hhost]
      | some port => simp [hhost, Prod.ext_iff, and_comm]

/-- What validation asks of an address is what the parser needs. -/
theorem parseEndpoint_ok {value : String} (h : Validation.HostPort value) :
    ∃ endpoint, parseEndpoint value = .ok endpoint := by
  rcases Validation.hostPort_iff.mp h with ⟨endpoint, hendpoint⟩
  exact ⟨endpoint, parseEndpoint_eq_ok_iff.mpr hendpoint⟩

/-- The endpoints of an accepted service can all be parsed. -/
theorem buildClusterAssignment_ok {service : ServiceConfig}
    (h : Validation.ServiceAccepted service) :
    ∃ assignment, buildClusterAssignment service = .ok assignment := by
  have hendpoints := mapM_ok fun ep hep => parseEndpoint_ok (h.endpoints_hostPort ep hep)
  exact bind_ok hendpoints fun _ => ⟨_, rfl⟩

section Encoding
variable {encode : Message → Except String (List UInt8)}
  (hencode : ∀ message, ∃ bytes, encode message = .ok bytes)
include hencode

theorem packAny_ok (typeUrl : String) (message : Message) :
    ∃ packed, packAny encode typeUrl message = .ok packed := by
  rcases hencode message with ⟨bytes, hbytes⟩
  refine ⟨⟨typeUrl, bytes⟩, ?_⟩
  unfold packAny
  rw [hbytes]

theorem httpFilter_ok (name typeUrl : String) (message : Message) :
    ∃ filter, httpFilter encode name typeUrl message = .ok filter :=
  bind_ok (packAny_ok hencode typeUrl message) fun _ => ⟨_, rfl⟩

theorem optionalFilter_ok (name typeUrl : String) (message : String → Message)
    (address : Option String) :
    ∃ filters, optionalFilter encode name typeUrl message address = .ok filters := by
  cases address with
  | none => exact ⟨[], rfl⟩
  | some address =>
    rcases httpFilter_ok hencode name typeUrl (message address) with ⟨filter, hfilter⟩
    refine ⟨[filter], ?_⟩
    rw [optionalFilter, hfilter]
    rfl

/-- The filters only need their messages to be encoded. -/
theorem buildHttpFilters_ok (config : GatewayConfig) :
    ∃ filters, buildHttpFilters encode config = .ok filters := by
  refine bind_ok (optionalFilter_ok hencode _ _ _ _) fun _ => ?_
  refine bind_ok (optionalFilter_ok hencode _ _ _ _) fun _ => ?_
  exact bind_ok (httpFilter_ok hencode _ _ _) fun _ => ⟨_, rfl⟩

/-- A listener can be built at every address that validation accepts. -/
theorem buildListener_ok {config : GatewayConfig}
    (h : Validation.HostPort config.gateway.listenAddress) :
    ∃ listener, buildListener encode config = .ok listener := by
  refine bind_ok (buildHttpFilters_ok hencode config) fun _ => ?_
  refine bind_ok (parseEndpoint_ok h) fun _ => ?_
  exact bind_ok (packAny_ok hencode _ _) fun _ => packAny_ok hencode _ _

/-- So can the clusters of accepted services. -/
theorem buildClusters_ok {config : GatewayConfig}
    (h : ∀ s ∈ config.services, Validation.ServiceAccepted s) :
    ∃ clusters, buildClusters encode config = .ok clusters :=
  mapM_ok fun service hservice =>
    bind_ok (buildClusterAssignment_ok (h service hservice)) fun _ => packAny_ok hencode _ _

theorem buildEndpoints_ok {config : GatewayConfig}
    (h : ∀ s ∈ config.services, Validation.ServiceAccepted s) :
    ∃ endpoints, buildEndpoints encode config = .ok endpoints :=
  mapM_ok fun service hservice =>
    bind_ok (buildClusterAssignment_ok (h service hservice)) fun _ => packAny_ok hencode _ _

/-- For a config that passed validation, building a snapshot never fails. -/
theorem XdsSnapshot.build_ok {urlOk : String → Bool} {config : GatewayConfig}
    (h : Validation.Accepted urlOk config) (version : ℕ) :
    ∃ snapshot, XdsSnapshot.build encode config version = .ok snapshot := by
  refine bind_ok (buildClusters_ok hencode h.services) fun _ => ?_
  refine bind_ok (buildEndpoints_ok hencode h.services) fun _ => ?_
  refine bind_ok (buildListener_ok hencode h.listenAddress) fun _ => ?_
  exact bind_ok (packAny_ok hencode _ _) fun _ => ⟨_, rfl⟩

end Encoding

end Xds
end OpenApiGateway
