import Mathlib.Data.List.Sort
import OpenApiGateway.Config.Types
import OpenApiGateway.Envoy.RouteSelection
import OpenApiGateway.Lib.StableGrouping

/-!
# The static Envoy configuration

`controlplane/src/config/envoy_gen.rs` and `envoy_ext_authz.rs`: the bootstrap config that is
written to a file at start. The YAML mappings the source builds are records here, with the
keys as field names; turning them into text is serde's and the parameter `render`.
-/

namespace OpenApiGateway

open Lib.Text Lib.StableGrouping

/-- The sorted hostnames of a route, under which routes are grouped into virtual hosts. -/
def RouteConfig.domainKey (route : RouteConfig) : List String :=
  route.hostnames.insertionSort (· ≤ ·)

theorem RouteConfig.mem_domainKey {route : RouteConfig} {host : String} :
    host ∈ route.domainKey ↔ host ∈ route.hostnames :=
  List.mem_insertionSort _

namespace EnvoyGen

/-! ## The generated records -/

/-- Errors from Envoy config generation. -/
inductive EnvoyGenError where
  | invalidEndpoint (endpoint : String)
  | serialization (message : String)
deriving DecidableEq

structure SocketAddress where
  address : String
  portValue : ℕ
deriving DecidableEq

structure RetryPolicy where
  retryOn : String
  numRetries : ℕ
deriving DecidableEq

/-- One entry of a virtual host: the matched prefix and the route action. -/
structure RouteEntry where
  pathPrefix : String
  cluster : String
  timeout : String
  retryPolicy : Option RetryPolicy
deriving DecidableEq

structure HealthCheck where
  timeout : String
  interval : String
  unhealthyThreshold : ℕ
  healthyThreshold : ℕ
  path : String
deriving DecidableEq

structure Cluster where
  name : String
  type : String
  lbPolicy : Option String
  connectTimeout : String
  loadAssignment : String
  lbEndpoints : List SocketAddress
  healthChecks : List HealthCheck
deriving DecidableEq

/-- A header name pattern of the ext_authz filter. -/
inductive HeaderPattern where
  | exact (name : String)
  | startingWith (start : String)
deriving DecidableEq

structure ExtAuthzFilter where
  uri : String
  cluster : String
  timeout : String
  allowedHeaders : List HeaderPattern
  allowedUpstreamHeaders : List HeaderPattern
  failureModeAllow : Bool
deriving DecidableEq

/-- The HTTP filters of the listener, in order. -/
inductive HttpFilter where
  | extAuthz (filter : ExtAuthzFilter)
  | router
deriving DecidableEq

structure Listener where
  address : SocketAddress
  idleTimeout : String
  virtualHosts : List (Envoy.VirtualHost RouteEntry)
  httpFilters : List HttpFilter
deriving DecidableEq

/-- The whole bootstrap config. -/
structure Bootstrap where
  listeners : List Listener
  clusters : List Cluster
  admin : SocketAddress
deriving DecidableEq

/-! ## Building them -/

/-- Three digits, with leading zeros. -/
def threeDigits (n : ℕ) : String :=
  if n < 10 then s!"00{n}" else if n < 100 then s!"0{n}" else s!"{n}"

/-- Convert milliseconds to an Envoy duration string. -/
def durationString (ms : ℕ) : String :=
  let secs := ms / 1000
  let frac := ms % 1000
  if frac = 0 then s!"{secs}s" else s!"{secs}." ++ threeDigits frac ++ "s"

/-- Parse a `host:port` endpoint string. -/
def parseEndpoint (endpoint : String) : Except EnvoyGenError (String × ℕ) :=
  match rfind ':' endpoint with
  | none => .error (.invalidEndpoint endpoint)
  | some colonPos =>
    let host := String.ofList (endpoint.toList.take colonPos)
    let portStr := String.ofList (endpoint.toList.drop (colonPos + 1))
    if host = "" then .error (.invalidEndpoint endpoint)
    else
      match parseU16 portStr with
      | none => .error (.invalidEndpoint endpoint)
      | some port => .ok (host, port)

def buildRouteEntry (route : RouteConfig) : RouteEntry where
  pathPrefix := route.pathPrefix
  cluster := route.upstream.service
  timeout := durationString route.upstream.requestTimeoutMs
  retryPolicy :=
    if 0 < route.upstream.retries then some ⟨"5xx,connect-failure", route.upstream.retries⟩
    else none

/-- Build virtual hosts from routes, one per distinct domain set, with `entry` for each
route's entry. The domains of a group are looked up again through the name of its first
route; `none` is the panic of that lookup. -/
def buildVirtualHostsWith {ε : Type} (entry : RouteConfig → ε) (routes : List RouteConfig) :
    Option (List (Envoy.VirtualHost ε)) :=
  (groupAll RouteConfig.domainKey RouteConfig.name entry routes).mapM fun group =>
    (routes.find? fun r => r.name == group.label).map fun matching =>
      ⟨group.label, matching.hostnames, group.items⟩

/-- Build virtual hosts from gateway routes, merging routes with identical domains. -/
def buildVirtualHosts (routes : List RouteConfig) :
    Option (List (Envoy.VirtualHost RouteEntry)) :=
  buildVirtualHostsWith buildRouteEntry routes

def buildHealthCheck (service : ServiceConfig) : HealthCheck where
  timeout := durationString service.healthCheck.timeoutMs
  interval := durationString service.healthCheck.intervalMs
  unhealthyThreshold := 3
  healthyThreshold := 1
  path := service.healthCheck.path

def buildSocketAddress (endpoint : String × ℕ) : SocketAddress := ⟨endpoint.1, endpoint.2⟩

def buildCluster (service : ServiceConfig) : Except EnvoyGenError Cluster := do
  let lbEndpoints ← service.endpoints.mapM parseEndpoint
  return {
    name := service.name
    type := "STRICT_DNS"
    lbPolicy := some "ROUND_ROBIN"
    connectTimeout := durationString service.healthCheck.timeoutMs
    loadAssignment := service.name
    lbEndpoints := lbEndpoints.map buildSocketAddress
    healthChecks := [buildHealthCheck service] }

def buildClusters (services : List ServiceConfig) : Except EnvoyGenError (List Cluster) :=
  services.mapM buildCluster

/-- The ext_authz HTTP filter referencing the gateway-manager cluster. -/
def buildExtAuthzFilter : ExtAuthzFilter where
  uri := "http://gateway_manager_extauthz"
  cluster := "gateway_manager_extauthz"
  timeout := "0.250s"
  allowedHeaders := [.exact "authorization", .exact "host", .startingWith "x-forwarded-"]
  allowedUpstreamHeaders := [.startingWith "x-auth-", .startingWith "x-ratelimit-"]
  failureModeAllow := false

/-- The cluster of the ext_authz service (gateway-manager). -/
def buildExtAuthzCluster (endpoint : String × ℕ) : Cluster where
  name := "gateway_manager_extauthz"
  type := "STATIC"
  lbPolicy := none
  connectTimeout := "0.250s"
  loadAssignment := "gateway_manager_extauthz"
  lbEndpoints := [buildSocketAddress endpoint]
  healthChecks := []

/-- Build the main listener; the outer `none` is the panic of `buildVirtualHosts`. -/
def buildListener (cfg : GatewayConfig) : Except EnvoyGenError (Option Listener) := do
  let address ← parseEndpoint cfg.gateway.listenAddress
  return (buildVirtualHosts cfg.routes).map fun virtualHosts =>
    { address := buildSocketAddress address
      idleTimeout := durationString cfg.gateway.idleTimeoutMs
      virtualHosts := virtualHosts
      httpFilters :=
        (if cfg.gateway.extauthzAddress.isSome then [.extAuthz buildExtAuthzFilter] else [])
          ++ [.router] }

/-- Generate a complete Envoy static bootstrap config from a gateway config. -/
def generateEnvoyConfig (render : Bootstrap → Except EnvoyGenError String)
    (cfg : GatewayConfig) : Except EnvoyGenError (Option String) := do
  match ← buildListener cfg with
  | none => return none
  | some listener =>
    let clusters ← buildClusters cfg.services
    let extAuthz ← match cfg.gateway.extauthzAddress with
      | some address => (parseEndpoint address).map fun endpoint => [buildExtAuthzCluster endpoint]
      | none => .ok []
    let text ← render
      { listeners := [listener], clusters := clusters ++ extAuthz, admin := ⟨"127.0.0.1", 9901⟩ }
    return some text

end EnvoyGen
end OpenApiGateway
