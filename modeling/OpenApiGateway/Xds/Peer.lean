import OpenApiGateway.Xds.Wire

/-!
# What a peer makes of the responses

A peer that knows the `.proto` files of the repository, reading the bytes of discovery responses.
Responses are state of the world: each one replaces what the peer has of its type (`receive`).
`PeerConfig.Describes` says what the peer should know of a gateway config in the end.

The main result is `snapshot_reads_back`. Whatever a peer knew before, after the four responses of
a snapshot, in any order and with any repetitions, it knows the config the snapshot was built from.
-/

namespace OpenApiGateway
namespace Xds

open Lib.WireFormat Lib.Fallible Lib.StableGrouping Routing

/-! ## The peer -/

/-- A listener, with the settings of its filters read. -/
structure PeerListener where
  name : String
  address : SocketAddress
  statPrefix : String
  generateRequestId : Bool
  idleTimeout : Duration
  routeConfigName : String
  configSource : String
  httpFilters : List (String × Message)

/-- What the peer knows of each type. -/
structure PeerConfig where
  clusters : List Cluster := []
  assignments : List ClusterLoadAssignment := []
  listeners : List PeerListener := []
  routeConfigs : List RouteConfiguration := []

/-- A resource has to be of the type that is asked for. -/
def readCluster (any : Any) : Option Cluster :=
  match readAny any with
  | some (.cluster m) => some m
  | _ => none

def readAssignment (any : Any) : Option ClusterLoadAssignment :=
  match readAny any with
  | some (.clusterLoadAssignment m) => some m
  | _ => none

def readRouteConfig (any : Any) : Option RouteConfiguration :=
  match readAny any with
  | some (.routeConfiguration m) => some m
  | _ => none

def readManager (any : Any) : Option HttpConnectionManager :=
  match readAny any with
  | some (.httpConnectionManager m) => some m
  | _ => none

/-- A filter with its settings. -/
def readHttpFilter (filter : Filter) : Option (String × Message) := do
  return (filter.name, ← readAny filter.typedConfig)

/-- The network filter of the listener is the HTTP connection manager. -/
def openListener (listener : Listener) : Option PeerListener :=
  match listener.filters with
  | [filter] => do
    let manager ← readManager filter.typedConfig
    let httpFilters ← manager.httpFilters.mapM readHttpFilter
    return {
      name := listener.name
      address := listener.address
      statPrefix := manager.statPrefix
      generateRequestId := manager.generateRequestId
      idleTimeout := manager.idleTimeout
      routeConfigName := manager.routeConfigName
      configSource := manager.configSource
      httpFilters := httpFilters }
  | _ => none

def readListener (any : Any) : Option PeerListener :=
  match readAny any with
  | some (.listener m) => openListener m
  | _ => none

/-- A response replaces what the peer has of its type. -/
def PeerConfig.accept (peer : PeerConfig) (response : DiscoveryResponse) : Option PeerConfig :=
  if response.typeUrl = clusterTypeUrl then
    (response.resources.mapM readCluster).map fun clusters => { peer with clusters := clusters }
  else if response.typeUrl = endpointTypeUrl then
    (response.resources.mapM readAssignment).map fun assignments =>
      { peer with assignments := assignments }
  else if response.typeUrl = listenerTypeUrl then
    (response.resources.mapM readListener).map fun listeners => { peer with listeners := listeners }
  else if response.typeUrl = routeTypeUrl then
    (response.resources.mapM readRouteConfig).map fun routeConfigs =>
      { peer with routeConfigs := routeConfigs }
  else none

/-- Take in the bytes of one response. -/
def receive (peer : PeerConfig) (bytes : List UInt8) : Option PeerConfig :=
  (discoveryResponseCodec.decode bytes).bind peer.accept

/-! ## What it should know -/

/-- The numbers of a config are of the source's types: milliseconds are `u64`, retries `u32`. -/
structure Sized (config : GatewayConfig) : Prop where
  idleTimeoutMs : config.gateway.idleTimeoutMs < 2 ^ 64
  requestTimeoutMs : ∀ r ∈ config.routes, r.upstream.requestTimeoutMs < 2 ^ 64
  retries : ∀ r ∈ config.routes, r.upstream.retries < 2 ^ 32
  timeoutMs : ∀ s ∈ config.services, s.healthCheck.timeoutMs < 2 ^ 64
  intervalMs : ∀ s ∈ config.services, s.healthCheck.intervalMs < 2 ^ 64

/-- The text is of the form `host:port`, with this address. -/
def IsAddress (text : String) (address : SocketAddress) : Prop :=
  Validation.IsEndpoint text (address.address, address.portValue)

/-- The endpoints of the service, in order. -/
structure DescribesEndpoints (service : ServiceConfig) (a : ClusterLoadAssignment) : Prop where
  clusterName : a.clusterName = service.name
  lbEndpoints : List.Forall₂ IsAddress service.endpoints a.lbEndpoints

structure DescribesHealthCheck (check : HealthCheckConfig) (h : HealthCheck) : Prop where
  timeout : IsDuration check.timeoutMs h.timeout
  interval : IsDuration check.intervalMs h.interval
  path : h.path = check.path
  unhealthyThreshold : h.unhealthyThreshold = 3
  healthyThreshold : h.healthyThreshold = 1

/-- A cluster is what a service of the config asks for. -/
structure DescribesService (service : ServiceConfig) (c : Cluster) : Prop where
  name : c.name = service.name
  type : c.type = "STRICT_DNS"
  lbPolicy : c.lbPolicy = "ROUND_ROBIN"
  connectTimeout : IsDuration service.healthCheck.timeoutMs c.connectTimeout
  loadAssignment : DescribesEndpoints service c.loadAssignment
  healthChecks : ∃ h, c.healthChecks = [h] ∧ DescribesHealthCheck service.healthCheck h

/-- The HTTP filters of the listener, with whom they call. -/
def httpChain (config : GatewayConfig) : List (String × Message) :=
  (config.gateway.extauthzAddress.toList.map fun address =>
      ("envoy.filters.http.ext_authz", .extAuthz address)) ++
    (if config.extProc.enabled then
      [("envoy.filters.http.ext_proc", .extProc config.extProc.listenAddress)] else []) ++
    [("envoy.filters.http.router", .router)]

/-- The listener is at the configured address and has the configured filters. -/
structure DescribesListener (config : GatewayConfig) (l : PeerListener) : Prop where
  name : l.name = "main_listener"
  address : IsAddress config.gateway.listenAddress l.address
  statPrefix : l.statPrefix = "ingress_http"
  generateRequestId : l.generateRequestId = true
  idleTimeout : IsDuration config.gateway.idleTimeoutMs l.idleTimeout
  configSource : l.configSource = "ads"
  httpFilters : l.httpFilters = httpChain config

/-- One virtual host for each set of hostnames, with what its routes are to say in order. -/
def DescribesRoutes (config : GatewayConfig) (c : RouteConfiguration) : Prop :=
  IsStableGrouping hostSet RouteConfig.name routeMeaning config.routes
    (c.virtualHosts.map (groupOf xdsMeaning))

/-- The peer knows the services, the listener and the routes of the config, and the listener names
the routes the peer has. -/
structure PeerConfig.Describes (peer : PeerConfig) (config : GatewayConfig) : Prop where
  clusters : List.Forall₂ DescribesService config.services peer.clusters
  assignments : peer.assignments = peer.clusters.map Cluster.loadAssignment
  listener : ∃ l c, peer.listeners = [l] ∧ peer.routeConfigs = [c] ∧ l.routeConfigName = c.name ∧
    DescribesListener config l ∧ DescribesRoutes config c

/-! ## Reading what was packed -/

/-- A message under the URL of its type. -/
def pack (m : Message) : Any := ⟨m.typeUrl, encodeMessage m⟩

section Read
variable {any : Any}

/-- A packed message is read back. -/
theorem readAny_of_pack {m : Message} (h : m.InRange) (hany : any = pack m)
    (hlength : any.value.length < 2 ^ 64) : readAny any = some m := by
  subst hany
  exact readAny_pack h hlength

/-- What a cast to a signed number of `k + 1` bits can give. -/
theorem bmod_range (z : ℤ) (k n : ℕ) (hn : n = 2 ^ (k + 1)) :
    -2 ^ k ≤ Int.bmod z n ∧ Int.bmod z n < 2 ^ k := by
  have hpos : 0 < n := by rw [hn]; positivity
  have hlow := Int.le_bmod (x := z) hpos
  have hhigh := Int.bmod_lt (x := z) hpos
  have hpow : (n : ℤ) = 2 * 2 ^ k := by rw [hn]; push_cast; ring
  rw [hpow] at hlow hhigh
  omega

theorem inRange_bmod (y z : ℤ) :
    Duration.InRange ⟨Int.bmod y (2 ^ 64), Int.bmod z (2 ^ 32)⟩ :=
  ⟨bmod_range y 63 _ (by norm_num), bmod_range z 31 _ (by norm_num)⟩

/-- The casts of `duration` leave numbers that fit their fields. -/
theorem duration_inRange (ms : ℕ) : (duration ms).InRange := by
  unfold duration
  exact inRange_bmod _ _

theorem mapM_pack {α β : Type} {read : Any → Option β} {message : α → Message} {g : α → β}
    {as : List α} (hread : ∀ a ∈ as, read (pack (message a)) = some (g a)) :
    (as.map fun a => pack (message a)).mapM read = some (as.map g) := by
  induction as with
  | nil => rfl
  | cons a as ih =>
    rw [List.map_cons, List.mapM_cons, hread a List.mem_cons_self,
      ih fun b hb => hread b (List.mem_cons_of_mem _ hb)]
    rfl

end Read

/-! ## What was built -/

section Built
variable {config : GatewayConfig} {service : ServiceConfig} {any : Any}

theorem portValue_lt {text : String} {address : SocketAddress} (h : IsAddress text address) :
    address.portValue < 2 ^ 32 := by
  obtain ⟨port, -, hport, -⟩ := h
  unfold Lib.Text.parseU16 at hport
  simp only at hport
  split at hport
  · rename_i hdigits
    have heq := Option.some.inj hport
    have hlt := hdigits.2.2
    omega
  · cases hport

theorem isAddress_of_parseEndpoint {text : String} {endpoint : String × ℕ}
    (h : parseEndpoint text = .ok endpoint) : IsAddress text (socketAddress endpoint) :=
  parseEndpoint_eq_ok_iff.mp h

/-- The endpoints are those of the service, in order. -/
theorem describes_of_buildClusterAssignment {a : ClusterLoadAssignment}
    (h : buildClusterAssignment service = .ok a) : DescribesEndpoints service a := by
  obtain ⟨endpoints, hendpoints, ha⟩ := eq_ok_of_bind h
  obtain rfl := Except.ok.inj ha
  refine ⟨rfl, ?_⟩
  show List.Forall₂ IsAddress service.endpoints (endpoints.map socketAddress)
  rw [List.forall₂_map_right_iff]
  exact (mapM_eq_ok_iff.mp hendpoints).imp fun _ _ => isAddress_of_parseEndpoint

theorem DescribesEndpoints.portValue_lt {a : ClusterLoadAssignment}
    (h : DescribesEndpoints service a) : ∀ endpoint ∈ a.lbEndpoints, endpoint.portValue < 2 ^ 32 :=
  forall_mem_of_forall₂ (fun _ _ => Xds.portValue_lt) h.lbEndpoints

theorem describes_healthCheck {check : HealthCheckConfig} (htimeout : check.timeoutMs < 2 ^ 64)
    (hinterval : check.intervalMs < 2 ^ 64) :
    DescribesHealthCheck check
      ⟨duration check.timeoutMs, duration check.intervalMs, check.path, 3, 1⟩ where
  timeout := isDuration_duration htimeout
  interval := isDuration_duration hinterval
  path := rfl
  unhealthyThreshold := rfl
  healthyThreshold := rfl

/-- A packed cluster, with its endpoints. -/
theorem pack_of_buildCluster (htimeout : service.healthCheck.timeoutMs < 2 ^ 64)
    (hinterval : service.healthCheck.intervalMs < 2 ^ 64)
    (h : buildCluster wireEncode service = .ok any) :
    ∃ c, any = pack (.cluster c) ∧ DescribesService service c ∧ c.InRange ∧
      buildClusterAssignment service = .ok c.loadAssignment := by
  obtain ⟨assignment, hassignment, hany⟩ := eq_ok_of_bind h
  have hendpoints := describes_of_buildClusterAssignment hassignment
  refine ⟨_, (Except.ok.inj hany).symm, ?_, ?_, hassignment⟩
  · exact
      { name := rfl
        type := rfl
        lbPolicy := rfl
        connectTimeout := isDuration_duration htimeout
        loadAssignment := hendpoints
        healthChecks := ⟨_, rfl, describes_healthCheck htimeout hinterval⟩ }
  · refine ⟨duration_inRange _, hendpoints.portValue_lt, ?_⟩
    simp only [List.mem_singleton, forall_eq]
    exact ⟨duration_inRange _, duration_inRange _, by norm_num, by norm_num⟩

theorem packs_of_buildClusters (hsized : Sized config) {anys : List Any}
    (h : buildClusters wireEncode config = .ok anys) :
    ∃ clusters : List Cluster, anys = clusters.map (fun c => pack (.cluster c)) ∧
      List.Forall₂ (fun service c => DescribesService service c ∧ c.InRange ∧
        buildClusterAssignment service = .ok c.loadAssignment) config.services clusters :=
  map_of_mapM_ok_form (fun service hservice _ hany =>
    pack_of_buildCluster (hsized.timeoutMs service hservice) (hsized.intervalMs service hservice)
      hany) h

theorem packs_of_buildEndpoints {anys : List Any}
    (h : buildEndpoints wireEncode config = .ok anys) :
    ∃ assignments : List ClusterLoadAssignment,
      anys = assignments.map (fun a => pack (.clusterLoadAssignment a)) ∧
      List.Forall₂ (fun service a => buildClusterAssignment service = .ok a) config.services
        assignments := by
  refine map_of_mapM_ok_form (fun service _ any hany => ?_) h
  obtain ⟨assignment, hassignment, hpacked⟩ := eq_ok_of_bind hany
  exact ⟨assignment, (Except.ok.inj hpacked).symm, hassignment⟩

/-- A filter of the chain, packed. -/
def packFilter (filter : String × Message) : Filter := ⟨filter.1, pack filter.2⟩

/-- The filters are packed in the order of the chain. -/
theorem buildHttpFilters_eq (config : GatewayConfig) :
    buildHttpFilters wireEncode config = .ok ((httpChain config).map packFilter) := by
  unfold buildHttpFilters httpChain
  cases config.gateway.extauthzAddress with
  | none => cases config.extProc.enabled <;> rfl
  | some address => cases config.extProc.enabled <;> rfl

/-- A packed listener with one filter, the packed connection manager. -/
theorem pack_of_buildListener (h : buildListener wireEncode config = .ok any) :
    ∃ address manager,
      any = pack (.listener ⟨"main_listener", address,
        [⟨"envoy.filters.network.http_connection_manager",
          pack (.httpConnectionManager manager)⟩]⟩) ∧
      IsAddress config.gateway.listenAddress address ∧
      manager =
        { statPrefix := "ingress_http"
          generateRequestId := true
          idleTimeout := duration config.gateway.idleTimeoutMs
          routeConfigName := "gateway-routes"
          configSource := "ads"
          httpFilters := (httpChain config).map packFilter } := by
  obtain ⟨httpFilters, hfilters, h⟩ := eq_ok_of_bind h
  rw [buildHttpFilters_eq] at hfilters
  obtain rfl := Except.ok.inj hfilters
  obtain ⟨endpoint, hendpoint, h⟩ := eq_ok_of_bind h
  obtain ⟨hcm, hpacked, h⟩ := eq_ok_of_bind h
  obtain rfl := Except.ok.inj hpacked
  exact ⟨socketAddress endpoint, _, (Except.ok.inj h).symm, isAddress_of_parseEndpoint hendpoint,
    rfl⟩

/-- A packed route configuration. -/
theorem pack_of_buildRouteConfig (h : buildRouteConfig wireEncode config = .ok any) :
    any = pack (.routeConfiguration ⟨"gateway-routes", buildVirtualHosts config.routes⟩) :=
  (Except.ok.inj h).symm

theorem inRange_buildVirtualHosts (hsized : Sized config) :
    ∀ v ∈ buildVirtualHosts config.routes, ∀ r ∈ v.routes, r.InRange := by
  have hgroups : IsStableGrouping hostSet RouteConfig.name buildRoute config.routes
      ((buildVirtualHosts config.routes).map (groupOf id)) := xds_isStableGrouping fun _ _ => rfl
  intro v hv r hr
  obtain ⟨x, rest, hfibre, -, hitems⟩ := (hgroups.mem_iff _).mp (List.mem_map_of_mem hv)
  have hroutes : v.routes = (x :: rest).map buildRoute := by
    rw [← List.map_id v.routes]
    exact hitems
  rw [hroutes] at hr
  obtain ⟨route, hroute, rfl⟩ := List.mem_map.mp hr
  have hmem := (mem_of_fibre hfibre hroute).1
  refine ⟨duration_inRange _, ?_⟩
  intro policy hpolicy
  unfold buildRoute at hpolicy
  by_cases hretries : 0 < route.upstream.retries
  · simp only [hretries, if_true, Option.mem_def, Option.some.injEq] at hpolicy
    rw [← hpolicy]
    exact hsized.retries route hmem
  · simp [hretries] at hpolicy

theorem describesRoutes_buildVirtualHosts (hsized : Sized config) (name : String) :
    DescribesRoutes config ⟨name, buildVirtualHosts config.routes⟩ :=
  xds_isStableGrouping fun r hr => xdsMeaning_buildRoute (hsized.requestTimeoutMs r hr)

end Built

/-! ## Reading what was built -/

section ReadBack
variable {config : GatewayConfig}

theorem readCluster_pack {c : Cluster} (h : c.InRange)
    (hlength : (pack (.cluster c)).value.length < 2 ^ 64) :
    readCluster (pack (.cluster c)) = some c := by
  rw [readCluster, readAny_of_pack (m := .cluster c) h rfl hlength]

theorem readAssignment_pack {a : ClusterLoadAssignment}
    (h : ∀ endpoint ∈ a.lbEndpoints, endpoint.portValue < 2 ^ 32)
    (hlength : (pack (.clusterLoadAssignment a)).value.length < 2 ^ 64) :
    readAssignment (pack (.clusterLoadAssignment a)) = some a := by
  rw [readAssignment, readAny_of_pack (m := .clusterLoadAssignment a) h rfl hlength]

theorem readRouteConfig_pack {c : RouteConfiguration}
    (h : ∀ v ∈ c.virtualHosts, ∀ r ∈ v.routes, r.InRange)
    (hlength : (pack (.routeConfiguration c)).value.length < 2 ^ 64) :
    readRouteConfig (pack (.routeConfiguration c)) = some c := by
  rw [readRouteConfig, readAny_of_pack (m := .routeConfiguration c) h rfl hlength]

/-- The chain is read back from the packed filters. -/
theorem readHttpFilters_pack (hlength : ∀ filter ∈ httpChain config,
    (encodeMessage filter.2).length < 2 ^ 64) :
    ((httpChain config).map packFilter).mapM readHttpFilter = some (httpChain config) := by
  have hrange : ∀ filter ∈ httpChain config, filter.2.InRange := by
    intro filter hfilter
    simp only [httpChain, List.mem_append, List.mem_map, List.mem_singleton] at hfilter
    obtain (⟨address, -, rfl⟩ | hproc) | rfl := hfilter
    · trivial
    · split at hproc
      · rw [List.mem_singleton.mp hproc]
        trivial
      · cases hproc
    · trivial
  generalize httpChain config = chain at hlength hrange
  induction chain with
  | nil => rfl
  | cons filter chain ih =>
    rw [List.map_cons, List.mapM_cons, ih (fun f hf => hlength f (List.mem_cons_of_mem _ hf))
      (fun f hf => hrange f (List.mem_cons_of_mem _ hf))]
    have hread := readAny_pack (hrange filter List.mem_cons_self)
        (hlength filter List.mem_cons_self)
    have hfilter : readHttpFilter (packFilter filter) = some filter := by
      show (readAny ⟨filter.2.typeUrl, encodeMessage filter.2⟩).bind
        (fun m => some (filter.1, m)) = _
      rw [hread]
      rfl
    rw [hfilter]
    rfl

/-- The listener is read back through the two layers it is packed in. -/
theorem readListener_pack (hsized : Sized config) {any : Any}
    (h : buildListener wireEncode config = .ok any) :
    ∃ l, DescribesListener config l ∧ l.routeConfigName = "gateway-routes" ∧
      (any.value.length < 2 ^ 64 → readListener any = some l) := by
  obtain ⟨address, manager, hany, haddress, hmanager⟩ := pack_of_buildListener h
  refine ⟨⟨"main_listener", address, manager.statPrefix, manager.generateRequestId,
    manager.idleTimeout, manager.routeConfigName, manager.configSource, httpChain config⟩,
    ?_, ?_, ?_⟩
  · subst hmanager
    exact
      { name := rfl
        address := haddress
        statPrefix := rfl
        generateRequestId := rfl
        idleTimeout := isDuration_duration hsized.idleTimeoutMs
        configSource := rfl
        httpFilters := rfl }
  · rw [hmanager]
  · intro hlength
    have hlistener := readAny_of_pack (m := .listener _) (portValue_lt haddress) hany hlength
    -- what is packed inside is shorter
    have houter : (encodeMessage (.httpConnectionManager manager)).length < 2 ^ 64 := by
      rw [hany] at hlength
      exact (length_filter_le (List.mem_singleton.mpr rfl)).trans_lt hlength
    have hinner : ∀ filter ∈ httpChain config, (encodeMessage filter.2).length < 2 ^ 64 := by
      intro filter hfilter
      have hmem : packFilter filter ∈ manager.httpFilters := by
        rw [hmanager]
        exact List.mem_map_of_mem hfilter
      exact (length_httpFilter_le hmem).trans_lt houter
    have hidle : manager.idleTimeout.InRange := by
      rw [hmanager]
      exact duration_inRange _
    have hread : readManager (pack (.httpConnectionManager manager)) = some manager := by
      rw [readManager, readAny_of_pack (m := .httpConnectionManager manager) hidle rfl houter]
    have hfilters : manager.httpFilters.mapM readHttpFilter = some (httpChain config) := by
      rw [hmanager]
      exact readHttpFilters_pack hinner
    rw [readListener, hlistener]
    exact bind_eq_some hread (bind_eq_some hfilters rfl)

end ReadBack

/-! ## Receiving -/

namespace PeerConfig
variable {peer view : PeerConfig}

/-- What a peer knows after responses of these types that say what `view` says. -/
def update (peer view : PeerConfig) (types : List String) : PeerConfig where
  clusters := if clusterTypeUrl ∈ types then view.clusters else peer.clusters
  assignments := if endpointTypeUrl ∈ types then view.assignments else peer.assignments
  listeners := if listenerTypeUrl ∈ types then view.listeners else peer.listeners
  routeConfigs := if routeTypeUrl ∈ types then view.routeConfigs else peer.routeConfigs

/-- Updates of single types add up. -/
theorem update_cons (t : String) (types : List String) :
    (peer.update view [t]).update view types = peer.update view (t :: types) := by
  have hpart : ∀ {α : Type} (url : String) (new old : α),
      (if url ∈ types then new else if url ∈ [t] then new else old) =
        if url ∈ t :: types then new else old := by
    intro α url new old
    by_cases hurl : url ∈ types
    · simp [hurl]
    · simp [hurl]
  simp only [update, hpart]

/-- After updates of all types nothing is left of what was known before. -/
theorem update_of_subset {types : List String} (h : typeUrlsInOrder ⊆ types) :
    peer.update view types = view := by
  have hall : ∀ url ∈ typeUrlsInOrder, url ∈ types := fun url hurl => h hurl
  simp only [typeUrlsInOrder, List.forall_mem_cons] at hall
  obtain ⟨hcluster, hendpoint, hlistener, hroute, -⟩ := hall
  simp only [update, hcluster, hendpoint, hlistener, hroute, if_true]

end PeerConfig

/-- A response that is not too long is taken in as it was sent. -/
theorem receive_encode (peer : PeerConfig) {response : DiscoveryResponse}
    (hlength : (discoveryResponseCodec.encode response).length < 2 ^ 64) :
    receive peer (discoveryResponseCodec.encode response) = peer.accept response := by
  rw [receive, (lawful_discoveryResponse response).decode_encode hlength]
  rfl

section View
variable {config : GatewayConfig} {clusters : List Cluster}
  {assignments : List ClusterLoadAssignment}
  (hclusters : List.Forall₂ (fun service c => DescribesService service c ∧ c.InRange ∧
    buildClusterAssignment service = .ok c.loadAssignment) config.services clusters)
  (hassignments : List.Forall₂ (fun service a => buildClusterAssignment service = .ok a)
    config.services assignments)

include hclusters hassignments in
/-- Clusters and endpoints are read from the services in the same way. -/
theorem assignments_eq : assignments = clusters.map Cluster.loadAssignment := by
  have hfirst := mapM_eq_ok_iff.mpr hassignments
  have hsecond : config.services.mapM buildClusterAssignment =
      .ok (clusters.map Cluster.loadAssignment) := by
    rw [mapM_eq_ok_iff, List.forall₂_map_right_iff]
    exact hclusters.imp fun _ _ h => h.2.2
  rw [hfirst] at hsecond
  exact Except.ok.inj hsecond

include hclusters in
theorem readClusters_pack
    (hshort : ∀ any ∈ clusters.map (fun c => pack (.cluster c)), any.value.length < 2 ^ 64) :
    (clusters.map fun c => pack (.cluster c)).mapM readCluster = some clusters := by
  have hrange : ∀ c ∈ clusters, c.InRange := forall_mem_of_forall₂ (fun _ _ h => h.2.1) hclusters
  have hread := mapM_pack (g := id) fun c hc =>
    readCluster_pack (hrange c hc) (hshort _ (List.mem_map_of_mem hc))
  rwa [List.map_id] at hread

include hassignments in
theorem readAssignments_pack
    (hshort : ∀ any ∈ assignments.map (fun a => pack (.clusterLoadAssignment a)),
      any.value.length < 2 ^ 64) :
    (assignments.map fun a => pack (.clusterLoadAssignment a)).mapM readAssignment =
      some assignments := by
  have hports : ∀ a ∈ assignments, ∀ endpoint ∈ a.lbEndpoints, endpoint.portValue < 2 ^ 32 :=
    forall_mem_of_forall₂
      (fun _ _ h => (describes_of_buildClusterAssignment h).portValue_lt) hassignments
  have hread := mapM_pack (g := id) fun a ha =>
    readAssignment_pack (hports a ha) (hshort _ (List.mem_map_of_mem ha))
  rwa [List.map_id] at hread

end View

/-- A response of one of the four types replaces that part, if it can be read. -/
theorem accept_of_read (peer : PeerConfig) {view : PeerConfig} {response : DiscoveryResponse}
    (htype : response.typeUrl ∈ typeUrlsInOrder)
    (hclusters : response.typeUrl = clusterTypeUrl →
      response.resources.mapM readCluster = some view.clusters)
    (hassignments : response.typeUrl = endpointTypeUrl →
      response.resources.mapM readAssignment = some view.assignments)
    (hlisteners : response.typeUrl = listenerTypeUrl →
      response.resources.mapM readListener = some view.listeners)
    (hroutes : response.typeUrl = routeTypeUrl →
      response.resources.mapM readRouteConfig = some view.routeConfigs) :
    peer.accept response = some (peer.update view [response.typeUrl]) := by
  simp only [typeUrlsInOrder, List.mem_cons, List.not_mem_nil, or_false] at htype
  unfold PeerConfig.accept PeerConfig.update
  obtain h | h | h | h := htype
  · rw [hclusters h, h]
    simp [clusterTypeUrl, endpointTypeUrl, listenerTypeUrl, routeTypeUrl]
  · rw [hassignments h, h]
    simp [clusterTypeUrl, endpointTypeUrl, listenerTypeUrl, routeTypeUrl]
  · rw [hlisteners h, h]
    simp [clusterTypeUrl, endpointTypeUrl, listenerTypeUrl, routeTypeUrl]
  · rw [hroutes h, h]
    simp [clusterTypeUrl, endpointTypeUrl, listenerTypeUrl, routeTypeUrl]

/-- The responses of a snapshot say what the config it was built from says. -/
theorem view_of_build {config : GatewayConfig} {version : ℕ} {snapshot : XdsSnapshot}
    (hsized : Sized config) (hbuild : XdsSnapshot.build wireEncode config version = .ok snapshot) :
    ∃ view : PeerConfig, view.Describes config ∧
      ∀ typeUrl response, snapshot.responseFor typeUrl = some response →
        (discoveryResponseCodec.encode response).length < 2 ^ 64 →
        ∀ peer, receive peer (discoveryResponseCodec.encode response) =
          some (peer.update view [typeUrl]) := by
  have hcomplete := XdsSnapshot.complete_of_build hbuild
  -- the four builders, in the order of the source
  obtain ⟨clusterAnys, hclusterAnys, h⟩ := eq_ok_of_bind hbuild
  obtain ⟨endpointAnys, hendpointAnys, h⟩ := eq_ok_of_bind h
  obtain ⟨listenerAny, hlistenerAny, h⟩ := eq_ok_of_bind h
  obtain ⟨routeAny, hrouteAny, h⟩ := eq_ok_of_bind h
  obtain ⟨clusters, hclusterAnys, hclusters⟩ := packs_of_buildClusters hsized hclusterAnys
  obtain ⟨assignments, hendpointAnys, hassignments⟩ := packs_of_buildEndpoints hendpointAnys
  obtain ⟨l, hl, hname, hreadListener⟩ := readListener_pack hsized hlistenerAny
  have hrouteAny := pack_of_buildRouteConfig hrouteAny
  refine ⟨⟨clusters, assignments, [l], [⟨"gateway-routes", buildVirtualHosts config.routes⟩]⟩,
    ?_, ?_⟩
  · exact
      { clusters := hclusters.imp fun _ _ h => h.1
        assignments := assignments_eq hclusters hassignments
        listener := ⟨l, _, rfl, rfl, hname, hl, describesRoutes_buildVirtualHosts hsized _⟩ }
  · intro typeUrl response hresponse hlength peer
    have htype := XdsSnapshot.typeUrl_of_responseFor hresponse
    obtain ⟨resources, hresources, rfl⟩ := Option.map_eq_some_iff.mp hresponse
    have hshort : ∀ any ∈ resources, any.value.length < 2 ^ 64 := fun any hany =>
      (length_resource_le hany).trans_lt hlength
    have hmem : typeUrl ∈ typeUrlsInOrder :=
      (hcomplete typeUrl).mp (Option.isSome_iff_exists.mpr ⟨resources, hresources⟩)
    obtain rfl := Except.ok.inj h
    rw [receive_encode peer hlength]
    -- the response is one of four, and each type has its reader
    refine accept_of_read peer hmem ?_ ?_ ?_ ?_
    · rintro rfl
      obtain rfl : clusterAnys = resources := Option.some.inj hresources
      subst hclusterAnys
      exact readClusters_pack hclusters hshort
    · rintro rfl
      obtain rfl : endpointAnys = resources := Option.some.inj hresources
      subst hendpointAnys
      exact readAssignments_pack hassignments hshort
    · rintro rfl
      obtain rfl : [listenerAny] = resources := Option.some.inj hresources
      have hread := hreadListener (hshort _ List.mem_cons_self)
      exact bind_eq_some hread rfl
    · rintro rfl
      obtain rfl : [routeAny] = resources := Option.some.inj hresources
      have hread : readRouteConfig routeAny =
          some ⟨"gateway-routes", buildVirtualHosts config.routes⟩ := by
        have hlen := hshort _ List.mem_cons_self
        rw [hrouteAny] at hlen ⊢
        exact readRouteConfig_pack (inRange_buildVirtualHosts hsized) hlen
      exact bind_eq_some hread rfl

/-- Responses that say what `view` says, received one after the other. -/
theorem foldlM_receive {view : PeerConfig} {responses : List DiscoveryResponse}
    (h : ∀ response ∈ responses, ∀ peer, receive peer (discoveryResponseCodec.encode response) =
      some (peer.update view [response.typeUrl])) (peer : PeerConfig) :
    (responses.map discoveryResponseCodec.encode).foldlM receive peer =
      some (peer.update view (responses.map DiscoveryResponse.typeUrl)) := by
  induction responses generalizing peer with
  | nil => simp [PeerConfig.update]
  | cons response responses ih =>
    rw [List.map_cons, List.foldlM_cons, h response List.mem_cons_self peer]
    refine (ih (fun r hr => h r (List.mem_cons_of_mem _ hr)) _).trans ?_
    rw [PeerConfig.update_cons]
    rfl

/-- Any responses of a snapshot, received one after the other, bring their parts of the config. -/
theorem foldlM_receive_of_build {config : GatewayConfig} {version : ℕ} {snapshot : XdsSnapshot}
    (hsized : Sized config) (hbuild : XdsSnapshot.build wireEncode config version = .ok snapshot) :
    ∃ view : PeerConfig, view.Describes config ∧ ∀ responses : List DiscoveryResponse,
      (∀ response ∈ responses, ∃ typeUrl, snapshot.responseFor typeUrl = some response) →
      (∀ response ∈ responses, (discoveryResponseCodec.encode response).length < 2 ^ 64) →
      ∀ peer, (responses.map discoveryResponseCodec.encode).foldlM receive peer =
        some (peer.update view (responses.map DiscoveryResponse.typeUrl)) := by
  obtain ⟨view, hview, hreceive⟩ := view_of_build hsized hbuild
  refine ⟨view, hview, fun responses hresponses hlength peer => ?_⟩
  apply foldlM_receive
  intro response hresponse
  obtain ⟨typeUrl, htypeUrl⟩ := hresponses response hresponse
  rw [XdsSnapshot.typeUrl_of_responseFor htypeUrl]
  exact hreceive typeUrl response htypeUrl (hlength response hresponse)

/-- Whatever a peer knew, once it has read all four responses of a snapshot it knows the config
the snapshot was built from, whichever way the responses are ordered and repeated. -/
theorem snapshot_reads_back {config : GatewayConfig} {version : ℕ} {snapshot : XdsSnapshot}
    (hsized : Sized config) (hbuild : XdsSnapshot.build wireEncode config version = .ok snapshot)
    {responses : List DiscoveryResponse}
    (hresponses : ∀ response ∈ responses, ∃ typeUrl, snapshot.responseFor typeUrl = some response)
    (hall : typeUrlsInOrder ⊆ responses.map DiscoveryResponse.typeUrl)
    -- no message is longer than a length can say
    (hlength : ∀ response ∈ responses, (discoveryResponseCodec.encode response).length < 2 ^ 64)
    (peer : PeerConfig) :
    ∃ view, (responses.map discoveryResponseCodec.encode).foldlM receive peer = some view ∧
      view.Describes config := by
  obtain ⟨view, hview, hreceive⟩ := foldlM_receive_of_build hsized hbuild
  refine ⟨view, ?_, hview⟩
  rw [hreceive responses hresponses hlength peer, PeerConfig.update_of_subset hall]

/-- A config with both filters that call out. -/
def calledOut : GatewayConfig :=
  let config := Validation.minimalConfig [Validation.minimalRoute "api" ["*"] "/"]
  { config with
    gateway := { config.gateway with extauthzAddress := some "127.0.0.1:9000" }
    extProc := { config.extProc with enabled := true } }

def calledOutResponses : List DiscoveryResponse :=
  ((XdsSnapshot.build wireEncode calledOut 1).toOption.map XdsSnapshot.orderedResponses).getD []

/-- The numbers of the sample config fit their types. -/
theorem sized_calledOut : Sized calledOut := by
  constructor <;> decide

theorem build_calledOut :
    ∃ snapshot, XdsSnapshot.build wireEncode calledOut 1 = .ok snapshot ∧
      ∀ response ∈ snapshot.orderedResponses,
        (discoveryResponseCodec.encode response).length < 2 ^ 64 := by
  have hshort : ∀ response ∈ calledOutResponses,
      (discoveryResponseCodec.encode response).length < 2 ^ 64 := by decide +kernel
  have hok : (XdsSnapshot.build wireEncode calledOut 1).isOk = true := by decide +kernel
  unfold calledOutResponses at hshort
  cases hbuild : XdsSnapshot.build wireEncode calledOut 1 with
  | error e =>
    rw [hbuild] at hok
    cases hok
  | ok snapshot =>
    rw [hbuild] at hshort
    exact ⟨snapshot, rfl, hshort⟩

theorem snapshot_reads_back_calledOut :
    ∃ snapshot, XdsSnapshot.build wireEncode calledOut 1 = .ok snapshot ∧
      ∃ view, (snapshot.orderedResponses.map discoveryResponseCodec.encode).foldlM receive {} =
        some view ∧ view.Describes calledOut := by
  obtain ⟨snapshot, hbuild, hshort⟩ := build_calledOut
  have htypes := (XdsSnapshot.complete_of_build hbuild).typeUrl_orderedResponses
  exact ⟨snapshot, hbuild, snapshot_reads_back sized_calledOut hbuild
    (fun _ => XdsSnapshot.responseFor_of_mem_orderedResponses) (htypes ▸ List.Subset.refl _)
    hshort {}⟩

end Xds
end OpenApiGateway
