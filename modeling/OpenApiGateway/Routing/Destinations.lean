import OpenApiGateway.Config.Generation
import OpenApiGateway.Routing.Agreement
import OpenApiGateway.Xds.Peer

/-!
# Where a request goes

An Envoy is configured from the static file or over xDS. This module follows a request through
either: the listener it comes in on, the entry that is taken for it, and the endpoints of the
cluster the entry names (`StaticReaches`, `PeerReaches`). For xDS this is what the peer has read
from the bytes of the responses, by the `.proto` files of the repository; the field numbers in them
are not all those of Envoy's own files.

Both are characterised by one statement about the gateway config (`GoesTo`), and so a request has
the same destinations in both (`same_destinations`).
-/

namespace OpenApiGateway
namespace Routing

open Lib.Fallible Lib.StableGrouping Envoy

/-- What a request meets on its way: where it comes in, when an idle connection is closed, what
the entry says that is taken, and how the upstream is reached. -/
structure Destination where
  listen : String × ℕ
  idleTimeout : Option ℚ
  entry : RouteMeaning
  endpoints : List (String × ℕ)
  connectTimeout : Option ℚ

def staticDestination (listener : EnvoyGen.Listener) (entry : RouteMeaning)
    (cluster : EnvoyGen.Cluster) : Destination where
  listen := (listener.address.address, listener.address.portValue)
  idleTimeout := readSeconds listener.idleTimeout
  entry := entry
  endpoints := cluster.lbEndpoints.map fun e => (e.address, e.portValue)
  connectTimeout := readSeconds cluster.connectTimeout

def peerDestination (listener : Xds.PeerListener) (entry : RouteMeaning) (cluster : Xds.Cluster) :
    Destination where
  listen := (listener.address.address, listener.address.portValue)
  idleTimeout := some (seconds listener.idleTimeout)
  entry := entry
  endpoints := cluster.loadAssignment.lbEndpoints.map fun e => (e.address, e.portValue)
  connectTimeout := some (seconds cluster.connectTimeout)

/-- Envoy, started with the static config, may send the request there. -/
def StaticReaches (bootstrap : EnvoyGen.Bootstrap) (host path : String) (d : Destination) : Prop :=
  ∃ listener ∈ bootstrap.listeners, ∃ entry,
    Selects EnvoyGen.RouteEntry.pathPrefix listener.virtualHosts host path entry ∧
    ∃ cluster ∈ bootstrap.clusters, cluster.name = entry.cluster ∧
      d = staticDestination listener (staticMeaning entry) cluster

/-- Envoy, with what it has read over xDS, may send the request there. The routes are those the
listener names. -/
def PeerReaches (peer : Xds.PeerConfig) (host path : String) (d : Destination) : Prop :=
  ∃ listener ∈ peer.listeners, ∃ routes ∈ peer.routeConfigs,
    listener.routeConfigName = routes.name ∧ ∃ route,
    Selects Xds.Route.pathPrefix routes.virtualHosts host path route ∧
    ∃ cluster ∈ peer.clusters, cluster.name = route.cluster ∧
      d = peerDestination listener (xdsMeaning route) cluster

/-! ## What the config says -/

/-- What a request of this route meets, if the route's service is `service`. -/
structure Destination.Of (cfg : GatewayConfig) (r : RouteConfig) (service : ServiceConfig)
    (d : Destination) : Prop where
  listen : Validation.IsEndpoint cfg.gateway.listenAddress d.listen
  idleTimeout : d.idleTimeout = some (cfg.gateway.idleTimeoutMs / 1000 : ℚ)
  entry : d.entry = routeMeaning r
  endpoints : List.Forall₂ Validation.IsEndpoint service.endpoints d.endpoints
  connectTimeout : d.connectTimeout = some (service.healthCheck.timeoutMs / 1000 : ℚ)

theorem isEndpoint_unique {value : String} {a b : String × ℕ}
    (ha : Validation.IsEndpoint value a) (hb : Validation.IsEndpoint value b) : a = b := by
  have hfirst := EnvoyGen.parseEndpoint_eq_ok_iff.mpr ha
  have hsecond := EnvoyGen.parseEndpoint_eq_ok_iff.mpr hb
  rw [hfirst] at hsecond
  exact Except.ok.inj hsecond

theorem endpoints_unique {values : List String} {as bs : List (String × ℕ)}
    (ha : List.Forall₂ Validation.IsEndpoint values as)
    (hb : List.Forall₂ Validation.IsEndpoint values bs) : as = bs := by
  have hunique : Relator.RightUnique Validation.IsEndpoint := fun _ _ _ => isEndpoint_unique
  exact hunique.forall₂ ha hb

/-- Route and service determine the destination. -/
theorem Destination.Of.unique {cfg : GatewayConfig} {r : RouteConfig} {service : ServiceConfig}
    {d d' : Destination} (h : d.Of cfg r service) (h' : d'.Of cfg r service) : d = d' := by
  cases d
  cases d'
  simp only [Destination.mk.injEq]
  exact ⟨isEndpoint_unique h.listen h'.listen, h.idleTimeout.trans h'.idleTimeout.symm,
    h.entry.trans h'.entry.symm, endpoints_unique h.endpoints h'.endpoints,
    h.connectTimeout.trans h'.connectTimeout.symm⟩

/-! ## Entries by what they say -/

section Meaning
variable {ε μ : Type}

/-- A virtual host with its entries replaced. -/
def mapEntries (f : ε → μ) (vhost : VirtualHost ε) : VirtualHost μ :=
  ⟨vhost.name, vhost.domains, vhost.routes.map f⟩

/-- Envoy looks at nothing but the prefix of an entry. -/
theorem selects_mapEntries {f : ε → μ} {pathOf : ε → String} {pathOf' : μ → String}
    (hpath : ∀ e, pathOf' (f e) = pathOf e) (vhosts : List (VirtualHost ε)) (host path : String)
    (m : μ) :
    Selects pathOf' (vhosts.map (mapEntries f)) host path m ↔
      ∃ e, Selects pathOf vhosts host path e ∧ f e = m := by
  have hdomains : (vhosts.map (mapEntries f)).flatMap VirtualHost.domains =
      vhosts.flatMap VirtualHost.domains := by
    rw [List.flatMap_map]
    rfl
  have hfirst : ∀ vhost : VirtualHost ε, firstMatch pathOf' (mapEntries f vhost).routes path =
      (firstMatch pathOf vhost.routes path).map f := by
    intro vhost
    unfold firstMatch mapEntries
    rw [List.find?_map]
    congr 2
    funext e
    exact congrArg _ (hpath e)
  unfold Selects
  simp only [mem_servedBy, hdomains]
  constructor
  · rintro ⟨_, ⟨hmem, d, hd, hbest⟩, hm⟩
    obtain ⟨vhost, hvhost, rfl⟩ := List.mem_map.mp hmem
    rw [hfirst, Option.map_eq_some_iff] at hm
    obtain ⟨e, he, hem⟩ := hm
    exact ⟨e, ⟨vhost, ⟨hvhost, d, hd, hbest⟩, he⟩, hem⟩
  · rintro ⟨e, ⟨vhost, ⟨hvhost, d, hd, hbest⟩, he⟩, rfl⟩
    refine ⟨mapEntries f vhost, ⟨List.mem_map_of_mem hvhost, d, hd, hbest⟩, ?_⟩
    rw [hfirst, he]
    rfl

variable {routes : List RouteConfig} (hnodup : (routes.map RouteConfig.name).Nodup)

/-- Whatever generated the virtual hosts: if they are the stable grouping of what the routes say,
then what Envoy takes says what one of these routes says. -/
theorem exists_selects_iff {meaning : ε → RouteMeaning} {pathOf : ε → String}
    {vhosts : List (VirtualHost ε)} (hpath : ∀ e, (meaning e).pathPrefix = pathOf e)
    (hgroups : IsStableGrouping hostSet RouteConfig.name routeMeaning routes
      (vhosts.map (groupOf meaning))) (host path : String) (m : RouteMeaning) :
    (∃ e, Selects pathOf vhosts host path e ∧ meaning e = m) ↔
      ∃ r, (∃ key, Served routes host key ∧
        (routeTable routes host hnodup).first key path.toList = some r) ∧ m = routeMeaning r := by
  rw [← selects_mapEntries hpath]
  refine selects_iff host path hnodup RouteMeaning.pathPrefix m (fun _ => rfl) ?_
  refine isGrouping_of_isStableGrouping ?_
  have hgroup : ∀ vhost : VirtualHost ε, groupOf id (mapEntries meaning vhost) =
      groupOf meaning vhost := by
    intro vhost
    unfold groupOf mapEntries
    rw [List.map_id]
  rw [List.map_map]
  simpa only [Function.comp_def, hgroup] using hgroups

end Meaning

/-! ## The two ways -/

section Ways
variable {cfg : GatewayConfig} (hnodup : (cfg.routes.map RouteConfig.name).Nodup)

/-- The config sends the request there: by a route that is first in a domain set that serves the
host, to the service this route names. -/
def GoesTo (host path : String) (d : Destination) : Prop :=
  ∃ r service, (∃ key, Served cfg.routes host key ∧
      (routeTable cfg.routes host hnodup).first key path.toList = some r) ∧
    service ∈ cfg.services ∧ service.name = r.upstream.service ∧ d.Of cfg r service

/-- The entries say what the routes say and the clusters are those of the services: then requests
go where the config sends them. -/
theorem reaches_iff_goesTo {ε κ : Type} {meaning : ε → RouteMeaning} {pathOf : ε → String}
    {vhosts : List (VirtualHost ε)} (clusters : List κ) (nameOf : κ → String)
    (target : RouteMeaning → κ → Destination)
    (hpath : ∀ e, (meaning e).pathPrefix = pathOf e)
    (hgroups : IsStableGrouping hostSet RouteConfig.name routeMeaning cfg.routes
      (vhosts.map (groupOf meaning)))
    -- a cluster with the name of a service stands for it, and every service has one
    (hsound : ∀ c ∈ clusters, ∀ r ∈ cfg.routes, nameOf c = r.upstream.service →
      ∃ service ∈ cfg.services, service.name = nameOf c ∧
        (target (routeMeaning r) c).Of cfg r service)
    (hcomplete : ∀ service ∈ cfg.services, ∃ c ∈ clusters, nameOf c = service.name ∧
      ∀ r, (target (routeMeaning r) c).Of cfg r service)
    (host path : String) (d : Destination) :
    (∃ e, Selects pathOf vhosts host path e ∧
      ∃ c ∈ clusters, nameOf c = (meaning e).service ∧ d = target (meaning e) c) ↔
      GoesTo hnodup host path d := by
  have hselects := exists_selects_iff hnodup hpath hgroups host path
  constructor
  · rintro ⟨e, he, c, hc, hname, rfl⟩
    obtain ⟨r, hr, hmeaning⟩ := (hselects (meaning e)).mp ⟨e, he, rfl⟩
    obtain ⟨key, hserved, hfirst⟩ := hr
    have hmem : r ∈ cfg.routes := (Lib.PrefixRouting.Table.first_spec hfirst).1
    rw [hmeaning] at hname ⊢
    obtain ⟨service, hservice, hsname, hof⟩ := hsound c hc r hmem hname
    exact ⟨r, service, ⟨key, hserved, hfirst⟩, hservice, hsname.trans hname, hof⟩
  · rintro ⟨r, service, hr, hservice, hsname, hof⟩
    obtain ⟨e, he, hmeaning⟩ := (hselects (routeMeaning r)).mpr ⟨r, hr, rfl⟩
    obtain ⟨c, hc, hcname, hto⟩ := hcomplete service hservice
    refine ⟨e, he, c, hc, ?_, ?_⟩
    · rw [hmeaning, hcname, hsname]
      rfl
    · rw [hmeaning]
      exact hof.unique (hto r)

theorem seconds_of_isDuration {ms : ℕ} {t : Xds.Duration} (h : IsDuration ms t) :
    seconds t = ms / 1000 := by
  have htotal : (t.seconds : ℚ) * 10 ^ 9 + t.nanos = ms * 10 ^ 6 := by exact_mod_cast h.total
  unfold seconds
  linarith

/-- What the peer knows of a service is where requests for it go. -/
theorem of_describes {l : Xds.PeerListener} {c : Xds.Cluster} {service : ServiceConfig}
    (hl : Xds.DescribesListener cfg l) (hc : Xds.DescribesService service c) (r : RouteConfig) :
    (peerDestination l (routeMeaning r) c).Of cfg r service where
  listen := hl.address
  idleTimeout := congrArg some (seconds_of_isDuration hl.idleTimeout)
  entry := rfl
  endpoints := List.forall₂_map_right_iff.mpr hc.loadAssignment.lbEndpoints
  connectTimeout := congrArg some (seconds_of_isDuration hc.connectTimeout)

/-- With what it has read over xDS, Envoy sends a request where the config sends it. -/
theorem peerReaches_iff {peer : Xds.PeerConfig} (hpeer : peer.Describes cfg) (host path : String)
    (d : Destination) : PeerReaches peer host path d ↔ GoesTo hnodup host path d := by
  obtain ⟨l, routes, hlisteners, hroutes, hname, hl, hgroups⟩ := hpeer.listener
  have hreaches := reaches_iff_goesTo hnodup peer.clusters Xds.Cluster.name (peerDestination l)
    (fun _ => rfl) hgroups ?_ ?_ host path d
  · rw [← hreaches]
    unfold PeerReaches
    rw [hlisteners, hroutes]
    simp only [List.mem_singleton, exists_eq_left, hname, true_and]
    rfl
  · intro c hc r _ _
    obtain ⟨service, hservice, hdescribes⟩ := exists_left_of_forall₂ hpeer.clusters c hc
    exact ⟨service, hservice, hdescribes.name.symm, of_describes hl hdescribes r⟩
  · intro service hservice
    obtain ⟨c, hc, hdescribes⟩ := exists_right_of_forall₂ hpeer.clusters service hservice
    exact ⟨c, hc, hdescribes.name, of_describes hl hdescribes⟩

/-- A cluster of the static config, with the listener, is where requests for its service go. -/
theorem of_buildCluster {listener : EnvoyGen.Listener} {c : EnvoyGen.Cluster}
    {service : ServiceConfig} (hlistener : EnvoyGen.buildListener cfg = .ok (some listener))
    (hc : EnvoyGen.buildCluster service = .ok c) :
    c.name = service.name ∧
      ∀ r, (staticDestination listener (routeMeaning r) c).Of cfg r service := by
  obtain ⟨address, haddress, hrest⟩ := eq_ok_of_bind hlistener
  obtain ⟨vhosts, -, rfl⟩ := Option.map_eq_some_iff.mp (Except.ok.inj hrest)
  obtain ⟨endpoints, hendpoints, hcluster⟩ := eq_ok_of_bind hc
  obtain rfl := Except.ok.inj hcluster
  refine ⟨rfl, fun r => ?_⟩
  exact
    { listen := EnvoyGen.parseEndpoint_eq_ok_iff.mp haddress
      idleTimeout := readSeconds_durationString _
      entry := rfl
      endpoints := by
        rw [staticDestination, List.map_map, List.forall₂_map_right_iff]
        exact (mapM_eq_ok_iff.mp hendpoints).imp fun _ _ => EnvoyGen.parseEndpoint_eq_ok_iff.mp
      connectTimeout := readSeconds_durationString _ }

/-- Started with the static config, Envoy sends a request where the config sends it, unless a
service has the name of the cluster that the generator adds. -/
theorem staticReaches_iff {urlOk : String → Bool} (h : Validation.Accepted urlOk cfg)
    (hown : ∀ service ∈ cfg.services, service.name ≠ "gateway_manager_extauthz")
    {listener : EnvoyGen.Listener} {clusters own : List EnvoyGen.Cluster}
    (hlistener : EnvoyGen.buildListener cfg = .ok (some listener))
    (hclusters : EnvoyGen.buildClusters cfg.services = .ok clusters)
    (hothers : EnvoyGen.OwnClusters cfg own) (admin : EnvoyGen.SocketAddress) (host path : String)
    (d : Destination) :
    StaticReaches ⟨[listener], clusters ++ own, admin⟩ host path d ↔
      GoesTo hnodup host path d := by
  have heach := mapM_eq_ok_iff.mp hclusters
  have hgroups : IsStableGrouping hostSet RouteConfig.name routeMeaning cfg.routes
      (listener.virtualHosts.map (groupOf staticMeaning)) := by
    obtain ⟨vhosts, hvhosts, hgroups⟩ := static_isStableGrouping hnodup
      fun r _ => staticMeaning_buildRouteEntry r
    obtain ⟨address, -, hrest⟩ := eq_ok_of_bind hlistener
    obtain ⟨vhosts', hvhosts', rfl⟩ := Option.map_eq_some_iff.mp (Except.ok.inj hrest)
    obtain rfl := Option.some.inj (hvhosts.symm.trans hvhosts')
    exact hgroups
  have hreaches := reaches_iff_goesTo hnodup (clusters ++ own) EnvoyGen.Cluster.name
    (staticDestination listener) (fun _ => rfl) hgroups ?_ ?_ host path d
  · rw [← hreaches]
    unfold StaticReaches
    simp only [List.mem_singleton, exists_eq_left]
    rfl
  · intro c hc r hr hname
    obtain hc | hc := List.mem_append.mp hc
    · obtain ⟨service, hservice, hbuilt⟩ := exists_left_of_forall₂ heach c hc
      obtain ⟨hcname, hof⟩ := of_buildCluster hlistener hbuilt
      exact ⟨service, hservice, hcname.symm, hof r⟩
    · -- the added cluster is not one of a route
      obtain ⟨-, rfl⟩ | ⟨address, endpoint, -, -, rfl⟩ := hothers
      · cases hc
      · obtain ⟨service, hservice, hsname⟩ := List.mem_map.mp (h.routes r hr).service_mem
        obtain rfl := List.mem_singleton.mp hc
        exact absurd (hsname.trans hname.symm) (hown service hservice)
  · intro service hservice
    obtain ⟨c, hc, hbuilt⟩ := exists_right_of_forall₂ heach service hservice
    exact ⟨c, List.mem_append_left _ hc, of_buildCluster hlistener hbuilt⟩

end Ways

/-- For a validated config, a peer that has read the four responses of a snapshot from their bytes
has the same destinations for every request as one that was started with the static config. -/
theorem same_destinations {urlOk : String → Bool} {cfg : GatewayConfig}
    (hvalid : Validation.validate urlOk cfg = .ok ()) (hsized : Xds.Sized cfg)
    (hown : ∀ service ∈ cfg.services, service.name ≠ "gateway_manager_extauthz")
    {version : ℕ} {snapshot : Xds.XdsSnapshot}
    (hbuild : Xds.XdsSnapshot.build Xds.wireEncode cfg version = .ok snapshot)
    (hlength : ∀ response ∈ snapshot.orderedResponses,
      (Xds.discoveryResponseCodec.encode response).length < 2 ^ 64)
    (peer : Xds.PeerConfig) :
    ∃ bootstrap view,
      (∀ render, EnvoyGen.generateEnvoyConfig render cfg = (render bootstrap).map some) ∧
      (snapshot.orderedResponses.map Xds.discoveryResponseCodec.encode).foldlM Xds.receive peer =
        some view ∧
      ∀ host path d, StaticReaches bootstrap host path d ↔ PeerReaches view host path d := by
  have haccepted := Validation.validate_ok_iff.mp hvalid
  have hnodup := haccepted.routes_nodup
  obtain ⟨listener, clusters, own, hlistener, hclusters, hothers, hgenerate⟩ :=
    EnvoyGen.generateEnvoyConfig_spec haccepted
  obtain ⟨view, hview, hreceive⟩ := Xds.foldlM_receive_of_build hsized hbuild
  have htypes := (Xds.XdsSnapshot.complete_of_build hbuild).typeUrl_orderedResponses
  refine ⟨⟨[listener], clusters ++ own, ⟨"127.0.0.1", 9901⟩⟩, view, hgenerate, ?_, ?_⟩
  · rw [hreceive _ (fun _ => Xds.XdsSnapshot.responseFor_of_mem_orderedResponses) hlength peer,
      htypes, Xds.PeerConfig.update_of_subset (List.Subset.refl _)]
  · intro host path d
    rw [staticReaches_iff hnodup haccepted hown hlistener hclusters hothers,
      peerReaches_iff hnodup hview]

theorem same_destinations_calledOut :
    Validation.validate (fun _ => true) Xds.calledOut = .ok () ∧
      ∃ snapshot, Xds.XdsSnapshot.build Xds.wireEncode Xds.calledOut 1 = .ok snapshot ∧
        ∃ bootstrap view,
          (∀ render, EnvoyGen.generateEnvoyConfig render Xds.calledOut =
            (render bootstrap).map some) ∧
          (snapshot.orderedResponses.map Xds.discoveryResponseCodec.encode).foldlM Xds.receive {} =
            some view ∧
          ∀ host path d, StaticReaches bootstrap host path d ↔ PeerReaches view host path d := by
  have hvalid : Validation.validate (fun _ => true) Xds.calledOut = .ok () := by decide
  have hown : ∀ service ∈ Xds.calledOut.services, service.name ≠ "gateway_manager_extauthz" := by
    decide
  obtain ⟨snapshot, hbuild, hshort⟩ := Xds.build_calledOut
  exact ⟨hvalid, snapshot, hbuild,
    same_destinations hvalid Xds.sized_calledOut hown hbuild hshort {}⟩

end Routing
end OpenApiGateway
