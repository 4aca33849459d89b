import OpenApiGateway.Config.Generation

/-!
# The clusters of the static config

What the static config of `controlplane/src/config/envoy_gen.rs` names against what it defines:
the clusters of the services and, with an ext_authz address, the cluster of the gateway manager
itself. Validation makes the names of the services distinct and resolves the routes' references
to them, but it does not know the one name that the generator adds.
`static_config_closed_iff` says when the config is closed and unambiguous all the same.
-/

namespace OpenApiGateway
namespace EnvoyGen

open Lib.Fallible Lib.StableGrouping

/-- The name of the generator's own cluster. -/
def extAuthzClusterName : String := "gateway_manager_extauthz"

def Bootstrap.clusterNames (bootstrap : Bootstrap) : List String :=
  bootstrap.clusters.map Cluster.name

/-- No cluster name is used twice, every cluster that is named is defined, and the ext_authz
filter stands exactly with the cluster made from its address. -/
structure Closed (cfg : GatewayConfig) (bootstrap : Bootstrap) : Prop where
  distinct : bootstrap.clusterNames.Nodup
  routes : ∀ listener ∈ bootstrap.listeners, ∀ vhost ∈ listener.virtualHosts,
    ∀ entry ∈ vhost.routes, entry.cluster ∈ bootstrap.clusterNames
  filters : ∀ listener ∈ bootstrap.listeners, ∀ filter,
    HttpFilter.extAuthz filter ∈ listener.httpFilters → filter.cluster ∈ bootstrap.clusterNames
  present : (∃ listener ∈ bootstrap.listeners, ∃ filter,
      HttpFilter.extAuthz filter ∈ listener.httpFilters) ↔
    ∃ address endpoint, cfg.gateway.extauthzAddress = some address ∧
      parseEndpoint address = .ok endpoint ∧ buildExtAuthzCluster endpoint ∈ bootstrap.clusters

/-- No service has the name of the generator's own cluster, where that is generated. -/
def NameFree (cfg : GatewayConfig) : Prop :=
  cfg.gateway.extauthzAddress = none ∨ ∀ s ∈ cfg.services, s.name ≠ extAuthzClusterName

instance (cfg : GatewayConfig) : Decidable (NameFree cfg) :=
  inferInstanceAs (Decidable (_ ∨ _))

/-! ## What is generated -/

theorem name_of_buildCluster {s : ServiceConfig} {cluster : Cluster}
    (h : buildCluster s = .ok cluster) : cluster.name = s.name := by
  obtain ⟨endpoints, -, h⟩ := eq_ok_of_bind h
  rw [← Except.ok.inj h]

theorem names_of_buildClusters {services : List ServiceConfig} {clusters : List Cluster}
    (h : buildClusters services = .ok clusters) :
    clusters.map Cluster.name = services.map ServiceConfig.name :=
  map_of_mapM_ok (fun _ _ hcluster => name_of_buildCluster hcluster) h

/-- Every entry of a virtual host is the entry of a route. -/
theorem route_of_entry {routes : List RouteConfig}
    (hnodup : (routes.map RouteConfig.name).Nodup)
    {vhosts : List (Envoy.VirtualHost RouteEntry)} (h : buildVirtualHosts routes = some vhosts)
    {vhost : Envoy.VirtualHost RouteEntry} (hvhost : vhost ∈ vhosts) {entry : RouteEntry}
    (hentry : entry ∈ vhost.routes) : ∃ r ∈ routes, entry = buildRouteEntry r := by
  obtain ⟨built, hbuilt, hgroups⟩ := @Routing.static_isStableGrouping _ _ buildRouteEntry id
    buildRouteEntry routes hnodup fun _ _ => rfl
  have hsame : built = vhosts := Option.some.inj (hbuilt.symm.trans h)
  obtain ⟨r, -, -, -, hitems⟩ := hgroups.exists_head
    (List.mem_map_of_mem (f := Routing.groupOf id) (hsame ▸ hvhost))
  have hmem : entry ∈ (Routing.groupOf id vhost).items := by
    simpa [Routing.groupOf] using hentry
  rw [hitems] at hmem
  obtain ⟨s, hs, rfl⟩ := List.mem_map.mp hmem
  exact ⟨s, (List.mem_filter.mp hs).1, rfl⟩

/-- The listener's virtual hosts and filters. -/
theorem listener_of_buildListener {cfg : GatewayConfig} {listener : Listener}
    (h : buildListener cfg = .ok (some listener)) :
    buildVirtualHosts cfg.routes = some listener.virtualHosts ∧
      listener.httpFilters =
        (if cfg.gateway.extauthzAddress.isSome then [.extAuthz buildExtAuthzFilter] else [])
          ++ [.router] := by
  obtain ⟨address, -, h⟩ := eq_ok_of_bind h
  obtain ⟨vhosts, hvhosts, hlistener⟩ := Option.map_eq_some_iff.mp (Except.ok.inj h)
  rw [← hlistener]
  exact ⟨hvhosts, rfl⟩

/-- The filter is there exactly when its address is. -/
theorem mem_httpFilters_iff {cfg : GatewayConfig} {listener : Listener}
    (h : buildListener cfg = .ok (some listener)) (filter : ExtAuthzFilter) :
    HttpFilter.extAuthz filter ∈ listener.httpFilters ↔
      cfg.gateway.extauthzAddress ≠ none ∧ filter = buildExtAuthzFilter := by
  rw [(listener_of_buildListener h).2]
  cases cfg.gateway.extauthzAddress with
  | none => simp
  | some address => simp

/-! ## When it is closed -/

theorem names_of_ownClusters {cfg : GatewayConfig} {own : List Cluster} (h : OwnClusters cfg own) :
    own.map Cluster.name =
      if cfg.gateway.extauthzAddress = none then [] else [extAuthzClusterName] := by
  rcases h with ⟨haddress, rfl⟩ | ⟨address, endpoint, haddress, -, rfl⟩
  · rw [if_pos haddress]
    rfl
  · rw [if_neg (by simp [haddress])]
    rfl

/-- The names of all clusters are distinct exactly when the generator's own is free. -/
theorem nodup_names_iff {cfg : GatewayConfig} (h : (cfg.services.map ServiceConfig.name).Nodup)
    {own : List Cluster} (hown : OwnClusters cfg own) :
    (cfg.services.map ServiceConfig.name ++ own.map Cluster.name).Nodup ↔ NameFree cfg := by
  rw [names_of_ownClusters hown]
  unfold NameFree
  cases cfg.gateway.extauthzAddress with
  | none => simp [h]
  | some address => simp [List.nodup_append, h]

/-- The static config of a validated config is closed and unambiguous if and only if no service
has the name of the generator's own cluster. -/
theorem static_config_closed_iff (urlOk : String → Bool) (cfg : GatewayConfig)
    (hvalid : Validation.validate urlOk cfg = .ok ()) :
    ∃ bootstrap, (∀ render, generateEnvoyConfig render cfg = (render bootstrap).map some) ∧
      (Closed cfg bootstrap ↔ NameFree cfg) := by
  have haccepted := Validation.validate_ok_iff.mp hvalid
  obtain ⟨listener, clusters, own, hlistener, hclusters, hown, hgenerate⟩ :=
    generateEnvoyConfig_spec haccepted
  refine ⟨_, hgenerate, ?_⟩
  have hnames : Bootstrap.clusterNames ⟨[listener], clusters ++ own, ⟨"127.0.0.1", 9901⟩⟩ =
      cfg.services.map ServiceConfig.name ++ own.map Cluster.name := by
    rw [Bootstrap.clusterNames, List.map_append, names_of_buildClusters hclusters]
  have hdistinct := nodup_names_iff haccepted.services_nodup hown
  rw [← hnames] at hdistinct
  constructor
  · intro h
    exact hdistinct.mp h.distinct
  · intro hfree
    refine ⟨hdistinct.mpr hfree, ?_, ?_, ?_⟩
    · intro l hl vhost hvhost entry hentry
      rw [List.mem_singleton.mp hl] at hvhost
      obtain ⟨r, hr, rfl⟩ := route_of_entry haccepted.routes_nodup
        (listener_of_buildListener hlistener).1 hvhost hentry
      rw [hnames]
      exact List.mem_append_left _ (haccepted.routes r hr).service_mem
    · intro l hl filter hfilter
      rw [List.mem_singleton.mp hl, mem_httpFilters_iff hlistener] at hfilter
      rw [hnames, names_of_ownClusters hown, if_neg hfilter.1, hfilter.2]
      simp [buildExtAuthzFilter, extAuthzClusterName]
    · constructor
      · rintro ⟨l, hl, filter, hfilter⟩
        rw [List.mem_singleton.mp hl, mem_httpFilters_iff hlistener] at hfilter
        rcases hown with ⟨haddress, -⟩ | ⟨address, endpoint, haddress, hendpoint, rfl⟩
        · exact absurd haddress hfilter.1
        · exact ⟨address, endpoint, haddress, hendpoint, by simp⟩
      · rintro ⟨address, endpoint, haddress, -, -⟩
        refine ⟨listener, List.mem_singleton_self _, buildExtAuthzFilter, ?_⟩
        rw [mem_httpFilters_iff hlistener]
        exact ⟨by simp [haddress], rfl⟩

theorem static_config_closed_iff_guarded :
    Validation.validate (fun _ => true) guarded = .ok () ∧ NameFree guarded ∧
      ∃ bootstrap, (∀ render, generateEnvoyConfig render guarded = (render bootstrap).map some) ∧
        (Closed guarded bootstrap ↔ NameFree guarded) :=
  ⟨by decide, by decide, static_config_closed_iff (fun _ => true) guarded (by decide)⟩

/-- A service with the name of the generator's own cluster. -/
def homonymous : GatewayConfig :=
  { guarded with
    services := guarded.services ++
      [⟨"gateway_manager_extauthz", ["backend:81"], ⟨"/health", 1000, 500⟩⟩] }

/-- Such a config is valid, and two clusters of one name are generated. -/
theorem homonymous_cluster_twice :
    Validation.validate (fun _ => true) homonymous = .ok () ∧
      ∃ bootstrap, (∀ render, generateEnvoyConfig render homonymous =
          (render bootstrap).map some) ∧
        bootstrap.clusterNames =
          ["backend", "gateway_manager_extauthz", "gateway_manager_extauthz"] ∧
        ¬ Closed homonymous bootstrap := by
  have hvalid : Validation.validate (fun _ => true) homonymous = .ok () := by decide
  obtain ⟨listener, clusters, own, -, hclusters, hown, hgenerate⟩ :=
    generateEnvoyConfig_spec (Validation.validate_ok_iff.mp hvalid)
  have hnames : Bootstrap.clusterNames ⟨[listener], clusters ++ own, ⟨"127.0.0.1", 9901⟩⟩ =
      ["backend", "gateway_manager_extauthz", "gateway_manager_extauthz"] := by
    rw [Bootstrap.clusterNames, List.map_append, names_of_buildClusters hclusters,
      names_of_ownClusters hown]
    rfl
  refine ⟨hvalid, _, hgenerate, hnames, ?_⟩
  intro h
  have hdistinct := h.distinct
  rw [hnames] at hdistinct
  exact absurd hdistinct (by decide)

end EnvoyGen
end OpenApiGateway
