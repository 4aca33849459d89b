import OpenApiGateway.ExtAuthz.Helpers
import OpenApiGateway.Routing.VirtualHosts

/-!
# The policy route and the upstream route

The check service chooses a route by `matchRoute`; Envoy chooses an entry of the virtual
hosts generated from the same routes. Both generators are groupings of the routes by domain
set (`IsGrouping`), so that Envoy's choice is the first reader of the routing library on one
group (`selects_iff`), while `matchRoute` is its longest reader (`matchRoute_eq_longest`).
The comparison of the two readers then says for which configs the two choices agree, and for
which no request Envoy routes is left without a policy route.
-/

namespace OpenApiGateway
namespace Routing

open Lib.Text Lib.Fallible Lib.StableGrouping Lib.PrefixRouting Envoy ExtAuthz

/-! ## Groupings -/

section Grouping
variable {ε : Type}

/-- The routes with domain set `key`, in config order. -/
def routesOf (routes : List RouteConfig) (key : List String) : List RouteConfig :=
  routes.filter fun r => decide (r.domainKey = key)

/-- `vhosts` holds one virtual host per domain set of `routes`, with the entries of the
routes that have it, in config order. -/
structure IsGrouping (entry : RouteConfig → ε) (routes : List RouteConfig)
    (vhosts : List (VirtualHost ε)) : Prop where
  sound : ∀ vhost ∈ vhosts, ∃ r ∈ routes, (∀ d, d ∈ vhost.domains ↔ d ∈ r.hostnames) ∧
    vhost.routes = (routesOf routes r.domainKey).map entry
  complete : ∀ r ∈ routes, ∃ vhost ∈ vhosts, (∀ d, d ∈ vhost.domains ↔ d ∈ r.hostnames) ∧
    vhost.routes = (routesOf routes r.domainKey).map entry

/-- Equal domain keys have the same hostnames. -/
theorem mem_hostnames_congr {r s : RouteConfig} (h : r.domainKey = s.domainKey) (d : String) :
    d ∈ r.hostnames ↔ d ∈ s.hostnames := by
  rw [← RouteConfig.mem_domainKey, h, RouteConfig.mem_domainKey]

/-- A stable grouping by hostnames is a grouping by domain set. -/
theorem isGrouping_of_isStableGrouping {entry : RouteConfig → ε} {routes : List RouteConfig}
    {vhosts : List (VirtualHost ε)}
    (h : IsStableGrouping hostSet RouteConfig.name entry routes (vhosts.map (groupOf id))) :
    IsGrouping entry routes vhosts := by
  have hfibre : ∀ r, routes.filter (fun s => decide (hostSet s = hostSet r)) =
      routesOf routes r.domainKey := by
    intro r
    simp only [routesOf, domainKey_eq_iff]
  have hentries : ∀ vhost : VirtualHost ε, (groupOf id vhost).items = vhost.routes := fun vhost =>
    List.map_id vhost.routes
  refine ⟨?_, ?_⟩
  · intro vhost hvhost
    rcases h.exists_head (List.mem_map_of_mem hvhost) with ⟨r, hr, hkey, -, hitems⟩
    refine ⟨r, hr, fun d => (Multiset.coe_eq_coe.mp hkey).mem_iff.symm, ?_⟩
    rw [← hentries, hitems, hfibre]
  · intro r hr
    rcases h.exists_group hr with ⟨g, hg, hkey, hitems⟩
    rcases List.mem_map.mp hg with ⟨vhost, hvhost, rfl⟩
    refine ⟨vhost, hvhost, fun d => (Multiset.coe_eq_coe.mp hkey).mem_iff, ?_⟩
    rw [← hentries, hitems, hfibre]

/-- The static generator never panics, and groups the routes. -/
theorem static_isGrouping (entry : RouteConfig → ε) {routes : List RouteConfig}
    (hnodup : (routes.map RouteConfig.name).Nodup) :
    ∃ vhosts, EnvoyGen.buildVirtualHostsWith entry routes = some vhosts ∧
      IsGrouping entry routes vhosts := by
  have hid : ∀ r ∈ routes, id (entry r) = entry r := fun _ _ => rfl
  rcases static_isStableGrouping hnodup hid with ⟨vhosts, hvhosts, hgroups⟩
  exact ⟨vhosts, hvhosts, isGrouping_of_isStableGrouping hgroups⟩

/-- The xDS generator groups the routes. -/
theorem xds_isGrouping (entry : RouteConfig → ε) (routes : List RouteConfig) :
    IsGrouping entry routes (Xds.buildVirtualHostsWith entry routes) :=
  isGrouping_of_isStableGrouping (xds_isStableGrouping fun _ _ => rfl)

end Grouping

/-! ## The routing table of a config -/

/-- Envoy serves the host from the virtual host with these domains: one of them is best
among all domains of the config. -/
def Served (routes : List RouteConfig) (host : String) (domains : List String) : Prop :=
  ∃ d ∈ domains, isBest (routes.flatMap RouteConfig.hostnames) host d = true

theorem hostMatches_iff {host : String} {r : RouteConfig} :
    hostMatches host r = true ↔ "*" ∈ r.hostnames ∨ host ∈ r.hostnames := by
  simp only [hostMatches, List.any_eq_true, Bool.or_eq_true, beq_iff_eq]
  constructor
  · intro h
    rcases h with ⟨h', hmem, rfl | rfl⟩
    · exact Or.inl hmem
    · exact Or.inr hmem
  · intro h
    rcases h with h | h
    · exact ⟨"*", h, Or.inl rfl⟩
    · exact ⟨host, h, Or.inr rfl⟩

/-- The routes as a table for one host: admitted are those `matchRoute` lets pass, grouped
are those that share a virtual host. -/
def routeTable (routes : List RouteConfig) (host : String)
    (hnodup : (routes.map RouteConfig.name).Nodup) : Table RouteConfig Char (List String) where
  entries := routes
  text r := r.pathPrefix.toList
  size r := r.pathPrefix.utf8ByteSize
  admits := hostMatches host
  group := RouteConfig.domainKey
  nodup := List.Nodup.of_map _ hnodup
  size_le := utf8ByteSize_le_of_prefix
  text_eq := by
    intro a b hpre hsize
    rw [eq_of_prefix_of_utf8ByteSize_le hpre hsize]
  admits_eq := by
    intro a b hkey
    rw [Bool.eq_iff_iff, hostMatches_iff, hostMatches_iff, mem_hostnames_congr hkey,
      mem_hostnames_congr hkey]

section Table
variable {routes : List RouteConfig} {host path : String}
  (hnodup : (routes.map RouteConfig.name).Nodup)

theorem matchRoute_eq_longest :
    matchRoute routes host path = (routeTable routes host hnodup).longest path.toList := by
  unfold matchRoute Table.longest
  -- the source filters twice, by host and by path; the table filters once
  rw [List.filter_filter]
  congr 2
  funext r
  exact Bool.and_comm _ _

/-- The virtual hosts of a grouping have together the domains of the routes. -/
theorem mem_domains_iff {ε : Type} {entry : RouteConfig → ε} {vhosts : List (VirtualHost ε)}
    (hgroup : IsGrouping entry routes vhosts) (d : String) :
    d ∈ vhosts.flatMap VirtualHost.domains ↔ d ∈ routes.flatMap RouteConfig.hostnames := by
  simp only [List.mem_flatMap]
  constructor
  · intro h
    rcases h with ⟨vhost, hv, hd⟩
    rcases hgroup.sound vhost hv with ⟨r, hr, hiff, -⟩
    exact ⟨r, hr, (hiff d).mp hd⟩
  · intro h
    rcases h with ⟨r, hr, hd⟩
    rcases hgroup.complete r hr with ⟨vhost, hv, hiff, -⟩
    exact ⟨vhost, hv, (hiff d).mpr hd⟩

variable (host path) in
/-- Inside a virtual host Envoy reads the entries in config order. -/
theorem firstMatch_routesOf {ε : Type} {entry : RouteConfig → ε} {pathOf : ε → String}
    (hpath : ∀ r, pathOf (entry r) = r.pathPrefix) (key : List String) :
    firstMatch pathOf ((routesOf routes key).map entry) path =
      ((routeTable routes host hnodup).first key path.toList).map entry := by
  have hcomp : ((fun x => startsWith path (pathOf x)) ∘ entry) =
      fun r : RouteConfig => startsWith path r.pathPrefix := by
    funext r
    exact congrArg (startsWith path) (hpath r)
  rw [firstMatch, List.find?_map, hcomp, routesOf, List.find?_filter, Table.first]
  congr 2
  funext r
  rw [Bool.decide_and, Bool.decide_eq_true, Bool.decide_eq_true]
  rfl

variable (host path) in
/-- In a grouping, Envoy takes what the first reader finds in a served group. -/
theorem selects_iff {ε : Type} {entry : RouteConfig → ε} (pathOf : ε → String)
    {vhosts : List (VirtualHost ε)} (e : ε) (hpath : ∀ r, pathOf (entry r) = r.pathPrefix)
    (hgroup : IsGrouping entry routes vhosts) :
    Selects pathOf vhosts host path e ↔
      ∃ r, (∃ key, Served routes host key ∧
        (routeTable routes host hnodup).first key path.toList = some r) ∧ e = entry r := by
  have hfirst := firstMatch_routesOf host path hnodup hpath
  unfold Selects
  -- the best domain is the same for the virtual hosts and for the routes
  simp only [mem_servedBy, isBest_congr (mem_domains_iff hgroup)]
  constructor
  · intro h
    rcases h with ⟨vhost, ⟨hv, d, hd, hbest⟩, he⟩
    rcases hgroup.sound vhost hv with ⟨r, -, hiff, hentries⟩
    rw [hentries, hfirst, Option.map_eq_some_iff] at he
    rcases he with ⟨s, hs, hse⟩
    have hserved : Served routes host r.domainKey :=
      ⟨d, RouteConfig.mem_domainKey.mpr ((hiff d).mp hd), hbest⟩
    exact ⟨s, ⟨r.domainKey, hserved, hs⟩, hse.symm⟩
  · intro h
    rcases h with ⟨s, ⟨key, ⟨d, hd, hbest⟩, hs⟩, hse⟩
    rcases Table.first_spec hs with ⟨hsmem, rfl, -⟩
    rcases hgroup.complete s hsmem with ⟨vhost, hv, hiff, hentries⟩
    refine ⟨vhost, ⟨hv, d, (hiff d).mpr (RouteConfig.mem_domainKey.mp hd), hbest⟩, ?_⟩
    rw [hentries, hfirst, Option.map_eq_some_iff]
    exact ⟨s, hs, hse.symm⟩

variable (host path) in
/-- The same with each entry paired with its route. -/
theorem selects_pair_iff {ε : Type} {entry : RouteConfig → ε} (pathOf : ε → String)
    {vhosts : List (VirtualHost (RouteConfig × ε))} (r : RouteConfig) (e : ε)
    (hpath : ∀ r, pathOf (entry r) = r.pathPrefix)
    (hgroup : IsGrouping (fun s => (s, entry s)) routes vhosts) :
    Selects (fun x => pathOf x.2) vhosts host path (r, e) ↔
      (∃ key, Served routes host key ∧
        (routeTable routes host hnodup).first key path.toList = some r) ∧ e = entry r := by
  rw [selects_iff host path hnodup (fun x => pathOf x.2) (r, e) hpath hgroup]
  constructor
  · rintro ⟨s, hs, hse⟩
    rcases Prod.mk.inj hse with ⟨rfl, rfl⟩
    exact ⟨hs, rfl⟩
  · rintro ⟨hr, rfl⟩
    exact ⟨r, hr, rfl⟩

end Table

/-! ## The two choices compared

A generated entry does not name the route it came from, so the generators are run once more
with each entry paired with its route. `static_selects_iff` and `xds_selects_iff` say that
this changes nothing in what Envoy may take. -/

/-- Envoy, given the static virtual hosts, may take `e`, the entry generated from `r`. -/
def StaticSelects (routes : List RouteConfig) (host path : String) (r : RouteConfig)
    (e : EnvoyGen.RouteEntry) : Prop :=
  ∃ vhosts, EnvoyGen.buildVirtualHostsWith (fun s => (s, EnvoyGen.buildRouteEntry s)) routes =
      some vhosts ∧
    Selects (fun x => x.2.pathPrefix) vhosts host path (r, e)

/-- Envoy, given the xDS virtual hosts, may take `e`, the route generated from `r`. -/
def XdsSelects (routes : List RouteConfig) (host path : String) (r : RouteConfig)
    (e : Xds.Route) : Prop :=
  Selects (fun x => x.2.pathPrefix)
    (Xds.buildVirtualHostsWith (fun s => (s, Xds.buildRoute s)) routes) host path (r, e)

/-- Envoy may route the request to some entry, given the virtual hosts of either generator. -/
def EnvoyRoutes (routes : List RouteConfig) (host path : String) : Prop :=
  (∃ e vhosts, EnvoyGen.buildVirtualHosts routes = some vhosts ∧
    Selects EnvoyGen.RouteEntry.pathPrefix vhosts host path e) ∨
  ∃ e, Selects Xds.Route.pathPrefix (Xds.buildVirtualHosts routes) host path e

/-- The configs and hosts on which both choices agree. -/
structure RoutesAligned (routes : List RouteConfig) (host : String) : Prop where
  /-- Inside the virtual host that serves the host, a more specific prefix is listed first. -/
  specificFirst : ∀ a ∈ routes, ∀ b ∈ routes, Served routes host a.domainKey →
    hostMatches host a = true → a.domainKey = b.domainKey → a ≠ b →
    startsWith b.pathPrefix a.pathPrefix = true → Before routes b a
  /-- A route of another virtual host that lists the host or `*` is more specific only where
  the serving one lists the very same prefix, later in the config. -/
  outsideShorter : ∀ a ∈ routes, ∀ b ∈ routes, Served routes host a.domainKey →
    hostMatches host a = true → hostMatches host b = true → a.domainKey ≠ b.domainKey →
    startsWith b.pathPrefix a.pathPrefix = true →
    ∃ c ∈ routes, c.domainKey = a.domainKey ∧ c.pathPrefix = b.pathPrefix ∧ Before routes b c
  /-- Where the serving virtual host does not list the host or `*` literally, its prefixes
  are not comparable with those of a route that does. -/
  foreignApart : ∀ a ∈ routes, ∀ b ∈ routes, Served routes host a.domainKey →
    hostMatches host a = false → hostMatches host b = true →
    startsWith b.pathPrefix a.pathPrefix = false ∧ startsWith a.pathPrefix b.pathPrefix = false

/-- Every route Envoy may serve the host from is covered by a route that lists the host, byte
for byte, or `*`, under the same or a shorter prefix. -/
def RoutesCovered (routes : List RouteConfig) (host : String) : Prop :=
  ∀ a ∈ routes, Served routes host a.domainKey →
    ∃ b ∈ routes, hostMatches host b = true ∧ startsWith a.pathPrefix b.pathPrefix = true

section Comparison
variable {routes : List RouteConfig} {host path : String}
  (hnodup : (routes.map RouteConfig.name).Nodup)

theorem routesAligned_iff :
    RoutesAligned routes host ↔ (routeTable routes host hnodup).Aligned (Served routes host) := by
  have hpre : ∀ a b : RouteConfig, startsWith b.pathPrefix a.pathPrefix = true ↔
      a.pathPrefix.toList <+: b.pathPrefix.toList := fun a b => startsWith_iff
  constructor
  · intro h
    refine ⟨?_, ?_, ?_⟩
    · intro a ha b hb hs hadm hg hne hab
      exact h.specificFirst a ha b hb hs hadm hg hne ((hpre a b).mpr hab)
    · intro a ha b hb hs hadm hbadm hg hab
      rcases h.outsideShorter a ha b hb hs hadm hbadm hg ((hpre a b).mpr hab)
        with ⟨c, hc, hcg, hct, hbefore⟩
      exact ⟨c, hc, hcg, congrArg String.toList hct, hbefore⟩
    · intro a ha b hb hs hadm hbadm
      rcases h.foreignApart a ha b hb hs hadm hbadm with ⟨h₁, h₂⟩
      exact ⟨fun hab => by simp [(hpre a b).mpr hab] at h₁,
        fun hba => by simp [(hpre b a).mpr hba] at h₂⟩
  · intro h
    refine ⟨?_, ?_, ?_⟩
    · intro a ha b hb hs hadm hg hne hab
      exact h.specificFirst a ha b hb hs hadm hg hne ((hpre a b).mp hab)
    · intro a ha b hb hs hadm hbadm hg hab
      rcases h.outsideShorter a ha b hb hs hadm hbadm hg ((hpre a b).mp hab)
        with ⟨c, hc, hcg, hct, hbefore⟩
      exact ⟨c, hc, hcg, String.toList_inj.mp hct, hbefore⟩
    · intro a ha b hb hs hadm hbadm
      rcases h.foreignApart a ha b hb hs hadm hbadm with ⟨h₁, h₂⟩
      rw [← Bool.not_eq_true, ← Bool.not_eq_true, hpre, hpre]
      exact ⟨h₁, h₂⟩

theorem staticSelects_iff {r : RouteConfig} {e : EnvoyGen.RouteEntry} :
    StaticSelects routes host path r e ↔
      (∃ key, Served routes host key ∧
        (routeTable routes host hnodup).first key path.toList = some r) ∧
      e = EnvoyGen.buildRouteEntry r := by
  rcases static_isGrouping (fun s => (s, EnvoyGen.buildRouteEntry s)) hnodup
    with ⟨vhosts, hvhosts, hgroup⟩
  have hsel := selects_pair_iff host path hnodup EnvoyGen.RouteEntry.pathPrefix r e
    (fun _ => rfl) hgroup
  unfold StaticSelects
  rw [hvhosts]
  simp only [Option.some.injEq, exists_eq_left', hsel]

theorem xdsSelects_iff {r : RouteConfig} {e : Xds.Route} :
    XdsSelects routes host path r e ↔
      (∃ key, Served routes host key ∧
        (routeTable routes host hnodup).first key path.toList = some r) ∧
      e = Xds.buildRoute r := by
  unfold XdsSelects
  exact selects_pair_iff host path hnodup Xds.Route.pathPrefix r e (fun _ => rfl)
    (xds_isGrouping (fun s => (s, Xds.buildRoute s)) routes)

include hnodup in
/-- Pairing each entry with its route does not change which entries Envoy may take. -/
theorem static_selects_iff {e : EnvoyGen.RouteEntry} :
    (∃ vhosts, EnvoyGen.buildVirtualHosts routes = some vhosts ∧
      Selects EnvoyGen.RouteEntry.pathPrefix vhosts host path e) ↔
    ∃ r, StaticSelects routes host path r e := by
  rcases static_isGrouping EnvoyGen.buildRouteEntry hnodup with ⟨vhosts, hvhosts, hgroup⟩
  have hsel := selects_iff host path hnodup EnvoyGen.RouteEntry.pathPrefix e (fun _ => rfl) hgroup
  simp only [EnvoyGen.buildVirtualHosts, hvhosts, Option.some.injEq, exists_eq_left', hsel,
    staticSelects_iff hnodup]

include hnodup in
theorem xds_selects_iff {e : Xds.Route} :
    Selects Xds.Route.pathPrefix (Xds.buildVirtualHosts routes) host path e ↔
      ∃ r, XdsSelects routes host path r e := by
  have hsel := selects_iff host path hnodup Xds.Route.pathPrefix e (fun _ => rfl)
    (xds_isGrouping Xds.buildRoute routes)
  simp only [Xds.buildVirtualHosts, hsel, xdsSelects_iff hnodup]

/-- Envoy routes a request exactly when the first reader finds a route in a served group. -/
theorem envoyRoutes_iff :
    EnvoyRoutes routes host path ↔
      ∃ key r, Served routes host key ∧
        (routeTable routes host hnodup).first key path.toList = some r := by
  simp only [EnvoyRoutes, static_selects_iff hnodup, xds_selects_iff hnodup,
    staticSelects_iff hnodup, xdsSelects_iff hnodup]
  constructor
  · intro h
    rcases h with ⟨-, r, ⟨key, hk, hr⟩, -⟩ | ⟨-, r, ⟨key, hk, hr⟩, -⟩
    · exact ⟨key, r, hk, hr⟩
    · exact ⟨key, r, hk, hr⟩
  · intro h
    rcases h with ⟨key, r, hk, hr⟩
    exact Or.inl ⟨_, r, ⟨key, hk, hr⟩, rfl⟩

end Comparison

/-- For a validated config and a host, the entry Envoy takes is the one generated from the
policy route, on every path and for both generators, exactly on the aligned configs. -/
theorem upstream_route_eq_policy_route_iff {urlOk : String → Bool} {cfg : GatewayConfig}
    (hvalid : Validation.validate urlOk cfg = .ok ()) (host : String) :
    (∀ path r r', matchRoute cfg.routes host path = some r →
      ((∃ e, StaticSelects cfg.routes host path r' e) ∨
        ∃ e, XdsSelects cfg.routes host path r' e) → r' = r) ↔
      RoutesAligned cfg.routes host := by
  have hnodup := (Validation.validate_ok_iff.mp hvalid).routes_nodup
  rw [routesAligned_iff hnodup, ← Table.agree_iff]
  simp only [staticSelects_iff hnodup, xdsSelects_iff hnodup, matchRoute_eq_longest hnodup]
  constructor
  · intro h key p r r' hk hr hr'
    -- a path of the table is the text of some request path
    have hp : p = (String.ofList p).toList := String.toList_ofList.symm
    rw [hp] at hr hr'
    exact h _ r r' hr (Or.inl ⟨_, ⟨key, hk, hr'⟩, rfl⟩)
  · intro h path r r' hr hr'
    -- both generators give the same route
    have hfirst : ∃ key, Served cfg.routes host key ∧
        (routeTable cfg.routes host hnodup).first key path.toList = some r' := by
      rcases hr' with ⟨-, hfirst, -⟩ | ⟨-, hfirst, -⟩
      · exact hfirst
      · exact hfirst
    rcases hfirst with ⟨key, hk, hkr⟩
    exact h key _ r r' hk hr hkr

/-- Two nested prefixes on every host, the shorter one listed first. -/
def shorterFirst : GatewayConfig :=
  Validation.minimalConfig
    [Validation.minimalRoute "api" ["*"] "/api", Validation.minimalRoute "v2" ["*"] "/api/v2"]

theorem upstream_route_eq_policy_route_iff_shorterFirst :
    Validation.validate (fun _ => true) shorterFirst = .ok () ∧
      ((∀ path r r', matchRoute shorterFirst.routes "any.example.com" path = some r →
        ((∃ e, StaticSelects shorterFirst.routes "any.example.com" path r' e) ∨
          ∃ e, XdsSelects shorterFirst.routes "any.example.com" path r' e) → r' = r) ↔
        RoutesAligned shorterFirst.routes "any.example.com") := by
  have hvalid : Validation.validate (fun _ => true) shorterFirst = .ok () := by decide
  exact ⟨hvalid, upstream_route_eq_policy_route_iff hvalid "any.example.com"⟩

/-- The shorter prefix listed first shadows the longer one in Envoy, in both generators,
while the check service applies the policy of the longer one. -/
theorem upstream_route_ne_policy_route_shorterFirst :
    Validation.validate (fun _ => true) shorterFirst = .ok () ∧
      matchRoute shorterFirst.routes "any.example.com" "/api/v2/users" =
        some (Validation.minimalRoute "v2" ["*"] "/api/v2") ∧
      StaticSelects shorterFirst.routes "any.example.com" "/api/v2/users"
        (Validation.minimalRoute "api" ["*"] "/api")
        (EnvoyGen.buildRouteEntry (Validation.minimalRoute "api" ["*"] "/api")) ∧
      XdsSelects shorterFirst.routes "any.example.com" "/api/v2/users"
        (Validation.minimalRoute "api" ["*"] "/api")
        (Xds.buildRoute (Validation.minimalRoute "api" ["*"] "/api")) ∧
      Validation.minimalRoute "api" ["*"] "/api" ≠
        Validation.minimalRoute "v2" ["*"] "/api/v2" := by
  refine ⟨by decide, rfl, ⟨_, rfl, _, mem_servedBy.mpr ⟨List.mem_cons_self, "*", ?_, ?_⟩, rfl⟩,
    ⟨_, mem_servedBy.mpr ⟨List.mem_cons_self, "*", ?_, ?_⟩, rfl⟩, ?_⟩
  · decide
  · decide
  · decide
  · decide
  · intro heq
    exact absurd (congrArg RouteConfig.name heq) (by decide)

/-- For a validated config and a host, every request Envoy routes has a policy route,
exactly when the served routes are covered. -/
theorem routed_request_has_policy_route_iff {urlOk : String → Bool} {cfg : GatewayConfig}
    (hvalid : Validation.validate urlOk cfg = .ok ()) (host : String) :
    (∀ path, EnvoyRoutes cfg.routes host path →
      ∃ r, matchRoute cfg.routes host path = some r) ↔
      RoutesCovered cfg.routes host := by
  have hnodup := (Validation.validate_ok_iff.mp hvalid).routes_nodup
  have hcovered : RoutesCovered cfg.routes host ↔
      ∀ a ∈ cfg.routes, Served cfg.routes host a.domainKey →
        ∃ b ∈ cfg.routes, hostMatches host b = true ∧
          b.pathPrefix.toList <+: a.pathPrefix.toList := by
    simp only [RoutesCovered, startsWith_iff]
  rw [hcovered]
  refine Iff.trans ?_ (routeTable cfg.routes host hnodup).covered_iff
  simp only [envoyRoutes_iff hnodup, matchRoute_eq_longest hnodup]
  constructor
  · intro h key p r hk hr
    have hp : p = (String.ofList p).toList := String.toList_ofList.symm
    rw [hp] at hr ⊢
    exact h _ ⟨key, r, hk, hr⟩
  · intro h path hrouted
    rcases hrouted with ⟨key, r, hk, hr⟩
    exact h key _ r hk hr

/-- One route for one host name. -/
def singleHost : GatewayConfig :=
  Validation.minimalConfig [Validation.minimalRoute "api" ["api.example.com"] "/"]

theorem routed_request_has_policy_route_iff_singleHost :
    Validation.validate (fun _ => true) singleHost = .ok () ∧
      ((∀ path, EnvoyRoutes singleHost.routes "api.example.com" path →
        ∃ r, matchRoute singleHost.routes "api.example.com" path = some r) ↔
        RoutesCovered singleHost.routes "api.example.com") := by
  have hvalid : Validation.validate (fun _ => true) singleHost = .ok () := by decide
  exact ⟨hvalid, routed_request_has_policy_route_iff hvalid "api.example.com"⟩

/-- Envoy routes the host name in upper case, for which there is no policy route. -/
theorem routed_request_without_policy_route_singleHost :
    Validation.validate (fun _ => true) singleHost = .ok () ∧
      EnvoyRoutes singleHost.routes "API.example.com" "/orders" ∧
      matchRoute singleHost.routes "API.example.com" "/orders" = none := by
  refine ⟨by decide, Or.inl ⟨_, _, rfl, _, mem_servedBy.mpr ⟨List.mem_cons_self,
    "api.example.com", ?_, ?_⟩, rfl⟩, rfl⟩
  · decide
  · decide

end Routing
end OpenApiGateway
