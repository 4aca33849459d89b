import OpenApiGateway.Routing.Agreement

/-!
# The policy route and the order of the config

`matchRoute` takes, of the routes that match the host, one with the longest prefix of the path
(`longest_of_matchRoute`). Where several routes have that prefix it takes the last of them, so
its choice depends on the order in which the config lists them. `order_independent_iff` says for
which requests this happens, and for which configs it never does: nothing in validation keeps two
routes from having a hostname and a prefix in common.
-/

namespace OpenApiGateway
namespace Routing

open Lib.Text Lib.PrefixRouting ExtAuthz

/-! ## Candidates -/

/-- The route matches the host and the path starts with its prefix. -/
def Candidate (host path : String) (r : RouteConfig) : Prop :=
  hostMatches host r = true ∧ startsWith path r.pathPrefix = true

/-- A candidate with the longest prefix. -/
def IsLongest (routes : List RouteConfig) (host path : String) (r : RouteConfig) : Prop :=
  r ∈ routes ∧ Candidate host path r ∧
    ∀ c ∈ routes, Candidate host path c → c.pathPrefix.utf8ByteSize ≤ r.pathPrefix.utf8ByteSize

/-- The result is a candidate with the longest prefix, and absent only without candidates. -/
def IsLongestMatch (routes : List RouteConfig) (host path : String) (result : Option RouteConfig) :
    Prop :=
  (∀ r, result = some r → IsLongest routes host path r) ∧
    (result = none ↔ ∀ r ∈ routes, ¬ Candidate host path r)

section Match
variable {routes : List RouteConfig} {host path : String}

/-- The two filters of the source, as one. -/
def isCandidate (host path : String) (r : RouteConfig) : Bool :=
  startsWith path r.pathPrefix && hostMatches host r

theorem matchRoute_eq_maxByKey : matchRoute routes host path =
    maxByKey (fun r => r.pathPrefix.utf8ByteSize) (routes.filter (isCandidate host path)) := by
  rw [matchRoute, List.filter_filter]
  rfl

theorem isCandidate_iff {r : RouteConfig} :
    isCandidate host path r = true ↔ Candidate host path r := by
  rw [isCandidate, Bool.and_eq_true, and_comm]
  rfl

theorem isMaxKey_iff {r : RouteConfig} :
    IsMaxKey (fun r => r.pathPrefix.utf8ByteSize) (routes.filter (isCandidate host path)) r ↔
      IsLongest routes host path r := by
  simp only [IsMaxKey, IsLongest, List.mem_filter, isCandidate_iff, and_assoc, and_imp]

/-- What `matchRoute` returns is a longest match. -/
theorem longest_of_matchRoute :
    IsLongestMatch routes host path (matchRoute routes host path) := by
  rw [matchRoute_eq_maxByKey]
  refine ⟨fun r hr => isMaxKey_iff.mp (isMaxKey_of_maxByKey hr), ?_, ?_⟩
  · intro hnone r hr hcandidate
    have hempty := maxByKey_eq_none hnone
    have hmem : r ∈ routes.filter (isCandidate host path) :=
      List.mem_filter.mpr ⟨hr, isCandidate_iff.mpr hcandidate⟩
    rw [hempty] at hmem
    simp at hmem
  · intro hnone
    have hempty : routes.filter (isCandidate host path) = [] := by
      rw [List.filter_eq_nil_iff]
      exact fun r hr => mt isCandidate_iff.mp (hnone r hr)
    rw [hempty]
    rfl

end Match

/-! ## Ties -/

/-- In every order of the routes the request gets the same longest match. -/
def OrderFree (routes : List RouteConfig) (host path : String) : Prop :=
  ∀ routes' : List RouteConfig, routes'.Perm routes →
    matchRoute routes' host path = matchRoute routes host path ∧
      IsLongestMatch routes host path (matchRoute routes' host path)

/-- Only one route matches the host with the longest prefix of the path. -/
def NoTie (routes : List RouteConfig) (host path : String) : Prop :=
  ∀ a b, IsLongest routes host path a → IsLongest routes host path b → a = b

/-- Some host is matched by both routes: they share a hostname, or one of them has `*`. -/
def HostsOverlap (a b : RouteConfig) : Prop :=
  "*" ∈ a.hostnames ∨ "*" ∈ b.hostnames ∨ ∃ h ∈ a.hostnames, h ∈ b.hostnames

/-- Different routes of overlapping hosts have different prefixes. -/
def Unambiguous (routes : List RouteConfig) : Prop :=
  ∀ a ∈ routes, ∀ b ∈ routes, a ≠ b → HostsOverlap a b → a.pathPrefix ≠ b.pathPrefix

section Ties
variable {routes : List RouteConfig} {host path : String} {a b : RouteConfig}

theorem orderFree_iff : OrderFree routes host path ↔ NoTie routes host path := by
  have hiff := @maxByKey_perm_iff RouteConfig (fun r => r.pathPrefix.utf8ByteSize)
    (isCandidate host path) routes
  simp only [isMaxKey_iff, ← matchRoute_eq_maxByKey] at hiff
  rw [NoTie, ← hiff]
  -- that a longest match is returned holds in every order, so only the equality is left
  constructor
  · exact fun h routes' hperm => (h routes' hperm).1
  · intro h routes' hperm
    rw [h routes' hperm]
    exact ⟨rfl, longest_of_matchRoute⟩

theorem hostsOverlap_of_hostMatches (ha : hostMatches host a = true)
    (hb : hostMatches host b = true) : HostsOverlap a b := by
  rcases hostMatches_iff.mp ha with hstar | ha
  · exact Or.inl hstar
  · rcases hostMatches_iff.mp hb with hstar | hb
    · exact Or.inr (Or.inl hstar)
    · exact Or.inr (Or.inr ⟨host, ha, hb⟩)

theorem HostsOverlap.exists_host (h : HostsOverlap a b) (ha : a.hostnames ≠ [])
    (hb : b.hostnames ≠ []) :
    ∃ host, hostMatches host a = true ∧ hostMatches host b = true := by
  simp only [hostMatches_iff]
  rcases h with hstar | hstar | ⟨host, hmem, hmem'⟩
  -- beside a wildcard any hostname of the other route will do
  · obtain ⟨host, hhost⟩ := List.exists_mem_of_ne_nil _ hb
    exact ⟨host, Or.inl hstar, Or.inr hhost⟩
  · obtain ⟨host, hhost⟩ := List.exists_mem_of_ne_nil _ ha
    exact ⟨host, Or.inr hhost, Or.inl hstar⟩
  · exact ⟨host, Or.inr hmem, Or.inr hmem'⟩

/-- Two candidates of the same size have the same prefix. -/
theorem IsLongest.pathPrefix_eq (ha : IsLongest routes host path a)
    (hb : IsLongest routes host path b) : a.pathPrefix = b.pathPrefix := by
  obtain ⟨hmem, hcandidate, hmax⟩ := ha
  obtain ⟨hmem', hcandidate', hmax'⟩ := hb
  have hle := hmax b hmem' hcandidate'
  have hge := hmax' a hmem hcandidate
  have hprefix := startsWith_iff.mp hcandidate.2
  have hprefix' := startsWith_iff.mp hcandidate'.2
  -- of two prefixes of the path one is a prefix of the other, and they have the same size
  rcases List.prefix_or_prefix_of_prefix hprefix hprefix' with h | h
  · exact eq_of_prefix_of_utf8ByteSize_le h hle
  · exact (eq_of_prefix_of_utf8ByteSize_le h hge).symm

/-- A route that matches the host is a longest match on the path that is its prefix. -/
theorem isLongest_pathPrefix (hmem : a ∈ routes) (hhost : hostMatches host a = true) :
    IsLongest routes host a.pathPrefix a :=
  ⟨hmem, ⟨hhost, startsWith_self _⟩, fun _ _ hc =>
    utf8ByteSize_le_of_prefix (startsWith_iff.mp hc.2)⟩

theorem noTie_iff (hhosts : ∀ r ∈ routes, r.hostnames ≠ []) :
    (∀ host path, NoTie routes host path) ↔ Unambiguous routes := by
  constructor
  · intro h a ha b hb hne hoverlap hprefix
    obtain ⟨host, hhost, hhost'⟩ := hoverlap.exists_host (hhosts a ha) (hhosts b hb)
    -- on the path that is their prefix both are longest matches
    have hlongest := isLongest_pathPrefix hb hhost'
    rw [← hprefix] at hlongest
    exact hne (h host a.pathPrefix a b (isLongest_pathPrefix ha hhost) hlongest)
  · intro h host path a b ha hb
    by_contra hne
    have hoverlap := hostsOverlap_of_hostMatches ha.2.1.1 hb.2.1.1
    exact h a ha.1 b hb.1 hne hoverlap (ha.pathPrefix_eq hb)

end Ties

/-! ## The result -/

/-- The route of a request does not depend on the order of the config exactly where one route
only has the longest prefix, and no request's does exactly where routes of overlapping hosts
have different prefixes. -/
theorem order_independent_iff {urlOk : String → Bool} {cfg : GatewayConfig}
    (hvalid : Validation.validate urlOk cfg = .ok ()) :
    (∀ host path, OrderFree cfg.routes host path ↔ NoTie cfg.routes host path) ∧
      ((∀ host path, OrderFree cfg.routes host path) ↔ Unambiguous cfg.routes) := by
  have hvalid' := Validation.validate_ok_iff.mp hvalid
  have hhosts : ∀ r ∈ cfg.routes, r.hostnames ≠ [] := fun r hr =>
    (hvalid'.routes r hr).hostnames_ne
  refine ⟨fun host path => orderFree_iff, ?_⟩
  simp only [orderFree_iff]
  exact noTie_iff hhosts

/-- Two routes for every host and path. -/
def twoCatchAll : GatewayConfig :=
  Validation.minimalConfig
    [Validation.minimalRoute "first" ["*"] "/", Validation.minimalRoute "second" ["*"] "/"]

theorem order_independent_iff_twoCatchAll :
    Validation.validate (fun _ => true) twoCatchAll = .ok () ∧
      (∀ host path, OrderFree twoCatchAll.routes host path ↔ NoTie twoCatchAll.routes host path) ∧
      ((∀ host path, OrderFree twoCatchAll.routes host path) ↔
        Unambiguous twoCatchAll.routes) := by
  have hvalid : Validation.validate (fun _ => true) twoCatchAll = .ok () := by decide
  exact ⟨hvalid, order_independent_iff hvalid⟩

/-- Listing them the other way round changes the route of every request. -/
theorem route_depends_on_order :
    Validation.validate (fun _ => true) twoCatchAll = .ok () ∧
      twoCatchAll.routes.reverse.Perm twoCatchAll.routes ∧
      matchRoute twoCatchAll.routes "any.example.com" "/orders" =
        some (Validation.minimalRoute "second" ["*"] "/") ∧
      matchRoute twoCatchAll.routes.reverse "any.example.com" "/orders" =
        some (Validation.minimalRoute "first" ["*"] "/") ∧
      Validation.minimalRoute "second" ["*"] "/" ≠ Validation.minimalRoute "first" ["*"] "/" := by
  refine ⟨by decide, List.reverse_perm _, rfl, rfl, ?_⟩
  intro heq
  exact absurd (congrArg RouteConfig.name heq) (by decide)

end Routing
end OpenApiGateway
