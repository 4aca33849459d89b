import Mathlib.Algebra.Order.Ring.Rat
import Mathlib.Data.List.TakeDrop
import Mathlib.Data.Multiset.Basic
import Mathlib.Tactic.Ring
import OpenApiGateway.Config.EnvoyGen
import OpenApiGateway.Config.Validation
import OpenApiGateway.Lib.Fallible
import OpenApiGateway.Xds.Resources

/-!
# The virtual hosts of both generators

The static generator scans a list of groups and looks the first route of each group up again by
its name; the xDS generator fills two ordered maps. Both are the stable grouping of the routes by
their hostnames, taken as a multiset (`static_isStableGrouping`, `xds_isStableGrouping`), and so
the same up to the order of virtual hosts and of domains.

What an entry means to Envoy is `RouteMeaning`, with the timeout as a number of seconds: the
static config writes it as a decimal text (`readSeconds`), xDS as seconds and nanoseconds.
-/

namespace OpenApiGateway
namespace Routing

open Lib.Text Lib.Fallible Lib.StableGrouping Envoy

/-! ## Timeouts -/

/-- Read a duration of a JSON or YAML config: decimal digits, perhaps a fraction, and `s`. -/
def readSeconds (text : String) : Option ℚ :=
  let (whole, rest) := text.toList.span Char.isDigit
  match whole, rest with
  | _ :: _, ['s'] => some (digitsValue whole)
  | _ :: _, '.' :: rest =>
    let (fraction, last) := rest.span Char.isDigit
    if fraction ≠ [] ∧ last = ['s'] then
      some (digitsValue whole + digitsValue fraction / 10 ^ fraction.length)
    else none
  | _, _ => none

theorem span_isDigit {digits rest : List Char} {c : Char}
    (hdigits : ∀ d ∈ digits, d.isDigit = true) (hc : c.isDigit = false) :
    (digits ++ c :: rest).span Char.isDigit = (digits, c :: rest) := by
  rw [List.span_eq_takeWhile_dropWhile, List.takeWhile_append_of_pos hdigits,
    List.dropWhile_append_of_pos hdigits, List.takeWhile_cons_of_neg (by simp [hc]),
    List.dropWhile_cons_of_neg (by simp [hc]), List.append_nil]

theorem toList_toString (n : ℕ) : (toString n).toList = Nat.toDigits 10 n := by
  rw [Nat.toString_eq_repr, Nat.toList_repr]

/-- Zeros fill the digits up to three. -/
theorem exists_toList_threeDigits {n : ℕ} (h : n < 1000) :
    ∃ k, (EnvoyGen.threeDigits n).toList = List.replicate k '0' ++ Nat.toDigits 10 n ∧
      k + (Nat.toDigits 10 n).length = 3 := by
  have hpos : 0 < (Nat.toDigits 10 n).length := Nat.length_toDigits_pos
  have hle : ∀ k, 0 < k → ((Nat.toDigits 10 n).length ≤ k ↔ n < 10 ^ k) := fun k hk =>
    Nat.length_toDigits_le_iff (by decide) hk
  have h1 := hle 1 (by decide)
  have h2 := hle 2 (by decide)
  have h3 := hle 3 (by decide)
  unfold EnvoyGen.threeDigits
  split
  · refine ⟨2, ?_, by omega⟩
    rw [String.toList_append, toList_toString]
    rfl
  · split
    · refine ⟨1, ?_, by omega⟩
      rw [String.toList_append, toList_toString]
      rfl
    · exact ⟨0, toList_toString n, by omega⟩

theorem toList_threeDigits {n : ℕ} (h : n < 1000) :
    (∀ d ∈ (EnvoyGen.threeDigits n).toList, d.isDigit = true) ∧
      (EnvoyGen.threeDigits n).toList.length = 3 ∧
      digitsValue (EnvoyGen.threeDigits n).toList = n := by
  obtain ⟨k, htext, hlength⟩ := exists_toList_threeDigits h
  rw [htext]
  refine ⟨?_, ?_, ?_⟩
  · intro d hd
    rcases List.mem_append.mp hd with hzero | hd
    · rw [List.eq_of_mem_replicate hzero]
      rfl
    · exact Nat.isDigit_of_mem_toDigits (by decide) (by decide) hd
  · rw [List.length_append, List.length_replicate, hlength]
  · rw [digitsValue_replicate_append, digitsValue_toDigits]

theorem readSeconds_durationString (ms : ℕ) :
    readSeconds (EnvoyGen.durationString ms) = some (ms / 1000 : ℚ) := by
  have hdigit : ∀ d ∈ Nat.toDigits 10 (ms / 1000), d.isDigit = true := fun d hd =>
    Nat.isDigit_of_mem_toDigits (by decide) (by decide) hd
  have hvalue := digitsValue_toDigits (ms / 1000)
  have hsplit : (ms : ℚ) = 1000 * (ms / 1000 : ℕ) + (ms % 1000 : ℕ) := by
    exact_mod_cast (Nat.div_add_mod ms 1000).symm
  obtain ⟨d, ds, hne⟩ := List.exists_cons_of_ne_nil (Nat.toDigits_ne_nil (n := ms / 1000) (b := 10))
  unfold EnvoyGen.durationString
  simp only
  split
  · rename_i hfrac
    have htext : (s!"{ms / 1000}s").toList = Nat.toDigits 10 (ms / 1000) ++ ['s'] := by
      rw [String.toList_append, toList_toString]
      rfl
    rw [readSeconds, htext, span_isDigit hdigit (by decide)]
    simp only [hne]
    rw [← hne, hvalue, hsplit, hfrac]
    simp
  · obtain ⟨hthree, hlength, hfraction⟩ := toList_threeDigits (Nat.mod_lt ms (by decide : 0 < 1000))
    have htext : (s!"{ms / 1000}." ++ EnvoyGen.threeDigits (ms % 1000) ++ "s").toList =
        Nat.toDigits 10 (ms / 1000) ++
          '.' :: ((EnvoyGen.threeDigits (ms % 1000)).toList ++ ['s']) := by
      rw [String.toList_append, String.toList_append, String.toList_append, toList_toString,
        List.append_assoc, List.append_assoc]
      rfl
    have hnonempty : (EnvoyGen.threeDigits (ms % 1000)).toList ≠ [] := by
      intro hnil
      rw [hnil] at hlength
      simp at hlength
    rw [readSeconds, htext, span_isDigit hdigit (by decide)]
    simp only [hne, span_isDigit hthree (by decide : 's'.isDigit = false)]
    rw [if_pos ⟨hnonempty, trivial⟩, ← hne, hvalue, hfraction, hlength, hsplit, Option.some.injEq]
    ring

/-- The duration as a number of seconds. -/
def seconds (d : Xds.Duration) : ℚ := d.seconds + d.nanos / 10 ^ 9

/-- Neither cast of `duration` overflows: a thousandth of a `u64` fits an `i64`. -/
theorem duration_eq {ms : ℕ} (h : ms < 2 ^ 64) :
    Xds.duration ms = ⟨(ms / 1000 : ℕ), (ms % 1000 * 1000000 : ℕ)⟩ := by
  have hseconds : Int.bmod (ms / 1000 : ℕ) (2 ^ 64) = (ms / 1000 : ℕ) := by
    apply Int.bmod_eq_of_le <;> omega
  have hnanos : Int.bmod (ms % 1000 * 1000000 : ℕ) (2 ^ 32) = (ms % 1000 * 1000000 : ℕ) := by
    apply Int.bmod_eq_of_le <;> omega
  unfold Xds.duration
  rw [hseconds, hnanos]

theorem seconds_duration {ms : ℕ} (h : ms < 2 ^ 64) : seconds (Xds.duration ms) = ms / 1000 := by
  have hsplit : (ms : ℚ) = 1000 * (ms / 1000 : ℕ) + (ms % 1000 : ℕ) := by
    exact_mod_cast (Nat.div_add_mod ms 1000).symm
  rw [seconds, duration_eq h, hsplit, Int.cast_natCast, Int.cast_natCast, Nat.cast_mul]
  ring

/-- `ms` milliseconds as a protobuf duration: no cast has wrapped, and the parts are in the ranges
the format asks for. -/
structure IsDuration (ms : ℕ) (d : Xds.Duration) : Prop where
  seconds_eq : d.seconds = (ms / 1000 : ℕ)
  nanos_eq : d.nanos = (ms % 1000 * 1000000 : ℕ)
  seconds_nonneg : 0 ≤ d.seconds
  nanos_nonneg : 0 ≤ d.nanos
  nanos_lt : d.nanos < 10 ^ 9
  total : d.seconds * 10 ^ 9 + d.nanos = ms * 10 ^ 6

theorem isDuration_duration {ms : ℕ} (h : ms < 2 ^ 64) : IsDuration ms (Xds.duration ms) := by
  rw [duration_eq h]
  have hnanos : ms % 1000 * 1000000 < 10 ^ 9 := by omega
  have htotal : ms / 1000 * 10 ^ 9 + ms % 1000 * 1000000 = ms * 10 ^ 6 := by omega
  exact
    { seconds_eq := rfl
      nanos_eq := rfl
      seconds_nonneg := Int.natCast_nonneg _
      nanos_nonneg := Int.natCast_nonneg _
      nanos_lt := by
        show ((ms % 1000 * 1000000 : ℕ) : ℤ) < 10 ^ 9
        exact_mod_cast hnanos
      total := by
        show ((ms / 1000 : ℕ) : ℤ) * 10 ^ 9 + (ms % 1000 * 1000000 : ℕ) = ms * 10 ^ 6
        exact_mod_cast htotal }

/-- Both generators write every timeout exactly, and so the same one. -/
theorem durations_exact :
    (∀ ms : UInt64, readSeconds (EnvoyGen.durationString ms.toNat) = some (ms.toNat / 1000 : ℚ) ∧
      IsDuration ms.toNat (Xds.duration ms.toNat) ∧
      readSeconds (EnvoyGen.durationString ms.toNat) = some (seconds (Xds.duration ms.toNat))) ∧
    Function.Injective (fun ms : UInt64 => EnvoyGen.durationString ms.toNat) ∧
    Function.Injective (fun ms : UInt64 => Xds.duration ms.toNat) := by
  have hcancel : ∀ a b : UInt64, (a.toNat / 1000 : ℚ) = b.toNat / 1000 → a = b := by
    intro a b h
    have hcast : (a.toNat : ℚ) = b.toNat := by linarith
    exact UInt64.toNat_inj.mp (by exact_mod_cast hcast)
  refine ⟨?_, ?_, ?_⟩
  · intro ms
    have hms := ms.toNat_lt
    rw [seconds_duration hms]
    exact ⟨readSeconds_durationString _, isDuration_duration hms, readSeconds_durationString _⟩
  · -- what can be read back was written for one number only
    intro a b h
    have hread := congrArg readSeconds h
    simp only [readSeconds_durationString, Option.some.injEq] at hread
    exact hcancel a b hread
  · intro a b h
    have hseconds := congrArg seconds h
    simp only [seconds_duration a.toNat_lt, seconds_duration b.toNat_lt] at hseconds
    exact hcancel a b hseconds

/-! ## Entries -/

/-- What an entry of a virtual host says: the prefix it matches, the service it routes to, the
timeout in seconds, if it can be read, and how often it retries. -/
structure RouteMeaning where
  pathPrefix : String
  service : String
  timeout : Option ℚ
  retries : Option ℕ

def staticMeaning (entry : EnvoyGen.RouteEntry) : RouteMeaning where
  pathPrefix := entry.pathPrefix
  service := entry.cluster
  timeout := readSeconds entry.timeout
  retries := entry.retryPolicy.map EnvoyGen.RetryPolicy.numRetries

def xdsMeaning (route : Xds.Route) : RouteMeaning where
  pathPrefix := route.pathPrefix
  service := route.cluster
  timeout := some (seconds route.timeout)
  retries := route.retryPolicy.map Xds.RetryPolicy.numRetries

/-- What the entry of a route is to say. -/
def routeMeaning (route : RouteConfig) : RouteMeaning where
  pathPrefix := route.pathPrefix
  service := route.upstream.service
  timeout := some (route.upstream.requestTimeoutMs / 1000)
  retries := if 0 < route.upstream.retries then some route.upstream.retries else none

theorem staticMeaning_buildRouteEntry (route : RouteConfig) :
    staticMeaning (EnvoyGen.buildRouteEntry route) = routeMeaning route := by
  simp only [staticMeaning, EnvoyGen.buildRouteEntry, routeMeaning, readSeconds_durationString]
  split <;> rfl

theorem xdsMeaning_buildRoute {route : RouteConfig} (h : route.upstream.requestTimeoutMs < 2 ^ 64) :
    xdsMeaning (Xds.buildRoute route) = routeMeaning route := by
  simp only [xdsMeaning, Xds.buildRoute, routeMeaning, seconds_duration h]
  split <;> rfl

/-! ## Groups -/

/-- The hostnames of a route, whatever their order. -/
def hostSet (route : RouteConfig) : Multiset String := route.hostnames

theorem coe_domainKey (route : RouteConfig) :
    (route.domainKey : Multiset String) = hostSet route :=
  Multiset.coe_eq_coe.mpr (List.perm_insertionSort _ _)

/-- Sorting loses nothing but the order. -/
theorem domainKey_eq_iff {r s : RouteConfig} :
    r.domainKey = s.domainKey ↔ hostSet r = hostSet s := by
  constructor
  · intro h
    rw [← coe_domainKey, ← coe_domainKey, h]
  · intro h
    have hperm : r.domainKey.Perm s.domainKey := by
      rw [← Multiset.coe_eq_coe, coe_domainKey, coe_domainKey, h]
    exact hperm.eq_of_pairwise' (List.pairwise_insertionSort _ _) (List.pairwise_insertionSort _ _)

/-- A virtual host as a group of entries under its domains. -/
def groupOf {ε μ : Type} (meaning : ε → μ) (vhost : VirtualHost ε) :
    Group (Multiset String) String μ :=
  ⟨vhost.domains, vhost.name, vhost.routes.map meaning⟩

section Grouping
variable {ε μ : Type} {entry : RouteConfig → ε} {meaning : ε → μ} {item : RouteConfig → μ}
  {routes : List RouteConfig}

/-- A group of the static generator, with the hostnames of the route it is named after. -/
def staticHost (routes : List RouteConfig) (group : Group (List String) String ε) :
    VirtualHost ε :=
  ⟨group.label,
    ((routes.find? fun r => r.name == group.label).map RouteConfig.hostnames).getD [], group.items⟩

/-- In a list without repeated names, looking a member up by name finds that member. -/
theorem find?_name (hnodup : (routes.map RouteConfig.name).Nodup) {r : RouteConfig}
    (hr : r ∈ routes) : (routes.find? fun s => s.name == r.name) = some r := by
  induction routes with
  | nil => simp at hr
  | cons s routes ih =>
    rw [List.map_cons, List.nodup_cons] at hnodup
    rcases List.mem_cons.mp hr with rfl | hmem
    · simp
    · have hne : (s.name == r.name) = false := by
        rw [beq_eq_false_iff_ne]
        intro heq
        exact hnodup.1 (heq ▸ List.mem_map_of_mem hmem)
      rw [List.find?_cons, hne]
      exact ih hnodup.2 hmem

/-- A stable grouping by the sorted hostnames is one by the hostnames in any order. -/
theorem isStableGrouping_hostSet {groups : List (Group (List String) String ε)}
    (h : IsStableGrouping RouteConfig.domainKey RouteConfig.name entry routes groups)
    (hmeaning : ∀ r ∈ routes, meaning (entry r) = item r) :
    IsStableGrouping hostSet RouteConfig.name item routes
      (groups.map fun g => ⟨(g.key : Multiset String), g.label, g.items.map meaning⟩) :=
  h.map (fun key : List String => (key : Multiset String)) meaning
    (fun r _ => (coe_domainKey r).symm) (fun _ _ _ _ heq => domainKey_eq_iff.mpr heq) hmeaning

/-- The static generator never panics, and its virtual hosts are the stable grouping. -/
theorem static_isStableGrouping (hnodup : (routes.map RouteConfig.name).Nodup)
    (hmeaning : ∀ r ∈ routes, meaning (entry r) = item r) :
    ∃ vhosts, EnvoyGen.buildVirtualHostsWith entry routes = some vhosts ∧
      IsStableGrouping hostSet RouteConfig.name item routes (vhosts.map (groupOf meaning)) := by
  have hgroups := isStableGrouping_groupAll RouteConfig.domainKey RouteConfig.name entry routes
  -- the label of a group is the name of its first route, and names are unique
  have hfound : ∀ g ∈ groupAll RouteConfig.domainKey RouteConfig.name entry routes,
      ∃ r ∈ routes, r.domainKey = g.key ∧ (routes.find? fun s => s.name == g.label) = some r := by
    intro g hg
    obtain ⟨r, hr, hkey, hlabel, -⟩ := hgroups.exists_head hg
    exact ⟨r, hr, hkey, hlabel ▸ find?_name hnodup hr⟩
  refine ⟨_, mapM_eq_some_map (g := staticHost routes) ?_, ?_⟩
  · intro g hg
    obtain ⟨r, -, -, hfind⟩ := hfound g hg
    simp [staticHost, hfind]
  · rw [List.map_map]
    refine (List.map_congr_left fun g hg => ?_) ▸ isStableGrouping_hostSet hgroups hmeaning
    obtain ⟨r, -, hkey, hfind⟩ := hfound g hg
    simp only [Function.comp_apply, groupOf, staticHost, hfind, Option.map_some, Option.getD_some]
    rw [← hkey, coe_domainKey]
    rfl

/-- The virtual hosts of the xDS generator are the stable grouping. -/
theorem xds_isStableGrouping (hmeaning : ∀ r ∈ routes, meaning (entry r) = item r) :
    IsStableGrouping hostSet RouteConfig.name item routes
      ((Xds.buildVirtualHostsWith entry routes).map (groupOf meaning)) := by
  have hgroups := isStableGrouping_treeGroups compare RouteConfig.domainKey RouteConfig.name
    "vhost" entry routes
  have hmap := isStableGrouping_hostSet hgroups hmeaning
  rw [List.map_map] at hmap
  rw [Xds.buildVirtualHostsWith, List.map_map]
  exact hmap

end Grouping

/-- For a validated config, both generators give the stable grouping of the routes by hostnames,
up to the order of the virtual hosts: one for each set of hostnames, named after the first route
that has it, with what each of its routes is to say, in config order. -/
theorem virtualHosts_perm_stableGroups {urlOk : String → Bool} {cfg : GatewayConfig}
    (hvalid : Validation.validate urlOk cfg = .ok ())
    -- the source's type of the timeout
    (htimeout : ∀ r ∈ cfg.routes, r.upstream.requestTimeoutMs < 2 ^ 64) :
    ∃ vhosts, EnvoyGen.buildVirtualHosts cfg.routes = some vhosts ∧
      (vhosts.map (groupOf staticMeaning)).Perm
        (stableGroups hostSet RouteConfig.name routeMeaning cfg.routes) ∧
      ((Xds.buildVirtualHosts cfg.routes).map (groupOf xdsMeaning)).Perm
        (stableGroups hostSet RouteConfig.name routeMeaning cfg.routes) := by
  have hnodup := (Validation.validate_ok_iff.mp hvalid).routes_nodup
  have hreference := isStableGrouping_stableGroups hostSet RouteConfig.name routeMeaning cfg.routes
  obtain ⟨vhosts, hvhosts, hstatic⟩ := static_isStableGrouping hnodup
    fun r _ => staticMeaning_buildRouteEntry r
  have hxds := xds_isStableGrouping fun r hr => xdsMeaning_buildRoute (htimeout r hr)
  exact ⟨vhosts, hvhosts, hstatic.perm hreference, hxds.perm hreference⟩

/-- Two routes with the hostnames in another order, and one of its own. -/
def regrouped : GatewayConfig :=
  Validation.minimalConfig
    [Validation.minimalRoute "first" ["a.example.com", "b.example.com"] "/",
      Validation.minimalRoute "other" ["c.example.com"] "/",
      Validation.minimalRoute "second" ["b.example.com", "a.example.com"] "/api"]

theorem virtualHosts_perm_stableGroups_regrouped :
    Validation.validate (fun _ => true) regrouped = .ok () ∧
      ∃ vhosts, EnvoyGen.buildVirtualHosts regrouped.routes = some vhosts ∧
        (vhosts.map (groupOf staticMeaning)).Perm
          (stableGroups hostSet RouteConfig.name routeMeaning regrouped.routes) ∧
        ((Xds.buildVirtualHosts regrouped.routes).map (groupOf xdsMeaning)).Perm
          (stableGroups hostSet RouteConfig.name routeMeaning regrouped.routes) := by
  have hvalid : Validation.validate (fun _ => true) regrouped = .ok () := by decide
  exact ⟨hvalid, virtualHosts_perm_stableGroups hvalid (by decide)⟩

/-! ## Domains

Envoy rejects a config in which a domain occurs twice. Grouping merges only routes with the same
hostnames, and validation looks at the hostnames of one route at a time, so that a config can
pass validation and still be one that Envoy rejects. -/

/-- No route repeats a hostname, and routes that share one share all. -/
structure HostsApart (routes : List RouteConfig) : Prop where
  nodup : ∀ r ∈ routes, r.hostnames.Nodup
  perm : ∀ r ∈ routes, ∀ s ∈ routes, ∀ host ∈ r.hostnames, host ∈ s.hostnames →
    r.hostnames.Perm s.hostnames

/-- The domains of a stable grouping are all different exactly if the hostnames are apart. -/
theorem nodup_domains_iff {ε μ : Type} {meaning : ε → μ} {item : RouteConfig → μ}
    {routes : List RouteConfig} {vhosts : List (VirtualHost ε)}
    (h : IsStableGrouping hostSet RouteConfig.name item routes (vhosts.map (groupOf meaning))) :
    (vhosts.flatMap VirtualHost.domains).Nodup ↔ HostsApart routes := by
  have hroute : ∀ vhost ∈ vhosts, ∃ r ∈ routes, r.hostnames.Perm vhost.domains := by
    intro vhost hvhost
    obtain ⟨r, hr, hkey, -⟩ := h.exists_head (List.mem_map_of_mem hvhost)
    exact ⟨r, hr, Multiset.coe_eq_coe.mp hkey⟩
  have hvhost : ∀ r ∈ routes, ∃ vhost ∈ vhosts, vhost.domains.Perm r.hostnames := by
    intro r hr
    obtain ⟨g, hg, hkey, -⟩ := h.exists_group hr
    obtain ⟨vhost, hvhost, rfl⟩ := List.mem_map.mp hg
    exact ⟨vhost, hvhost, Multiset.coe_eq_coe.mp hkey⟩
  rw [List.nodup_flatMap]
  constructor
  · rintro ⟨heach, hpairwise⟩
    refine ⟨?_, ?_⟩
    · intro r hr
      obtain ⟨v, hv, hperm⟩ := hvhost r hr
      exact hperm.nodup_iff.mp (heach v hv)
    · intro r hr s hs host hhost hhost'
      obtain ⟨v, hv, hvr⟩ := hvhost r hr
      obtain ⟨w, hw, hws⟩ := hvhost s hs
      by_cases heq : v = w
      · exact hvr.symm.trans (heq ▸ hws)
      · have : Std.Symm (Function.onFun List.Disjoint (@VirtualHost.domains ε)) :=
          ⟨fun _ _ hd => List.Disjoint.symm hd⟩
        have hdisjoint := hpairwise.forall hv hw heq
        exact absurd (hws.mem_iff.mpr hhost') (hdisjoint (hvr.mem_iff.mpr hhost))
  · intro hapart
    refine ⟨?_, ?_⟩
    · intro v hv
      obtain ⟨r, hr, hperm⟩ := hroute v hv
      exact hperm.nodup_iff.mp (hapart.nodup r hr)
    · -- virtual hosts with a common domain have the same key, and no key occurs twice
      have hkeys := h.nodup
      rw [List.map_map, List.Nodup, List.pairwise_map] at hkeys
      refine hkeys.imp_of_mem ?_
      intro v w hv hw hne d hdv hdw
      obtain ⟨r, hr, hrv⟩ := hroute v hv
      obtain ⟨s, hs, hsw⟩ := hroute w hw
      have hrs := hapart.perm r hr s hs d (hrv.mem_iff.mpr hdv) (hsw.mem_iff.mpr hdw)
      exact hne (Multiset.coe_eq_coe.mpr ((hrv.symm.trans hrs).trans hsw))

/-- For a validated config, the virtual hosts of either generator name every domain once exactly
if the hostnames of the routes are apart. -/
theorem domains_once_iff_hostsApart {urlOk : String → Bool} {cfg : GatewayConfig}
    (hvalid : Validation.validate urlOk cfg = .ok ()) :
    ∃ vhosts, EnvoyGen.buildVirtualHosts cfg.routes = some vhosts ∧
      ((vhosts.flatMap VirtualHost.domains).Nodup ↔ HostsApart cfg.routes) ∧
      (((Xds.buildVirtualHosts cfg.routes).flatMap VirtualHost.domains).Nodup ↔
        HostsApart cfg.routes) := by
  have hnodup := (Validation.validate_ok_iff.mp hvalid).routes_nodup
  obtain ⟨vhosts, hvhosts, hstatic⟩ := static_isStableGrouping hnodup
    fun r _ => staticMeaning_buildRouteEntry r
  have hxds : IsStableGrouping hostSet RouteConfig.name Xds.buildRoute cfg.routes
      ((Xds.buildVirtualHosts cfg.routes).map (groupOf id)) :=
    xds_isStableGrouping fun _ _ => rfl
  exact ⟨vhosts, hvhosts, nodup_domains_iff hstatic, nodup_domains_iff hxds⟩

theorem domains_once_iff_hostsApart_regrouped :
    Validation.validate (fun _ => true) regrouped = .ok () ∧ HostsApart regrouped.routes ∧
      ∃ vhosts, EnvoyGen.buildVirtualHosts regrouped.routes = some vhosts ∧
        (vhosts.flatMap VirtualHost.domains).Nodup ∧
        ((Xds.buildVirtualHosts regrouped.routes).flatMap VirtualHost.domains).Nodup := by
  have hvalid : Validation.validate (fun _ => true) regrouped = .ok () := by decide
  have hapart : HostsApart regrouped.routes := ⟨by decide, by decide⟩
  obtain ⟨vhosts, hvhosts, hstatic, hxds⟩ := domains_once_iff_hostsApart hvalid
  exact ⟨hvalid, hapart, vhosts, hvhosts, hstatic.mpr hapart, hxds.mpr hapart⟩

/-- Two routes that share one of their hostnames. -/
def overlapping : GatewayConfig :=
  Validation.minimalConfig
    [Validation.minimalRoute "both" ["a.example.com", "b.example.com"] "/",
      Validation.minimalRoute "one" ["b.example.com"] "/"]

/-- They pass validation, and both generators name the shared hostname twice. -/
theorem overlapping_domain_twice :
    Validation.validate (fun _ => true) overlapping = .ok () ∧
      (∃ vhosts, EnvoyGen.buildVirtualHosts overlapping.routes = some vhosts ∧
        vhosts.flatMap VirtualHost.domains = ["a.example.com", "b.example.com", "b.example.com"] ∧
        ¬ (vhosts.flatMap VirtualHost.domains).Nodup) ∧
      ¬ ((Xds.buildVirtualHosts overlapping.routes).flatMap VirtualHost.domains).Nodup := by
  refine ⟨by decide, ⟨_, rfl, by decide, by decide⟩, by decide +kernel⟩

end Routing
end OpenApiGateway
