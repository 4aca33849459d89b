import OpenApiGateway.Config.EnvoyGen
import OpenApiGateway.ExtAuthz.BucketKeys
import OpenApiGateway.Plugins.Sdk

/-!
# The check service behind the generated filter

Envoy's `ext_authz` filter stands between a client and the check service, and between the
check service and the upstream. Its settings, from `build_ext_authz_filter`, list the request
headers that a check is sent and the headers of an allow answer that the upstream is sent.
Here these lists meet the headers that the check service reads and writes.
-/

namespace OpenApiGateway

namespace EnvoyGen

open Lib.Text

/-- Envoy's header names are in lower case, as the patterns are. -/
def HeaderPattern.matches : HeaderPattern → String → Bool
  | .exact name, header => header == name
  | .startingWith start, header => startsWith header start

/-- The headers a check carries whatever the filter's settings are. -/
def alwaysSent : List String := ["host", "content-length", "authorization"]

/-- The filter sends this request header to the check service. -/
def ExtAuthzFilter.sends (filter : ExtAuthzFilter) (header : String) : Bool :=
  decide (header ∈ alwaysSent) || filter.allowedHeaders.any fun pattern => pattern.matches header

/-- The filter adds this header of an allow answer to the request for the upstream. -/
def ExtAuthzFilter.addsUpstream (filter : ExtAuthzFilter) (header : String) : Bool :=
  filter.allowedUpstreamHeaders.any fun pattern => pattern.matches header

end EnvoyGen

namespace ExtAuthz

open Lib.Text Auth RateLimit Plugins EnvoyGen

variable {ν κ σ : Type}

/-! ## Requests that reach the check service -/

/-- The check that Envoy sends for a client's request. -/
def CheckRequest.through (req : CheckRequest ν) (filter : ExtAuthzFilter) : CheckRequest ν :=
  { req with headers := req.headers.filter fun h => filter.sends h.1 }

theorem get_through {filter : ExtAuthzFilter} {name : String} (h : filter.sends name = false)
    (req : CheckRequest ν) : (req.through filter).headers.get name = none := by
  unfold RequestHeaders.get
  rw [Option.map_eq_none_iff, List.find?_eq_none]
  intro header hmem hname
  have hsent := (List.mem_filter.mp hmem).2
  rw [beq_iff_eq.mp hname, h] at hsent
  exact absurd hsent (by simp)

/-- The header with the client's address is not among those a check is sent. -/
theorem not_sends_externalAddress :
    buildExtAuthzFilter.sends "x-envoy-external-address" = false := by decide

/-- Behind the generated filter every client has the same address. -/
theorem clientIp_through (http : HttpLib ν) (req : CheckRequest ν) :
    clientIp http (req.through buildExtAuthzFilter).headers false = "0.0.0.0" := by
  unfold clientIp headerStr
  rw [get_through not_sends_externalAddress]
  rfl

/-- Two clients are told apart: their addresses differ, and they use different buckets. -/
def ClientsApart (env₁ env₂ : CheckEnv ν κ σ) (cfg : GatewayConfig)
    (req₁ req₂ : CheckRequest ν) : Prop :=
  clientIp env₁.http req₁.headers cfg.gateway.trustForwardedHeaders ≠
      clientIp env₂.http req₂.headers cfg.gateway.trustForwardedHeaders ∧
    ∀ k₁ ∈ bucketKeys env₁ cfg req₁, ∀ k₂ ∈ bucketKeys env₂ cfg req₂, k₁ ≠ k₂

/-- A key that a route asks for by client address is that of the address `0.0.0.0`. -/
theorem mem_bucketKeys_through {env : CheckEnv ν κ σ} {cfg : GatewayConfig} {req : CheckRequest ν}
    {route : RouteConfig} {key : String} (htrust : cfg.gateway.trustForwardedHeaders = false)
    (hkey : route.rateLimit.keyBy = "ip")
    (hroute : matchRoute cfg.routes
      (requestHost env.http (req.through buildExtAuthzFilter)) req.path = some route)
    (hmem : key ∈ bucketKeys env cfg (req.through buildExtAuthzFilter)) :
    key = buildKey cfg.rateLimits.redisKeyPrefix route.name "ip" "0.0.0.0" := by
  have hpath : (req.through buildExtAuthzFilter).path = req.path := rfl
  rw [← hpath] at hroute
  rcases bucketKeys_cases hroute with hnil | ⟨headers, hone⟩
  · rw [hnil] at hmem
    exact absurd hmem List.not_mem_nil
  · have hvalue : bucketKeyValue env cfg route (req.through buildExtAuthzFilter) headers =
        "0.0.0.0" := by
      unfold bucketKeyValue
      rw [hkey, htrust, if_neg (by decide), clientIp_through]
    rw [hone, List.mem_singleton, hvalue, hkey] at hmem
    exact hmem

/-- Behind the generated filter no two clients are told apart: whatever addresses Envoy has
put on their requests, all requests of a route keyed by `ip` share one bucket. -/
theorem clients_never_apart_behind_filter (env₁ env₂ : CheckEnv ν κ σ) (cfg : GatewayConfig)
    (route : RouteConfig) (req₁ req₂ : CheckRequest ν)
    (htrust : cfg.gateway.trustForwardedHeaders = false) (hkey : route.rateLimit.keyBy = "ip")
    (h₁ : matchRoute cfg.routes
      (requestHost env₁.http (req₁.through buildExtAuthzFilter)) req₁.path = some route)
    (h₂ : matchRoute cfg.routes
      (requestHost env₂.http (req₂.through buildExtAuthzFilter)) req₂.path = some route) :
    ¬ ClientsApart env₁ env₂ cfg (req₁.through buildExtAuthzFilter)
        (req₂.through buildExtAuthzFilter) ∧
      ∀ k₁ ∈ bucketKeys env₁ cfg (req₁.through buildExtAuthzFilter),
        ∀ k₂ ∈ bucketKeys env₂ cfg (req₂.through buildExtAuthzFilter), k₁ = k₂ := by
  constructor
  · intro hapart
    apply hapart.1
    rw [htrust, clientIp_through, clientIp_through]
  · intro k₁ hk₁ k₂ hk₂
    rw [mem_bucketKeys_through htrust hkey h₁ hk₁, mem_bucketKeys_through htrust hkey h₂ hk₂]

/-- A request that Envoy has marked with the client's address. -/
def requestFrom (address : String) : CheckRequest String :=
  ⟨[("host", "shop"), ("x-envoy-external-address", address)], "GET", "/orders", "00000001"⟩

/-- A route for every host, counted by address. -/
def addressRoute : RouteConfig := Validation.minimalRoute "public" ["*"] "/"

theorem clients_never_apart_behind_filter_addressRoute :
    matchRoute [addressRoute] "shop" "/orders" = some addressRoute ∧
      ¬ ClientsApart (plainEnv none) (plainEnv none) (Validation.minimalConfig [addressRoute])
        ((requestFrom "203.0.113.1").through buildExtAuthzFilter)
        ((requestFrom "198.51.100.7").through buildExtAuthzFilter) :=
  ⟨rfl, (clients_never_apart_behind_filter (plainEnv none) (plainEnv none)
    (Validation.minimalConfig [addressRoute]) addressRoute (requestFrom "203.0.113.1")
    (requestFrom "198.51.100.7") rfl rfl rfl rfl).1⟩

/-- Without the filter the two clients have their own buckets, behind it they share one. -/
theorem clients_share_bucket_behind_filter :
    let cfg := Validation.minimalConfig [addressRoute]
    Validation.validate (fun _ => true) cfg = .ok () ∧
    ClientsApart (plainEnv none) (plainEnv none) cfg (requestFrom "203.0.113.1")
      (requestFrom "198.51.100.7") ∧
    bucketKeys (plainEnv none) cfg ((requestFrom "203.0.113.1").through buildExtAuthzFilter) =
      ["rl:public:ip:0.0.0.0"] ∧
    bucketKeys (plainEnv none) cfg ((requestFrom "198.51.100.7").through buildExtAuthzFilter) =
      ["rl:public:ip:0.0.0.0"] ∧
    ¬ ClientsApart (plainEnv none) (plainEnv none) cfg
      ((requestFrom "203.0.113.1").through buildExtAuthzFilter)
      ((requestFrom "198.51.100.7").through buildExtAuthzFilter) := by
  refine ⟨by decide, ⟨by decide, by decide⟩, by decide, by decide, fun h => ?_⟩
  exact h.1 (by decide)

/-! ## Headers that reach the upstream -/

/-- A header name that is set for the upstream: one that `service.request.set_header` accepts
from a plugin, or one that the gateway writes itself into an allow answer. -/
inductive SetForUpstream (ν : Type) : String → Prop where
  | plugin {request : PluginRequest} {binding : PluginBinding} {st : RuntimeState}
      {name value : String}
      (h : (callGateway request binding st (.setServiceHeader name value)).1 = .ok none) :
      SetForUpstream ν (toAsciiLowercase name)
  | identity {http : HttpLib ν} {base : HeaderMap ν} {identity : ValidatedIdentity} {name : String}
      (h : (identityHeaders http base identity).lookup name ≠ base.lookup name) :
      SetForUpstream ν name
  | rateLimit {http : HttpLib ν} {nowSecs : ℕ} {base : HeaderMap ν} {decision : RateDecision}
      {name : String}
      (h : (insertRateLimitHeaders http nowSecs base decision).lookup name ≠ base.lookup name) :
      SetForUpstream ν name
  | requestId {http : HttpLib ν} {base : HeaderMap ν} {id name : String}
      (h : (allowResponse http base id).headers.lookup name ≠ base.lookup name) :
      SetForUpstream ν name

theorem addsUpstream_iff (name : String) :
    buildExtAuthzFilter.addsUpstream name = true ↔
      startsWith name "x-auth-" = true ∨ startsWith name "x-ratelimit-" = true := by
  simp [ExtAuthzFilter.addsUpstream, buildExtAuthzFilter, HeaderPattern.matches]

/-- A name that plugins may set starts with no reserved prefix. -/
theorem not_reserved_of_accepted {request : PluginRequest} {binding : PluginBinding}
    {st : RuntimeState} {name value : String}
    (h : (callGateway request binding st (.setServiceHeader name value)).1 = .ok none) :
    isReserved (toAsciiLowercase name) = false := by
  simp only [callGateway] at h
  split at h
  · simp at h
  · rename_i hreserved
    exact Bool.eq_false_of_not_eq_true hreserved

theorem lookup_identityHeaders_of_notMem {http : HttpLib ν} {base : HeaderMap ν}
    {identity : ValidatedIdentity} {name : String}
    (hname : name ∉ ["x-auth-sub", "x-auth-iss", "x-auth-scopes"]) :
    (identityHeaders http base identity).lookup name = base.lookup name := by
  simp only [List.mem_cons, List.not_mem_nil, or_false, not_or] at hname
  unfold identityHeaders
  rw [http.lookup_insertText_ne hname.2.2, http.lookup_insertText_ne hname.2.1,
    http.lookup_insertText_ne hname.1]

/-- Where a header for the upstream comes from, by its name. -/
theorem SetForUpstream.name_cases {name : String} (h : SetForUpstream ν name) :
    isReserved name = false ∨ name ∈ ["x-auth-sub", "x-auth-iss", "x-auth-scopes"] ∨
      name ∈ rateLimitNames ∨ name = "x-request-id" := by
  by_contra hnot
  simp only [not_or] at hnot
  obtain ⟨hreserved, hidentity, hrate, hid⟩ := hnot
  cases h with
  | plugin h => exact hreserved (not_reserved_of_accepted h)
  | identity h => exact h (lookup_identityHeaders_of_notMem hidentity)
  | rateLimit h => exact h (lookup_insertRateLimitHeaders_ne _ _ _ _ hrate)
  | requestId h => exact h (HttpLib.lookup_insertText_ne _ hid _ _)

/-- No header that is set for the upstream starts with `x-ratelimit-`: plugins may not set it,
and the gateway's own start with `x-rate-limit-`. -/
theorem SetForUpstream.not_ratelimit {name : String} (h : SetForUpstream ν name) :
    startsWith name "x-ratelimit-" = false := by
  have hown : ∀ n ∈ ["x-auth-sub", "x-auth-iss", "x-auth-scopes"] ++ rateLimitNames,
      startsWith n "x-ratelimit-" = false := by decide
  rcases h.name_cases with hfree | hmem | hmem | rfl
  · simp only [isReserved, reservedHeaderPrefixes, List.any_cons, List.any_nil, Bool.or_false,
      Bool.or_eq_false_iff] at hfree
    exact hfree.2.1
  · exact hown name (List.mem_append_left _ hmem)
  · exact hown name (List.mem_append_right _ hmem)
  · decide

/-- Of the headers set for the upstream, Envoy passes on those that start with `x-auth-`, and
no other: none of a plugin, none of the limiter, and not the request id. -/
theorem upstream_header_delivered_iff (name : String) (h : SetForUpstream ν name) :
    buildExtAuthzFilter.addsUpstream name = true ↔ startsWith name "x-auth-" = true := by
  rw [addsUpstream_iff, h.not_ratelimit]
  simp

theorem setForUpstream_requestId : SetForUpstream String "x-request-id" :=
  @SetForUpstream.requestId String HttpLib.plain ∅ "00000001" "x-request-id" (by decide)

theorem upstream_header_delivered_iff_requestId :
    SetForUpstream String "x-request-id" ∧
      (buildExtAuthzFilter.addsUpstream "x-request-id" = true ↔
        startsWith "x-request-id" "x-auth-" = true) :=
  ⟨setForUpstream_requestId, upstream_header_delivered_iff "x-request-id" setForUpstream_requestId⟩

/-- A plugin sets `X-Tenant` for the upstream and is told that this worked; Envoy drops it, as
it drops the limiter's headers and the request id. -/
theorem upstream_headers_dropped :
    (callGateway ⟨"open", "shop", "GET", "/orders", []⟩ forgerBinding RuntimeState.new
      (.setServiceHeader "X-Tenant" "acme")).1 = .ok none ∧
    SetForUpstream String "x-tenant" ∧ buildExtAuthzFilter.addsUpstream "x-tenant" = false ∧
    SetForUpstream String "x-rate-limit-limit" ∧
    buildExtAuthzFilter.addsUpstream "x-rate-limit-limit" = false ∧
    SetForUpstream String "x-request-id" ∧
    buildExtAuthzFilter.addsUpstream "x-request-id" = false := by
  have haccepted : (callGateway ⟨"open", "shop", "GET", "/orders", []⟩ forgerBinding
      RuntimeState.new (.setServiceHeader "X-Tenant" "acme")).1 = .ok none := by decide
  have hlimit : SetForUpstream String "x-rate-limit-limit" :=
    @SetForUpstream.rateLimit String HttpLib.plain 0 ∅ ⟨true, 10, 9, 0, .redis⟩
      "x-rate-limit-limit" (by decide)
  exact ⟨haccepted, .plugin haccepted, by decide, hlimit, by decide, setForUpstream_requestId,
    by decide⟩

end ExtAuthz
end OpenApiGateway
