import OpenApiGateway.ExtAuthz.Accounting
import OpenApiGateway.ExtAuthz.ForwardedScopes
import OpenApiGateway.ExtAuthz.GeneratedFilter
import OpenApiGateway.Routing.Destinations

/-!
# A request's path through the gateway

An Envoy that was started with the generated config, the check service behind its `ext_authz`
filter, and the upstreams. A client's request is matched to an entry of a virtual host, passes
the listener's HTTP filters in their order, and is sent to an endpoint of the cluster its entry
names. The check service works with the config the file was generated from.

`reached_only_if_permitted` says what the check service has decided of a request that reaches an
upstream, and `upstream_sees_identity` what the upstream is told of the client.
-/

namespace OpenApiGateway
namespace Gateway

open Lib.Text Lib.Fallible Envoy EnvoyGen ExtAuthz Auth RateLimit Plugins Routing

variable {ν κ σ : Type}

/-! ## The filters -/

/-- The headers of an allow answer that the filter adds to a request, each once. -/
def addedHeaders (filter : ExtAuthzFilter) (answer : HeaderMap ν) : RequestHeaders ν :=
  (answer.keys.filter filter.addsUpstream).filterMap fun name =>
    (answer.lookup name).map fun value => (name, value)

/-- What the filter passes on: a header that it adds takes the place of the request's own. -/
def withAnswer (filter : ExtAuthzFilter) (answer : HeaderMap ν) (req : CheckRequest ν) :
    CheckRequest ν :=
  { req with
    headers :=
      (req.headers.filter fun h => !(filter.addsUpstream h.1 && (answer.lookup h.1).isSome))
        ++ addedHeaders filter answer }

/-- The `ext_authz` filter on the answer of the check service; `none` is no answer in time. -/
def authorize (filter : ExtAuthzFilter) (answer : Option (Response ν)) (req : CheckRequest ν) :
    Option (CheckRequest ν) :=
  match answer with
  | none => if filter.failureModeAllow then some req else none
  | some response =>
    if response.status = 200 then some (withAnswer filter response.headers req) else none

/-- A request on its way through the filters, in their order; what comes out goes upstream. -/
def runHttpFilters (service : CheckRequest ν → Option (Response ν)) :
    List HttpFilter → CheckRequest ν → Option (CheckRequest ν)
  | [], req => some req
  | .extAuthz filter :: filters, req =>
    (authorize filter (service (req.through filter)) req).bind (runHttpFilters service filters)
  | .router :: filters, req => runHttpFilters service filters req

/-- Envoy, started with the bootstrap config, may send a client's request to `d` as `sent`. -/
def Forwards (http : HttpLib ν) (service : CheckRequest ν → Option (Response ν))
    (bootstrap : Bootstrap) (client : CheckRequest ν) (d : Destination) (sent : CheckRequest ν) :
    Prop :=
  ∃ host, headerStr http client.headers "host" = some host ∧
    StaticReaches bootstrap host client.path d ∧
    ∃ listener ∈ bootstrap.listeners, runHttpFilters service listener.httpFilters client = some sent

/-- The tracing layer writes headers of its own, and none that starts with `x-auth-`. -/
def KeepsIdentity (trace : Option (HeaderMap ν → HeaderMap ν)) : Prop :=
  ∀ inject, trace = some inject → ∀ headers name, startsWith name "x-auth-" = true →
    (inject headers).lookup name = headers.lookup name

/-- What the check service answers to a request, if it answers in time. -/
def Answers (env : CheckEnv ν κ σ) (cfg : GatewayConfig) (s : σ)
    (service : CheckRequest ν → Option (Response ν)) : Prop :=
  ∀ req response, service req = some response →
    ∃ trace permit, KeepsIdentity trace ∧ response = (check env trace permit cfg s req).response

/-! ## What a check has decided -/

/-- The request was decided for by the steps of the check: the method is one of the route's; and
then plugins answered for the gateway, or the auth step and the limiter let it pass. -/
structure Permitted (env : CheckEnv ν κ σ) (cfg : GatewayConfig) (s : σ) (req : CheckRequest ν)
    (route : RouteConfig) : Prop where
  matched : matchRoute cfg.routes (requestHost env.http req) req.path = some route
  method : methodAllowed route req.method = true
  decided : PluginAllows (pluginOutcome env req route) ∨
    ∃ base : HeaderMap ν,
      (applyAuth env cfg route req.headers base).result = .ok () ∧
      (route.authRequired = true → ∃ call ∈ (applyAuth env cfg route req.headers base).authCalls,
        Validated env cfg req route call) ∧
      ∃ decision, (limiterCheck env cfg s route req
          (applyAuth env cfg route req.headers base).responseHeaders).1 = .ok decision ∧
        decision.allowed = true

/-- A check with an answer 200 has a permit, and `check_inner` has answered so. -/
theorem checkInner_of_check {env : CheckEnv ν κ σ} {cfg : GatewayConfig} {s : σ}
    {req : CheckRequest ν} {trace : Option (HeaderMap ν → HeaderMap ν)} {permit : Bool}
    (h : (check env trace permit cfg s req).response.status = 200) :
    permit = true ∧ (checkInner env cfg s req).response.status = 200 := by
  cases permit with
  | false =>
    have hoverload : (check env trace false cfg s req).response.status = 503 := rfl
    omega
  | true =>
    refine ⟨rfl, ?_⟩
    cases trace with
    | none => exact h
    | some inject => exact h

/-- Without a tracing layer the answer is that of `check_inner`. -/
theorem response_check (env : CheckEnv ν κ σ) (cfg : GatewayConfig) (s : σ) (req : CheckRequest ν) :
    (check env none true cfg s req).response = (checkInner env cfg s req).response := rfl

/-- What follows the plugins answers 200 only where auth and limiter let the request pass. -/
theorem checkAuth_passed {env : CheckEnv ν κ σ} {cfg : GatewayConfig} {s : σ}
    {req : CheckRequest ν} {info : RequestInfo} {route : RouteConfig} {plugin : PluginContinue ν}
    (h : (checkAuth env cfg s req info route plugin).response.status = 200) :
    let auth := applyAuth env cfg route req.headers plugin.responseHeaders
    auth.result = .ok () ∧ ∃ decision,
      (limiterCheck env cfg s route req auth.responseHeaders).1 = .ok decision ∧
        decision.allowed = true := by
  intro auth
  unfold checkAuth at h
  cases hresult : (applyAuth env cfg route req.headers plugin.responseHeaders).result with
  | error deny =>
    simp only [hresult] at h
    exact absurd h (applyAuth_deny_ne_ok hresult)
  | ok passed =>
    simp only [hresult] at h
    exact ⟨rfl, (checkRateLimit_spec env cfg s req info route plugin auth).2.mp h⟩

theorem permitted_of_allowed {env : CheckEnv ν κ σ} {cfg : GatewayConfig} {s : σ}
    {req : CheckRequest ν} {route : RouteConfig}
    (hroute : matchRoute cfg.routes (requestHost env.http req) req.path = some route)
    (h : (checkInner env cfg s req).response.status = 200) : Permitted env cfg s req route := by
  rw [checkInner_of_matched hroute] at h
  rcases checkMatched_cases env cfg s req route with
    ⟨-, h405⟩ | ⟨hmethod, -, hiff⟩ | ⟨hmethod, -, plugin, effects, -, hresponse, -⟩
  · omega
  · exact ⟨hroute, hmethod, .inl (hiff.mp h)⟩
  · rw [hresponse] at h
    obtain ⟨hauth, hdecision⟩ := checkAuth_passed h
    refine ⟨hroute, hmethod, .inr ⟨plugin.responseHeaders, hauth, fun hrequired => ?_, hdecision⟩⟩
    rcases applyAuth_cases env cfg req hrequired plugin.responseHeaders with
      ⟨deny, hdeny, -⟩ | ⟨-, hcall⟩
    · rw [hauth] at hdeny
      cases hdeny
    · exact hcall

/-! ## From the client to the check -/

theorem get_through_of_sends {filter : ExtAuthzFilter} {name : String}
    (h : filter.sends name = true) (req : CheckRequest ν) :
    (req.through filter).headers.get name = req.headers.get name := by
  have hsame : (fun header : String × ν =>
      decide (filter.sends header.1 = true ∧ (header.1 == name) = true)) =
      fun header => header.1 == name := by
    funext header
    by_cases hname : header.1 = name
    · simp [hname, h]
    · simp [hname]
  unfold RequestHeaders.get CheckRequest.through
  rw [List.find?_filter, hsame]

/-- The check is matched by the host that the client has named. -/
theorem requestHost_through {http : HttpLib ν} {client : CheckRequest ν} {host : String}
    (hhost : headerStr http client.headers "host" = some host) (filter : ExtAuthzFilter) :
    requestHost http (client.through filter) = host := by
  have hsends : filter.sends "host" = true := by simp [ExtAuthzFilter.sends, alwaysSent]
  unfold requestHost headerStr
  rw [get_through_of_sends hsends]
  show (headerStr http client.headers "host").getD "*" = host
  rw [hhost]
  rfl

section Path
variable {urlOk : String → Bool} {cfg : GatewayConfig} {env : CheckEnv ν κ σ} {s : σ}
  {service : CheckRequest ν → Option (Response ν)} {client sent : CheckRequest ν}

/-- With an `ext_authz` address, what passes the filters of the listener has passed the generated
filter with an answer 200. -/
theorem runHttpFilters_listener {listener : Listener}
    (haddress : cfg.gateway.extauthzAddress.isSome = true)
    (hlistener : buildListener cfg = .ok (some listener))
    (h : runHttpFilters service listener.httpFilters client = some sent) :
    ∃ response, service (client.through buildExtAuthzFilter) = some response ∧
      response.status = 200 ∧ sent = withAnswer buildExtAuthzFilter response.headers client := by
  obtain ⟨address, -, hrest⟩ := eq_ok_of_bind hlistener
  obtain ⟨vhosts, -, rfl⟩ := Option.map_eq_some_iff.mp (Except.ok.inj hrest)
  simp only [haddress, if_true, List.singleton_append, runHttpFilters] at h
  obtain ⟨passed, hpassed, hsent⟩ := Option.bind_eq_some_iff.mp h
  obtain rfl : passed = sent := Option.some.inj hsent
  cases hservice : service (client.through buildExtAuthzFilter) with
  | none =>
    -- the filter does not let a request pass that no one has answered for
    rw [hservice] at hpassed
    simp [authorize, buildExtAuthzFilter] at hpassed
  | some response =>
    rw [hservice] at hpassed
    simp only [authorize] at hpassed
    split at hpassed
    · rename_i hstatus
      exact ⟨response, rfl, hstatus, (Option.some.inj hpassed).symm⟩
    · simp at hpassed

/-- Where Envoy and the check service agree on the routes for a host, a request goes to the
service of the route it was checked for. -/
theorem policy_route_of_goesTo {host path : String} {d : Destination}
    (hnodup : (cfg.routes.map RouteConfig.name).Nodup)
    (haligned : RoutesAligned cfg.routes host) (hcovered : RoutesCovered cfg.routes host)
    (h : GoesTo hnodup host path d) :
    ∃ route target, matchRoute cfg.routes host path = some route ∧ route ∈ cfg.routes ∧
      target ∈ cfg.services ∧ target.name = route.upstream.service ∧ d.Of cfg route target := by
  obtain ⟨route, target, ⟨key, hserved, hfirst⟩, htarget, hname, hof⟩ := h
  have hlongest : ∃ policy,
      (routeTable cfg.routes host hnodup).longest path.toList = some policy := by
    refine (routeTable cfg.routes host hnodup).covered_iff.mpr ?_
      key path.toList route hserved hfirst
    intro a ha hkey
    obtain ⟨b, hb, hadmits, hstarts⟩ := hcovered a ha hkey
    exact ⟨b, hb, hadmits, startsWith_iff.mp hstarts⟩
  obtain ⟨policy, hpolicy⟩ := hlongest
  have hsame := Lib.PrefixRouting.Table.agree_iff.mpr ((routesAligned_iff hnodup).mp haligned)
    key path.toList policy route hserved hpolicy hfirst
  subst hsame
  have hmem := (Lib.PrefixRouting.Table.first_spec hfirst).1
  exact ⟨route, target, (matchRoute_eq_longest hnodup).trans hpolicy, hmem, htarget, hname, hof⟩

/-- A config generates one file. -/
theorem bootstrap_unique {bootstrap other : Bootstrap}
    (h : ∀ render, generateEnvoyConfig render cfg = (render bootstrap).map some)
    (h' : ∀ render, generateEnvoyConfig render cfg = (render other).map some) :
    bootstrap = other := by
  by_contra hne
  -- a rendering that tells the two apart
  let render : Bootstrap → Except EnvoyGenError String := fun b =>
    if b = bootstrap then .ok "" else .error (.serialization "")
  have hsame := (h render).symm.trans (h' render)
  simp only [render, if_true, if_neg (Ne.symm hne)] at hsame
  cases hsame

/-- For a validated config with an `ext_authz` address: a request that reaches an upstream, for a
host on which Envoy and the check service agree, was permitted by the check, and goes to the
service of the very route it was checked for. -/
theorem reached_only_if_permitted (hvalid : Validation.validate urlOk cfg = .ok ())
    (haddress : cfg.gateway.extauthzAddress.isSome = true)
    (hown : ∀ service ∈ cfg.services, service.name ≠ "gateway_manager_extauthz")
    {bootstrap : Bootstrap}
    (hgenerate : ∀ render, generateEnvoyConfig render cfg = (render bootstrap).map some)
    (hanswers : Answers env cfg s service) {host : String}
    (hhost : headerStr env.http client.headers "host" = some host)
    (haligned : RoutesAligned cfg.routes host) (hcovered : RoutesCovered cfg.routes host)
    {d : Destination} (hforwards : Forwards env.http service bootstrap client d sent) :
    ∃ route ∈ cfg.routes, ∃ target ∈ cfg.services,
      target.name = route.upstream.service ∧ d.Of cfg route target ∧
        Permitted env cfg s (client.through buildExtAuthzFilter) route := by
  have haccepted := Validation.validate_ok_iff.mp hvalid
  have hnodup := haccepted.routes_nodup
  obtain ⟨listener, clusters, own, hlistener, hclusters, hothers, hspec⟩ :=
    generateEnvoyConfig_spec haccepted
  obtain rfl := bootstrap_unique hgenerate hspec
  obtain ⟨host', hhost', hreaches, listener', hlistener', hfilters⟩ := hforwards
  obtain rfl : host = host' := Option.some.inj (hhost.symm.trans hhost')
  obtain rfl : listener' = listener := List.mem_singleton.mp hlistener'
  -- where the request goes
  rw [staticReaches_iff hnodup haccepted hown hlistener hclusters hothers] at hreaches
  obtain ⟨route, target, hmatch, hroute, htarget, hname, hof⟩ :=
    policy_route_of_goesTo hnodup haligned hcovered hreaches
  -- what was decided of it
  obtain ⟨response, hresponse, hstatus, -⟩ := runHttpFilters_listener haddress hlistener hfilters
  obtain ⟨trace, permit, -, rfl⟩ := hanswers _ _ hresponse
  have hallowed := (checkInner_of_check hstatus).2
  have hchecked : matchRoute cfg.routes
      (requestHost env.http (client.through buildExtAuthzFilter)) client.path = some route := by
    rw [requestHost_through hhost]
    exact hmatch
  exact ⟨route, hroute, target, htarget, hname, hof, permitted_of_allowed hchecked hallowed⟩

/-! ### A client that forges its identity -/

def statusRoute : RouteConfig := Validation.minimalRoute "status" ["*"] "/status"

/-- An open route and the protected one, behind the filter, with a plugin for both. -/
def guardedPath : GatewayConfig :=
  let cfg := Validation.minimalConfig [statusRoute, protectedRoute]
  { cfg with
    gateway := { cfg.gateway with extauthzAddress := some "127.0.0.1:9000" }
    plugins := { enabled := true, directory := "plugins", global := [{ name := "forger" }] } }

/-- The plugin sets a subject of its own, for either route. -/
def forgerFor (route : String) : PluginBinding := { forgerBinding with id := route ++ ":forger" }

def guardedRuntime : PluginRuntime :=
  ⟨1, {}, AList.insert "private" ⟨[forgerFor "private"]⟩
    (AList.insert "status" ⟨[forgerFor "status"]⟩ ∅)⟩

/-- Surroundings in which the token of `alice` is accepted and the plugin runs. -/
def guardedEnv : CheckEnv String Unit Unit :=
  aliceEnv (some fun request =>
    (executeAccess forgingHost ⟨fun _ => 0, 0⟩ guardedRuntime (.ok ⟨(), 0, ∅⟩) request).result)

/-- A client with the token of `alice` that says it is `admin`. -/
def forgingClient : CheckRequest String :=
  ⟨[("host", "shop"), ("authorization", "Bearer " ++ aliceToken), ("x-auth-sub", "admin")], "GET",
    "/orders", "00000001"⟩

def guardedService (req : CheckRequest String) : Option (Response String) :=
  some (check guardedEnv none true guardedPath () req).response

theorem answers_guardedService : Answers guardedEnv guardedPath () guardedService := by
  intro req response h
  exact ⟨none, true, nofun, (Option.some.inj h).symm⟩

theorem matches_forgingClient :
    matchRoute guardedPath.routes
      (requestHost guardedEnv.http (forgingClient.through buildExtAuthzFilter)) "/orders" =
        some protectedRoute := rfl

/-- The chain ends normally, after the two calls of the plugin. -/
theorem continues_forgingClient :
    ContinuesAfter guardedEnv (forgingClient.through buildExtAuthzFilter) protectedRoute
      [(forgerFor "private", .setResponseHeader "X-Auth-Sub" "admin"),
        (forgerFor "private", .setServiceHeader "X-Rate-Limit-Remaining" "999999")] := ⟨0, rfl⟩

/-- The check lets the client pass. -/
theorem allowed_forgingClient :
    (check guardedEnv none true guardedPath ()
      (forgingClient.through buildExtAuthzFilter)).response.status = 200 := by
  have hcalled : Called guardedEnv guardedPath protectedRoute
      (forgingClient.through buildExtAuthzFilter).headers aliceCall :=
    ⟨extractBearer_aliceToken rfl, rfl, rfl, rfl, rfl⟩
  have hpassed : ∀ base, (applyAuth guardedEnv guardedPath protectedRoute
      (forgingClient.through buildExtAuthzFilter).headers base).result = .ok () := by
    intro base
    rw [applyAuth_of_called rfl hcalled]
    rfl
  have hplugin : PluginContinues (pluginOutcome guardedEnv
      (forgingClient.through buildExtAuthzFilter) protectedRoute) := by
    obtain ⟨us, houtcome⟩ := continues_forgingClient
    rw [houtcome]
    trivial
  rw [response_check, checkInner_of_matched matches_forgingClient]
  exact (checkMatched_of_passed _ _ _ rfl hplugin hpassed fun _ _ _ _ => ⟨_, rfl, rfl⟩).1

theorem forwards_forgingClient :
    ∃ bootstrap d sent,
      (∀ render, generateEnvoyConfig render guardedPath = (render bootstrap).map some) ∧
      Forwards HttpLib.octets guardedService bootstrap forgingClient d sent := by
  have hvalid : Validation.validate (fun _ => true) guardedPath = .ok () := by decide
  have haccepted := Validation.validate_ok_iff.mp hvalid
  obtain ⟨listener, clusters, own, hlistener, hclusters, hothers, hspec⟩ :=
    generateEnvoyConfig_spec haccepted
  obtain ⟨c, -, hbuilt⟩ := exists_right_of_forall₂ (mapM_eq_ok_iff.mp hclusters)
    ⟨"backend", ["backend:80"], ⟨"/health", 1000, 500⟩⟩ (List.mem_singleton_self _)
  have hof := (of_buildCluster hlistener hbuilt).2 protectedRoute
  refine ⟨_, staticDestination listener (routeMeaning protectedRoute) c,
    withAnswer buildExtAuthzFilter (check guardedEnv none true guardedPath ()
      (forgingClient.through buildExtAuthzFilter)).response.headers forgingClient,
    hspec, "shop", by decide, ?_, listener, List.mem_singleton_self _, ?_⟩
  · rw [staticReaches_iff haccepted.routes_nodup haccepted (by decide) hlistener hclusters hothers]
    exact ⟨protectedRoute, _, ⟨["*"], ⟨"*", List.mem_singleton_self _, by decide⟩, rfl⟩,
      List.mem_singleton_self _, rfl, hof⟩
  · obtain ⟨address, -, hrest⟩ := eq_ok_of_bind hlistener
    obtain ⟨vhosts, -, rfl⟩ := Option.map_eq_some_iff.mp (Except.ok.inj hrest)
    show (authorize buildExtAuthzFilter (some _) forgingClient).bind some = _
    rw [authorize, if_pos allowed_forgingClient]
    rfl

theorem reached_only_if_permitted_forgingClient :
    ∃ bootstrap d sent,
      (∀ render, generateEnvoyConfig render guardedPath = (render bootstrap).map some) ∧
      Forwards HttpLib.octets guardedService bootstrap forgingClient d sent ∧
      ∃ route ∈ guardedPath.routes, ∃ target ∈ guardedPath.services,
        target.name = route.upstream.service ∧ d.Of guardedPath route target ∧
          Permitted guardedEnv guardedPath () (forgingClient.through buildExtAuthzFilter)
            route := by
  obtain ⟨bootstrap, d, sent, hgenerate, hforwards⟩ := forwards_forgingClient
  have hvalid : Validation.validate (fun _ => true) guardedPath = .ok () := by decide
  have hroutes : ∀ a ∈ guardedPath.routes, a = statusRoute ∨ a = protectedRoute := by
    intro a ha
    rcases List.mem_cons.mp ha with hstatus | hprotected
    · exact Or.inl hstatus
    · exact Or.inr (List.mem_singleton.mp hprotected)
  have hhost : ∀ a ∈ guardedPath.routes, hostMatches "shop" a = true := by decide
  have hkey : ∀ a ∈ guardedPath.routes, ∀ b ∈ guardedPath.routes, a.domainKey = b.domainKey := by
    decide
  have haligned : RoutesAligned guardedPath.routes "shop" := by
    constructor
    · intro a ha b hb _ _ _ hne hstarts
      -- the open route is the more specific one, and it is the first
      rcases hroutes a ha with rfl | rfl
      · rcases hroutes b hb with rfl | rfl
        · exact absurd rfl hne
        · exact absurd hstarts (by decide)
      · rcases hroutes b hb with rfl | rfl
        · exact List.Sublist.refl _
        · exact absurd rfl hne
    · intro a ha b hb _ _ _ hne
      exact absurd (hkey a ha b hb) hne
    · intro a ha b hb _ hno
      rw [hhost a ha] at hno
      cases hno
  have hcovered : RoutesCovered guardedPath.routes "shop" :=
    fun a ha _ => ⟨a, ha, hhost a ha, startsWith_self _⟩
  exact ⟨bootstrap, d, sent, hgenerate, hforwards, reached_only_if_permitted hvalid rfl (by decide)
    hgenerate answers_guardedService (by decide) haligned hcovered hforwards⟩

end Path

/-! ## What the upstream is told -/

/-- The headers by which an upstream knows a client. -/
def identityTexts (identity : ValidatedIdentity) : List (String × String) :=
  [("x-auth-sub", identity.sub), ("x-auth-iss", identity.iss),
    ("x-auth-scopes", ",".intercalate identity.scopes)]

theorem lookup_identityHeaders {http : HttpLib ν} {base : HeaderMap ν}
    {identity : ValidatedIdentity} {name text : String} {value : ν}
    (hentry : (name, text) ∈ identityTexts identity) (hvalue : http.parseValue text = some value) :
    (identityHeaders http base identity).lookup name = some value := by
  unfold identityHeaders
  simp only [identityTexts, List.mem_cons, Prod.mk.injEq, List.not_mem_nil, or_false] at hentry
  rcases hentry with ⟨rfl, rfl⟩ | ⟨rfl, rfl⟩ | ⟨rfl, rfl⟩
  · rw [http.lookup_insertText_ne (by decide), http.lookup_insertText_ne (by decide),
      http.lookup_insertText hvalue]
  · rw [http.lookup_insertText_ne (by decide), http.lookup_insertText hvalue]
  · rw [http.lookup_insertText hvalue]

theorem startsWith_of_identityTexts {identity : ValidatedIdentity} {name text : String}
    (hentry : (name, text) ∈ identityTexts identity) : startsWith name "x-auth-" = true := by
  simp only [identityTexts, List.mem_cons, Prod.mk.injEq, List.not_mem_nil, or_false] at hentry
  rcases hentry with ⟨rfl, -⟩ | ⟨rfl, -⟩ | ⟨rfl, -⟩
  · decide
  · decide
  · decide

/-- Of the headers added for a list of names, one has a name that occurs once. -/
theorem filter_added {answer : HeaderMap ν} {name : String} {value : ν}
    (hvalue : answer.lookup name = some value) {names : List String} (hnodup : names.Nodup)
    (hmem : name ∈ names) :
    ((names.filterMap fun other => (answer.lookup other).map fun value => (other, value)).filter
      fun h => h.1 == name) = [(name, value)] := by
  induction names with
  | nil => cases hmem
  | cons other names ih =>
    obtain ⟨hother, hnames⟩ := List.nodup_cons.mp hnodup
    rcases List.mem_cons.mp hmem with rfl | hmem
    · -- the others have other names
      have hrest : ((names.filterMap fun other =>
          (answer.lookup other).map fun value => (other, value)).filter
            fun h => h.1 == name) = [] := by
        rw [List.filter_eq_nil_iff]
        intro header hheader hname
        obtain ⟨key, hkey, hlookup⟩ := List.mem_filterMap.mp hheader
        obtain ⟨v, -, rfl⟩ := Option.map_eq_some_iff.mp hlookup
        rw [← beq_iff_eq.mp hname] at hother
        exact hother hkey
      rw [List.filterMap_cons, hvalue, Option.map_some, List.filter_cons,
        if_pos (beq_self_eq_true _), hrest]
    · have hne : other ≠ name := by
        rintro rfl
        exact hother hmem
      rw [List.filterMap_cons]
      cases answer.lookup other with
      | none => exact ih hnames hmem
      | some v =>
        rw [Option.map_some, List.filter_cons, if_neg (by simpa using hne)]
        exact ih hnames hmem

/-- A header that the filter adds is the only one of its name that goes upstream. -/
theorem getAll_withAnswer {filter : ExtAuthzFilter} {answer : HeaderMap ν} {name : String}
    {value : ν} (hadds : filter.addsUpstream name = true) (hvalue : answer.lookup name = some value)
    (req : CheckRequest ν) : (withAnswer filter answer req).headers.getAll name = [value] := by
  have hown : ((req.headers.filter fun h =>
      !(filter.addsUpstream h.1 && (answer.lookup h.1).isSome)).filter
        fun h => h.1 == name) = [] := by
    rw [List.filter_eq_nil_iff]
    intro header hheader hname
    have hkept := (List.mem_filter.mp hheader).2
    rw [beq_iff_eq.mp hname, hadds, hvalue] at hkept
    simp at hkept
  have hkey : name ∈ answer.keys := AList.lookup_isSome.mp (by simp [hvalue])
  unfold RequestHeaders.getAll withAnswer addedHeaders
  simp only [List.filter_append, hown, List.nil_append]
  rw [filter_added hvalue (answer.keys_nodup.filter _) (List.mem_filter.mpr ⟨hkey, hadds⟩)]
  rfl

section Identity
variable {cfg : GatewayConfig} {env : CheckEnv ν κ σ} {s : σ} {req : CheckRequest ν}
  {route : RouteConfig}

/-- There is no engine, or the chain ended normally after some calls of its plugins. -/
def PluginsPass (env : CheckEnv ν κ σ) (req : CheckRequest ν) (route : RouteConfig) : Prop :=
  pluginOutcome env req route = none ∨ ∃ calls, ContinuesAfter env req route calls

/-- An `x-auth-` header of an allow answer is the one the auth step has left. -/
theorem allow_lookup_auth
    (hroute : matchRoute cfg.routes (requestHost env.http req) req.path = some route)
    (hplugins : PluginsPass env req route)
    (hstatus : (checkInner env cfg s req).response.status = 200) :
    ∃ base, (applyAuth env cfg route req.headers base).result = .ok () ∧
      ∀ name, startsWith name "x-auth-" = true →
        (checkInner env cfg s req).response.headers.lookup name =
          (applyAuth env cfg route req.headers base).responseHeaders.lookup name := by
  rcases hplugins with hnone | ⟨calls, hcalls⟩
  · have hengine : env.pluginEngine = none := Option.map_eq_none_iff.mp hnone
    rw [checkInner_of_matched hroute] at hstatus ⊢
    have hstep : executeAccessPlugins env req (requestInfo env.http req) route =
        (.ok ⟨pluginRequest env req (requestInfo env.http req) route, ∅, ∅⟩, []) := by
      unfold executeAccessPlugins
      simp only [hengine]
    unfold checkMatched at hstatus ⊢
    split at hstatus
    · rename_i hmethod
      rw [hstep] at hstatus
      rw [if_pos hmethod, hstep]
      obtain ⟨hauth, -, decision, -, hheaders⟩ := checkAuth_allow_headers hstatus
      refine ⟨∅, hauth, fun name hname => ?_⟩
      obtain ⟨-, hid, hlimit⟩ := authName_spec hname
      show (checkAuth env cfg s req _ route _).response.headers.lookup name = _
      rw [hheaders, env.http.lookup_insertText_ne hid]
      exact lookup_insertRateLimitHeaders_ne _ _ _ decision hlimit
    · simp [methodDenied, earlyDeny, denyResponse] at hstatus
  · obtain ⟨base, decision, -, hauth, -, -, hlookup, -⟩ := allow_lookup hroute hcalls hstatus
    refine ⟨base, hauth, fun name hname => ?_⟩
    obtain ⟨-, hid, hlimit⟩ := authName_spec hname
    rw [hlookup name hid, pluginHeader_service_auth _ calls hname, Option.none_or]
    exact lookup_insertRateLimitHeaders_ne _ _ _ decision hlimit

/-- An allow answer for a protected route carries the identity of the token. -/
theorem identity_in_answer (hrequired : route.authRequired = true)
    (hroute : matchRoute cfg.routes (requestHost env.http req) req.path = some route)
    (hplugins : PluginsPass env req route)
    (hstatus : (checkInner env cfg s req).response.status = 200) :
    ∃ call identity, Validated env cfg req route call ∧ call.result = .ok identity ∧
      ∀ name text value, (name, text) ∈ identityTexts identity →
        env.http.parseValue text = some value →
          (checkInner env cfg s req).response.headers.lookup name = some value := by
  obtain ⟨base, hauth, hlookup⟩ := allow_lookup_auth hroute hplugins hstatus
  rcases applyAuth_passed hauth with hopen | ⟨call, identity, hvalidated, hresult, hpassed⟩
  · -- a protected route is not passed without a call
    rcases applyAuth_cases env cfg req hrequired base with ⟨deny, hdeny, -⟩ | ⟨-, call, hcall, -⟩
    · rw [hauth] at hdeny
      cases hdeny
    · rw [hopen base] at hcall
      cases hcall
  · refine ⟨call, identity, hvalidated, hresult, fun name text value hentry hvalue => ?_⟩
    rw [hlookup name (startsWith_of_identityTexts hentry), hpassed base]
    exact lookup_identityHeaders hentry hvalue

end Identity

/-- Beyond that, on a route that requires a token and with plugins that do not answer themselves:
the upstream finds the subject, the issuer and the scopes of the validated token in its headers,
each once, whatever headers of these names the client and the plugins have sent; this is so for each
of the three that makes a header value. -/
theorem upstream_sees_identity {urlOk : String → Bool} {cfg : GatewayConfig}
    {env : CheckEnv ν κ σ} {s : σ} {service : CheckRequest ν → Option (Response ν)}
    {client sent : CheckRequest ν} (hvalid : Validation.validate urlOk cfg = .ok ())
    (haddress : cfg.gateway.extauthzAddress.isSome = true) {bootstrap : Bootstrap}
    (hgenerate : ∀ render, generateEnvoyConfig render cfg = (render bootstrap).map some)
    (hanswers : Answers env cfg s service) {host : String}
    (hhost : headerStr env.http client.headers "host" = some host) {route : RouteConfig}
    (hroute : matchRoute cfg.routes host client.path = some route)
    (hrequired : route.authRequired = true)
    (hplugins : PluginsPass env (client.through buildExtAuthzFilter) route)
    {d : Destination} (hforwards : Forwards env.http service bootstrap client d sent) :
    ∃ call identity, Validated env cfg (client.through buildExtAuthzFilter) route call ∧
      call.result = .ok identity ∧
      ∀ name text value, (name, text) ∈ identityTexts identity →
        env.http.parseValue text = some value → sent.headers.getAll name = [value] := by
  have haccepted := Validation.validate_ok_iff.mp hvalid
  obtain ⟨listener, clusters, own, hlistener, -, -, hspec⟩ := generateEnvoyConfig_spec haccepted
  obtain rfl := bootstrap_unique hgenerate hspec
  obtain ⟨-, -, -, listener', hlistener', hfilters⟩ := hforwards
  obtain rfl : listener' = listener := List.mem_singleton.mp hlistener'
  obtain ⟨response, hresponse, hstatus, rfl⟩ := runHttpFilters_listener haddress hlistener hfilters
  obtain ⟨trace, permit, htrace, rfl⟩ := hanswers _ _ hresponse
  obtain ⟨rfl, hallowed⟩ := checkInner_of_check hstatus
  rw [← requestHost_through hhost buildExtAuthzFilter] at hroute
  obtain ⟨call, identity, hvalidated, hresult, hanswer⟩ :=
    identity_in_answer hrequired hroute hplugins hallowed
  refine ⟨call, identity, hvalidated, hresult, fun name text value hentry hvalue => ?_⟩
  have hname := startsWith_of_identityTexts hentry
  have hlookup := hanswer name text value hentry hvalue
  have htraced : (check env trace true cfg s
      (client.through buildExtAuthzFilter)).response.headers.lookup name = some value := by
    cases trace with
    | none => exact hlookup
    | some inject => exact (htrace inject rfl _ name hname).trans hlookup
  exact getAll_withAnswer ((addsUpstream_iff name).mpr (.inl hname)) htraced client

theorem upstream_sees_identity_forgingClient :
    forgingClient.headers.getAll "x-auth-sub" = ["admin"] ∧
      ∃ bootstrap d sent,
        (∀ render, generateEnvoyConfig render guardedPath = (render bootstrap).map some) ∧
        Forwards HttpLib.octets guardedService bootstrap forgingClient d sent ∧
        ∃ call identity, Validated guardedEnv guardedPath
            (forgingClient.through buildExtAuthzFilter) protectedRoute call ∧
          call.result = .ok identity ∧
          ∀ name text value, (name, text) ∈ identityTexts identity →
            HttpLib.octets.parseValue text = some value → sent.headers.getAll name = [value] := by
  obtain ⟨bootstrap, d, sent, hgenerate, hforwards⟩ := forwards_forgingClient
  have hvalid : Validation.validate (fun _ => true) guardedPath = .ok () := by decide
  have hhost : headerStr HttpLib.octets forgingClient.headers "host" = some "shop" := by decide
  exact ⟨rfl, bootstrap, d, sent, hgenerate, hforwards, upstream_sees_identity hvalid rfl hgenerate
    answers_guardedService hhost rfl rfl (.inr ⟨_, continues_forgingClient⟩) hforwards⟩

end Gateway
end OpenApiGateway
