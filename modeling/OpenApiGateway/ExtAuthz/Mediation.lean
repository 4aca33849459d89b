import OpenApiGateway.Config.Validation
import OpenApiGateway.ExtAuthz.Handler

/-!
# Who is let through

Envoy lets a request pass exactly when the check answers 200. For a route that requires
authentication this file says when such an answer implies that the token was validated
(`allowed_only_after_validation_iff`), and for a route with required scopes when it implies
that the token carries them (`required_scopes_enforced_iff`). Each step of the handler has
one lemma on the statuses it can answer with; the two results are put together from these.
-/

namespace OpenApiGateway
namespace ExtAuthz

open Lib.Text Auth RateLimit Plugins

variable {ν κ σ : Type}

/-! ## The plugin stage -/

/-- What the plugin engine returned for the request, where there is one. -/
def pluginOutcome (env : CheckEnv ν κ σ) (req : CheckRequest ν) (route : RouteConfig) :
    Option (Except PluginError PluginAccessResult) :=
  env.pluginEngine.map fun executeAccess =>
    executeAccess (pluginRequest env req (requestInfo env.http req) route)

/-- The engine failed, or a plugin exited with 200 or with a number that is no status. -/
def PluginAllows : Option (Except PluginError PluginAccessResult) → Prop
  | some (.error _) => True
  | some (.ok (.shortCircuit _ status _ _ _)) => status = 200 ∨ ¬ (100 ≤ status ∧ status < 1000)
  | _ => False

/-- There is no engine, or its chain ended normally. -/
def PluginContinues : Option (Except PluginError PluginAccessResult) → Prop
  | none => True
  | some (.ok (.continue _ _ _)) => True
  | _ => False

theorem fromU16_getD_eq_ok_iff {status : ℕ} :
    (StatusCode.fromU16 status).getD 200 = 200 ↔
      status = 200 ∨ ¬ (100 ≤ status ∧ status < 1000) := by
  unfold StatusCode.fromU16
  by_cases h : 100 ≤ status ∧ status < 1000
  · simp [h]
  · simp [h]

/-- The plugin step either continues, and then nothing was allowed, or answers; it answers
200 exactly in the cases of `PluginAllows`. -/
theorem executeAccessPlugins_cases (env : CheckEnv ν κ σ) (req : CheckRequest ν)
    (route : RouteConfig) :
    (∃ plugin effects, executeAccessPlugins env req (requestInfo env.http req) route =
        (.ok plugin, effects) ∧ ¬ PluginAllows (pluginOutcome env req route)) ∨
    (∃ response effects, executeAccessPlugins env req (requestInfo env.http req) route =
        (.error response, effects) ∧
      (response.status = 200 ↔ PluginAllows (pluginOutcome env req route))) := by
  unfold executeAccessPlugins pluginOutcome
  simp only
  cases env.pluginEngine with
  | none => exact Or.inl ⟨_, _, rfl, by simp [PluginAllows]⟩
  | some executeAccess =>
    simp only [Option.map_some]
    cases executeAccess (pluginRequest env req (requestInfo env.http req) route) with
    | error e =>
      -- the engine's own failure is answered with a bare body, and so with 200
      exact Or.inr ⟨_, _, rfl, by simp [PluginAllows]⟩
    | ok result =>
      cases result with
      | «continue» up down us => exact Or.inl ⟨_, _, rfl, by simp [PluginAllows]⟩
      | shortCircuit name status body headers us =>
        exact Or.inr ⟨_, _, rfl, fromU16_getD_eq_ok_iff⟩
      | error name message errorType us => exact Or.inr ⟨_, _, rfl, by simp [PluginAllows]⟩

theorem executeAccessPlugins_of_continues {env : CheckEnv ν κ σ} {req : CheckRequest ν}
    {route : RouteConfig} (h : PluginContinues (pluginOutcome env req route)) :
    ∃ plugin effects, executeAccessPlugins env req (requestInfo env.http req) route =
      (.ok plugin, effects) := by
  unfold pluginOutcome at h
  unfold executeAccessPlugins
  simp only
  cases hengine : env.pluginEngine with
  | none => exact ⟨_, _, rfl⟩
  | some executeAccess =>
    rw [hengine, Option.map_some] at h
    simp only
    cases hresult : executeAccess (pluginRequest env req (requestInfo env.http req) route) with
    | error e =>
      rw [hresult] at h
      exact absurd h (by simp [PluginContinues])
    | ok result =>
      rw [hresult] at h
      cases result with
      | «continue» up down us => exact ⟨_, _, rfl⟩
      | shortCircuit name status body headers us => exact absurd h (by simp [PluginContinues])
      | error name message errorType us => exact absurd h (by simp [PluginContinues])

/-! ## The auth step -/

/-- The call validated the bearer token of this request against the provider and the
required scopes of the route, and succeeded. -/
structure Validated (env : CheckEnv ν κ σ) (cfg : GatewayConfig) (req : CheckRequest ν)
    (route : RouteConfig) (call : AuthCall κ) : Prop extends
    Called env cfg route req.headers call where
  ok : ∃ identity, call.result = .ok identity

/-- On a protected route the auth step passes only with a validated call, and its denials
are not allows. -/
theorem applyAuth_cases (env : CheckEnv ν κ σ) (cfg : GatewayConfig) (req : CheckRequest ν)
    {route : RouteConfig} (hauth : route.authRequired = true) (headers : HeaderMap ν) :
    (∃ deny, (applyAuth env cfg route req.headers headers).result = .error deny ∧
      deny.status ≠ 200) ∨
    ((applyAuth env cfg route req.headers headers).result = .ok () ∧
      ∃ call ∈ (applyAuth env cfg route req.headers headers).authCalls,
        Validated env cfg req route call) := by
  rcases applyAuth_outcomes env cfg route req.headers with
    ⟨hopen, -⟩ | ⟨-, reason, -, hout⟩ | ⟨-, -, hout⟩ | ⟨-, call, hcalled, hout⟩
  · rw [hauth] at hopen
    simp at hopen
  · rw [hout]
    exact Or.inl ⟨⟨401, _⟩, rfl, by simp⟩
  · rw [hout]
    exact Or.inl ⟨⟨503, _⟩, rfl, by simp⟩
  · rw [hout, authAnswer]
    split
    · rename_i identity hresult
      exact Or.inr ⟨rfl, call, List.mem_singleton_self _, hcalled, identity, hresult⟩
    · rename_i e _
      exact Or.inl ⟨_, rfl, e.httpStatus_ne_ok⟩

/-- Without `auth_required` the auth step does nothing. -/
theorem applyAuth_of_not_required (env : CheckEnv ν κ σ) (cfg : GatewayConfig)
    (requestHeaders : RequestHeaders ν) {route : RouteConfig}
    (hauth : route.authRequired = false) (headers : HeaderMap ν) :
    applyAuth env cfg route requestHeaders headers = ⟨.ok (), headers, none, [], []⟩ := by
  unfold applyAuth
  rw [if_neg (by simp [hauth])]

/-! ## The rest of the check -/

/-- The limiter step passes the auth step's calls on, and allows exactly what the limiter
allows. -/
theorem checkRateLimit_spec (env : CheckEnv ν κ σ) (cfg : GatewayConfig) (s : σ)
    (req : CheckRequest ν) (info : RequestInfo) (route : RouteConfig) (plugin : PluginContinue ν)
    (auth : AuthOutcome ν κ) :
    (checkRateLimit env cfg s req info route plugin auth).authCalls = auth.authCalls ∧
      ((checkRateLimit env cfg s req info route plugin auth).response.status = 200 ↔
        ∃ decision, (limiterCheck env cfg s route req auth.responseHeaders).1 = .ok decision ∧
          decision.allowed = true) := by
  unfold checkRateLimit
  simp only
  split
  · rename_i decision hdecision
    rw [hdecision]
    split
    · rename_i hallowed
      exact ⟨rfl, fun _ => ⟨decision, rfl, hallowed⟩, fun _ => rfl⟩
    · rename_i hdenied
      refine ⟨rfl, fun h => by simp at h, fun h => ?_⟩
      rcases h with ⟨decision', heq, hallowed⟩
      rw [← Except.ok.inj heq] at hallowed
      exact absurd hallowed hdenied
  · rename_i e herror
    rw [herror]
    refine ⟨rfl, fun h => by simp [earlyDeny, denyResponse] at h, fun h => ?_⟩
    rcases h with ⟨decision, heq, -⟩
    simp at heq

/-- On a protected route, what follows the plugins allows only with a validated call. -/
theorem checkAuth_allowed (env : CheckEnv ν κ σ) (cfg : GatewayConfig) (s : σ)
    (req : CheckRequest ν) (info : RequestInfo) {route : RouteConfig}
    (hauth : route.authRequired = true) (plugin : PluginContinue ν)
    (hstatus : (checkAuth env cfg s req info route plugin).response.status = 200) :
    ∃ call ∈ (checkAuth env cfg s req info route plugin).authCalls,
      Validated env cfg req route call := by
  unfold checkAuth at hstatus ⊢
  simp only at hstatus ⊢
  rcases applyAuth_cases env cfg req hauth plugin.responseHeaders with
    ⟨deny, hdeny, hne⟩ | ⟨hok, hcall⟩
  · -- a denial is answered with its own status
    rw [hdeny] at hstatus
    exact absurd hstatus hne
  · -- the limiter step hands the calls on, whatever it answers
    rw [hok]
    simp only
    rw [(checkRateLimit_spec env cfg s req info route plugin _).1]
    exact hcall

theorem checkInner_of_matched {env : CheckEnv ν κ σ} {cfg : GatewayConfig} {s : σ}
    {req : CheckRequest ν} {route : RouteConfig}
    (hroute : matchRoute cfg.routes (requestHost env.http req) req.path = some route) :
    checkInner env cfg s req =
      checkMatched env cfg s req (requestInfo env.http req) route := by
  unfold checkInner
  simp only
  rw [hroute]

/-- A check is refused for its method, ended by the plugin step, or goes on to auth with
nothing allowed yet. -/
theorem checkMatched_cases (env : CheckEnv ν κ σ) (cfg : GatewayConfig) (s : σ)
    (req : CheckRequest ν) (route : RouteConfig) :
    (methodAllowed route req.method = false ∧
      (checkMatched env cfg s req (requestInfo env.http req) route).response.status = 405) ∨
    (methodAllowed route req.method = true ∧
      (checkMatched env cfg s req (requestInfo env.http req) route).authCalls = [] ∧
      ((checkMatched env cfg s req (requestInfo env.http req) route).response.status = 200 ↔
        PluginAllows (pluginOutcome env req route))) ∨
    (methodAllowed route req.method = true ∧ ¬ PluginAllows (pluginOutcome env req route) ∧
      ∃ plugin effects,
        executeAccessPlugins env req (requestInfo env.http req) route = (.ok plugin, effects) ∧
        (checkMatched env cfg s req (requestInfo env.http req) route).response =
          (checkAuth env cfg s req (requestInfo env.http req) route plugin).response ∧
        (checkMatched env cfg s req (requestInfo env.http req) route).authCalls =
          (checkAuth env cfg s req (requestInfo env.http req) route plugin).authCalls) := by
  unfold checkMatched
  cases hmethod : methodAllowed route req.method with
  | false => exact Or.inl ⟨rfl, rfl⟩
  | true =>
    rw [if_pos rfl]
    rcases executeAccessPlugins_cases env req route with
      ⟨plugin, effects, hstep, hno⟩ | ⟨response, effects, hstep, hiff⟩
    · rw [hstep]
      exact Or.inr (Or.inr ⟨rfl, hno, plugin, effects, rfl, rfl, rfl⟩)
    · rw [hstep]
      exact Or.inr (Or.inl ⟨rfl, rfl, hiff⟩)

/-! ## Complete mediation -/

/-- A request to a protected route is answered with 200 only after its token was validated,
exactly when its method is refused or the plugin stage does not allow it by itself. -/
theorem allowed_only_after_validation_iff (env : CheckEnv ν κ σ) (cfg : GatewayConfig) (s : σ)
    (req : CheckRequest ν) (route : RouteConfig)
    (hroute : matchRoute cfg.routes (requestHost env.http req) req.path = some route)
    (hauth : route.authRequired = true) :
    ((checkInner env cfg s req).response.status = 200 →
      ∃ call ∈ (checkInner env cfg s req).authCalls, Validated env cfg req route call) ↔
      methodAllowed route req.method = false ∨ ¬ PluginAllows (pluginOutcome env req route) := by
  rw [checkInner_of_matched hroute]
  rcases checkMatched_cases env cfg s req route with
    ⟨hmethod, hstatus⟩ | ⟨hmethod, hcalls, hiff⟩ | ⟨hmethod, hno, plugin, effects, -, hresp, hcalls⟩
  · rw [hstatus]
    simp [hmethod]
  · -- the plugin step has answered before any call was made
    rw [hcalls, hiff]
    simp [hmethod]
  · rw [hresp, hcalls]
    simp only [hno, not_false_eq_true, or_true, iff_true]
    exact checkAuth_allowed env cfg s req _ hauth plugin

/-- A request that passes the method check, the plugins and the auth step is allowed, with the
calls of the auth step, if the limiter allows everything. -/
theorem checkMatched_of_passed (env : CheckEnv ν κ σ) (cfg : GatewayConfig) (s : σ)
    {req : CheckRequest ν} {route : RouteConfig} (hmethod : methodAllowed route req.method = true)
    (hplugin : PluginContinues (pluginOutcome env req route))
    (hauth : ∀ base, (applyAuth env cfg route req.headers base).result = .ok ())
    (hlimiter : ∀ s key capacity rate, ∃ decision,
      (env.limiter s key capacity rate).1 = .ok decision ∧ decision.allowed = true) :
    (checkMatched env cfg s req (requestInfo env.http req) route).response.status = 200 ∧
      ∃ base, (checkMatched env cfg s req (requestInfo env.http req) route).authCalls =
        (applyAuth env cfg route req.headers base).authCalls := by
  rcases executeAccessPlugins_of_continues hplugin with ⟨plugin, effects, hstep⟩
  have hspec := checkRateLimit_spec env cfg s req (requestInfo env.http req) route plugin
    (applyAuth env cfg route req.headers plugin.responseHeaders)
  unfold checkMatched
  rw [if_pos hmethod, hstep]
  simp only [checkAuth, hauth]
  exact ⟨hspec.2.mpr (hlimiter _ _ _ _), _, hspec.1⟩

/-- On an open route there is no call. -/
theorem checkMatched_of_open (env : CheckEnv ν κ σ) (cfg : GatewayConfig) (s : σ)
    {req : CheckRequest ν} {route : RouteConfig} (hauth : route.authRequired = false)
    (hmethod : methodAllowed route req.method = true)
    (hplugin : PluginContinues (pluginOutcome env req route))
    (hlimiter : ∀ s key capacity rate, ∃ decision,
      (env.limiter s key capacity rate).1 = .ok decision ∧ decision.allowed = true) :
    (checkMatched env cfg s req (requestInfo env.http req) route).response.status = 200 ∧
      (checkMatched env cfg s req (requestInfo env.http req) route).authCalls = [] := by
  have hopen := applyAuth_of_not_required env cfg req.headers hauth
  obtain ⟨hstatus, base, hcalls⟩ := checkMatched_of_passed env cfg s hmethod hplugin
    (fun base => by rw [hopen]) hlimiter
  rw [hopen] at hcalls
  exact ⟨hstatus, hcalls⟩

/-- A route for every host that requires a token of the provider `main`. -/
def protectedRoute : RouteConfig :=
  { Validation.minimalRoute "private" ["*"] "/" with
    authRequired := true, authProvider := some "main" }

/-- Surroundings with the given plugin engine and an empty key cache for `main`, in which no
token decodes and the limiter allows everything. -/
def plainEnv (engine : Option (PluginRequest → Except PluginError PluginAccessResult)) :
    CheckEnv String Unit Unit where
  http := HttpLib.plain
  jwt := ⟨fun _ => none, fun _ _ _ _ => .error .other⟩
  pluginEngine := engine
  jwksRegistry := AList.insert "main"
    ⟨⟨"main", "https://issuer", "api", "https://issuer/jwks", 300, 30⟩, [], 0⟩ ∅
  window := ⟨0, 0, []⟩
  limiter := fun s _ capacity _ => (.ok ⟨true, capacity, capacity - 1, 0, .redis⟩, s)
  nowSecs := 0

/-- A request without any header. -/
def plainRequest : CheckRequest String := ⟨[], "GET", "/orders", "00000001"⟩

/-- A token of the issuer for `alice` with the scope `reports`, signed with the key `main-1`. -/
def aliceToken : String :=
  "eyJhbGciOiJSUzI1NiIsImtpZCI6Im1haW4tMSJ9." ++
  "eyJzdWIiOiJhbGljZSIsImlzcyI6Imh0dHBzOi8vaXNzdWVyIiwiYXVkIjoiYXBpIiwiZXhwIjo2MCwic2NwIjpb" ++
  "InJlcG9ydHMiXX0." ++
  "TE1x1yiyXohjJLZqRfEGO3ZsdfPOVIB39JtgQf93p7H9MKmHZ0WxWIbxjoPGz3Py7ta_EdlFHHgnjoMZ3vqzIKVP" ++
  "saVgU6yxJ2KcOaFDNtyC6i8D8weq_iHSZKT0IDC7ozRx0UOg9O7ICkTlaJluQWLbz_HyJLlfgZvB1kMZ-V2_PJPJ" ++
  "ozeCq5EtDadIPbS54oFECQjyP91N1CRpcW1M6I6aasW91SMfXCyvDQhtA_i0UQUDDDjldNFqbKk9Wm_tIB-uXRz4" ++
  "enS6JtzBmpxzqoeVf6eyvNcBUitCPMNXTtKu7Mwt8t8c5yN5mHBDgscETbZzs_VSPDjNIvYibbyhRw"

theorem visible_append {s t : String} (hs : s.toList.all isVisibleAscii = true)
    (ht : t.toList.all isVisibleAscii = true) : (s ++ t).toList.all isVisibleAscii = true := by
  rw [String.toList_append, List.all_append, hs, ht, Bool.and_self]

-- line by line, since the kernel's time grows with the cube of a text's length
theorem aliceToken_visible : aliceToken.toList.all isVisibleAscii = true := by
  refine visible_append (visible_append (visible_append (visible_append (visible_append
    (visible_append ?_ ?_) ?_) ?_) ?_) ?_) ?_
  all_goals decide +kernel

/-- The library on this token. -/
def aliceJwt : JwtLib Unit where
  decodeHeader _ := some ⟨.rs256, some "main-1"⟩
  decode _ _ _ _ :=
    .ok ⟨some "alice", some "https://issuer", .single "api", some 60, none, none, some ["reports"]⟩

/-- Surroundings in which the token is accepted for `main`. -/
def aliceEnv (engine : Option (PluginRequest → Except PluginError PluginAccessResult)) :
    CheckEnv String Unit Unit :=
  { plainEnv engine with
    http := HttpLib.octets
    jwt := aliceJwt
    jwksRegistry := AList.insert "main"
      ⟨⟨"main", "https://issuer", "api", "https://issuer/jwks", 300, 30⟩, [⟨"main-1", ()⟩], 0⟩ ∅ }

def tokenRequest (token : String) : CheckRequest String :=
  ⟨[("authorization", "Bearer " ++ token)], "GET", "/orders", "00000001"⟩

theorem extractBearer_aliceToken {headers : RequestHeaders String}
    (h : headers.get "authorization" = some ("Bearer " ++ aliceToken)) :
    extractBearer HttpLib.octets headers = some (.valid aliceToken) := by
  have hvisible : ("Bearer " ++ aliceToken).toList.all isVisibleAscii = true :=
    visible_append (by decide) aliceToken_visible
  have hne : aliceToken ≠ "" := fun h => absurd (String.append_eq_empty_iff.mp h).2 (by decide)
  refine extractBearer_of_header ?_ hne
  rw [headerStr, h, Option.bind_some, HttpLib.toStr_octets hvisible]

/-- The call for this token. -/
def aliceCall : AuthCall Unit where
  token := aliceToken
  provider := ⟨"main", "https://issuer", "api", "https://issuer/jwks", 300, 30⟩
  cache :=
    ⟨⟨"main", "https://issuer", "api", "https://issuer/jwks", 300, 30⟩, [⟨"main-1", ()⟩], 0⟩
  requiredScopes := []
  result := .ok ⟨"alice", "https://issuer", ["api"], ["reports"], 60⟩

theorem allowed_only_after_validation_iff_protectedRoute :
    let cfg := Validation.minimalConfig [protectedRoute]
    let outcome := checkInner (aliceEnv none) cfg () (tokenRequest aliceToken)
    matchRoute [protectedRoute] "*" "/orders" = some protectedRoute ∧
      outcome.response.status = 200 ∧
      ((outcome.response.status = 200 → ∃ call ∈ outcome.authCalls,
          Validated (aliceEnv none) cfg (tokenRequest aliceToken) protectedRoute call) ↔
        methodAllowed protectedRoute "GET" = false ∨
          ¬ PluginAllows (pluginOutcome (aliceEnv none) (tokenRequest aliceToken) protectedRoute)) ∧
      ∃ call ∈ outcome.authCalls,
        Validated (aliceEnv none) cfg (tokenRequest aliceToken) protectedRoute call := by
  intro cfg outcome
  have hroute : matchRoute cfg.routes (requestHost (aliceEnv none).http (tokenRequest aliceToken))
      (tokenRequest aliceToken).path = some protectedRoute := rfl
  have hiff := allowed_only_after_validation_iff (aliceEnv none) cfg () (tokenRequest aliceToken)
    protectedRoute hroute rfl
  have hcalled : Called (aliceEnv none) cfg protectedRoute (tokenRequest aliceToken).headers
      aliceCall := ⟨extractBearer_aliceToken rfl, rfl, rfl, rfl, rfl⟩
  have hpassed : ∀ base,
      (applyAuth (aliceEnv none) cfg protectedRoute (tokenRequest aliceToken).headers base).result =
        .ok () := by
    intro base
    rw [applyAuth_of_called rfl hcalled]
    rfl
  have hallowed : outcome.response.status = 200 := by
    show (checkInner (aliceEnv none) cfg () (tokenRequest aliceToken)).response.status = 200
    rw [checkInner_of_matched hroute]
    exact (checkMatched_of_passed (aliceEnv none) cfg () rfl trivial hpassed
      fun s key capacity rate => ⟨_, rfl, rfl⟩).1
  exact ⟨rfl, hallowed, hiff, hiff.mpr (.inr id) hallowed⟩

/-- A request without a token to the protected route is answered with 200, and nothing is
validated, when the engine fails and when a plugin exits with the number 42. -/
theorem allowed_without_validation_protectedRoute :
    Validation.validate (fun _ => true) (Validation.minimalConfig [protectedRoute]) = .ok () ∧
    (let failing := plainEnv (some fun _ => .error (.load "sandbox" "not enough memory"))
      let outcome := checkInner failing (Validation.minimalConfig [protectedRoute]) () plainRequest
      outcome.response.status = 200 ∧ outcome.authCalls.length = 0) ∧
    (let exiting := plainEnv (some fun _ => .ok (.shortCircuit "waf" 42 (some "denied") ∅ 10))
      let outcome := checkInner exiting (Validation.minimalConfig [protectedRoute]) () plainRequest
      outcome.response.status = 200 ∧ outcome.authCalls.length = 0) := by
  refine ⟨by decide, ⟨rfl, rfl⟩, rfl, rfl⟩

/-! ## Required scopes -/

/-- The call's token was accepted for its provider, on the keys before or after a refresh,
with an identity that has all of `scopes`. -/
def AcceptedWithScopes (env : CheckEnv ν κ σ) (call : AuthCall κ) (scopes : List String) : Prop :=
  ∃ identity,
    (validateToken env.jwt env.window.now call.token call.provider call.cache.keys scopes =
        .ok identity ∨
      validateToken env.jwt env.window.later call.token call.provider env.window.keysLater scopes =
        .ok identity) ∧
    ∀ scope ∈ scopes, scope ∈ identity.scopes

theorem Validated.acceptedWithScopes {env : CheckEnv ν κ σ} {cfg : GatewayConfig}
    {req : CheckRequest ν} {route : RouteConfig} {call : AuthCall κ} {scopes : List String}
    (h : Validated env cfg req route call) (hscopes : route.requiredScopes = some scopes) :
    AcceptedWithScopes env call scopes := by
  rcases h.ok with ⟨identity, hok⟩
  have hrequired : call.requiredScopes = scopes := by
    rw [h.scopes, hscopes]
    rfl
  have hvalid := h.result
  rw [hok, hrequired] at hvalid
  -- the token was accepted on one of the two key sets, and each way checks the scopes
  have haccepted := validateToken_of_validateWithRefresh hvalid.symm
  refine ⟨identity, haccepted, ?_⟩
  rcases haccepted with hnow | hlater
  · exact scopes_of_validateToken hnow
  · exact scopes_of_validateToken hlater

theorem PluginContinues.not_allows {outcome : Option (Except PluginError PluginAccessResult)}
    (h : PluginContinues outcome) : ¬ PluginAllows outcome := by
  unfold PluginContinues at h
  split at h
  · simp [PluginAllows]
  · simp [PluginAllows]
  · exact absurd h id

/-- For a request that reaches a route with required scopes while the plugins continue:
whatever the limiter says, 200 implies a token accepted with these scopes, exactly when the
route requires authentication or refuses the method. -/
theorem required_scopes_enforced_iff (env : CheckEnv ν κ σ) (cfg : GatewayConfig) (s : σ)
    (req : CheckRequest ν) (route : RouteConfig) (scopes : List String)
    (hroute : matchRoute cfg.routes (requestHost env.http req) req.path = some route)
    (hscopes : route.requiredScopes = some scopes)
    (hplugin : PluginContinues (pluginOutcome env req route)) :
    (∀ limiter, (checkInner { env with limiter := limiter } cfg s req).response.status = 200 →
      ∃ call ∈ (checkInner { env with limiter := limiter } cfg s req).authCalls,
        extractBearer env.http req.headers = some (.valid call.token) ∧
        (cfg.auth.providers.find? fun p => p.name == providerName route) = some call.provider ∧
        AcceptedWithScopes env call scopes) ↔
      route.authRequired = true ∨ methodAllowed route req.method = false := by
  constructor
  · intro h
    by_contra hcond
    rw [not_or, Bool.not_eq_true, Bool.not_eq_false] at hcond
    -- a limiter that always allows shows the missing check
    let lenient : Limiter σ := fun s _ capacity _ => (.ok ⟨true, capacity, capacity, 0, .redis⟩, s)
    have hopen := checkMatched_of_open { env with limiter := lenient } cfg s hcond.1 hcond.2
      hplugin fun s key capacity rate => ⟨_, rfl, rfl⟩
    have hmatched : checkInner { env with limiter := lenient } cfg s req = _ :=
      checkInner_of_matched hroute
    rcases h lenient (by rw [hmatched]; exact hopen.1) with ⟨call, hcall, -⟩
    rw [hmatched, hopen.2] at hcall
    simp at hcall
  · intro hcond limiter hstatus
    have hmatched : checkInner { env with limiter := limiter } cfg s req = _ :=
      checkInner_of_matched hroute
    rw [hmatched] at hstatus ⊢
    -- 200 can only come from the last stage: the method was not refused, the plugins continued
    rcases checkMatched_cases { env with limiter := limiter } cfg s req route with
      ⟨-, h405⟩ | ⟨-, -, hiff⟩ | ⟨hmethod, -, plugin, effects, -, hresp, hcalls⟩
    · rw [h405] at hstatus
      simp at hstatus
    · exact absurd (hiff.mp hstatus) hplugin.not_allows
    · have hauth : route.authRequired = true := by
        rcases hcond with hauth | hrefused
        · exact hauth
        · rw [hmethod] at hrefused
          simp at hrefused
      rw [hresp] at hstatus
      rcases checkAuth_allowed { env with limiter := limiter } cfg s req _ hauth plugin hstatus
        with ⟨call, hcall, hvalidated⟩
      rw [hcalls]
      exact ⟨call, hcall, hvalidated.token, hvalidated.provider,
        hvalidated.acceptedWithScopes hscopes⟩

/-- A route that names scopes but does not require authentication. -/
def scopedOpenRoute : RouteConfig :=
  { Validation.minimalRoute "admin" ["*"] "/" with requiredScopes := some ["admin"] }

theorem required_scopes_enforced_iff_scopedOpenRoute :
    matchRoute [scopedOpenRoute] "*" "/orders" = some scopedOpenRoute ∧
      ((∀ limiter, (checkInner { plainEnv none with limiter := limiter }
          (Validation.minimalConfig [scopedOpenRoute]) () plainRequest).response.status = 200 →
        ∃ call ∈ (checkInner { plainEnv none with limiter := limiter }
            (Validation.minimalConfig [scopedOpenRoute]) () plainRequest).authCalls,
          extractBearer HttpLib.plain plainRequest.headers = some (.valid call.token) ∧
          ((Validation.minimalConfig [scopedOpenRoute]).auth.providers.find? fun p =>
            p.name == providerName scopedOpenRoute) = some call.provider ∧
          AcceptedWithScopes (plainEnv none) call ["admin"]) ↔
        scopedOpenRoute.authRequired = true ∨ methodAllowed scopedOpenRoute "GET" = false) :=
  ⟨rfl, required_scopes_enforced_iff (plainEnv none) (Validation.minimalConfig [scopedOpenRoute])
    () plainRequest scopedOpenRoute ["admin"] rfl rfl trivial⟩

/-- Validation accepts the route, and a request without a token passes it. -/
theorem required_scopes_skipped_scopedOpenRoute :
    Validation.validate (fun _ => true) (Validation.minimalConfig [scopedOpenRoute]) = .ok () ∧
      scopedOpenRoute.requiredScopes = some ["admin"] ∧
      (checkInner (plainEnv none) (Validation.minimalConfig [scopedOpenRoute]) ()
        plainRequest).response.status = 200 ∧
      extractBearer HttpLib.plain plainRequest.headers = none ∧
      (checkInner (plainEnv none) (Validation.minimalConfig [scopedOpenRoute]) ()
        plainRequest).authCalls.length = 0 :=
  ⟨by decide, rfl, rfl, rfl, rfl⟩

end ExtAuthz
end OpenApiGateway
