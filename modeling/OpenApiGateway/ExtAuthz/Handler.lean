import OpenApiGateway.Auth.Validator
import OpenApiGateway.ExtAuthz.Helpers
import OpenApiGateway.Plugins.Types
import OpenApiGateway.RateLimit.Types

/-!
# The check handler

`check_inner` of `controlplane/src/extauthz/handler.rs` with its plugin step
(`plugin_step.rs`) and auth step (`auth_step.rs`). A step returns what it leaves behind, its
response included; the effects are in the order the source has them. `authCalls` is a ghost
record of the calls of `validate_with_refresh`, which the source does not keep.
-/

namespace OpenApiGateway
namespace ExtAuthz

open Lib.Text Auth RateLimit Plugins

/-- A call of `validate_with_refresh`, with its result. -/
structure AuthCall (κ : Type) where
  token : String
  provider : AuthProvider
  cache : JwksCache κ
  requiredScopes : List String
  result : Except AuthError ValidatedIdentity

/-- What surrounds a request: libraries, the shared state outside the config, and the
answers of the outside world. -/
structure CheckEnv (ν κ σ : Type) where
  http : HttpLib ν
  jwt : JwtLib κ
  /-- The plugin engine's access phase, where there is an engine. -/
  pluginEngine : Option (PluginRequest → Except PluginError PluginAccessResult)
  jwksRegistry : JwksCacheRegistry κ
  window : RefreshWindow κ
  limiter : Limiter σ
  /-- The wall clock in seconds, for the reset header. -/
  nowSecs : ℕ

/-- A request to the check service. -/
structure CheckRequest (ν : Type) where
  headers : RequestHeaders ν
  method : String
  path : String
  requestId : String

/-- `generate_request_id` of `observability/logs.rs`, from the counter it takes and the
nanoseconds of the clock: eight hexadecimal digits. -/
def generateRequestId (count nanos : ℕ) : String :=
  let mixed := (2654435761 * count % 2 ^ 64) ^^^ nanos
  String.ofList ((Nat.toDigits 16 (mixed % 2 ^ 32)).leftpad 8 '0')

theorem generateRequestId_visible (count nanos : ℕ) :
    (generateRequestId count nanos).toList.all isVisibleAscii = true := by
  have hdigits := toDigits_visible (b := 16) (by omega) (by omega)
    (((2654435761 * count % 2 ^ 64) ^^^ nanos) % 2 ^ 32)
  have hzero : isVisibleAscii '0' = true := by decide
  simp only [generateRequestId, String.toList_ofList, List.leftpad, List.all_append, hdigits,
    List.all_replicate, hzero, Bool.and_true, ite_self]

variable {ν κ σ : Type}

/-! ## The plugin step -/

/-- What the plugin step hands on. -/
structure PluginContinue (ν : Type) where
  request : PluginRequest
  upstreamHeaders : PluginHeaders
  responseHeaders : HeaderMap ν

def runPluginLog (env : CheckEnv ν κ σ) (request : PluginRequest) (status : ℕ) : List Effect :=
  if env.pluginEngine.isSome then [.runPluginLog request.routeName status] else []

/-- The plugins' view of a request: headers that do not read as text are left out. -/
def pluginRequest (env : CheckEnv ν κ σ) (req : CheckRequest ν) (info : RequestInfo)
    (route : RouteConfig) : PluginRequest where
  routeName := route.name
  host := info.host
  method := info.method
  path := info.path
  headers := req.headers.filterMap fun h => (env.http.toStr h.2).map fun value => (h.1, value)

/-- Run the access phase: either continue, or answer at once. -/
def executeAccessPlugins (env : CheckEnv ν κ σ) (req : CheckRequest ν) (info : RequestInfo)
    (route : RouteConfig) : Except (Response ν) (PluginContinue ν) × List Effect :=
  let request := pluginRequest env req info route
  match env.pluginEngine with
  | none => (.ok ⟨request, ∅, ∅⟩, [])
  | some executeAccess =>
    match executeAccess request with
    | .ok (.continue upstreamHeaders responseHeaders durationUs) =>
      (.ok ⟨request, upstreamHeaders, insertStringHeaders env.http ∅ responseHeaders⟩,
        [.recordPluginChain route.name durationUs])
    | .ok (.shortCircuit pluginName status body headers durationUs) =>
      -- an exit with a number that is no status is answered with 200
      (.error
        { status := (StatusCode.fromU16 status).getD 200
          headers := env.http.insertText (insertStringHeaders env.http ∅ headers) "x-request-id"
            info.requestId
          body := match body with
            | some content => .text content
            | none => .empty },
        [.recordPluginChain route.name durationUs,
          .recordPluginShortCircuit pluginName route.name status]
          ++ logAndRecord info route.name route.upstream.service status none
              "plugin-short-circuit"
          ++ runPluginLog env request status)
    | .ok (.error pluginName message errorType durationUs) =>
      (.error
        { status := 500
          headers := env.http.insertText (env.http.insertText ∅ "x-plugin-error" pluginName)
            "x-request-id" info.requestId
          body := .json [("error", "plugin_error"), ("plugin", pluginName), ("message", message)] },
        [.recordPluginChain route.name durationUs,
          .recordPluginError pluginName route.name errorType.asStr]
          ++ logAndRecord info route.name route.upstream.service 500 none "plugin-error"
          ++ runPluginLog env request 500)
    | .error _ =>
      -- a bare JSON body: its status is the default one
      (.error { status := 200, headers := ∅, body := .json [("error", "plugin_engine_error")] },
        [.recordPluginError "engine" route.name PluginErrorType.runtime.asStr])

/-! ## The auth step -/

structure AuthDeny where
  status : ℕ
  errorCode : String
deriving DecidableEq

/-- What the auth step leaves behind. -/
structure AuthOutcome (ν κ : Type) where
  result : Except AuthDeny Unit
  responseHeaders : HeaderMap ν
  authSubject : Option String
  effects : List Effect
  authCalls : List (AuthCall κ)

/-- A denial of the auth step, with its metric. -/
def authDenied (route : RouteConfig) (headers : HeaderMap ν) (reason : String) (status : ℕ)
    (errorCode : String) (calls : List (AuthCall κ)) : AuthOutcome ν κ :=
  ⟨.error ⟨status, errorCode⟩, headers, none, [.recordAuthFailure route.name reason], calls⟩

def providerName (route : RouteConfig) : String := route.authProvider.getD "main"

/-- The headers of a validated identity. -/
def identityHeaders (http : HttpLib ν) (headers : HeaderMap ν) (identity : ValidatedIdentity) :
    HeaderMap ν :=
  http.insertText
    (http.insertText (http.insertText headers "x-auth-sub" identity.sub) "x-auth-iss" identity.iss)
    "x-auth-scopes" (",".intercalate identity.scopes)

def applyAuth (env : CheckEnv ν κ σ) (cfg : GatewayConfig) (route : RouteConfig)
    (requestHeaders : RequestHeaders ν) (headers : HeaderMap ν) : AuthOutcome ν κ :=
  if route.authRequired then
    match extractBearer env.http requestHeaders with
    | some .malformed =>
      authDenied route headers "invalid_token_format" 401 "invalid_token_format" []
    | none => authDenied route headers "missing_token" 401 "missing_token" []
    | some (.valid token) =>
      match cfg.auth.providers.find? fun p => p.name == providerName route with
      | none =>
        authDenied route headers "unknown_provider" 503 "auth_provider_unavailable" []
      | some provider =>
        match env.jwksRegistry.lookup (providerName route) with
        | none =>
          authDenied route headers "unknown_provider" 503 "auth_provider_unavailable" []
        | some cache =>
          -- the settings come from the config, the keys from the registry
          let requiredScopes := route.requiredScopes.getD []
          let result :=
            validateWithRefresh env.jwt env.window token provider cache requiredScopes
          let calls : List (AuthCall κ) := [⟨token, provider, cache, requiredScopes, result⟩]
          match result with
          | .ok identity =>
            ⟨.ok (), identityHeaders env.http headers identity, some identity.sub, [], calls⟩
          | .error e => authDenied route headers e.errorCode e.httpStatus e.errorCode calls
  else
    -- required scopes are not looked at here
    ⟨.ok (), headers, none, [], []⟩

/-- The call is the one the auth step makes for this request. -/
structure Called (env : CheckEnv ν κ σ) (cfg : GatewayConfig) (route : RouteConfig)
    (requestHeaders : RequestHeaders ν) (call : AuthCall κ) : Prop where
  token : extractBearer env.http requestHeaders = some (.valid call.token)
  provider : (cfg.auth.providers.find? fun p => p.name == providerName route) =
    some call.provider
  cache : env.jwksRegistry.lookup (providerName route) = some call.cache
  scopes : call.requiredScopes = route.requiredScopes.getD []
  result : call.result =
    validateWithRefresh env.jwt env.window call.token call.provider call.cache call.requiredScopes

/-- What the auth step makes of a call. -/
def authAnswer (http : HttpLib ν) (route : RouteConfig) (headers : HeaderMap ν)
    (call : AuthCall κ) : AuthOutcome ν κ :=
  match call.result with
  | .ok identity => ⟨.ok (), identityHeaders http headers identity, some identity.sub, [], [call]⟩
  | .error e => authDenied route headers e.errorCode e.httpStatus e.errorCode [call]

theorem applyAuth_of_called {env : CheckEnv ν κ σ} {cfg : GatewayConfig} {route : RouteConfig}
    {requestHeaders : RequestHeaders ν} {call : AuthCall κ} (hauth : route.authRequired = true)
    (h : Called env cfg route requestHeaders call) (headers : HeaderMap ν) :
    applyAuth env cfg route requestHeaders headers = authAnswer env.http route headers call := by
  obtain ⟨token, provider, cache, requiredScopes, result⟩ := call
  obtain ⟨htoken, hprovider, hcache, hscopes, hresult⟩ := h
  simp only at htoken hprovider hcache hscopes hresult
  subst hscopes hresult
  simp only [applyAuth, hauth, if_true, htoken, hprovider, hcache]
  rfl

@[simp] theorem authAnswer_authCalls (http : HttpLib ν) (route : RouteConfig)
    (headers : HeaderMap ν) (call : AuthCall κ) :
    (authAnswer http route headers call).authCalls = [call] := by
  unfold authAnswer
  split
  · rfl
  · rfl

/-- All the auth step can do: nothing, refuse the token's form, miss the provider, or make a
call. Which of these it is does not depend on the headers it adds to. -/
theorem applyAuth_outcomes (env : CheckEnv ν κ σ) (cfg : GatewayConfig) (route : RouteConfig)
    (requestHeaders : RequestHeaders ν) :
    (route.authRequired = false ∧
      ∀ base, applyAuth env cfg route requestHeaders base = ⟨.ok (), base, none, [], []⟩) ∨
    (route.authRequired = true ∧ ∃ reason ∈ ["invalid_token_format", "missing_token"],
      ∀ base, applyAuth env cfg route requestHeaders base =
        authDenied route base reason 401 reason []) ∨
    (route.authRequired = true ∧
      ((cfg.auth.providers.find? fun p => p.name == providerName route) = none ∨
        env.jwksRegistry.lookup (providerName route) = none) ∧
      ∀ base, applyAuth env cfg route requestHeaders base =
        authDenied route base "unknown_provider" 503 "auth_provider_unavailable" []) ∨
    (route.authRequired = true ∧ ∃ call, Called env cfg route requestHeaders call ∧
      ∀ base, applyAuth env cfg route requestHeaders base =
        authAnswer env.http route base call) := by
  unfold applyAuth
  cases hauth : route.authRequired with
  | false => exact Or.inl ⟨rfl, fun base => rfl⟩
  | true =>
    right
    simp only [if_true]
    split
    · exact Or.inl ⟨trivial, _, by simp, fun base => rfl⟩
    · exact Or.inl ⟨trivial, _, by simp, fun base => rfl⟩
    · rename_i token htoken
      right
      split
      · rename_i hprovider
        exact Or.inl ⟨trivial, Or.inl hprovider, fun base => rfl⟩
      · rename_i provider hprovider
        split
        · rename_i hcache
          exact Or.inl ⟨trivial, Or.inr hcache, fun base => rfl⟩
        · rename_i cache hcache
          exact Or.inr ⟨trivial, ⟨token, provider, cache, route.requiredScopes.getD [], _⟩,
            ⟨htoken, hprovider, hcache, rfl, rfl⟩, fun base => rfl⟩

/-! ## The handler -/

/-- What a check leaves behind. -/
structure CheckOutcome (ν κ σ : Type) where
  response : Response ν
  limiterState : σ
  effects : List Effect
  authCalls : List (AuthCall κ)

/-- `route.methods.iter().any(|m| m.eq_ignore_ascii_case(method))`. -/
def methodAllowed (route : RouteConfig) (method : String) : Bool :=
  route.methods.any fun m => eqIgnoreAsciiCase m method

/-- The value a bucket is kept for: the subject header, or the client address. -/
def bucketKeyValue (env : CheckEnv ν κ σ) (cfg : GatewayConfig) (route : RouteConfig)
    (req : CheckRequest ν) (headers : HeaderMap ν) : String :=
  if route.rateLimit.keyBy == "sub" then
    ((headers.lookup "x-auth-sub").bind env.http.toStr).getD "anonymous"
  else clientIp env.http req.headers cfg.gateway.trustForwardedHeaders

/-- The limiter's answer for a request, and its next state. -/
def limiterCheck (env : CheckEnv ν κ σ) (cfg : GatewayConfig) (s : σ) (route : RouteConfig)
    (req : CheckRequest ν) (headers : HeaderMap ν) : Except RateLimitError RateDecision × σ :=
  env.limiter s
    (buildKey cfg.rateLimits.redisKeyPrefix route.name route.rateLimit.keyBy
      (bucketKeyValue env cfg route req headers))
    route.rateLimit.bucketCapacity route.rateLimit.refillRatePerSec

/-- The rest of a check once plugins and auth have passed: the limiter, then the answer. -/
def checkRateLimit (env : CheckEnv ν κ σ) (cfg : GatewayConfig) (s : σ) (req : CheckRequest ν)
    (info : RequestInfo) (route : RouteConfig) (plugin : PluginContinue ν)
    (auth : AuthOutcome ν κ) : CheckOutcome ν κ σ :=
  let checked := limiterCheck env cfg s route req auth.responseHeaders
  match checked.1 with
  | .ok decision =>
    let headers := insertRateLimitHeaders env.http env.nowSecs auth.responseHeaders decision
    let mode := decision.mode.asHeaderValue
    if decision.allowed then
      { response :=
          -- the plugins' upstream headers come last and override what is there
          allowResponse env.http (insertStringHeaders env.http headers plugin.upstreamHeaders)
            info.requestId
        limiterState := checked.2
        effects :=
          [if decision.mode = .degradedLocal then .recordRateLimitDegraded route.name
            else .recordRateLimitAllowed route.name]
            ++ logAndRecord info route.name route.upstream.service 200 auth.authSubject mode
            ++ runPluginLog env plugin.request 200
        authCalls := auth.authCalls }
    else
      { response :=
          { status := 429
            headers :=
              env.http.insertText headers "retry-after" (toString (retryAfterSecs decision))
            body := .empty }
        limiterState := checked.2
        effects := [.recordRateLimitDenied route.name]
          ++ logAndRecord info route.name route.upstream.service 429 auth.authSubject mode
          ++ runPluginLog env plugin.request 429
        authCalls := auth.authCalls }
  | .error _ =>
    let denied := earlyDeny env.http info route 503 "rate_limiter_unavailable"
    { response := denied.1
      limiterState := checked.2
      effects := [.recordRateLimitDenied route.name] ++ runPluginLog env plugin.request 503
        ++ denied.2
      authCalls := auth.authCalls }

/-- The rest of a check once the plugins have passed: auth, then the limiter. -/
def checkAuth (env : CheckEnv ν κ σ) (cfg : GatewayConfig) (s : σ) (req : CheckRequest ν)
    (info : RequestInfo) (route : RouteConfig) (plugin : PluginContinue ν) :
    CheckOutcome ν κ σ :=
  let auth := applyAuth env cfg route req.headers plugin.responseHeaders
  match auth.result with
  | .error deny =>
    let denied := earlyDeny env.http info route deny.status deny.errorCode
    -- the log phase of the plugins runs for a denial as well
    { response := denied.1
      limiterState := s
      effects := auth.effects ++ runPluginLog env plugin.request deny.status ++ denied.2
      authCalls := auth.authCalls }
  | .ok () =>
    let rest := checkRateLimit env cfg s req info route plugin auth
    { rest with effects := auth.effects ++ rest.effects }

/-- The rest of a check once a route has matched: method, plugins, auth, limiter. -/
def checkMatched (env : CheckEnv ν κ σ) (cfg : GatewayConfig) (s : σ) (req : CheckRequest ν)
    (info : RequestInfo) (route : RouteConfig) : CheckOutcome ν κ σ :=
  if methodAllowed route req.method then
    match executeAccessPlugins env req info route with
    | (.error response, effects) => ⟨response, s, effects, []⟩
    | (.ok plugin, effects) =>
      let rest := checkAuth env cfg s req info route plugin
      { rest with effects := effects ++ rest.effects }
  else
    let denied := methodDenied env.http info route
    ⟨denied.1, s, denied.2, []⟩

/-- The host a request is matched by. -/
def requestHost (http : HttpLib ν) (req : CheckRequest ν) : String :=
  (headerStr http req.headers "host").getD "*"

def requestInfo (http : HttpLib ν) (req : CheckRequest ν) : RequestInfo where
  requestId := req.requestId
  remoteAddr := clientIp http req.headers false
  host := requestHost http req
  method := req.method
  path := req.path

/-- Inner check logic, under the config read at its start. -/
def checkInner (env : CheckEnv ν κ σ) (cfg : GatewayConfig) (s : σ) (req : CheckRequest ν) :
    CheckOutcome ν κ σ :=
  let info := requestInfo env.http req
  match matchRoute cfg.routes (requestHost env.http req) req.path with
  | none =>
    -- no policy for this request: it passes
    { response := allowResponse env.http ∅ req.requestId
      limiterState := s
      effects := logAndRecord info "" "" 200 none "none"
      authCalls := [] }
  | some route => checkMatched env cfg s req info route

end ExtAuthz
end OpenApiGateway
