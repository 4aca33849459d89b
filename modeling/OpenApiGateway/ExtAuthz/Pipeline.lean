import OpenApiGateway.ExtAuthz.BucketKeys

/-!
# The gates of a check, in order

Which gate decides a check: the method, the auth step, the limiter. To say how often the limiter
is asked, and for what, a check is run with a limiter that keeps a log beside its state.
`pipeline_decides` gives the status for every combination of answers and what the check did to
the limiter.
-/

namespace OpenApiGateway
namespace ExtAuthz

open Lib.Text Auth RateLimit Plugins

variable {ν κ σ : Type}

/-! ## A limiter with a log -/

/-- A call of the limiter. -/
structure LimiterCall where
  key : String
  capacity : ℕ
  refillRatePerSec : F64
deriving DecidableEq

/-- The same limiter, with its calls beside its state. -/
def logged (limiter : Limiter σ) : Limiter (σ × List LimiterCall) := fun s key capacity rate =>
  let checked := limiter s.1 key capacity rate
  (checked.1, checked.2, s.2 ++ [⟨key, capacity, rate⟩])

/-- The environment with a limiter that also notes the calls made on it. -/
def CheckEnv.logged (env : CheckEnv ν κ σ) : CheckEnv ν κ (σ × List LimiterCall) :=
  { env with limiter := ExtAuthz.logged env.limiter }

/-- A check whose limiter keeps a log. -/
def loggedCheck (env : CheckEnv ν κ σ) (cfg : GatewayConfig) (s : σ) (req : CheckRequest ν) :
    CheckOutcome ν κ (σ × List LimiterCall) :=
  checkInner env.logged cfg (s, []) req

/-- The call a check makes when it gets as far as the limiter. -/
def limiterCallOf (env : CheckEnv ν κ σ) (cfg : GatewayConfig) (route : RouteConfig)
    (req : CheckRequest ν) (headers : HeaderMap ν) : LimiterCall where
  key := buildKey cfg.rateLimits.redisKeyPrefix route.name route.rateLimit.keyBy
    (bucketKeyValue env cfg route req headers)
  capacity := route.rateLimit.bucketCapacity
  refillRatePerSec := route.rateLimit.refillRatePerSec

/-! ## The three ends of a check -/

section Ends
variable {env : CheckEnv ν κ σ} {cfg : GatewayConfig} {s : σ} {req : CheckRequest ν}
  {route : RouteConfig}

/-- A method that the route does not have is answered before anything else runs. -/
theorem checkInner_of_refused
    (hroute : matchRoute cfg.routes (requestHost env.http req) req.path = some route)
    (hmethod : methodAllowed route req.method = false) :
    (checkInner env cfg s req).response =
        (methodDenied env.http (requestInfo env.http req) route).1 ∧
      (checkInner env cfg s req).limiterState = s := by
  rw [checkInner_of_matched hroute]
  unfold checkMatched
  rw [if_neg (by simp [hmethod])]
  exact ⟨rfl, rfl⟩

/-- A request that fails authentication does not reach the limiter. -/
theorem checkInner_of_denied {plugin : PluginContinue ν} {effects : List Effect}
    (hroute : matchRoute cfg.routes (requestHost env.http req) req.path = some route)
    (hmethod : methodAllowed route req.method = true)
    (hplugin : executeAccessPlugins env req (requestInfo env.http req) route =
      (.ok plugin, effects)) {deny : AuthDeny}
    (hauth : (applyAuth env cfg route req.headers plugin.responseHeaders).result = .error deny) :
    (checkInner env cfg s req).response =
        (earlyDeny env.http (requestInfo env.http req) route deny.status deny.errorCode).1 ∧
      (checkInner env cfg s req).limiterState = s := by
  rw [checkInner_of_continued hroute hmethod hplugin]
  unfold checkAuth
  simp only
  rw [hauth]
  exact ⟨rfl, rfl⟩

/-- After the other gates the limiter decides. -/
theorem checkInner_of_passed {plugin : PluginContinue ν} {effects : List Effect}
    (hroute : matchRoute cfg.routes (requestHost env.http req) req.path = some route)
    (hmethod : methodAllowed route req.method = true)
    (hplugin : executeAccessPlugins env req (requestInfo env.http req) route =
      (.ok plugin, effects))
    (hauth : (applyAuth env cfg route req.headers plugin.responseHeaders).result = .ok ()) :
    (checkInner env cfg s req).response =
      (checkRateLimit env cfg s req (requestInfo env.http req) route plugin
        (applyAuth env cfg route req.headers plugin.responseHeaders)).response := by
  rw [checkInner_of_continued hroute hmethod hplugin]
  unfold checkAuth
  simp only
  rw [hauth]

end Ends

theorem httpStatus_mem (e : AuthError) : e.httpStatus ∈ [401, 403, 503] := by
  cases e <;> simp [AuthError.httpStatus]

/-- A denial of the auth step comes only where auth is required, with one of three statuses. -/
theorem applyAuth_deny {env : CheckEnv ν κ σ} {cfg : GatewayConfig} {route : RouteConfig}
    {requestHeaders : RequestHeaders ν} {headers : HeaderMap ν} {deny : AuthDeny}
    (h : (applyAuth env cfg route requestHeaders headers).result = .error deny) :
    route.authRequired = true ∧ deny.status ∈ [401, 403, 503] := by
  rcases applyAuth_outcomes env cfg route requestHeaders with
    ⟨-, hout⟩ | ⟨hauth, reason, -, hout⟩ | ⟨hauth, -, hout⟩ | ⟨hauth, call, -, hout⟩
  · rw [hout] at h
    exact absurd h (by simp)
  · rw [hout] at h
    rw [← Except.error.inj h]
    exact ⟨hauth, by simp⟩
  · rw [hout] at h
    rw [← Except.error.inj h]
    exact ⟨hauth, by simp⟩
  · rw [hout] at h
    unfold authAnswer at h
    cases hresult : call.result with
    | ok identity =>
      rw [hresult] at h
      exact absurd h (by simp)
    | error e =>
      rw [hresult] at h
      rw [← Except.error.inj h]
      exact ⟨hauth, httpStatus_mem e⟩

/-- The status for an answer of the limiter. -/
def limiterStatus : Except RateLimitError RateDecision → ℕ
  | .error _ => 503
  | .ok decision => if decision.allowed then 200 else 429

/-- The status tells an error, a denial and an admission of the limiter apart. -/
theorem limiterStatus_iff (answer : Except RateLimitError RateDecision) :
    (limiterStatus answer = 503 ↔ ∃ e, answer = .error e) ∧
      (limiterStatus answer = 429 ↔
        ∃ decision, answer = .ok decision ∧ decision.allowed = false) ∧
      (limiterStatus answer = 200 ↔
        ∃ decision, answer = .ok decision ∧ decision.allowed = true) := by
  cases answer with
  | error e => simp [limiterStatus]
  | ok decision =>
    by_cases hallowed : decision.allowed = true
    · simp [limiterStatus, hallowed]
    · simp [limiterStatus, hallowed]

theorem limiterStatus_ne (answer : Except RateLimitError RateDecision) :
    limiterStatus answer ≠ 405 := by
  unfold limiterStatus
  split
  · simp
  · split <;> simp

/-- The status of the last step is that of the limiter's answer. -/
theorem checkRateLimit_status (env : CheckEnv ν κ σ) (cfg : GatewayConfig) (s : σ)
    (req : CheckRequest ν) (info : RequestInfo) (route : RouteConfig) (plugin : PluginContinue ν)
    (auth : AuthOutcome ν κ) :
    (checkRateLimit env cfg s req info route plugin auth).response.status =
      limiterStatus (limiterCheck env cfg s route req auth.responseHeaders).1 := by
  unfold checkRateLimit
  simp only
  split
  · rename_i decision hdecision
    rw [hdecision, limiterStatus]
    by_cases hallowed : decision.allowed = true
    · simp only [if_pos hallowed]
      rfl
    · simp only [if_neg hallowed]
  · rename_i e herror
    rw [herror]
    rfl

/-- The answer of the limiter step does not depend on the log. -/
theorem checkRateLimit_logged (env : CheckEnv ν κ σ) (cfg : GatewayConfig) (s : σ)
    (req : CheckRequest ν) (info : RequestInfo) (route : RouteConfig) (plugin : PluginContinue ν)
    (auth : AuthOutcome ν κ) :
    (checkRateLimit env.logged cfg (s, []) req info route plugin auth).response =
      (checkRateLimit env cfg s req info route plugin auth).response := by
  have hsame : (limiterCheck env.logged cfg (s, []) route req auth.responseHeaders).1 =
      (limiterCheck env cfg s route req auth.responseHeaders).1 := rfl
  unfold checkRateLimit
  simp only
  rw [hsame]
  split
  · split
    · rfl
    · rfl
  · rfl

/-! ## The decision -/

/-- Status and accounting of a check whose chain of plugins ended normally. -/
structure Decided (env : CheckEnv ν κ σ) (cfg : GatewayConfig) (s : σ) (req : CheckRequest ν)
    (route : RouteConfig) (plugin : PluginContinue ν) : Prop where
  method : (checkInner env cfg s req).response.status = 405 ↔
    methodAllowed route req.method = false
  auth : methodAllowed route req.method = true → ∀ deny,
    (applyAuth env cfg route req.headers plugin.responseHeaders).result = .error deny →
      route.authRequired = true ∧ (checkInner env cfg s req).response.status = deny.status
  limiter : methodAllowed route req.method = true →
    (applyAuth env cfg route req.headers plugin.responseHeaders).result = .ok () →
    let auth := applyAuth env cfg route req.headers plugin.responseHeaders
    let checked := limiterCheck env cfg s route req auth.responseHeaders
    ((checkInner env cfg s req).response.status = 503 ↔ ∃ e, checked.1 = .error e) ∧
    ((checkInner env cfg s req).response.status = 429 ↔
      ∃ decision, checked.1 = .ok decision ∧ decision.allowed = false) ∧
    ((checkInner env cfg s req).response.status = 200 ↔
      ∃ decision, checked.1 = .ok decision ∧ decision.allowed = true) ∧
    (loggedCheck env cfg s req).limiterState =
      (checked.2, [limiterCallOf env cfg route req auth.responseHeaders])
  untouched : methodAllowed route req.method = false ∨
      (applyAuth env cfg route req.headers plugin.responseHeaders).result ≠ .ok () →
    (checkInner env cfg s req).limiterState = s ∧ (loggedCheck env cfg s req).limiterState = (s, [])
  /-- The log changes neither the answer nor the limiter's own state. -/
  log : (loggedCheck env cfg s req).response = (checkInner env cfg s req).response ∧
    (loggedCheck env cfg s req).limiterState.1 = (checkInner env cfg s req).limiterState

section Decided
variable {env : CheckEnv ν κ σ} {cfg : GatewayConfig} {s : σ} {req : CheckRequest ν}
  {route : RouteConfig} {plugin : PluginContinue ν} {effects : List Effect}

theorem Decided.of_refused
    (hroute : matchRoute cfg.routes (requestHost env.http req) req.path = some route)
    (hmethod : methodAllowed route req.method = false) : Decided env cfg s req route plugin := by
  obtain ⟨hresponse, hstate⟩ := checkInner_of_refused (s := s) hroute hmethod
  have hlogged : (loggedCheck env cfg s req).response = _ ∧
      (loggedCheck env cfg s req).limiterState = (s, []) := checkInner_of_refused hroute hmethod
  have hstatus : (checkInner env cfg s req).response.status = 405 := by
    rw [hresponse]
    rfl
  refine ⟨iff_of_true hstatus hmethod, ?_, ?_, fun _ => ⟨hstate, hlogged.2⟩,
    hlogged.1.trans hresponse.symm, ?_⟩
  · intro hallowed
    exact absurd hallowed (by simp [hmethod])
  · intro hallowed
    exact absurd hallowed (by simp [hmethod])
  · rw [hlogged.2, hstate]

theorem Decided.of_denied
    (hroute : matchRoute cfg.routes (requestHost env.http req) req.path = some route)
    (hmethod : methodAllowed route req.method = true)
    (hplugin : executeAccessPlugins env req (requestInfo env.http req) route =
      (.ok plugin, effects)) {deny : AuthDeny}
    (hauth : (applyAuth env cfg route req.headers plugin.responseHeaders).result = .error deny) :
    Decided env cfg s req route plugin := by
  obtain ⟨hresponse, hstate⟩ := checkInner_of_denied (s := s) hroute hmethod hplugin hauth
  obtain ⟨hrequired, hmem⟩ := applyAuth_deny hauth
  have hroute' : matchRoute cfg.routes (requestHost env.logged.http req) req.path = some route :=
    hroute
  have hplugin' : executeAccessPlugins env.logged req (requestInfo env.logged.http req) route =
      (.ok plugin, effects) := hplugin
  have hauth' : (applyAuth env.logged cfg route req.headers plugin.responseHeaders).result =
      .error deny := hauth
  have hlogged : (loggedCheck env cfg s req).response =
        (earlyDeny env.http (requestInfo env.http req) route deny.status deny.errorCode).1 ∧
      (loggedCheck env cfg s req).limiterState = (s, []) :=
    checkInner_of_denied (s := (s, [])) hroute' hmethod hplugin' hauth'
  have hstatus : (checkInner env cfg s req).response.status = deny.status := by
    rw [hresponse]
    rfl
  refine ⟨?_, ?_, ?_, fun _ => ⟨hstate, hlogged.2⟩, hlogged.1.trans hresponse.symm, ?_⟩
  · have hne : deny.status ≠ 405 := by
      intro h
      rw [h] at hmem
      exact absurd hmem (by decide)
    rw [hstatus, hmethod]
    simp [hne]
  · intro _ deny' hauth'
    rw [hauth] at hauth'
    rw [← Except.error.inj hauth']
    exact ⟨hrequired, hstatus⟩
  · intro _ hok
    rw [hauth] at hok
    exact absurd hok (by simp)
  · rw [hlogged.2, hstate]

theorem Decided.of_passed
    (hroute : matchRoute cfg.routes (requestHost env.http req) req.path = some route)
    (hmethod : methodAllowed route req.method = true)
    (hplugin : executeAccessPlugins env req (requestInfo env.http req) route =
      (.ok plugin, effects))
    (hauth : (applyAuth env cfg route req.headers plugin.responseHeaders).result = .ok ()) :
    Decided env cfg s req route plugin := by
  have hroute' : matchRoute cfg.routes (requestHost env.logged.http req) req.path = some route :=
    hroute
  have hplugin' : executeAccessPlugins env.logged req (requestInfo env.logged.http req) route =
      (.ok plugin, effects) := hplugin
  have hauth' : (applyAuth env.logged cfg route req.headers plugin.responseHeaders).result =
      .ok () := hauth
  have hresponse := checkInner_of_passed (s := s) hroute hmethod hplugin hauth
  have hstate := checkInner_limiterState (s := s) hroute hmethod hplugin hauth
  have hlogged : (loggedCheck env cfg s req).response = (checkInner env cfg s req).response := by
    rw [hresponse, ← checkRateLimit_logged]
    exact checkInner_of_passed (s := (s, [])) hroute' hmethod hplugin' hauth'
  have hcalls : (loggedCheck env cfg s req).limiterState = _ :=
    checkInner_limiterState (s := (s, [])) hroute' hmethod hplugin' hauth'
  have hstatus := congrArg Response.status hresponse
  rw [checkRateLimit_status] at hstatus
  refine ⟨?_, ?_, ?_, ?_, hlogged, ?_⟩
  · rw [hstatus, hmethod]
    exact iff_of_false (limiterStatus_ne _) (by simp)
  · intro _ deny hdeny
    rw [hauth] at hdeny
    exact absurd hdeny (by simp)
  · intro _ _ auth checked
    rw [hstatus]
    obtain ⟨herror, hdenied, hallowed⟩ := limiterStatus_iff checked.1
    exact ⟨herror, hdenied, hallowed, hcalls⟩
  · rintro (hrefused | hdenied)
    · exact absurd hrefused (by simp [hmethod])
    · exact absurd hauth hdenied
  · rw [hcalls, hstate]
    rfl

end Decided

/-- The gates decide in the order method, auth, limiter. The limiter is asked once and for one key
by a request that passes the first two, and not at all by any other. -/
theorem pipeline_decides (env : CheckEnv ν κ σ) (cfg : GatewayConfig) (s : σ)
    (req : CheckRequest ν) (route : RouteConfig)
    (hroute : matchRoute cfg.routes (requestHost env.http req) req.path = some route)
    (hplugin : PluginContinues (pluginOutcome env req route)) :
    ∃ plugin effects,
      executeAccessPlugins env req (requestInfo env.http req) route = (.ok plugin, effects) ∧
      Decided env cfg s req route plugin := by
  obtain ⟨plugin, effects, hstep⟩ := executeAccessPlugins_of_continues hplugin
  refine ⟨plugin, effects, hstep, ?_⟩
  cases hmethod : methodAllowed route req.method with
  | false => exact Decided.of_refused hroute hmethod
  | true =>
    cases hauth : (applyAuth env cfg route req.headers plugin.responseHeaders).result with
    | error deny => exact Decided.of_denied hroute hmethod hstep hauth
    | ok => exact Decided.of_passed hroute hmethod hstep hauth

theorem pipeline_decides_protectedRoute :
    matchRoute [protectedRoute] "*" "/orders" = some protectedRoute ∧
      ∃ plugin effects,
        executeAccessPlugins (plainEnv none) plainRequest
          (requestInfo (plainEnv none).http plainRequest) protectedRoute = (.ok plugin, effects) ∧
        Decided (plainEnv none) (Validation.minimalConfig [protectedRoute]) () plainRequest
          protectedRoute plugin := by
  have hroute : matchRoute [protectedRoute] "*" "/orders" = some protectedRoute := rfl
  exact ⟨hroute, pipeline_decides (plainEnv none) (Validation.minimalConfig [protectedRoute]) ()
    plainRequest protectedRoute hroute trivial⟩

end ExtAuthz
end OpenApiGateway
