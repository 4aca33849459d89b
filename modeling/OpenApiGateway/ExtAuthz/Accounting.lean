import OpenApiGateway.ExtAuthz.Mediation

/-!
# The accounts of a request

`check` of `controlplane/src/extauthz/handler.rs`: the concurrency permit, the gauge of
requests in flight and the tracing headers around `check_inner`. Every answer is to have one
access log entry and one request metric, both with the status that is answered;
`counted_once_iff` says for which requests this is so.
-/

namespace OpenApiGateway
namespace ExtAuthz

open Lib.Text Auth RateLimit Plugins

variable {ν κ σ : Type}

/-! ## The whole check -/

/-- What a check writes besides its response. -/
inductive CheckEffect where
  | recordOverload
  | incInflight
  | decInflight
  | inner (effect : Effect)
deriving DecidableEq

/-- What a check leaves behind, its permit included. -/
structure CheckReport (ν σ : Type) where
  response : Response ν
  limiterState : σ
  effects : List CheckEffect

/-- Envoy ext_authz HTTP check handler. `permit` says whether a concurrency permit is free,
`trace` how the tracing layer adds its headers, where tracing is enabled. -/
def check (env : CheckEnv ν κ σ) (trace : Option (HeaderMap ν → HeaderMap ν)) (permit : Bool)
    (cfg : GatewayConfig) (s : σ) (req : CheckRequest ν) : CheckReport ν σ :=
  if permit then
    let result := checkInner env cfg s req
    let response := match trace with
      | some inject => { result.response with headers := inject result.response.headers }
      | none => result.response
    { response := response
      limiterState := result.limiterState
      effects := [.incInflight] ++ result.effects.map .inner ++ [.decInflight] }
  else ⟨overloadResponse env.http req.requestId, s, [.recordOverload]⟩

/-! ## Log entries and request metrics -/

/-- The status in an access log line. -/
def Effect.loggedStatus : Effect → Option ℕ
  | .emitLog entry => some entry.status
  | _ => none

/-- The status with which a request is counted. -/
def Effect.recordedStatus : Effect → Option ℕ
  | .recordRequest _ _ status => some status
  | _ => none

def CheckEffect.inner? : CheckEffect → Option Effect
  | .inner effect => some effect
  | _ => none

theorem filterMap_inner (effects : List Effect) :
    (effects.map CheckEffect.inner).filterMap CheckEffect.inner? = effects := by
  rw [List.filterMap_map]
  exact List.filterMap_some

/-- Of these effects one is a log entry and one a request metric, both with this status. -/
structure LoggedOnce (status : ℕ) (effects : List Effect) : Prop where
  logged : effects.filterMap Effect.loggedStatus = [status]
  recorded : effects.filterMap Effect.recordedStatus = [status]

/-- The answer has one log entry and one request metric, both with its status. -/
def CountedOnce (report : CheckReport ν σ) : Prop :=
  LoggedOnce report.response.status (report.effects.filterMap CheckEffect.inner?)

/-- Effects that are neither a log entry nor a request metric. -/
structure Silent (effects : List Effect) : Prop where
  logged : effects.filterMap Effect.loggedStatus = []
  recorded : effects.filterMap Effect.recordedStatus = []

theorem Silent.append {l l' : List Effect} (h : Silent l) (h' : Silent l') : Silent (l ++ l') := by
  constructor
  · rw [List.filterMap_append, h.logged, h'.logged, List.append_nil]
  · rw [List.filterMap_append, h.recorded, h'.recorded, List.append_nil]

/-- Silent effects before or after change nothing. -/
theorem LoggedOnce.append_left {status : ℕ} {l l' : List Effect} (h : Silent l)
    (h' : LoggedOnce status l') : LoggedOnce status (l ++ l') := by
  constructor
  · rw [List.filterMap_append, h.logged, h'.logged, List.nil_append]
  · rw [List.filterMap_append, h.recorded, h'.recorded, List.nil_append]

theorem LoggedOnce.append_right {status : ℕ} {l l' : List Effect} (h : LoggedOnce status l)
    (h' : Silent l') : LoggedOnce status (l ++ l') := by
  constructor
  · rw [List.filterMap_append, h.logged, h'.logged, List.append_nil]
  · rw [List.filterMap_append, h.recorded, h'.recorded, List.append_nil]

theorem LoggedOnce.not_silent {status : ℕ} {l : List Effect} (h : LoggedOnce status l) :
    ¬ Silent l := by
  intro hsilent
  exact absurd (h.logged.symm.trans hsilent.logged) (by simp)

/-- The status that was logged is determined by the effects. -/
theorem LoggedOnce.status_unique {st st' : ℕ} {l : List Effect} (h : LoggedOnce st l)
    (h' : LoggedOnce st' l) : st = st' := by
  simpa using h.logged.symm.trans h'.logged

theorem loggedOnce_logAndRecord (info : RequestInfo) (route upstream : String) (status : ℕ)
    (sub : Option String) (mode : String) :
    LoggedOnce status (logAndRecord info route upstream status sub mode) := ⟨rfl, rfl⟩

theorem silent_nil : Silent [] := ⟨rfl, rfl⟩

theorem silent_runPluginLog (env : CheckEnv ν κ σ) (request : PluginRequest) (status : ℕ) :
    Silent (runPluginLog env request status) := by
  unfold runPluginLog
  split
  · exact ⟨rfl, rfl⟩
  · exact silent_nil

/-! ## The steps of a check -/

/-- Authentication writes no line and counts no request. -/
theorem silent_applyAuth (env : CheckEnv ν κ σ) (cfg : GatewayConfig) (route : RouteConfig)
    (requestHeaders : RequestHeaders ν) (headers : HeaderMap ν) :
    Silent (applyAuth env cfg route requestHeaders headers).effects := by
  rcases applyAuth_outcomes env cfg route requestHeaders with
    ⟨-, hout⟩ | ⟨-, reason, -, hout⟩ | ⟨-, -, hout⟩ | ⟨-, call, -, hout⟩
  · rw [hout]
    exact silent_nil
  · rw [hout]
    exact ⟨rfl, rfl⟩
  · rw [hout]
    exact ⟨rfl, rfl⟩
  · rw [hout]
    unfold authAnswer
    split
    · exact silent_nil
    · exact ⟨rfl, rfl⟩

/-- The limiter step logs its answer once. -/
theorem loggedOnce_checkRateLimit (env : CheckEnv ν κ σ) (cfg : GatewayConfig) (s : σ)
    (req : CheckRequest ν) (info : RequestInfo) (route : RouteConfig) (plugin : PluginContinue ν)
    (auth : AuthOutcome ν κ) :
    LoggedOnce (checkRateLimit env cfg s req info route plugin auth).response.status
      (checkRateLimit env cfg s req info route plugin auth).effects := by
  unfold checkRateLimit
  simp only
  split
  · split
    · apply LoggedOnce.append_right _ (silent_runPluginLog env plugin.request 200)
      apply LoggedOnce.append_left _ (loggedOnce_logAndRecord info _ _ 200 _ _)
      split
      · exact ⟨rfl, rfl⟩
      · exact ⟨rfl, rfl⟩
    · apply LoggedOnce.append_right _ (silent_runPluginLog env plugin.request 429)
      exact LoggedOnce.append_left ⟨rfl, rfl⟩ (loggedOnce_logAndRecord info _ _ 429 _ _)
  · apply LoggedOnce.append_left _ (loggedOnce_logAndRecord info _ _ 503 _ _)
    exact Silent.append ⟨rfl, rfl⟩ (silent_runPluginLog env plugin.request 503)

/-- What follows the plugins logs its answer once. -/
theorem loggedOnce_checkAuth (env : CheckEnv ν κ σ) (cfg : GatewayConfig) (s : σ)
    (req : CheckRequest ν) (info : RequestInfo) (route : RouteConfig)
    (plugin : PluginContinue ν) :
    LoggedOnce (checkAuth env cfg s req info route plugin).response.status
      (checkAuth env cfg s req info route plugin).effects := by
  have hsilent := silent_applyAuth env cfg route req.headers plugin.responseHeaders
  unfold checkAuth
  simp only
  split
  · rename_i deny hdeny
    apply LoggedOnce.append_left _ (loggedOnce_logAndRecord info _ _ deny.status _ _)
    exact hsilent.append (silent_runPluginLog env plugin.request deny.status)
  · exact LoggedOnce.append_left hsilent
      (loggedOnce_checkRateLimit env cfg s req info route plugin _)

/-- What the plugin stage can return without an answer going uncounted: not the engine's own
failure, and no exit with a number that is no status. -/
def PluginCounted : Option (Except PluginError PluginAccessResult) → Prop
  | some (.error _) => False
  | some (.ok (.shortCircuit _ status _ _ _)) => 100 ≤ status ∧ status < 1000
  | _ => True

/-- A status outside the range of HTTP becomes 200. -/
theorem fromU16_getD_eq_iff {status : ℕ} :
    status = (StatusCode.fromU16 status).getD 200 ↔ 100 ≤ status ∧ status < 1000 := by
  unfold StatusCode.fromU16
  by_cases h : 100 ≤ status ∧ status < 1000
  · simp [h]
  · rw [if_neg h, Option.getD_none]
    omega

/-- The plugin step hands a request on without logging it, or answers; it logs its answer once
exactly in the cases of `PluginCounted`. -/
theorem executeAccessPlugins_logged (env : CheckEnv ν κ σ) (req : CheckRequest ν)
    (route : RouteConfig) :
    (∃ plugin effects, executeAccessPlugins env req (requestInfo env.http req) route =
        (.ok plugin, effects) ∧ Silent effects ∧ PluginCounted (pluginOutcome env req route)) ∨
    (∃ response effects, executeAccessPlugins env req (requestInfo env.http req) route =
        (.error response, effects) ∧
      (LoggedOnce response.status effects ↔ PluginCounted (pluginOutcome env req route))) := by
  unfold executeAccessPlugins pluginOutcome
  simp only
  cases env.pluginEngine with
  | none => exact .inl ⟨_, _, rfl, silent_nil, trivial⟩
  | some executeAccess =>
    simp only [Option.map_some]
    cases executeAccess (pluginRequest env req (requestInfo env.http req) route) with
    | error e =>
      -- the engine's own failure is answered without a log entry
      refine .inr ⟨_, _, rfl, fun h => ?_, fun h => absurd h id⟩
      exact absurd (⟨rfl, rfl⟩ : Silent _) h.not_silent
    | ok result =>
      cases result with
      | «continue» up down us => exact .inl ⟨_, _, rfl, ⟨rfl, rfl⟩, trivial⟩
      | shortCircuit name status body headers us =>
        -- logged with the number of the exit, answered with the status it makes
        have hlogged := (LoggedOnce.append_left (⟨rfl, rfl⟩ : Silent
          [.recordPluginChain route.name us, .recordPluginShortCircuit name route.name status])
          (loggedOnce_logAndRecord (requestInfo env.http req) route.name route.upstream.service
            status none "plugin-short-circuit")).append_right (silent_runPluginLog env
              (pluginRequest env req (requestInfo env.http req) route) status)
        refine .inr ⟨_, _, rfl, fun h => ?_, fun h => ?_⟩
        · exact fromU16_getD_eq_iff.mp (hlogged.status_unique h)
        · rw [← fromU16_getD_eq_iff.mpr h]
          exact hlogged
      | error name message errorType us =>
        refine .inr ⟨_, _, rfl, fun _ => trivial, fun _ => ?_⟩
        apply LoggedOnce.append_right _ (silent_runPluginLog env _ 500)
        exact LoggedOnce.append_left ⟨rfl, rfl⟩ (loggedOnce_logAndRecord _ _ _ 500 _ _)

/-- `check_inner` logs its answer once, unless the plugin stage of an allowed method returns an
answer that is not counted. -/
theorem loggedOnce_checkInner_iff (env : CheckEnv ν κ σ) (cfg : GatewayConfig) (s : σ)
    (req : CheckRequest ν) :
    LoggedOnce (checkInner env cfg s req).response.status (checkInner env cfg s req).effects ↔
      ∀ route, matchRoute cfg.routes (requestHost env.http req) req.path = some route →
        methodAllowed route req.method = true → PluginCounted (pluginOutcome env req route) := by
  cases hroute : matchRoute cfg.routes (requestHost env.http req) req.path with
  | none =>
    have hlogged : LoggedOnce (checkInner env cfg s req).response.status
        (checkInner env cfg s req).effects := by
      unfold checkInner
      simp only
      rw [hroute]
      exact loggedOnce_logAndRecord _ _ _ 200 _ _
    simp [hlogged]
  | some route =>
    rw [checkInner_of_matched hroute]
    simp only [Option.some.injEq, forall_eq']
    unfold checkMatched
    by_cases hmethod : methodAllowed route req.method = true
    · rw [if_pos hmethod]
      simp only [hmethod, true_implies]
      rcases executeAccessPlugins_logged env req route with
        ⟨plugin, effects, hstep, hsilent, hcounted⟩ | ⟨response, effects, hstep, hiff⟩
      · rw [hstep]
        refine ⟨fun _ => hcounted, fun _ => ?_⟩
        exact LoggedOnce.append_left hsilent (loggedOnce_checkAuth env cfg s req _ route plugin)
      · rw [hstep]
        exact hiff
    · rw [if_neg hmethod]
      refine ⟨fun _ h => absurd h hmethod, fun _ => ?_⟩
      exact loggedOnce_logAndRecord _ _ _ 405 _ _

/-- A check has one log entry and one request metric, both with the status it answers, exactly
when it gets a permit and, for a route that matches with an allowed method, the engine does not
fail and no plugin exits with a number that is no status. -/
theorem counted_once_iff (env : CheckEnv ν κ σ) (trace : Option (HeaderMap ν → HeaderMap ν))
    (permit : Bool) (cfg : GatewayConfig) (s : σ) (req : CheckRequest ν) :
    CountedOnce (check env trace permit cfg s req) ↔
      permit = true ∧
        ∀ route, matchRoute cfg.routes (requestHost env.http req) req.path = some route →
          methodAllowed route req.method = true →
            PluginCounted (pluginOutcome env req route) := by
  cases permit with
  | false =>
    have hsilent : Silent [] := silent_nil
    refine ⟨fun h => absurd hsilent (LoggedOnce.not_silent h), fun h => ?_⟩
    exact absurd h.1 (by simp)
  | true =>
    rw [← loggedOnce_checkInner_iff env cfg s req]
    have heffects : (check env trace true cfg s req).effects.filterMap CheckEffect.inner? =
        (checkInner env cfg s req).effects := by
      show ([CheckEffect.incInflight] ++ (checkInner env cfg s req).effects.map CheckEffect.inner ++
        [CheckEffect.decInflight]).filterMap CheckEffect.inner? = _
      rw [List.filterMap_append, List.filterMap_append, filterMap_inner]
      exact List.append_nil _
    have hstatus : (check env trace true cfg s req).response.status =
        (checkInner env cfg s req).response.status := by
      cases trace with
      | none => rfl
      | some inject => rfl
    unfold CountedOnce
    rw [heffects, hstatus]
    simp

/-- Without a permit, with an engine that fails, and with an exit of the number 42, the accounts
of a request do not match its answer. -/
theorem uncounted_answers :
    let cfg := Validation.minimalConfig [protectedRoute]
    let overloaded := check (plainEnv none) none false cfg () plainRequest
    let failing := check
      (plainEnv (some fun _ => .error (.load "sandbox" "not enough memory"))) none
      true cfg () plainRequest
    let exiting := check
      (plainEnv (some fun _ => .ok (.shortCircuit "waf" 42 (some "denied") ∅ 10)))
      none true cfg () plainRequest
    Validation.validate (fun _ => true) cfg = .ok () ∧
    overloaded.response.status = 503 ∧ overloaded.effects = [.recordOverload] ∧
    failing.response.status = 200 ∧
    failing.effects = [.incInflight, .inner (.recordPluginError "engine" "private" "runtime"),
      .decInflight] ∧
    exiting.response.status = 200 ∧
    (exiting.effects.filterMap CheckEffect.inner?).filterMap Effect.recordedStatus = [42] ∧
    ¬ CountedOnce overloaded ∧ ¬ CountedOnce failing ∧ ¬ CountedOnce exiting := by
  intro cfg overloaded failing exiting
  refine ⟨by decide, by decide, by decide, by decide, by decide, by decide, by decide,
    fun h => ?_, fun h => ?_, fun h => ?_⟩
  · exact absurd h.logged (by decide)
  · exact absurd h.logged (by decide)
  · exact absurd h.logged (by decide)

end ExtAuthz
end OpenApiGateway
