import OpenApiGateway.ExtAuthz.Accounting
import OpenApiGateway.Lib.TransitionSystem
import OpenApiGateway.Observability.Metrics
import Mathlib.Algebra.Group.Action.Defs
import Mathlib.Algebra.Order.BigOperators.Group.List

/-!
# The flow of requests through the metrics

Any number of `check` calls (`controlplane/src/extauthz/handler.rs`) on one metrics registry
(`controlplane/src/observability/metrics.rs`). Each call writes its own effects in order; the
writes of different calls interleave as they like, and a call whose future is dropped writes no
more. The config, the plugins, the keys and the limiter a call finds are its own: the registry
is all the calls share here.

A request that reaches the plugin stage is counted twice, by the stage that decides it and, at
its end, as a request. `request_flow` compares the two.
-/

namespace OpenApiGateway
namespace ExtAuthz

open Lib.TransitionSystem Lib.Counters Observability RateLimit Plugins Auth

variable {ν κ σ : Type}

/-! ## What an effect does to the registry -/

def Effect.perform (m : MetricsRegistry) : Effect → MetricsRegistry
  | .emitLog _ => m
  | .recordRequest route method status => m.recordRequest route method status
  | .recordAuthFailure route reason => m.recordAuthFailure route reason
  | .recordRateLimitDenied route => m.recordRateLimitDenied route
  | .recordRateLimitDegraded route => m.recordRateLimitDegraded route
  | .recordRateLimitAllowed route => m.recordRateLimitAllowed route
  -- both of these are histograms
  | .recordPluginChain _ _ => m
  | .recordPluginShortCircuit plugin route status => m.recordPluginShortCircuit plugin route status
  | .recordPluginError plugin route errorType => m.recordPluginError plugin route errorType
  | .runPluginLog _ _ => m

def CheckEffect.perform (m : MetricsRegistry) : CheckEffect → MetricsRegistry
  | .recordOverload => m.recordOverload
  | .incInflight => m.incInflight
  | .decInflight => m.decInflight
  | .inner effect => effect.perform m

/-- The series an effect increments. -/
def Effect.series : Effect → Option Series
  | .recordRequest route method status =>
    some (.httpRequestsTotal, [route, method, statusClass status])
  | .recordAuthFailure route reason => some (.authFailuresTotal, [route, reason])
  | .recordRateLimitDenied route => some (.rateLimitDeniedTotal, [route])
  | .recordRateLimitDegraded route => some (.rateLimitDegradedTotal, [route])
  | .recordRateLimitAllowed route => some (.rateLimitAllowedTotal, [route])
  | .recordPluginShortCircuit plugin route status =>
    some (.pluginShortCircuitsTotal, [plugin, route, toString status])
  | .recordPluginError plugin route errorType =>
    some (.pluginErrorsTotal, [plugin, route, errorType])
  | _ => none

def CheckEffect.series (effect : CheckEffect) : Option Series := effect.inner?.bind Effect.series

theorem CheckEffect.perform_counters (m : MetricsRegistry) (effect : CheckEffect) :
    (effect.perform m).counters =
      match effect.series with
      | some series => m.counters.inc series
      | none => m.counters := by
  cases effect with
  | recordOverload => rfl
  | incInflight => rfl
  | decInflight => rfl
  | inner effect => cases effect <;> rfl

/-! ## The system -/

/-- How far a request gets. -/
inductive RequestKind where
  /-- There was no permit for it. -/
  | overloaded
  | unmatched
  /-- Its route does not have its method. -/
  | rejected (route : String)
  /-- The plugin engine itself failed. -/
  | engineFailed (route : String)
  /-- A plugin, the auth step or the limiter decided it. -/
  | decided (route : String)
deriving DecidableEq

def RequestKind.route : RequestKind → Option String
  | overloaded => none
  | unmatched => none
  | rejected route => some route
  | engineFailed route => some route
  | decided route => some route

def requestKind (env : CheckEnv ν κ σ) (permit : Bool) (cfg : GatewayConfig)
    (req : CheckRequest ν) : RequestKind :=
  if permit then
    match matchRoute cfg.routes (requestHost env.http req) req.path with
    | none => .unmatched
    | some route =>
      if methodAllowed route req.method then
        match pluginOutcome env req route with
        | some (.error _) => .engineFailed route.name
        | _ => .decided route.name
      else .rejected route.name
  else .overloaded

/-- A call of `check`: what it has written, what it still has to write, and whether its future
was dropped. -/
structure CheckTask where
  kind : RequestKind
  written : List CheckEffect := []
  left : List CheckEffect
  dropped : Bool := false

structure CheckService where
  metrics : MetricsRegistry := {}
  tasks : List CheckTask := []

inductive ServiceAction (ν κ σ : Type) where
  | start (env : CheckEnv ν κ σ) (trace : Option (HeaderMap ν → HeaderMap ν)) (permit : Bool)
      (cfg : GatewayConfig) (s : σ) (req : CheckRequest ν)
  | write (i : ℕ)
  | drop (i : ℕ)

def CheckService.step (s : CheckService) : ServiceAction ν κ σ → Option CheckService
  | .start env trace permit cfg limiter req =>
    let task : CheckTask :=
      { kind := requestKind env permit cfg req
        -- all that the call is going to write, decided at once; the writes come later, one by one
        left := (check env trace permit cfg limiter req).effects }
    some { s with tasks := s.tasks ++ [task] }
  | .write i =>
    match s.tasks[i]? with
    | some ⟨kind, written, effect :: left, false⟩ =>
      some
        { metrics := effect.perform s.metrics
          tasks := s.tasks.set i ⟨kind, written ++ [effect], left, false⟩ }
    | _ => none
  | .drop i =>
    match s.tasks[i]? with
    | some task => some { s with tasks := s.tasks.set i { task with dropped := true } }
    | none => none

/-- All a step does: a call starts, one writes its next effect, or one is dropped. -/
theorem CheckService.step_cases {s s' : CheckService} {action : ServiceAction ν κ σ}
    (h : s.step action = some s') :
    (∃ env trace permit cfg limiter req,
      s' = { s with tasks := s.tasks ++
        [{ kind := requestKind (ν := ν) (κ := κ) (σ := σ) env permit cfg req
           left := (check env trace permit cfg limiter req).effects }] }) ∨
    (∃ i kind written effect left, s.tasks[i]? = some ⟨kind, written, effect :: left, false⟩ ∧
      s' = { metrics := effect.perform s.metrics
             tasks := s.tasks.set i ⟨kind, written ++ [effect], left, false⟩ }) ∨
    (∃ i task, s.tasks[i]? = some task ∧
      s' = { s with tasks := s.tasks.set i { task with dropped := true } }) := by
  cases action with
  | start env trace permit cfg limiter req =>
    exact .inl ⟨env, trace, permit, cfg, limiter, req, (Option.some.inj h).symm⟩
  | write i =>
    simp only [CheckService.step] at h
    split at h
    · rename_i kind written effect left htask
      exact .inr (.inl ⟨i, kind, written, effect, left, htask, (Option.some.inj h).symm⟩)
    · simp at h
  | drop i =>
    simp only [CheckService.step] at h
    split at h
    · rename_i task htask
      exact .inr (.inr ⟨i, task, htask, (Option.some.inj h).symm⟩)
    · simp at h

/-! ## The series of one check -/

/-- The series a request of this kind increments, from its start to its end. -/
def RequestKind.Increments : RequestKind → List Series → Prop
  | overloaded, l => l = []
  | unmatched, l => ∃ method, l = [(.httpRequestsTotal, ["", method, "2xx"])]
  | rejected route, l => ∃ method, l = [(.httpRequestsTotal, [route, method, "4xx"])]
  | engineFailed route, l => ∃ decision : Series, decision.decisionOn = some route ∧
      decision.letsPass = false ∧ l = [decision]
  | decided route, l => ∃ (decision : Series) (method status : String),
      decision.decisionOn = some route ∧ decision.letsPass = (status == "2xx") ∧
        l = [decision, (.httpRequestsTotal, [route, method, status])]

/-- The series of a list of effects. -/
def seriesOf (effects : List Effect) : List Series := effects.filterMap Effect.series

theorem seriesOf_append (l l' : List Effect) : seriesOf (l ++ l') = seriesOf l ++ seriesOf l' :=
  List.filterMap_append

theorem seriesOf_logAndRecord (info : RequestInfo) (route upstream : String) (status : ℕ)
    (sub : Option String) (mode : String) :
    seriesOf (logAndRecord info route upstream status sub mode) =
      [(.httpRequestsTotal, [route, info.method, statusClass status])] := rfl

theorem seriesOf_runPluginLog (env : CheckEnv ν κ σ) (request : PluginRequest) (status : ℕ) :
    seriesOf (runPluginLog env request status) = [] := by
  unfold runPluginLog
  split
  · rfl
  · rfl

/-- A denial of the auth step counts one failure and has no success status; a pass counts
nothing. -/
theorem applyAuth_series (env : CheckEnv ν κ σ) (cfg : GatewayConfig) (route : RouteConfig)
    (requestHeaders : RequestHeaders ν) (headers : HeaderMap ν) :
    ((applyAuth env cfg route requestHeaders headers).result = .ok () ∧
      seriesOf (applyAuth env cfg route requestHeaders headers).effects = []) ∨
    ∃ deny reason, (applyAuth env cfg route requestHeaders headers).result = .error deny ∧
      seriesOf (applyAuth env cfg route requestHeaders headers).effects =
        [(.authFailuresTotal, [route.name, reason])] ∧ statusClass deny.status ≠ "2xx" := by
  rcases applyAuth_outcomes env cfg route requestHeaders with
    ⟨-, hout⟩ | ⟨-, reason, -, hout⟩ | ⟨-, -, hout⟩ | ⟨-, call, -, hout⟩
  · rw [hout]
    exact .inl ⟨rfl, rfl⟩
  · rw [hout]
    exact .inr ⟨_, reason, rfl, rfl, by show statusClass 401 ≠ "2xx"; decide⟩
  · rw [hout]
    exact .inr ⟨_, "unknown_provider", rfl, rfl, by show statusClass 503 ≠ "2xx"; decide⟩
  · rw [hout]
    unfold authAnswer
    split
    · exact .inl ⟨rfl, rfl⟩
    · rename_i e he
      refine .inr ⟨_, e.errorCode, rfl, rfl, ?_⟩
      show statusClass e.httpStatus ≠ "2xx"
      rw [ne_eq, statusClass_eq_success_iff]
      cases e <;> simp [AuthError.httpStatus]

theorem increments_checkRateLimit (env : CheckEnv ν κ σ) (cfg : GatewayConfig) (s : σ)
    (req : CheckRequest ν) (info : RequestInfo) (route : RouteConfig) (plugin : PluginContinue ν)
    (auth : AuthOutcome ν κ) :
    (RequestKind.decided route.name).Increments
      (seriesOf (checkRateLimit env cfg s req info route plugin auth).effects) := by
  unfold checkRateLimit
  simp only
  split
  · rename_i decision hdecision
    split
    · rw [seriesOf_append, seriesOf_append, seriesOf_logAndRecord, seriesOf_runPluginLog]
      split
      · exact ⟨(.rateLimitDegradedTotal, [route.name]), info.method, statusClass 200, rfl, rfl, rfl⟩
      · exact ⟨(.rateLimitAllowedTotal, [route.name]), info.method, statusClass 200, rfl, rfl, rfl⟩
    · rw [seriesOf_append, seriesOf_append, seriesOf_logAndRecord, seriesOf_runPluginLog]
      exact ⟨(.rateLimitDeniedTotal, [route.name]), info.method, statusClass 429, rfl, rfl, rfl⟩
  · -- the limiter's own failure counts as a denial
    rw [seriesOf_append, seriesOf_append, seriesOf_runPluginLog]
    exact ⟨(.rateLimitDeniedTotal, [route.name]), info.method, statusClass 503, rfl, rfl, rfl⟩

theorem increments_checkAuth (env : CheckEnv ν κ σ) (cfg : GatewayConfig) (s : σ)
    (req : CheckRequest ν) (info : RequestInfo) (route : RouteConfig)
    (plugin : PluginContinue ν) :
    (RequestKind.decided route.name).Increments
      (seriesOf (checkAuth env cfg s req info route plugin).effects) := by
  unfold checkAuth
  simp only
  rcases applyAuth_series env cfg route req.headers plugin.responseHeaders with
    ⟨hresult, hseries⟩ | ⟨deny, reason, hresult, hseries, hstatus⟩
  · rw [hresult]
    show RequestKind.Increments _ (seriesOf (_ ++ _))
    rw [seriesOf_append, hseries, List.nil_append]
    exact increments_checkRateLimit env cfg s req info route plugin _
  · rw [hresult]
    show RequestKind.Increments _ (seriesOf (_ ++ _ ++ _))
    rw [seriesOf_append, seriesOf_append, hseries, seriesOf_runPluginLog]
    refine ⟨(.authFailuresTotal, [route.name, reason]), info.method, statusClass deny.status, rfl,
      ?_, rfl⟩
    exact (beq_eq_false_iff_ne.mpr hstatus).symm

/-- The label of an exit's status is one from 200 to 299 exactly for a status of that class. -/
theorem letsPass_shortCircuit (plugin route : String) (status : ℕ) :
    Series.letsPass (.pluginShortCircuitsTotal, [plugin, route, toString status]) =
      (statusClass status == "2xx") := by
  rw [Bool.eq_iff_iff, beq_iff_eq, statusClass_eq_success_iff]
  simp only [Series.letsPass, List.any_eq_true, List.mem_range, beq_iff_eq]
  constructor
  · rintro ⟨d, hd, hlabel⟩
    have hstatus := Lib.Text.toString_nat_injective hlabel
    omega
  · intro ⟨hlow, hhigh⟩
    refine ⟨status - 200, by omega, ?_⟩
    have hstatus : 200 + (status - 200) = status := by omega
    rw [hstatus]

/-- The plugin step hands a request on without counting it, or decides it, or fails. -/
theorem executeAccessPlugins_series (env : CheckEnv ν κ σ) (req : CheckRequest ν)
    (route : RouteConfig) (kind : RequestKind)
    (hkind : kind = match pluginOutcome env req route with
      | some (.error _) => .engineFailed route.name
      | _ => .decided route.name) :
    (∃ plugin effects, executeAccessPlugins env req (requestInfo env.http req) route =
        (.ok plugin, effects) ∧ seriesOf effects = [] ∧ kind = .decided route.name) ∨
    (∃ response effects, executeAccessPlugins env req (requestInfo env.http req) route =
        (.error response, effects) ∧ kind.Increments (seriesOf effects)) := by
  subst hkind
  unfold executeAccessPlugins pluginOutcome
  simp only
  cases env.pluginEngine with
  | none => exact .inl ⟨_, _, rfl, rfl, rfl⟩
  | some executeAccess =>
    simp only [Option.map_some]
    cases executeAccess (pluginRequest env req (requestInfo env.http req) route) with
    | error e =>
      exact .inr ⟨_, _, rfl, (.pluginErrorsTotal, ["engine", route.name, "runtime"]), rfl, rfl, rfl⟩
    | ok result =>
      cases result with
      | «continue» up down us => exact .inl ⟨_, _, rfl, rfl, rfl⟩
      | shortCircuit name status body headers us =>
        refine .inr ⟨_, _, rfl, ?_⟩
        rw [seriesOf_append, seriesOf_append, seriesOf_logAndRecord, seriesOf_runPluginLog]
        exact ⟨(.pluginShortCircuitsTotal, [name, route.name, toString status]), _,
          statusClass status, rfl, letsPass_shortCircuit name route.name status, rfl⟩
      | error name message errorType us =>
        refine .inr ⟨_, _, rfl, ?_⟩
        rw [seriesOf_append, seriesOf_append, seriesOf_logAndRecord, seriesOf_runPluginLog]
        exact ⟨(.pluginErrorsTotal, [name, route.name, errorType.asStr]), _, statusClass 500, rfl,
          rfl, rfl⟩

theorem increments_checkInner (env : CheckEnv ν κ σ) (cfg : GatewayConfig) (s : σ)
    (req : CheckRequest ν) :
    (requestKind env true cfg req).Increments (seriesOf (checkInner env cfg s req).effects) := by
  unfold requestKind
  rw [if_pos rfl]
  cases hroute : matchRoute cfg.routes (requestHost env.http req) req.path with
  | none =>
    unfold checkInner
    simp only
    rw [hroute]
    exact ⟨_, rfl⟩
  | some route =>
    rw [checkInner_of_matched hroute]
    unfold checkMatched
    simp only
    by_cases hmethod : methodAllowed route req.method = true
    · rw [if_pos hmethod, if_pos hmethod]
      rcases executeAccessPlugins_series env req route _ rfl with
        ⟨plugin, effects, hstep, hseries, hkind⟩ | ⟨response, effects, hstep, hincrements⟩
      · rw [hkind, hstep]
        show RequestKind.Increments _ (seriesOf (_ ++ _))
        rw [seriesOf_append, hseries, List.nil_append]
        exact increments_checkAuth env cfg s req _ route plugin
      · rw [hstep]
        exact hincrements
    · rw [if_neg hmethod, if_neg hmethod]
      exact ⟨_, rfl⟩

/-- A check increments the series of its kind. -/
theorem increments_check (env : CheckEnv ν κ σ) (trace : Option (HeaderMap ν → HeaderMap ν))
    (permit : Bool) (cfg : GatewayConfig) (s : σ) (req : CheckRequest ν) :
    (requestKind env permit cfg req).Increments
      ((check env trace permit cfg s req).effects.filterMap CheckEffect.series) := by
  cases permit with
  | false => rfl
  | true =>
    have heffects : (check env trace true cfg s req).effects.filterMap CheckEffect.series =
        seriesOf (checkInner env cfg s req).effects := by
      show ([CheckEffect.incInflight] ++ (checkInner env cfg s req).effects.map CheckEffect.inner ++
        [CheckEffect.decInflight]).filterMap CheckEffect.series = _
      rw [List.filterMap_append, List.filterMap_append, List.filterMap_map]
      exact List.append_nil _
    rw [heffects]
    exact increments_checkInner env cfg s req

/-! ## Calls and counters along a run -/

namespace CheckTask

/-- The increments a call has made to the series that satisfy `p`. -/
def increments (task : CheckTask) (p : Series → Bool) : ℕ :=
  (task.written.filterMap CheckEffect.series).countP p

def rejectedOn (route : String) (task : CheckTask) : Bool := task.kind == .rejected route

def engineFailedOn (route : String) (task : CheckTask) : Bool := task.kind == .engineFailed route

/-- The call is on this route and has not written all of its effects. -/
def unfinishedOn (route : String) (task : CheckTask) : Bool :=
  task.kind.route == some route && !task.left.isEmpty

/-- What a call has written and has to write are the increments of its kind. -/
def Whole (task : CheckTask) : Prop :=
  task.kind.Increments ((task.written ++ task.left).filterMap CheckEffect.series)

end CheckTask

theorem RequestKind.Increments.length_le {kind : RequestKind} {l : List Series}
    (h : kind.Increments l) : l.length ≤ 2 := by
  cases kind with
  | overloaded => simp [show l = [] from h]
  | unmatched =>
    obtain ⟨method, rfl⟩ := h
    simp
  | rejected route =>
    obtain ⟨method, rfl⟩ := h
    simp
  | engineFailed route =>
    obtain ⟨decision, -, -, rfl⟩ := h
    simp
  | decided route =>
    obtain ⟨decision, method, status, -, -, rfl⟩ := h
    simp

/-- No call increments more than two series. -/
theorem CheckTask.Whole.increments_le {task : CheckTask} (h : task.Whole) (p : Series → Bool) :
    task.increments p ≤ 2 := by
  have hlength := RequestKind.Increments.length_le h
  rw [List.filterMap_append, List.length_append] at hlength
  have hcount := List.countP_le_length (p := p) (l := task.written.filterMap CheckEffect.series)
  unfold CheckTask.increments
  omega

/-- The calls are whole, and the counters are the sums of what they have written. -/
structure FlowInv (s : CheckService) : Prop where
  whole : ∀ task ∈ s.tasks, task.Whole
  tallied : s.tasks.length < 2 ^ 52 → ∀ p,
    s.metrics.counters.total p = (s.tasks.map fun task => task.increments p).sum

/-- No counter reaches the number from where on an increment is lost. -/
theorem FlowInv.value_lt {s : CheckService} (h : FlowInv s) (hfew : s.tasks.length < 2 ^ 52)
    (series : Series) : s.metrics.counters.value series < 2 ^ 53 := by
  have hle := s.metrics.counters.value_le_total (p := fun other => other == series)
    (beq_self_eq_true series)
  rw [h.tallied hfew] at hle
  have hsum := List.sum_le_card_nsmul (s.tasks.map fun task =>
    task.increments fun other => other == series) 2 (by
      intro n hn
      obtain ⟨task, htask, rfl⟩ := List.mem_map.mp hn
      exact (h.whole task htask).increments_le _)
  rw [List.length_map, smul_eq_mul] at hsum
  omega

theorem FlowInv.step {s s' : CheckService} {action : ServiceAction ν κ σ} (h : FlowInv s)
    (hstep : s.step action = some s') : FlowInv s' := by
  rcases CheckService.step_cases hstep with ⟨env, trace, permit, cfg, limiter, req, rfl⟩ |
    ⟨i, kind, written, effect, left, hi, rfl⟩ | ⟨i, task, hi, rfl⟩
  · -- a new call has written nothing
    constructor
    · intro task htask
      rcases List.mem_append.mp htask with hold | hnew
      · exact h.whole task hold
      · rw [List.mem_singleton.mp hnew]
        exact increments_check env trace permit cfg limiter req
    · intro hfew p
      rw [List.length_append] at hfew
      rw [List.map_append, List.sum_append]
      exact h.tallied (by omega) p
  · -- a write: the counter goes up with what the call has written
    constructor
    · intro task htask
      rcases List.mem_or_eq_of_mem_set htask with hold | rfl
      · exact h.whole task hold
      · have hwhole := h.whole _ (List.mem_of_getElem? hi)
        unfold CheckTask.Whole at hwhole ⊢
        simpa using hwhole
    · intro hfew p
      rw [List.length_set] at hfew
      have htotal := h.tallied hfew p
      have hsum := sum_map_set hi ⟨kind, written ++ [effect], left, false⟩
        fun task => task.increments p
      have hwritten : CheckTask.increments ⟨kind, written ++ [effect], left, false⟩ p =
          CheckTask.increments ⟨kind, written, effect :: left, false⟩ p +
            match effect.series with
            | some series => if p series then 1 else 0
            | none => 0 := by
        unfold CheckTask.increments
        rw [List.filterMap_append, List.countP_append]
        cases hseries : effect.series with
        | none => simp [hseries]
        | some series => simp [hseries, List.countP_cons]
      show (effect.perform s.metrics).counters.total p = _
      rw [CheckEffect.perform_counters]
      cases hseries : effect.series with
      | none =>
        simp only [hseries] at hwritten ⊢
        omega
      | some series =>
        simp only [hseries] at hwritten ⊢
        rw [CounterVec.total_inc _ (h.value_lt hfew series)]
        omega
  · -- a dropped call leaves what it has written
    constructor
    · intro other hother
      rcases List.mem_or_eq_of_mem_set hother with hold | rfl
      · exact h.whole other hold
      · exact h.whole task (List.mem_of_getElem? hi)
    · intro hfew p
      rw [List.length_set] at hfew
      have hsum := sum_map_set hi { task with dropped := true } fun task => task.increments p
      have hsame : CheckTask.increments { task with dropped := true } p = task.increments p := rfl
      show s.metrics.counters.total p = ((s.tasks.set i _).map _).sum
      rw [h.tallied hfew p]
      omega

/-! ## The flow on one route -/

/-- The accounts of a list of calls on a route, for what a query over some of the series gives:
the requests do not get ahead of the decisions, what the two differ in is unfinished; and so for
those that succeed. -/
structure Flow (tasks : List CheckTask) (route : String) (sum : (Series → Bool) → ℕ) : Prop where
  counted : sum (Series.isRequest route) ≤
    sum (Series.isDecision route) + tasks.countP (CheckTask.rejectedOn route)
  requested : sum (Series.isRequest route) + tasks.countP (CheckTask.engineFailedOn route) ≤
    sum (Series.isDecision route) + tasks.countP (CheckTask.rejectedOn route) +
      tasks.countP (CheckTask.unfinishedOn route)
  decided : sum (Series.isDecision route) + tasks.countP (CheckTask.rejectedOn route) ≤
    sum (Series.isRequest route) + tasks.countP (CheckTask.engineFailedOn route) +
      tasks.countP (CheckTask.unfinishedOn route)
  succeeded : sum (Series.isSuccess route) ≤ sum (Series.isPass route)
  passed : sum (Series.isPass route) ≤
    sum (Series.isSuccess route) + tasks.countP (CheckTask.unfinishedOn route)

theorem Flow.cons {task : CheckTask} {tasks : List CheckTask} {route : String}
    {f g : (Series → Bool) → ℕ} (h : Flow [task] route f) (h' : Flow tasks route g) :
    Flow (task :: tasks) route fun p => f p + g p := by
  obtain ⟨h₁, h₂, h₃, h₄, h₅⟩ := h
  obtain ⟨h₁', h₂', h₃', h₄', h₅'⟩ := h'
  simp only [List.countP_singleton] at h₁ h₂ h₃ h₄ h₅
  refine ⟨?_, ?_, ?_, Nat.add_le_add h₄ h₄', ?_⟩
  all_goals
    simp only [List.countP_cons]
    omega

theorem CheckTask.unfinishedOn_of_left {task : CheckTask} {route : String}
    (hroute : task.kind.route = some route)
    (hleft : task.left.filterMap CheckEffect.series ≠ []) : task.unfinishedOn route = true := by
  have hne : task.left ≠ [] := by
    intro hnil
    rw [hnil] at hleft
    exact hleft rfl
  simp [CheckTask.unfinishedOn, hroute, hne]

/-- A request does not count for a route that is not its own. -/
theorem RequestKind.Increments.elsewhere {kind : RequestKind} {l : List Series} {route : String}
    (h : kind.Increments l) (hkind : kind.route ≠ some route) (hroute : route ≠ "") :
    ∀ series ∈ l, series.requestOn ≠ some route ∧ series.decisionOn ≠ some route := by
  intro series hseries
  cases kind with
  | overloaded =>
    rw [show l = [] from h] at hseries
    simp at hseries
  | unmatched =>
    obtain ⟨method, rfl⟩ := h
    obtain rfl := List.mem_singleton.mp hseries
    exact ⟨fun heq => hroute (Option.some.inj heq).symm, nofun⟩
  | rejected other =>
    obtain ⟨method, rfl⟩ := h
    obtain rfl := List.mem_singleton.mp hseries
    exact ⟨hkind, nofun⟩
  | engineFailed other =>
    obtain ⟨decision, hdecision, -, rfl⟩ := h
    obtain rfl := List.mem_singleton.mp hseries
    rw [Series.requestOn_of_decisionOn hdecision, hdecision]
    exact ⟨nofun, hkind⟩
  | decided other =>
    obtain ⟨decision, method, status, hdecision, -, rfl⟩ := h
    rcases List.mem_pair.mp hseries with rfl | rfl
    · rw [Series.requestOn_of_decisionOn hdecision, hdecision]
      exact ⟨nofun, hkind⟩
    · exact ⟨hkind, nofun⟩

theorem CheckTask.Whole.flow_elsewhere {task : CheckTask} (h : task.Whole) {route : String}
    (hkind : task.kind.route ≠ some route) (hroute : route ≠ "") :
    Flow [task] route task.increments := by
  have hnone := RequestKind.Increments.elsewhere h hkind hroute
  rw [List.filterMap_append] at hnone
  -- none of the four queries meets a series of this call
  have hzero : ∀ p : Series → Bool, (∀ series, p series = true →
      series.requestOn = some route ∨ series.decisionOn = some route) → task.increments p = 0 := by
    intro p hp
    refine List.countP_eq_zero.mpr fun series hseries hcounted => ?_
    have hother := hnone series (List.mem_append_left _ hseries)
    rcases hp series hcounted with hrequest | hdecision
    · exact hother.1 hrequest
    · exact hother.2 hdecision
  have hrequest := hzero (Series.isRequest route) fun series hp => .inl (beq_iff_eq.mp hp)
  have hdecision := hzero (Series.isDecision route) fun series hp => .inr (beq_iff_eq.mp hp)
  have hsuccess := hzero (Series.isSuccess route) fun series hp =>
    .inl (beq_iff_eq.mp (Bool.and_eq_true_iff.mp hp).2)
  have hpass := hzero (Series.isPass route) fun series hp =>
    .inr (beq_iff_eq.mp (Bool.and_eq_true_iff.mp hp).2)
  have hrejected : task.rejectedOn route = false := by
    refine beq_eq_false_iff_ne.mpr fun heq => hkind ?_
    rw [heq]
    rfl
  have hfailed : task.engineFailedOn route = false := by
    refine beq_eq_false_iff_ne.mpr fun heq => hkind ?_
    rw [heq]
    rfl
  constructor <;> simp [hrequest, hdecision, hsuccess, hpass, hrejected, hfailed]

/-- What a finished request adds to the accounts of its route. -/
theorem request_accounts (route method status : String) :
    let series : Series := (.httpRequestsTotal, [route, method, status])
    series.isRequest route = true ∧ series.isDecision route = false ∧
      series.isSuccess route = (status == "2xx") ∧ series.isPass route = false := by
  refine ⟨?_, rfl, ?_, rfl⟩
  · simp [Series.isRequest, Series.requestOn]
  · simp [Series.isSuccess, Series.requestOn, Series.succeeded]

/-- What a decision adds to the accounts of its route. -/
theorem decision_accounts {series : Series} {route : String}
    (h : series.decisionOn = some route) :
    series.isRequest route = false ∧ series.isDecision route = true ∧
      series.isSuccess route = false ∧ series.isPass route = series.letsPass := by
  refine ⟨?_, ?_, ?_, ?_⟩
  · simp [Series.isRequest, Series.requestOn_of_decisionOn h]
  · simp [Series.isDecision, h]
  · simp [Series.isSuccess, Series.succeeded_of_decisionOn h]
  · simp [Series.isPass, h]

/-- The accounts of one call. -/
theorem CheckTask.Whole.flow {task : CheckTask} (h : task.Whole) {route : String}
    (hroute : route ≠ "") : Flow [task] route task.increments := by
  by_cases hkind : task.kind.route = some route
  swap
  · exact h.flow_elsewhere hkind hroute
  have hleft := task.unfinishedOn_of_left hkind
  unfold CheckTask.Whole at h
  rw [List.filterMap_append] at h
  -- the cases are the kinds that have a route, and in each how much of it is written
  cases hk : task.kind with
  | overloaded => simp [hk, RequestKind.route] at hkind
  | unmatched => simp [hk, RequestKind.route] at hkind
  | rejected other =>
    rw [hk] at h hkind
    obtain rfl : other = route := Option.some.inj hkind
    obtain ⟨method, hseries⟩ := h
    obtain ⟨hrequest, hdecision, hsuccess, hpass⟩ := request_accounts other method "4xx"
    have hrejected : task.rejectedOn other = true := beq_iff_eq.mpr hk
    have hfailed : task.engineFailedOn other = false := by simp [CheckTask.engineFailedOn, hk]
    rcases List.append_eq_singleton_iff.mp hseries with ⟨hw, hv⟩ | ⟨hw, -⟩
    · have hunfinished := hleft (by rw [hv]; exact List.cons_ne_nil _ _)
      constructor <;> simp [CheckTask.increments, hw, hrejected, hfailed, hunfinished]
    · constructor <;>
        simp [CheckTask.increments, hw, hrejected, hfailed, hrequest, hdecision, hsuccess, hpass]
  | engineFailed other =>
    rw [hk] at h hkind
    obtain rfl : other = route := Option.some.inj hkind
    obtain ⟨decision, hon, hlets, hseries⟩ := h
    obtain ⟨hrequest, hdecision, hsuccess, hpass⟩ := decision_accounts hon
    have hrejected : task.rejectedOn other = false := by simp [CheckTask.rejectedOn, hk]
    have hfailed : task.engineFailedOn other = true := beq_iff_eq.mpr hk
    rcases List.append_eq_singleton_iff.mp hseries with ⟨hw, hv⟩ | ⟨hw, -⟩
    · have hunfinished := hleft (by rw [hv]; exact List.cons_ne_nil _ _)
      constructor <;> simp [CheckTask.increments, hw, hrejected, hfailed, hunfinished]
    · constructor <;>
        simp [CheckTask.increments, hw, hrejected, hfailed, hrequest, hdecision, hsuccess, hpass,
          hlets]
  | decided other =>
    rw [hk] at h hkind
    obtain rfl : other = route := Option.some.inj hkind
    obtain ⟨decision, method, status, hon, hlets, hseries⟩ := h
    obtain ⟨hrequest, hdecision, hsuccess, hpass⟩ := decision_accounts hon
    obtain ⟨hrequest', hdecision', hsuccess', hpass'⟩ := request_accounts other method status
    have hrejected : task.rejectedOn other = false := by simp [CheckTask.rejectedOn, hk]
    have hfailed : task.engineFailedOn other = false := by simp [CheckTask.engineFailedOn, hk]
    rcases List.append_eq_cons_iff.mp hseries with ⟨hw, hv⟩ | ⟨w, hw, hrest⟩
    · constructor <;> simp [CheckTask.increments, hw, hrejected, hfailed]
    · rcases List.append_eq_singleton_iff.mp hrest.symm with ⟨rfl, hv⟩ | ⟨rfl, -⟩
      · -- decided, and not counted yet
        have hunfinished := hleft (by rw [hv]; exact List.cons_ne_nil _ _)
        have hone : (if status = "2xx" then 1 else 0) ≤ 1 := by split <;> omega
        constructor <;>
          simp [CheckTask.increments, hw, hrejected, hfailed, hunfinished, hrequest, hdecision,
            hsuccess, hpass, hlets, hone]
      · constructor <;>
          simp [CheckTask.increments, hw, hrejected, hfailed, hrequest, hdecision, hsuccess, hpass,
            hlets, hrequest', hdecision', hsuccess', hpass', List.countP_cons]

theorem flow_of_whole {tasks : List CheckTask} (h : ∀ task ∈ tasks, task.Whole) {route : String}
    (hroute : route ≠ "") :
    Flow tasks route fun p => (tasks.map fun task => task.increments p).sum := by
  induction tasks with
  | nil => constructor <;> simp
  | cons task tasks ih =>
    have hfirst := (h task List.mem_cons_self).flow hroute
    have hrest := ih fun other hother => h other (List.mem_cons_of_mem _ hother)
    exact hfirst.cons hrest

/-- Where no call of the route is under way or was dropped, the two sums are equal. -/
theorem Flow.at_rest {tasks : List CheckTask} {route : String} {sum : (Series → Bool) → ℕ}
    (h : Flow tasks route sum) (hrest : tasks.countP (CheckTask.unfinishedOn route) = 0) :
    sum (Series.isRequest route) + tasks.countP (CheckTask.engineFailedOn route) =
        sum (Series.isDecision route) + tasks.countP (CheckTask.rejectedOn route) ∧
      sum (Series.isSuccess route) = sum (Series.isPass route) := by
  obtain ⟨-, hrequested, hdecided, hsucceeded, hpassed⟩ := h
  omega

/-- In every state of every run with fewer than `2 ^ 52` calls, for every route: the requests
counted do not get ahead of the decisions of plugins, auth and limiter and the requests rejected
for their method; and once the requests of which the plugin engine failed are added, the two sums
differ by no more than the calls of the route that are under way or were dropped. So do the
requests counted as successes and the decisions for a success. -/
theorem request_flow (s : CheckService)
    (hrun : Run (CheckService.step (ν := ν) (κ := κ) (σ := σ)) (fun _ _ => True) {} s)
    (hfew : s.tasks.length < 2 ^ 52) (route : String) (hroute : route ≠ "") :
    Flow s.tasks route s.metrics.counters.total ∧
      (s.tasks.countP (CheckTask.unfinishedOn route) = 0 →
        s.metrics.counters.total (Series.isRequest route) +
            s.tasks.countP (CheckTask.engineFailedOn route) =
          s.metrics.counters.total (Series.isDecision route) +
            s.tasks.countP (CheckTask.rejectedOn route) ∧
        s.metrics.counters.total (Series.isSuccess route) =
          s.metrics.counters.total (Series.isPass route)) := by
  have hinit : FlowInv {} := by
    constructor
    · intro task htask
      simp at htask
    · intro _ p
      rfl
  have hinv : FlowInv s := hrun.invariant hinit fun _ _ _ hinv _ hstep => hinv.step hstep
  have hsame : s.metrics.counters.total =
      fun p => (s.tasks.map fun task => task.increments p).sum :=
    funext (hinv.tallied hfew)
  have hflow : Flow s.tasks route s.metrics.counters.total := by
    rw [hsame]
    exact flow_of_whole hinv.whole hroute
  exact ⟨hflow, hflow.at_rest⟩

/-- A request without a token, dropped after its failure was counted, and one that a plugin
answers with 204 in the meantime. -/
def droppedAndAnswered : List (ServiceAction String Unit Unit) :=
  [.start (plainEnv none) none true (Validation.minimalConfig [protectedRoute]) () plainRequest,
    .write 0,
    .start (plainEnv (some fun _ => .ok (.shortCircuit "cors" 204 none ∅ 10))) none true
      (Validation.minimalConfig [protectedRoute]) () plainRequest,
    .write 1, .write 1, .write 1, .write 0, .drop 0, .write 1, .write 1, .write 1, .write 1]

theorem request_flow_droppedAndAnswered :
    ∃ s, runAll CheckService.step (fun _ _ => True) {} droppedAndAnswered = some s ∧
      s.metrics.counters.total (Series.isRequest "private") = 1 ∧
      s.metrics.counters.total (Series.isDecision "private") = 2 ∧
      s.tasks.countP (CheckTask.unfinishedOn "private") = 1 ∧
      Flow s.tasks "private" s.metrics.counters.total := by
  have hsome :
      (runAll CheckService.step (fun _ _ => True) {} droppedAndAnswered).isSome = true := by
    decide +kernel
  obtain ⟨s, hs⟩ := Option.isSome_iff_exists.mp hsome
  have hat : ∀ P : CheckService → Bool,
      (runAll CheckService.step (fun _ _ => True) {} droppedAndAnswered).all P = true →
        P s = true := by
    intro P hP
    rwa [hs, Option.all_some] at hP
  have hfew : s.tasks.length < 2 ^ 52 :=
    of_decide_eq_true (hat (fun s => decide (s.tasks.length < 2 ^ 52)) (by decide +kernel))
  refine ⟨s, hs, ?_, ?_, ?_, ?_⟩
  · exact of_decide_eq_true (hat (fun s => decide
      (s.metrics.counters.total (Series.isRequest "private") = 1)) (by decide +kernel))
  · exact of_decide_eq_true (hat (fun s => decide
      (s.metrics.counters.total (Series.isDecision "private") = 2)) (by decide +kernel))
  · exact of_decide_eq_true (hat (fun s => decide
      (s.tasks.countP (CheckTask.unfinishedOn "private") = 1)) (by decide +kernel))
  · exact (request_flow s (run_of_runAll hs .init) hfew "private" (by decide)).1

end ExtAuthz
end OpenApiGateway
