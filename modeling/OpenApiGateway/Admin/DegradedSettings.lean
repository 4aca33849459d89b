import OpenApiGateway.Admin.KeyRegistry
import OpenApiGateway.RateLimit.Limiter

/-!
# Degraded rate limiting across reloads

The limiter keeps the `rate_limits` section it was started with, and a reload does not reach
it. `degraded_follows_iff` says when this shows: a check without Redis is decided as the active
config asks if and only if the active config asks for the same as the one at startup.
`reload_leaves_limiter_closed` is a reload that opens the gateway for the time Redis is away,
after which checks are still refused.
-/

namespace OpenApiGateway
namespace Admin

open Auth Plugins RateLimit Lib.TransitionSystem

/-! ## The gateway -/

/-- The application state, with the limiter it shares and the Redis behind that. -/
structure Gateway (κ : Type) where
  app : AppState κ
  limits : RateLimit.System

/-- A reload, or a call to the limiter. -/
inductive GatewayAction where
  | reload (files : PluginFiles) (now : ℤ) (read : Except String (List UInt8))
  | limiter (op : Op)

section Steps
variable [Arithmetic] {κ : Type} (lib : ReloadLib)

/-- `run` up to serving: the limiter is built from the config that is loaded. -/
def Gateway.start (source : KeySource κ) (fetchedAt : AuthProvider → ℕ) (files : PluginFiles)
    (now : ℤ) (configPath : String) (envoyConfigPath : Option String) (raw : List UInt8)
    (connected : Bool) (redis : Redis) : Option (Gateway κ) :=
  (startup lib source fetchedAt files now configPath envoyConfigPath raw).map fun app =>
    ⟨app, ⟨.fromConfig app.configState.config.rateLimits connected, redis⟩⟩

def gatewayStep (g : Gateway κ) : GatewayAction → Option (Gateway κ)
  | .reload files now read => some { g with app := (configReload lib files g.app now read).state }
  | .limiter op => some { g with limits := g.limits.apply op }

end Steps

/-- The section of the active config. -/
def Gateway.rateLimits {κ : Type} (g : Gateway κ) : RateLimitsConfig :=
  g.app.configState.config.rateLimits

/-! ## What a config asks for -/

/-- The outcome of a check without Redis is what this section asks for: a local bucket of the
fallback capacity in survivability mode, else to let everything pass or to fail. -/
structure DecidedBy [Arithmetic] (limits : RateLimitsConfig) (bucketKey : String) (capacity : ℕ)
    (outcome : Except RateLimitError RateDecision × RateLimit.System) : Prop where
  localBucket : (∃ decision, outcome.1 = .ok decision ∧ decision.mode = .degradedLocal) ↔
    limits.survivabilityMode.enabled = true
  limit : ∀ decision, outcome.1 = .ok decision → decision.mode = .degradedLocal →
    decision.limit = limits.survivabilityMode.fallbackCapacity ∧
      ∃ bucket, outcome.2.limiter.fallback.lookup bucketKey = some bucket ∧
        bucket.capacity = F64.ofNat limits.survivabilityMode.fallbackCapacity
  failOpen : outcome.1 = .ok ⟨true, capacity, capacity, 0, .failOpen⟩ ↔
    limits.survivabilityMode.enabled = false ∧ limits.failOpen = true
  unavailable : outcome.1 = .error .unavailable ↔
    limits.survivabilityMode.enabled = false ∧ limits.failOpen = false

/-- Every check that gets no answer from Redis is decided by this section. -/
def DegradedFollows [Arithmetic] (limits : RateLimitsConfig) (s : RateLimit.System) : Prop :=
  ∀ bucketKey capacity refillRate call,
    (∃ e, (s.tryRedis bucketKey capacity refillRate call).1 = .error e) →
      DecidedBy limits bucketKey capacity (s.check bucketKey capacity refillRate call)

/-- Two sections that ask for the same when Redis is away. -/
structure SameDegraded (a b : RateLimitsConfig) : Prop where
  enabled : a.survivabilityMode.enabled = b.survivabilityMode.enabled
  capacity : a.survivabilityMode.enabled = true →
    a.survivabilityMode.fallbackCapacity = b.survivabilityMode.fallbackCapacity
  failOpen : a.survivabilityMode.enabled = false → a.failOpen = b.failOpen

/-! ## The limiter goes by its own section -/

section Limiter
variable [Arithmetic] {s : RateLimit.System} {bucketKey : String} {capacity : ℕ} {refillRate : F64}
  {call : Call} {limits : RateLimitsConfig}

/-- Every local bucket has the fallback capacity of the limiter's own section. -/
def BucketsSized (s : RateLimit.System) : Prop :=
  ∀ key bucket, s.limiter.fallback.lookup key = some bucket →
    bucket.capacity = F64.ofNat s.limiter.config.survivabilityMode.fallbackCapacity

theorem BucketsSized.congr {s' : RateLimit.System} (h : BucketsSized s)
    (hconfig : s'.limiter.config = s.limiter.config)
    (hfallback : s'.limiter.fallback = s.limiter.fallback) : BucketsSized s' := by
  rw [BucketsSized, hconfig, hfallback]
  exact h

theorem tryConsume_capacity (bucket : LocalBucket) (now : ℕ) :
    (bucket.tryConsume now).2.capacity = bucket.capacity := by
  unfold LocalBucket.tryConsume
  simp only
  split
  · rfl
  · rfl

theorem BucketsSized.fallbackBucket (h : BucketsSized s) (bucketKey : String) (call : Call) :
    (s.fallbackBucket bucketKey call).capacity =
      F64.ofNat s.limiter.config.survivabilityMode.fallbackCapacity := by
  unfold RateLimit.System.fallbackBucket
  cases hbucket : s.limiter.fallback.lookup bucketKey with
  | none => rfl
  | some bucket => exact h bucketKey bucket hbucket

/-- In survivability mode a check goes by the local bucket of its key. -/
theorem decidedBy_of_enabled (hsized : BucketsSized s)
    (henabled : s.limiter.config.survivabilityMode.enabled = true) :
    DecidedBy limits bucketKey capacity (s.enterDegraded bucketKey capacity call) ↔
      limits.survivabilityMode.enabled = true ∧
        s.limiter.config.survivabilityMode.fallbackCapacity =
          limits.survivabilityMode.fallbackCapacity := by
  rw [enterDegraded_of_enabled henabled]
  constructor
  · intro h
    exact ⟨h.localBucket.mp ⟨_, rfl, rfl⟩, (h.limit _ rfl rfl).1⟩
  · rintro ⟨hlimits, hcapacity⟩
    refine ⟨?_, ?_, ?_, ?_⟩
    · exact iff_of_true ⟨_, rfl, rfl⟩ hlimits
    · intro decision hdecision _
      rw [← Except.ok.inj hdecision, ← hcapacity]
      refine ⟨rfl, _, AList.lookup_insert _, ?_⟩
      rw [tryConsume_capacity]
      exact hsized.fallbackBucket bucketKey call
    · simp [hlimits]
    · simp [hlimits]

/-- Without survivability mode a check goes by `fail_open`. -/
theorem decidedBy_of_disabled (hdisabled : s.limiter.config.survivabilityMode.enabled = false) :
    DecidedBy limits bucketKey capacity (s.enterDegraded bucketKey capacity call) ↔
      limits.survivabilityMode.enabled = false ∧ s.limiter.config.failOpen = limits.failOpen := by
  rw [enterDegraded_of_disabled hdisabled]
  cases hopen : s.limiter.config.failOpen with
  | true =>
    rw [if_pos rfl]
    constructor
    · intro h
      obtain ⟨hlimits, hfailOpen⟩ := h.failOpen.mp rfl
      exact ⟨hlimits, hfailOpen.symm⟩
    · rintro ⟨hlimits, hfailOpen⟩
      refine ⟨?_, ?_, ?_, ?_⟩
      · simp [hlimits]
      · intro decision hdecision hmode
        rw [← Except.ok.inj hdecision] at hmode
        simp at hmode
      · simp [hlimits, ← hfailOpen]
      · simp [← hfailOpen]
  | false =>
    rw [if_neg (by simp)]
    constructor
    · intro h
      obtain ⟨hlimits, hfailOpen⟩ := h.unavailable.mp rfl
      exact ⟨hlimits, hfailOpen.symm⟩
    · rintro ⟨hlimits, hfailOpen⟩
      refine ⟨?_, ?_, ?_, ?_⟩
      · simp [hlimits]
      · intro decision hdecision
        simp at hdecision
      · simp [← hfailOpen]
      · simp [hlimits, ← hfailOpen]

theorem decidedBy_enterDegraded_iff (hsized : BucketsSized s) :
    DecidedBy limits bucketKey capacity (s.enterDegraded bucketKey capacity call) ↔
      SameDegraded s.limiter.config limits := by
  cases henabled : s.limiter.config.survivabilityMode.enabled with
  | true =>
    rw [decidedBy_of_enabled hsized henabled]
    constructor
    · rintro ⟨hlimits, hcapacity⟩
      exact ⟨henabled.trans hlimits.symm, fun _ => hcapacity, by simp [henabled]⟩
    · intro h
      exact ⟨h.enabled.symm.trans henabled, h.capacity henabled⟩
  | false =>
    rw [decidedBy_of_disabled henabled]
    constructor
    · rintro ⟨hlimits, hfailOpen⟩
      exact ⟨henabled.trans hlimits.symm, by simp [henabled], fun _ => hfailOpen⟩
    · intro h
      exact ⟨h.enabled.symm.trans henabled, h.failOpen henabled⟩

/-- A check without an answer from Redis is decided in degraded mode, under the same section. -/
theorem check_of_tryRedis_error
    (h : ∃ e, (s.tryRedis bucketKey capacity refillRate call).1 = .error e) :
    ∃ s' : RateLimit.System, s'.limiter.config = s.limiter.config ∧
      s'.limiter.fallback = s.limiter.fallback ∧
      s.check bucketKey capacity refillRate call = s'.enterDegraded bucketKey capacity call := by
  rcases check_cases s bucketKey capacity refillRate call with
    ⟨hconnected, hreplied, resp, hresp, -⟩ | ⟨-, s', -, hconfig, hfallback, -, hcheck⟩
  · obtain ⟨e, he⟩ := h
    unfold RateLimit.System.tryRedis at he
    simp [hconnected, hreplied, hresp] at he
  · exact ⟨s', hconfig, hfallback, hcheck⟩

/-- A call that Redis never gets. -/
def lostCall : Call := ⟨0, .notRun none, 0, 0⟩

theorem tryRedis_lostCall :
    ∃ e, (s.tryRedis bucketKey capacity refillRate lostCall).1 = .error e := by
  unfold RateLimit.System.tryRedis
  split
  · exact ⟨_, rfl⟩
  · exact ⟨_, rfl⟩

theorem degradedFollows_iff_same (hsized : BucketsSized s) :
    DegradedFollows limits s ↔ SameDegraded s.limiter.config limits := by
  constructor
  · intro h
    have hdecided := h "" 0 (.finite 0) lostCall tryRedis_lostCall
    obtain ⟨s', hconfig, hfallback, hcheck⟩ :=
      @check_of_tryRedis_error _ s "" 0 (.finite 0) lostCall tryRedis_lostCall
    rw [hcheck, decidedBy_enterDegraded_iff (hsized.congr hconfig hfallback), hconfig] at hdecided
    exact hdecided
  · intro h bucketKey capacity refillRate call herror
    obtain ⟨s', hconfig, hfallback, hcheck⟩ := check_of_tryRedis_error herror
    rw [hcheck, decidedBy_enterDegraded_iff (hsized.congr hconfig hfallback), hconfig]
    exact h

/-! ### What calls leave -/

/-- The limiter still goes by this section, and so do its buckets. -/
structure GoesBy (limits : RateLimitsConfig) (s : RateLimit.System) : Prop where
  config : s.limiter.config = limits
  sized : BucketsSized s

theorem GoesBy.enterDegraded (h : GoesBy limits s) :
    GoesBy limits (s.enterDegraded bucketKey capacity call).2 := by
  cases henabled : s.limiter.config.survivabilityMode.enabled with
  | false =>
    rw [enterDegraded_of_disabled henabled]
    exact h
  | true =>
    rw [enterDegraded_of_enabled henabled]
    refine ⟨h.config, ?_⟩
    intro key bucket hbucket
    rw [setFallback_fallback] at hbucket
    by_cases hkey : key = bucketKey
    · -- the key's own bucket keeps the capacity it was made with
      rw [hkey, AList.lookup_insert, Option.some.injEq] at hbucket
      rw [← hbucket, tryConsume_capacity]
      exact h.sized.fallbackBucket bucketKey call
    · rw [AList.lookup_insert_ne hkey] at hbucket
      exact h.sized key bucket hbucket

theorem GoesBy.apply (h : GoesBy limits s) (op : Op) : GoesBy limits (s.apply op) := by
  cases op with
  | ping outcome =>
    obtain ⟨hconfig, -, hfallback⟩ := ping_frame s outcome
    exact ⟨hconfig.trans h.config, h.sized.congr hconfig hfallback⟩
  | check bucketKey capacity refillRate call =>
    rw [RateLimit.System.apply]
    rcases check_cases s bucketKey capacity refillRate call with
      ⟨-, -, resp, -, hcheck⟩ | ⟨-, s', -, hconfig, hfallback, -, hcheck⟩
    · rw [hcheck]
      exact ⟨h.config, h.sized⟩
    · have hdegraded : GoesBy limits s' :=
        ⟨hconfig.trans h.config, h.sized.congr hconfig hfallback⟩
      rw [hcheck]
      exact hdegraded.enterDegraded

end Limiter

/-! ## Runs -/

section Runs
variable [Arithmetic] {κ : Type} {lib : ReloadLib}

theorem goesBy_step {limits : RateLimitsConfig} {g g' : Gateway κ} {a : GatewayAction}
    (h : GoesBy limits g.limits) (hstep : gatewayStep lib g a = some g') :
    GoesBy limits g'.limits := by
  cases a with
  | reload files now read =>
    rw [← Option.some.inj hstep]
    exact h
  | limiter op =>
    rw [← Option.some.inj hstep]
    exact h.apply op

/-- In every state reached from startup by reloads and calls to the limiter: checks without
Redis are decided by the active config if and only if it asks for the same as the config at
startup. -/
theorem degraded_follows_iff (lib : ReloadLib) (source : KeySource κ)
    (fetchedAt : AuthProvider → ℕ) (files : PluginFiles) (now : ℤ) (configPath : String)
    (envoyConfigPath : Option String) (raw : List UInt8) (connected : Bool) (redis : Redis)
    (g₀ g : Gateway κ)
    (hstart : Gateway.start lib source fetchedAt files now configPath envoyConfigPath raw connected
      redis = some g₀)
    (hrun : Run (gatewayStep lib) (fun _ _ => True) g₀ g) :
    DegradedFollows g.rateLimits g.limits ↔ SameDegraded g₀.rateLimits g.rateLimits := by
  have hinit : GoesBy g₀.rateLimits g₀.limits := by
    obtain ⟨app, -, rfl⟩ := Option.map_eq_some_iff.mp hstart
    exact ⟨rfl, fun key bucket hbucket => by simp [RateLimiter.fromConfig] at hbucket⟩
  have hend := hrun.invariant hinit fun s a s' h _ hstep => goesBy_step h hstep
  rw [degradedFollows_iff_same hend.sized, hend.config]

end Runs

/-! ## A reload that opens the gateway -/

section Samples
open SampleFile
open scoped Binary64

/-- The plain file with `fail_open` turned on. -/
def relaxedText : String :=
  "# relaxed\n" ++ "\n".intercalate (authLines "https://issuer" ++ commonLines.map fun line =>
    if line = "  fail_open: false" then "  fail_open: true" else line)

def relaxedBytes : List UInt8 := relaxedText.toList.map fun c => UInt8.ofNat c.toNat

def relaxedConfig : GatewayConfig :=
  { openConfig with rateLimits := { openConfig.rateLimits with failOpen := true } }

/-- The libraries on the sample files and on this one, which has an `r` in its comment. -/
def relaxedLib : ReloadLib :=
  { SampleFile.lib with
    fromUtf8Lossy := fun raw =>
      if raw[2]? = some 114 then relaxedText else SampleFile.lib.fromUtf8Lossy raw
    parseYaml := fun yaml =>
      if yaml.toList[2]? = some 'r' then .ok relaxedConfig else SampleFile.lib.parseYaml yaml
    sha256Hex := fun raw =>
      if raw[2]? = some 114 then "3facde82743331af1c8ecde1f365b4aeaa24ced9ecbb76227cb6c47d9a99d3be"
      else SampleFile.lib.sha256Hex raw }

theorem toList_relaxedText : ∃ rest, relaxedText.toList = '#' :: ' ' :: 'r' :: rest := by
  have hcomment : "# relaxed\n".toList =
      ['#', ' ', 'r', 'e', 'l', 'a', 'x', 'e', 'd', '\n'] := by decide
  rw [relaxedText, String.toList_append, hcomment]
  exact ⟨_, rfl⟩

theorem relaxedBytes_letter : relaxedBytes[2]? = some 114 := by
  obtain ⟨rest, hrest⟩ := toList_relaxedText
  rw [relaxedBytes, hrest]
  rfl

theorem load_relaxedBytes : relaxedLib.load relaxedBytes = .ok relaxedConfig := by
  have hyaml : relaxedLib.fromUtf8Lossy relaxedBytes = relaxedText := by
    unfold relaxedLib
    simp only
    rw [if_pos relaxedBytes_letter]
  have hparse : relaxedLib.parseYaml relaxedText = .ok relaxedConfig := by
    obtain ⟨rest, hrest⟩ := toList_relaxedText
    have hletter : relaxedText.toList[2]? = some 'r' := by
      rw [hrest]
      rfl
    unfold relaxedLib
    simp only
    rw [if_pos hletter]
  have hvalid : Validation.validate (fun _ => true) relaxedConfig = .ok () := by decide
  exact load_of_parts hyaml hparse hvalid

/-- Other files are read as before. -/
theorem fromUtf8Lossy_of_ne {raw : List UInt8} (h : raw[2]? ≠ some 114) :
    relaxedLib.fromUtf8Lossy raw = SampleFile.lib.fromUtf8Lossy raw :=
  if_neg h

theorem parseYaml_of_ne {yaml : String} (h : yaml.toList[2]? ≠ some 'r') :
    relaxedLib.parseYaml yaml = SampleFile.lib.parseYaml yaml :=
  if_neg h

theorem load_sample (file : SampleFile) : relaxedLib.load file.bytes = .ok file.config := by
  obtain ⟨rest, hrest⟩ := toList_text file
  have hbyte : file.bytes[2]? ≠ some 114 := by
    rw [bytes, hrest]
    cases file <;> simp [letter]
  have hchar : file.text.toList[2]? ≠ some 'r' := by
    rw [hrest]
    cases file <;> simp [letter]
  refine load_of_parts ((fromUtf8Lossy_of_ne hbyte).trans (fromUtf8Lossy_bytes file)) ?_
    (validate_config file)
  exact (parseYaml_of_ne hchar).trans (parseYaml_text file)

/-- The gateway after a start with the plain file, without Redis. -/
def closedGateway : Gateway String where
  app :=
    { started plain (emptyRuntime 1) with
      configState := ConfigState.activate relaxedLib plain.bytes 0 plain.config }
  limits := ⟨.fromConfig plain.config.rateLimits false, ∅⟩

theorem start_closedGateway :
    Gateway.start relaxedLib keySource (fun _ => 0) pluginFiles 0 "configs/gateway.yaml" none
      plain.bytes false ∅ = some closedGateway := by
  rw [Gateway.start, startup_of_parts (load_sample plain) rfl rfl rfl]
  rfl

/-- After a reload that sets a runtime in place. -/
def reloaded (raw : List UInt8) (config : GatewayConfig) (runtime : PluginRuntime) :
    Gateway String :=
  { closedGateway with
    app :=
      { closedGateway.app with
        pluginEngine := some ⟨runtime, 3⟩
        configState := ConfigState.activate relaxedLib raw 7 config } }

theorem gatewayStep_reload {raw : List UInt8} {config : GatewayConfig} {runtime : PluginRuntime}
    (hload : relaxedLib.load raw = .ok config)
    (hreload : (⟨emptyRuntime 1, 2⟩ : PluginEngine).reloadFromConfig relaxedLib pluginFiles config =
      (.ok (), ⟨runtime, 3⟩)) :
    gatewayStep relaxedLib closedGateway (.reload pluginFiles 7 (.ok raw)) =
      some (reloaded raw config runtime) := by
  rw [gatewayStep, configReload_of_load hload, applyConfigReload_state rfl hreload rfl]
  rfl

/-- A reload that changes the plugins' limits, a ping and a check without Redis: the limiter
follows the new config. -/
theorem degraded_follows_iff_closed :
    ∃ g, Run (gatewayStep relaxedLib) (fun _ _ => True) closedGateway g ∧
      g.app.configState.config = slow.config ∧ g.app.configState.lastReloadResult = .success ∧
      g.limits = (closedGateway.limits.apply (.ping ⟨false, true⟩)).apply
        (.check "rl:open:ip:10.0.0.1" 10 (.finite 1) lostCall) ∧
      DegradedFollows g.rateLimits g.limits := by
  have hreload : gatewayStep relaxedLib closedGateway (.reload pluginFiles 7 (.ok slow.bytes)) =
      some (reloaded slow.bytes slow.config ⟨2, slow.config.plugins.limits, ∅⟩) :=
    gatewayStep_reload (load_sample slow) rfl
  have hafter : Run (gatewayStep relaxedLib) (fun _ _ => True) closedGateway
      (reloaded slow.bytes slow.config ⟨2, slow.config.plugins.limits, ∅⟩) :=
    Run.init.snoc trivial hreload
  have hpinged := hafter.snoc (a := .limiter (.ping ⟨false, true⟩)) trivial rfl
  have hrun := hpinged.snoc (a := .limiter (.check "rl:open:ip:10.0.0.1" 10 (.finite 1) lostCall))
    trivial rfl
  have hsame : SameDegraded plain.config.rateLimits slow.config.rateLimits :=
    ⟨rfl, fun _ => rfl, fun _ => rfl⟩
  refine ⟨_, hrun, rfl, rfl, rfl, ?_⟩
  exact (degraded_follows_iff relaxedLib keySource (fun _ => 0) pluginFiles 0
    "configs/gateway.yaml" none plain.bytes false ∅ _ _ start_closedGateway hrun).mpr hsame

/-- A reload that turns `fail_open` on is answered with success. A check without Redis is still
an error. -/
theorem reload_leaves_limiter_closed :
    Gateway.start relaxedLib keySource (fun _ => 0) pluginFiles 0 "configs/gateway.yaml" none
        plain.bytes false ∅ = some closedGateway ∧
      ∃ g, Run (gatewayStep relaxedLib) (fun _ _ => True) closedGateway g ∧
        g.app.configState.lastReloadResult = .success ∧
        g.rateLimits.survivabilityMode.enabled = false ∧ g.rateLimits.failOpen = true ∧
        (g.limits.check "rl:open:ip:10.0.0.1" 10 (.finite 1) lostCall).1 = .error .unavailable ∧
        ¬ DegradedFollows g.rateLimits g.limits := by
  let relaxed := reloaded relaxedBytes relaxedConfig (emptyRuntime 2)
  have hstep : gatewayStep relaxedLib closedGateway (.reload pluginFiles 7 (.ok relaxedBytes)) =
      some relaxed := gatewayStep_reload load_relaxedBytes rfl
  refine ⟨start_closedGateway, relaxed, Run.init.snoc trivial hstep, rfl, rfl, rfl, rfl, ?_⟩
  intro h
  -- the active config would let the check pass
  have hopen := (h "rl:open:ip:10.0.0.1" 10 (.finite 1) lostCall tryRedis_lostCall).failOpen.mpr
    ⟨rfl, rfl⟩
  have hclosed : (relaxed.limits.check "rl:open:ip:10.0.0.1" 10 (.finite 1) lostCall).1 =
      .error .unavailable := rfl
  rw [hclosed] at hopen
  simp at hopen

end Samples

end Admin
end OpenApiGateway
