import OpenApiGateway.Config.Validation

/-!
# The documented rules, and what validation makes of them

The rules of `specs/config-schema.md` (uniqueness, references, values, conditions) and the
further checks of `validation.rs`, one instance for every element they range over, as the
relation `Rule`: a proposition, and the error that reports its violation. A rule is stated as
the document has it, so a rate is to be greater than zero, where the check refuses a rate that
is at most zero. The two differ on NaN, and `decidesRules_iff_nanReported` says that they
differ on nothing else.
-/

namespace OpenApiGateway

namespace F64

/-- Away from NaN, `a <= b` is the negation of `b < a`. -/
theorem le_iff_not_lt {a b : F64} (ha : a ≠ .nan) (hb : b ≠ .nan) :
    a.le b = true ↔ lt b a = false := by
  cases a <;> cases b <;> simp_all [le, lt]

theorem not_lt_of_le {a b : F64} (h : a.le b = true) : lt b a = false := by
  cases a <;> cases b <;> simp_all [le, lt]

theorem not_le_of_lt {a b : F64} (h : lt b a = true) : a.le b = false := by
  cases a <;> cases b <;> simp_all [le, lt]

end F64

namespace Validation

open Lib.Text

/-! ## Rules -/

/-- The error of an address that is not of the form `host:port`. -/
def hostPortError (value field : String) : ConfigError :=
  .invalidValue field s!"must be host:port format, got: {value}"

/-- Elements at different positions have different keys; the later one is reported. -/
inductive DistinctRule {α : Type} (key : α → String) (error : α → ConfigError) (l : List α) :
    Prop → ConfigError → Prop where
  | pair {i j : ℕ} {a b : α} (hij : i < j) (ha : l[i]? = some a) (hb : l[j]? = some b) :
      DistinctRule key error l (key a ≠ key b) (error b)

/-- The rules of a plugin list. -/
inductive PluginListRule (fieldPrefix : String) (duplicate : PluginInstance → ConfigError)
    (plugins : List PluginInstance) : Prop → ConfigError → Prop where
  | name {plugin : PluginInstance} (hp : plugin ∈ plugins) :
      PluginListRule fieldPrefix duplicate plugins (trim plugin.name ≠ "")
        (.invalidValue s!"{fieldPrefix}[].name" "must not be empty")
  | failMode {plugin : PluginInstance} (hp : plugin ∈ plugins) :
      PluginListRule fieldPrefix duplicate plugins (plugin.failMode ∈ validPluginFailModes)
        (.invalidValue s!"{fieldPrefix}[{plugin.name}].fail_mode"
          ("must be one of: " ++ ", ".intercalate validPluginFailModes))
  | distinct {P : Prop} {e : ConfigError}
      (h : DistinctRule PluginInstance.name duplicate plugins P e) :
      PluginListRule fieldPrefix duplicate plugins P e

/-- The rules of an auth provider. `clock_skew_seconds >= 0` needs no check: the field is
unsigned. -/
inductive ProviderRule (urlOk : String → Bool) (p : AuthProvider) : Prop → ConfigError → Prop where
  | name : ProviderRule urlOk p (p.name ≠ "")
      (.invalidValue "auth.providers[].name" "must not be empty")
  | jwksUri : ProviderRule urlOk p (urlOk p.jwksUri = true)
      (.invalidValue s!"auth.providers[{p.name}].jwks_uri" "must be a valid URL")
  | cacheTtl : ProviderRule urlOk p (0 < p.cacheTtlSeconds)
      (.invalidValue s!"auth.providers[{p.name}].cache_ttl_seconds" "must be > 0")
  | clockSkew (e : ConfigError) : ProviderRule urlOk p (0 ≤ p.clockSkewSeconds) e

/-- Where a route stands in the file, as its errors name it. -/
def routePath (routeName : String) : String := s!"routes[{routeName}]"

/-- The error of a refill rate that is refused. -/
def refillError (routeName : String) : ConfigError :=
  .invalidValue s!"{routePath routeName}.rate_limit.refill_rate_per_sec" "must be > 0"

/-- The rules of a route. That an `auth_required` route points to an existing provider is two
of them: a provider is named, and a provider that is named exists. -/
inductive RouteRule (cfg : GatewayConfig) (r : RouteConfig) : Prop → ConfigError → Prop where
  | service : RouteRule cfg r (r.upstream.service ∈ cfg.services.map ServiceConfig.name)
      (.unknownReference s!"routes[{r.name}].upstream.service" "service" r.upstream.service)
  | providerNamed (hauth : r.authRequired = true) : RouteRule cfg r (r.authProvider ≠ none)
      (.missingConditional s!"{routePath r.name}.auth_provider"
        "required when auth_required is true")
  | providerExists {provider : String} (hauth : r.authRequired = true)
      (hnamed : r.authProvider = some provider) :
      RouteRule cfg r (provider ∈ cfg.auth.providers.map AuthProvider.name)
        (.unknownReference s!"routes[{r.name}].auth_provider" "auth provider" provider)
  | name : RouteRule cfg r (r.name ≠ "") (.invalidValue "routes[].name" "must not be empty")
  | hostnames : RouteRule cfg r (r.hostnames ≠ [])
      (.invalidValue s!"{routePath r.name}.hostnames" "must not be empty")
  | methods : RouteRule cfg r (r.methods ≠ [])
      (.invalidValue s!"{routePath r.name}.methods" "must not be empty")
  | pathPrefix : RouteRule cfg r (startsWith r.pathPrefix "/" = true)
      (.invalidValue s!"{routePath r.name}.path_prefix" "must start with '/'")
  | method {m : String} (hm : m ∈ r.methods) : RouteRule cfg r (m ∈ validMethods)
      (.invalidValue s!"{routePath r.name}.methods" s!"invalid HTTP method: {m}")
  | bucketCapacity : RouteRule cfg r (1 ≤ r.rateLimit.bucketCapacity)
      (.invalidValue s!"{routePath r.name}.rate_limit.bucket_capacity" "must be >= 1")
  | refillRate : RouteRule cfg r (F64.lt (.finite 0) r.rateLimit.refillRatePerSec = true)
      (refillError r.name)
  | keyBy : RouteRule cfg r (r.rateLimit.keyBy ∈ validKeyBy)
      (.invalidValue s!"{routePath r.name}.rate_limit.key_by"
        ("must be one of: " ++ ", ".intercalate validKeyBy))
  | plugins {P : Prop} {e : ConfigError}
      (h : PluginListRule s!"{routePath r.name}.plugins"
        (fun plugin => .duplicateName "route plugin" s!"{r.name}:{plugin.name}") r.plugins P e) :
      RouteRule cfg r P e
  | requiredScopes : RouteRule cfg r (r.requiredScopes ≠ some [])
      (.invalidValue s!"{routePath r.name}.required_scopes" "must be non-empty when present")

/-- Where a service stands in the file, as its errors name it. -/
def servicePath (serviceName : String) : String := s!"services[{serviceName}]"

/-- The rules of a service. -/
inductive ServiceRule (s : ServiceConfig) : Prop → ConfigError → Prop where
  | name : ServiceRule s (s.name ≠ "") (.invalidValue "services[].name" "must not be empty")
  | endpoints : ServiceRule s (s.endpoints ≠ [])
      (.invalidValue s!"{servicePath s.name}.endpoints" "must not be empty")
  | endpoint {ep : String} (hep : ep ∈ s.endpoints) : ServiceRule s (HostPort ep)
      (hostPortError ep s!"{servicePath s.name}.endpoints")
  | healthPath : ServiceRule s (startsWith s.healthCheck.path "/" = true)
      (.invalidValue s!"{servicePath s.name}.health_check.path" "must start with '/'")

/-- The error of a sample rate that is refused. -/
def sampleRateError : ConfigError :=
  .invalidValue "observability.tracing.sample_rate" "must be between 0.0 and 1.0"

/-- The rule instances of a config, each with the error that reports its violation. -/
inductive Rule (urlOk : String → Bool) (cfg : GatewayConfig) : Prop → ConfigError → Prop where
  | version : Rule urlOk cfg (cfg.version = 1) (.invalidVersion 1 cfg.version)
  | routeNames {P : Prop} {e : ConfigError}
      (h : DistinctRule RouteConfig.name (fun r => .duplicateName "route" r.name) cfg.routes P e) :
      Rule urlOk cfg P e
  | serviceNames {P : Prop} {e : ConfigError}
      (h : DistinctRule ServiceConfig.name (fun s => .duplicateName "service" s.name)
        cfg.services P e) :
      Rule urlOk cfg P e
  | providerNames {P : Prop} {e : ConfigError}
      (h : DistinctRule AuthProvider.name (fun p => .duplicateName "auth provider" p.name)
        cfg.auth.providers P e) :
      Rule urlOk cfg P e
  | listenAddress : Rule urlOk cfg (HostPort cfg.gateway.listenAddress)
      (hostPortError cfg.gateway.listenAddress "gateway.listen_address")
  | adminAddress : Rule urlOk cfg (HostPort cfg.gateway.adminAddress)
      (hostPortError cfg.gateway.adminAddress "gateway.admin_address")
  | extauthzAddress {address : String} (h : cfg.gateway.extauthzAddress = some address) :
      Rule urlOk cfg (HostPort address) (hostPortError address "gateway.extauthz_address")
  | xdsAddress (h : cfg.xds.enabled = true) : Rule urlOk cfg (HostPort cfg.xds.listenAddress)
      (hostPortError cfg.xds.listenAddress "xds.listen_address")
  | extProcAddress (h : cfg.extProc.enabled = true) :
      Rule urlOk cfg (HostPort cfg.extProc.listenAddress)
        (hostPortError cfg.extProc.listenAddress "ext_proc.listen_address")
  | redisAddress : Rule urlOk cfg (HostPort cfg.rateLimits.redisAddress)
      (hostPortError cfg.rateLimits.redisAddress "rate_limits.redis_address")
  | provider {p : AuthProvider} {P : Prop} {e : ConfigError} (hp : p ∈ cfg.auth.providers)
      (h : ProviderRule urlOk p P e) : Rule urlOk cfg P e
  | route {r : RouteConfig} {P : Prop} {e : ConfigError} (hr : r ∈ cfg.routes)
      (h : RouteRule cfg r P e) : Rule urlOk cfg P e
  | service {s : ServiceConfig} {P : Prop} {e : ConfigError} (hs : s ∈ cfg.services)
      (h : ServiceRule s P e) : Rule urlOk cfg P e
  | sampleRate : Rule urlOk cfg
      (F64.le (.finite 0) cfg.tracing.sampleRate = true ∧
        cfg.tracing.sampleRate.le (.finite 1) = true) sampleRateError
  | pluginDirectory (h : cfg.plugins.enabled = true) :
      Rule urlOk cfg (trim cfg.plugins.directory ≠ "")
        (.invalidValue "plugins.directory" "must not be empty when plugins are enabled")
  | maxMemoryBytes (h : cfg.plugins.enabled = true) :
      Rule urlOk cfg (0 < cfg.plugins.limits.maxMemoryBytes)
        (.invalidValue "plugins.limits.max_memory_bytes" "must be > 0")
  | maxInstructions (h : cfg.plugins.enabled = true) :
      Rule urlOk cfg (0 < cfg.plugins.limits.maxInstructions)
        (.invalidValue "plugins.limits.max_instructions" "must be > 0")
  | chainTimeout (h : cfg.plugins.enabled = true) :
      Rule urlOk cfg (0 < cfg.plugins.limits.chainTimeoutMs)
        (.invalidValue "plugins.limits.chain_timeout_ms" "must be > 0")
  | globalPlugins {P : Prop} {e : ConfigError}
      (h : PluginListRule "plugins.global"
        (fun plugin => .duplicateName "global plugin" plugin.name)
        cfg.plugins.global P e) :
      Rule urlOk cfg P e
  | otlpEndpoint (h : cfg.tracing.enabled = true) : Rule urlOk cfg (cfg.tracing.otlpEndpoint ≠ "")
      (.missingConditional "observability.tracing.otlp_endpoint" "required when tracing is enabled")

/-! ## Membership in the error lists -/

@[simp] theorem mem_errorIf {cond : Prop} [Decidable cond] {error e : ConfigError} :
    e ∈ errorIf cond error ↔ cond ∧ e = error := by
  unfold errorIf
  split <;> simp_all

/-- An element is reported when its key is among those seen before it. -/
theorem mem_duplicateErrors {α : Type} {key : α → String} {error : α → ConfigError}
    {seen : List String} {l : List α} {j : ℕ} {b : α} (hb : l[j]? = some b)
    (hdup : key b ∈ seen ∨ key b ∈ (l.take j).map key) :
    error b ∈ duplicateErrors key error seen l := by
  induction l generalizing seen j with
  | nil => simp at hb
  | cons x xs ih =>
    rw [duplicateErrors]
    cases j with
    | zero =>
      have hx : x = b := by simpa using hb
      have hseen : key x ∈ seen := by
        rw [hx]
        simpa using hdup
      rw [if_pos hseen, hx]
      exact List.mem_cons_self
    | succ j =>
      have hb' : xs[j]? = some b := by simpa using hb
      have hdup' : key b ∈ key x :: seen ∨ key b ∈ (xs.take j).map key := by
        simp only [List.take_succ_cons, List.map_cons, List.mem_cons] at hdup ⊢
        tauto
      by_cases hx : key x ∈ seen
      · rw [if_pos hx]
        apply List.mem_cons_of_mem
        apply ih hb'
        rcases hdup' with h | h
        · rcases List.mem_cons.mp h with h | h
          · exact .inl (h ▸ hx)
          · exact .inl h
        · exact .inr h
      · rw [if_neg hx]
        exact ih hb' hdup'

theorem exists_of_mem_duplicateErrors {α : Type} {key : α → String} {error : α → ConfigError}
    {seen : List String} {l : List α} {e : ConfigError}
    (h : e ∈ duplicateErrors key error seen l) : ∃ x ∈ l, e = error x := by
  induction l generalizing seen with
  | nil => simp [duplicateErrors] at h
  | cons x xs ih =>
    rw [duplicateErrors] at h
    have hcases : e = error x ∨ ∃ y ∈ xs, e = error y := by
      split at h
      · rcases List.mem_cons.mp h with h | h
        · exact .inl h
        · exact .inr (ih h)
      · exact .inr (ih h)
    rcases hcases with rfl | ⟨y, hy, rfl⟩
    · exact ⟨x, List.mem_cons_self, rfl⟩
    · exact ⟨y, List.mem_cons_of_mem _ hy, rfl⟩

/-- A plugin list reports the errors of its instances and the duplicates. -/
theorem mem_checkPlugins {pre : String} {duplicate : PluginInstance → ConfigError}
    {seen : List String} {plugins : List PluginInstance} {e : ConfigError} :
    e ∈ checkPlugins pre duplicate seen plugins ↔
      (∃ plugin ∈ plugins, e ∈ validatePluginInstance plugin pre) ∨
        e ∈ duplicateErrors PluginInstance.name duplicate seen plugins := by
  induction plugins generalizing seen with
  | nil => simp [checkPlugins, duplicateErrors]
  | cons plugin plugins ih =>
    rw [checkPlugins, duplicateErrors, List.mem_append, List.exists_mem_cons_iff, or_assoc]
    by_cases hseen : plugin.name ∈ seen
    · rw [if_pos hseen, if_pos hseen, List.mem_cons, List.mem_cons, ih, or_left_comm (b := ∃ _, _)]
    · rw [if_neg hseen, if_neg hseen, ih]

theorem mem_validateHostPort {value field : String} {e : ConfigError} :
    e ∈ validateHostPort value field ↔ ¬ HostPort value ∧ e = hostPortError value field := by
  have hall : ∀ e ∈ validateHostPort value field, e = hostPortError value field := by
    intro e he
    unfold validateHostPort at he
    split at he
    · exact (mem_errorIf.mp he).2
    · exact List.mem_singleton.mp he
  constructor
  · intro he
    refine ⟨fun hok => ?_, hall e he⟩
    rw [validateHostPort_eq_nil.mpr hok] at he
    exact List.not_mem_nil he
  · rintro ⟨hbad, rfl⟩
    obtain ⟨e, he⟩ := List.exists_mem_of_ne_nil _ (mt validateHostPort_eq_nil.mp hbad)
    exact hall e he ▸ he

theorem validate_error_iff {urlOk : String → Bool} {cfg : GatewayConfig}
    {errs : List ConfigError} :
    validate urlOk cfg = .error errs ↔ allErrors urlOk cfg ≠ [] ∧ allErrors urlOk cfg = errs := by
  unfold validate
  simp only
  split <;> simp_all

/-! ## A violated rule is reported -/

theorem DistinctRule.reported {α : Type} {key : α → String} {error : α → ConfigError} {l : List α}
    {P : Prop} {e : ConfigError} (h : DistinctRule key error l P e) (hP : ¬ P) :
    e ∈ duplicateErrors key error [] l := by
  rcases h with ⟨hij, ha, hb⟩
  rename_i i j a b
  apply mem_duplicateErrors hb
  right
  rw [← not_not.mp hP]
  apply List.mem_map_of_mem
  have htake : (l.take j)[i]? = some a := by rw [List.getElem?_take_of_lt hij, ha]
  exact List.mem_of_getElem? htake

theorem PluginListRule.reported {pre : String} {duplicate : PluginInstance → ConfigError}
    {plugins : List PluginInstance} {P : Prop} {e : ConfigError}
    (h : PluginListRule pre duplicate plugins P e) (hP : ¬ P) :
    e ∈ checkPlugins pre duplicate [] plugins := by
  rw [mem_checkPlugins]
  cases h with
  | name hp =>
    left
    exact ⟨_, hp, by simp [validatePluginInstance, not_not.mp hP]⟩
  | failMode hp =>
    left
    exact ⟨_, hp, by simp [validatePluginInstance, hP]⟩
  | distinct h =>
    right
    exact h.reported hP

theorem ProviderRule.reported {urlOk : String → Bool} {p : AuthProvider} {P : Prop}
    {e : ConfigError} (h : ProviderRule urlOk p P e) (hP : ¬ P) : e ∈ checkProvider urlOk p := by
  cases h with
  | name => simp [checkProvider, not_not.mp hP]
  | jwksUri =>
    have hurl : urlOk p.jwksUri = false := Bool.eq_false_of_not_eq_true hP
    simp [checkProvider, hurl]
  | cacheTtl =>
    have hzero : p.cacheTtlSeconds = 0 := by omega
    simp [checkProvider, hzero]
  | clockSkew => exact absurd (Nat.zero_le _) hP

theorem ServiceRule.reported {s : ServiceConfig} {P : Prop} {e : ConfigError}
    (h : ServiceRule s P e) (hP : ¬ P) : e ∈ checkService s := by
  cases h with
  | name => simp [checkService, not_not.mp hP]
  | endpoints => simp [checkService, servicePath, not_not.mp hP]
  | endpoint hep =>
    simp only [checkService, List.mem_append, List.mem_flatMap]
    exact .inl (.inr ⟨_, hep, mem_validateHostPort.mpr ⟨hP, rfl⟩⟩)
  | healthPath =>
    have hpath := Bool.eq_false_of_not_eq_true hP
    simp [checkService, servicePath, hpath]

/-- The errors of a route, from the three passes over the routes. -/
def routeErrors (cfg : GatewayConfig) (r : RouteConfig) : List ConfigError :=
  checkRouteReferences cfg r ++ checkRoute r ++ checkRouteConditions r

theorem refillError_mem {r : RouteConfig}
    (h : r.rateLimit.refillRatePerSec.le (.finite 0) = true) :
    refillError r.name ∈ checkRoute r := by
  simp [checkRoute, refillError, routePath, h]

/-- A violated rule of a route is reported by the checks on this route, unless it is the one
on a rate that is NaN. -/
theorem RouteRule.reported {cfg : GatewayConfig} {r : RouteConfig} {P : Prop} {e : ConfigError}
    (h : RouteRule cfg r P e) (hP : ¬ P) :
    e ∈ routeErrors cfg r ∨ (r.rateLimit.refillRatePerSec = .nan ∧ e = refillError r.name) := by
  by_cases hnan : r.rateLimit.refillRatePerSec = .nan ∧ e = refillError r.name
  · exact .inr hnan
  left
  simp only [routeErrors, List.mem_append]
  cases h with
  | service => simp [checkRouteReferences, hP]
  | providerNamed hauth => simp [checkRouteConditions, routePath, hauth, not_not.mp hP]
  | providerExists hauth hnamed => simp [checkRouteReferences, hauth, hnamed, hP]
  | name => simp [checkRoute, not_not.mp hP]
  | hostnames => simp [checkRoute, routePath, not_not.mp hP]
  | methods => simp [checkRoute, routePath, not_not.mp hP]
  | pathPrefix =>
    have hpath := Bool.eq_false_of_not_eq_true hP
    simp [checkRoute, routePath, hpath]
  | method hm =>
    left; right
    simp only [checkRoute, List.mem_append]
    exact .inl (.inl (.inl (.inl (.inr
      (List.mem_flatMap.mpr ⟨_, hm, mem_errorIf.mpr ⟨hP, rfl⟩⟩)))))
  | bucketCapacity =>
    have hzero : r.rateLimit.bucketCapacity = 0 := by omega
    simp [checkRoute, routePath, hzero]
  | refillRate =>
    have hne : r.rateLimit.refillRatePerSec ≠ .nan := fun h => hnan ⟨h, rfl⟩
    have hle := (F64.le_iff_not_lt hne (by simp)).mpr (Bool.eq_false_of_not_eq_true hP)
    exact .inl (.inr (refillError_mem hle))
  | keyBy => simp [checkRoute, routePath, hP]
  | plugins h =>
    left; right
    exact List.mem_append_right _ (h.reported hP)
  | requiredScopes => simp [checkRouteConditions, routePath, not_not.mp hP]

/-- Which check an error comes from; the three passes over the routes are taken together. -/
inductive Origin (urlOk : String → Bool) (cfg : GatewayConfig) (e : ConfigError) : Prop where
  | version (h : e ∈ checkVersion cfg)
  | uniqueness (h : e ∈ checkUniqueness cfg)
  | route {r : RouteConfig} (hr : r ∈ cfg.routes) (h : e ∈ routeErrors cfg r)
  | address (h : e ∈ checkAddresses cfg)
  | redis (h : e ∈ validateHostPort cfg.rateLimits.redisAddress "rate_limits.redis_address")
  | provider {p : AuthProvider} (hp : p ∈ cfg.auth.providers) (h : e ∈ checkProvider urlOk p)
  | service {s : ServiceConfig} (hs : s ∈ cfg.services) (h : e ∈ checkService s)
  | sampleRate (h : cfg.tracing.sampleRate.lt (.finite 0) = true ∨
      F64.lt (.finite 1) cfg.tracing.sampleRate = true) (he : e = sampleRateError)
  | pluginSettings (h : e ∈ checkPluginSettings cfg)
  | globalPlugins (h : e ∈ checkPlugins "plugins.global"
      (fun plugin => .duplicateName "global plugin" plugin.name) [] cfg.plugins.global)
  | otlpEndpoint (h : cfg.tracing.enabled = true ∧ cfg.tracing.otlpEndpoint = "")
      (he : e = .missingConditional "observability.tracing.otlp_endpoint"
        "required when tracing is enabled")

theorem mem_checkValueConstraints {urlOk : String → Bool} {cfg : GatewayConfig} {e : ConfigError} :
    e ∈ checkValueConstraints urlOk cfg ↔
      e ∈ checkAddresses cfg ∨ (∃ p ∈ cfg.auth.providers, e ∈ checkProvider urlOk p) ∨
      e ∈ validateHostPort cfg.rateLimits.redisAddress "rate_limits.redis_address" ∨
      (∃ r ∈ cfg.routes, e ∈ checkRoute r) ∨ (∃ s ∈ cfg.services, e ∈ checkService s) ∨
      ((cfg.tracing.sampleRate.lt (.finite 0) = true ∨
        F64.lt (.finite 1) cfg.tracing.sampleRate = true) ∧ e = sampleRateError) ∨
      e ∈ checkPluginSettings cfg ∨
      e ∈ checkPlugins "plugins.global" (fun plugin => .duplicateName "global plugin" plugin.name)
        [] cfg.plugins.global := by
  simp only [checkValueConstraints, List.mem_append, List.mem_flatMap, mem_errorIf, or_assoc,
    sampleRateError]

theorem mem_allErrors {urlOk : String → Bool} {cfg : GatewayConfig} {e : ConfigError} :
    e ∈ allErrors urlOk cfg ↔ Origin urlOk cfg e := by
  simp only [allErrors, checkReferentialIntegrity, checkConditionalRequirements, List.mem_append,
    List.mem_flatMap, mem_checkValueConstraints, mem_errorIf, or_assoc]
  constructor
  · rintro (h | h | ⟨r, hr, h⟩ | h | ⟨p, hp, h⟩ | h | ⟨r, hr, h⟩ | ⟨s, hs, h⟩ | ⟨h, he⟩ | h | h |
      ⟨r, hr, h⟩ | ⟨h, he⟩)
    · exact .version h
    · exact .uniqueness h
    · exact .route hr (List.mem_append_left _ (List.mem_append_left _ h))
    · exact .address h
    · exact .provider hp h
    · exact .redis h
    · exact .route hr (List.mem_append_left _ (List.mem_append_right _ h))
    · exact .service hs h
    · exact .sampleRate h he
    · exact .pluginSettings h
    · exact .globalPlugins h
    · exact .route hr (List.mem_append_right _ h)
    · exact .otlpEndpoint h he
  · intro h
    cases h with
    | version h => simp only [h, true_or]
    | uniqueness h => simp only [h, true_or, or_true]
    | route hr h =>
      -- the checks of a route are made at three places
      rcases List.mem_append.mp h with h | h
      · rcases List.mem_append.mp h with h | h
        · have hex : ∃ r ∈ cfg.routes, e ∈ checkRouteReferences cfg r := ⟨_, hr, h⟩
          simp only [hex, true_or, or_true]
        · have hex : ∃ r ∈ cfg.routes, e ∈ checkRoute r := ⟨_, hr, h⟩
          simp only [hex, true_or, or_true]
      · have hex : ∃ r ∈ cfg.routes, e ∈ checkRouteConditions r := ⟨_, hr, h⟩
        simp only [hex, true_or, or_true]
    | address h => simp only [h, true_or, or_true]
    | redis h => simp only [h, true_or, or_true]
    | provider hp h =>
      have hex : ∃ p ∈ cfg.auth.providers, e ∈ checkProvider urlOk p := ⟨_, hp, h⟩
      simp only [hex, true_or, or_true]
    | service hs h =>
      have hex : ∃ s ∈ cfg.services, e ∈ checkService s := ⟨_, hs, h⟩
      simp only [hex, true_or, or_true]
    | sampleRate h he => simp only [he, h, true_and, true_or, or_true]
    | pluginSettings h => simp only [h, true_or, or_true]
    | globalPlugins h => simp only [h, or_true, true_or]
    | otlpEndpoint h he => simp only [he, h, and_self, or_true]

/-! ## NaN -/

/-- No NaN goes unreported: the sample rate is not NaN, and a route whose refill rate is NaN
shares its name with one whose rate is refused. -/
structure NanReported (cfg : GatewayConfig) : Prop where
  sampleRate : cfg.tracing.sampleRate ≠ .nan
  refillRate : ∀ r ∈ cfg.routes, r.rateLimit.refillRatePerSec = .nan →
    ∃ r' ∈ cfg.routes, r'.name = r.name ∧ r'.rateLimit.refillRatePerSec.le (.finite 0) = true

theorem Rule.reported {urlOk : String → Bool} {cfg : GatewayConfig} {P : Prop} {e : ConfigError}
    (h : Rule urlOk cfg P e) (hnan : NanReported cfg) (hP : ¬ P) : e ∈ allErrors urlOk cfg := by
  rw [mem_allErrors]
  cases h with
  | version => exact .version (by simp [checkVersion, hP])
  | routeNames h =>
    apply Origin.uniqueness
    exact List.mem_append_left _ (List.mem_append_left _ (h.reported hP))
  | serviceNames h =>
    apply Origin.uniqueness
    exact List.mem_append_left _ (List.mem_append_right _ (h.reported hP))
  | providerNames h =>
    apply Origin.uniqueness
    exact List.mem_append_right _ (h.reported hP)
  | listenAddress =>
    apply Origin.address
    simp [checkAddresses, mem_validateHostPort, hP]
  | adminAddress =>
    apply Origin.address
    simp [checkAddresses, mem_validateHostPort, hP]
  | extauthzAddress h =>
    apply Origin.address
    simp [checkAddresses, mem_validateHostPort, h, hP]
  | xdsAddress h =>
    apply Origin.address
    simp [checkAddresses, mem_validateHostPort, h, hP]
  | extProcAddress h =>
    apply Origin.address
    simp [checkAddresses, mem_validateHostPort, h, hP]
  | redisAddress => exact .redis (mem_validateHostPort.mpr ⟨hP, rfl⟩)
  | provider hp h => exact .provider hp (h.reported hP)
  | route hr h =>
    rcases h.reported hP with h | ⟨hrate, rfl⟩
    · exact .route hr h
    · -- the rate is NaN: a route of the same name is refused for its rate
      obtain ⟨r', hr', hname, hle⟩ := hnan.refillRate _ hr hrate
      apply Origin.route hr'
      rw [← hname]
      exact List.mem_append_left _ (List.mem_append_right _ (refillError_mem hle))
  | service hs h => exact .service hs (h.reported hP)
  | sampleRate =>
    apply Origin.sampleRate _ rfl
    by_contra hin
    rw [not_or, Bool.not_eq_true, Bool.not_eq_true] at hin
    exact hP ⟨(F64.le_iff_not_lt (by simp) hnan.sampleRate).mpr hin.1,
      (F64.le_iff_not_lt hnan.sampleRate (by simp)).mpr hin.2⟩
  | pluginDirectory h =>
    apply Origin.pluginSettings
    simp [checkPluginSettings, h, not_not.mp hP]
  | maxMemoryBytes h =>
    apply Origin.pluginSettings
    simp [checkPluginSettings, h, Nat.eq_zero_of_not_pos hP]
  | maxInstructions h =>
    apply Origin.pluginSettings
    simp [checkPluginSettings, h, Nat.eq_zero_of_not_pos hP]
  | chainTimeout h =>
    apply Origin.pluginSettings
    simp [checkPluginSettings, h, Nat.eq_zero_of_not_pos hP]
  | globalPlugins h => exact .globalPlugins (h.reported hP)
  | otlpEndpoint h => exact .otlpEndpoint ⟨h, not_not.mp hP⟩ rfl

/-! ## Rules that all hold are accepted -/

theorem nodup_of_rules {α : Type} {key : α → String} {error : α → ConfigError} {l : List α}
    (h : ∀ P e, DistinctRule key error l P e → P) : (l.map key).Nodup := by
  rw [List.Nodup, List.pairwise_map, List.pairwise_iff_getElem]
  intro i j hi hj hij
  exact h _ _ (.pair hij (List.getElem?_eq_getElem hi) (List.getElem?_eq_getElem hj))

theorem pluginsAccepted_of_rules {pre : String} {duplicate : PluginInstance → ConfigError}
    {plugins : List PluginInstance} (h : ∀ P e, PluginListRule pre duplicate plugins P e → P) :
    PluginsAccepted plugins where
  each := fun _ hp => ⟨h _ _ (.name hp), h _ _ (.failMode hp)⟩
  nodup := nodup_of_rules fun P e hrule => h P e (.distinct hrule)

theorem routeAccepted_of_rules {cfg : GatewayConfig} {r : RouteConfig}
    (h : ∀ P e, RouteRule cfg r P e → P) : RouteAccepted cfg r where
  service_mem := h _ _ .service
  provider_mem := fun hauth _ hnamed => h _ _ (.providerExists hauth hnamed)
  name_ne := h _ _ .name
  hostnames_ne := h _ _ .hostnames
  methods_ne := h _ _ .methods
  pathPrefix_slash := h _ _ .pathPrefix
  methods_valid := fun _ hm => h _ _ (.method hm)
  capacity_pos := h _ _ .bucketCapacity
  refill_not_le := F64.not_le_of_lt (h _ _ .refillRate)
  keyBy_valid := h _ _ .keyBy
  plugins := pluginsAccepted_of_rules fun P e hrule => h P e (.plugins hrule)
  provider_isSome := fun hauth => h _ _ (.providerNamed hauth)
  scopes_ne := h _ _ .requiredScopes

theorem accepted_of_rules {urlOk : String → Bool} {cfg : GatewayConfig}
    (h : ∀ P e, Rule urlOk cfg P e → P) : Accepted urlOk cfg where
  version := h _ _ .version
  routes_nodup := nodup_of_rules fun P e hrule => h P e (.routeNames hrule)
  services_nodup := nodup_of_rules fun P e hrule => h P e (.serviceNames hrule)
  providers_nodup := nodup_of_rules fun P e hrule => h P e (.providerNames hrule)
  listenAddress := h _ _ .listenAddress
  adminAddress := h _ _ .adminAddress
  extauthzAddress := fun _ haddress => h _ _ (.extauthzAddress haddress)
  xdsAddress := fun henabled => h _ _ (.xdsAddress henabled)
  extProcAddress := fun henabled => h _ _ (.extProcAddress henabled)
  redisAddress := h _ _ .redisAddress
  providers := fun _ hp =>
    ⟨h _ _ (.provider hp .name), h _ _ (.provider hp .jwksUri),
      Nat.ne_of_gt (h _ _ (.provider hp .cacheTtl))⟩
  routes := fun _ hr => routeAccepted_of_rules fun P e hrule => h P e (.route hr hrule)
  services := fun _ hs =>
    ⟨h _ _ (.service hs .name), h _ _ (.service hs .endpoints),
      fun _ hep => h _ _ (.service hs (.endpoint hep)), h _ _ (.service hs .healthPath)⟩
  sampleRate := ⟨F64.not_lt_of_le (h _ _ .sampleRate).1, F64.not_lt_of_le (h _ _ .sampleRate).2⟩
  pluginSettings := fun henabled =>
    ⟨h _ _ (.pluginDirectory henabled), Nat.ne_of_gt (h _ _ (.maxMemoryBytes henabled)),
      Nat.ne_of_gt (h _ _ (.maxInstructions henabled)),
      Nat.ne_of_gt (h _ _ (.chainTimeout henabled))⟩
  globalPlugins := pluginsAccepted_of_rules fun P e hrule => h P e (.globalPlugins hrule)
  otlpEndpoint := fun henabled => h _ _ (.otlpEndpoint henabled)

/-! ## A NaN is not reported -/

/-- The reasons given for a number out of range; no other check gives one of them. -/
def rangeReasons : List String := ["must be > 0", "must be between 0.0 and 1.0"]

theorem ne_of_rangeReason {reason p s : String} (hreason : reason ∈ rangeReasons)
    (hp : ∀ t ∈ rangeReasons, startsWith t p = false) : reason ≠ p ++ s :=
  ne_append_of_not_startsWith (hp reason hreason)

theorem not_rangeReason_hostPort {value field f reason : String} (hreason : reason ∈ rangeReasons) :
    .invalidValue f reason ∉ validateHostPort value field := by
  intro h
  have heq := (mem_validateHostPort.mp h).2
  exact ne_of_rangeReason hreason (by decide) (ConfigError.invalidValue.inj heq).2

theorem not_rangeReason_duplicate {α : Type} {key : α → String} {kind : String} {name : α → String}
    {l : List α} {f reason : String} :
    .invalidValue f reason ∉ duplicateErrors key (fun a => .duplicateName kind (name a)) [] l := by
  intro h
  obtain ⟨_, -, heq⟩ := exists_of_mem_duplicateErrors h
  exact ConfigError.noConfusion heq

theorem not_rangeReason_plugins {pre kind : String} {name : PluginInstance → String}
    {plugins : List PluginInstance} {f reason : String} (hreason : reason ∈ rangeReasons) :
    .invalidValue f reason ∉
      checkPlugins pre (fun plugin => .duplicateName kind (name plugin)) [] plugins := by
  intro h
  rcases mem_checkPlugins.mp h with ⟨plugin, -, h⟩ | h
  · simp only [validatePluginInstance, List.mem_append, mem_errorIf,
      ConfigError.invalidValue.injEq] at h
    rcases h with ⟨-, -, heq⟩ | ⟨-, -, heq⟩
    · rw [heq] at hreason
      exact absurd hreason (by decide)
    · exact ne_of_rangeReason hreason (by decide) heq
  · exact not_rangeReason_duplicate h

theorem not_rangeReason_service {s : ServiceConfig} {f reason : String}
    (hreason : reason ∈ rangeReasons) : .invalidValue f reason ∉ checkService s := by
  intro h
  simp only [checkService, List.mem_append, mem_errorIf, List.mem_flatMap,
    ConfigError.invalidValue.injEq] at h
  rcases h with ((⟨-, -, heq⟩ | ⟨-, -, heq⟩) | ⟨ep, -, h⟩) | ⟨-, -, heq⟩
  · exact absurd (heq ▸ hreason) (by decide)
  · exact absurd (heq ▸ hreason) (by decide)
  · exact not_rangeReason_hostPort hreason h
  · exact absurd (heq ▸ hreason) (by decide)

/-- The only number of a route that is refused with such a reason is its refill rate. -/
theorem refill_of_rangeReason {cfg : GatewayConfig} {r : RouteConfig} {f reason : String}
    (hreason : reason ∈ rangeReasons) (h : .invalidValue f reason ∈ routeErrors cfg r) :
    .invalidValue f reason = refillError r.name ∧
      r.rateLimit.refillRatePerSec.le (.finite 0) = true := by
  rw [routeErrors, List.mem_append, List.mem_append] at h
  rcases h with (h | h) | h
  · unfold checkRouteReferences at h
    rcases List.mem_append.mp h with h | h
    · simp at h
    · split at h
      · split at h <;> simp at h
      · simp at h
  · simp only [checkRoute, List.mem_append, mem_errorIf, List.mem_flatMap,
      ConfigError.invalidValue.injEq] at h
    rcases h with (((((((⟨-, -, heq⟩ | ⟨-, -, heq⟩) | ⟨-, -, heq⟩) | ⟨-, -, heq⟩) |
      ⟨m, -, -, -, heq⟩) | ⟨-, -, heq⟩) | ⟨hle, hf, heq⟩) | ⟨-, -, heq⟩) | h
    · exact absurd (heq ▸ hreason) (by decide)
    · exact absurd (heq ▸ hreason) (by decide)
    · exact absurd (heq ▸ hreason) (by decide)
    · exact absurd (heq ▸ hreason) (by decide)
    · exact absurd heq (ne_of_rangeReason hreason (by decide))
    · exact absurd (heq ▸ hreason) (by decide)
    · rw [hf, heq]
      exact ⟨rfl, hle⟩
    · exact absurd heq (ne_of_rangeReason hreason (by decide))
    · exact absurd h (not_rangeReason_plugins hreason)
  · simp only [checkRouteConditions, List.mem_append, mem_errorIf,
      ConfigError.invalidValue.injEq] at h
    rcases h with ⟨-, h⟩ | ⟨-, -, heq⟩
    · exact ConfigError.noConfusion h
    · exact absurd (heq ▸ hreason) (by decide)

theorem hostPort_of_mem_checkAddresses {cfg : GatewayConfig} {e : ConfigError}
    (h : e ∈ checkAddresses cfg) : ∃ value field, e ∈ validateHostPort value field := by
  simp only [checkAddresses, List.mem_append] at h
  rcases h with (((h | h) | h) | h) | h
  · exact ⟨_, _, h⟩
  · exact ⟨_, _, h⟩
  · split at h
    · exact ⟨_, _, h⟩
    · exact absurd h List.not_mem_nil
  · split at h
    · exact ⟨_, _, h⟩
    · exact absurd h List.not_mem_nil
  · split at h
    · exact ⟨_, _, h⟩
    · exact absurd h List.not_mem_nil

/-- Where an error with such a reason comes from: a refill rate, the sample rate, or a number
that is not a double. -/
theorem Origin.of_rangeReason {urlOk : String → Bool} {cfg : GatewayConfig} {f reason : String}
    (hreason : reason ∈ rangeReasons) (h : Origin urlOk cfg (.invalidValue f reason)) :
    (∃ r ∈ cfg.routes, .invalidValue f reason = refillError r.name ∧
      r.rateLimit.refillRatePerSec.le (.finite 0) = true) ∨
    (.invalidValue f reason = sampleRateError ∧ (cfg.tracing.sampleRate.lt (.finite 0) = true ∨
      F64.lt (.finite 1) cfg.tracing.sampleRate = true)) ∨
    (reason = "must be > 0" ∧ startsWith f "routes[" = false) := by
  cases h with
  | version h => simp [checkVersion] at h
  | uniqueness h =>
    simp only [checkUniqueness, List.mem_append] at h
    rcases h with (h | h) | h <;> exact absurd h not_rangeReason_duplicate
  | route hr h => exact .inl ⟨_, hr, refill_of_rangeReason hreason h⟩
  | address h =>
    obtain ⟨value, field, h⟩ := hostPort_of_mem_checkAddresses h
    exact absurd h (not_rangeReason_hostPort hreason)
  | redis h => exact absurd h (not_rangeReason_hostPort hreason)
  | provider hp h =>
    right; right
    simp only [checkProvider, List.mem_append, mem_errorIf, ConfigError.invalidValue.injEq] at h
    rcases h with (⟨-, -, heq⟩ | ⟨-, -, heq⟩) | ⟨-, hf, heq⟩
    · exact absurd (heq ▸ hreason) (by decide)
    · exact absurd (heq ▸ hreason) (by decide)
    · refine ⟨heq, ?_⟩
      have happ : f = "auth.providers[" ++ (_ ++ _) := hf.trans (String.append_assoc ..)
      rw [happ]
      simp [startsWith, String.toList_append, List.isPrefixOf]
  | service hs h => exact absurd h (not_rangeReason_service hreason)
  | sampleRate h he => exact .inr (.inl ⟨he, h⟩)
  | pluginSettings h =>
    right; right
    unfold checkPluginSettings at h
    split at h
    · simp only [List.mem_append, mem_errorIf, ConfigError.invalidValue.injEq] at h
      rcases h with ((⟨-, -, heq⟩ | ⟨-, hf, heq⟩) | ⟨-, hf, heq⟩) | ⟨-, hf, heq⟩
      · exact absurd (heq ▸ hreason) (by decide)
      · exact ⟨heq, hf ▸ rfl⟩
      · exact ⟨heq, hf ▸ rfl⟩
      · exact ⟨heq, hf ▸ rfl⟩
    · exact absurd h List.not_mem_nil
  | globalPlugins h => exact absurd h (not_rangeReason_plugins hreason)
  | otlpEndpoint h he => exact ConfigError.noConfusion he

theorem refillError_inj {n m : String} (h : refillError n = refillError m) : n = m := by
  have hfield : "routes[" ++ n ++ "]" ++ ".rate_limit.refill_rate_per_sec" =
      "routes[" ++ m ++ "]" ++ ".rate_limit.refill_rate_per_sec" :=
    (ConfigError.invalidValue.inj h).1
  simpa using hfield

/-- The error of a refused refill rate is only given for a route of this name. -/
theorem refused_of_refillError_mem {urlOk : String → Bool} {cfg : GatewayConfig} {n : String}
    (h : refillError n ∈ allErrors urlOk cfg) :
    ∃ r ∈ cfg.routes, r.name = n ∧ r.rateLimit.refillRatePerSec.le (.finite 0) = true := by
  have hreason : "must be > 0" ∈ rangeReasons := by decide
  rcases (mem_allErrors.mp h).of_rangeReason hreason with ⟨r, hr, heq, hle⟩ | ⟨heq, -⟩ | ⟨-, hf⟩
  · exact ⟨r, hr, (refillError_inj heq).symm, hle⟩
  · exact absurd (ConfigError.invalidValue.inj heq).2 (by decide)
  · have hroutes : startsWith ("routes[" ++ n ++ "]" ++ ".rate_limit.refill_rate_per_sec")
        "routes[" = true := by
      simp [startsWith_iff, String.toList_append]
    exact absurd (hf.symm.trans hroutes) (by simp)

theorem refused_of_sampleRateError_mem {urlOk : String → Bool} {cfg : GatewayConfig}
    (h : sampleRateError ∈ allErrors urlOk cfg) :
    cfg.tracing.sampleRate.lt (.finite 0) = true ∨
      F64.lt (.finite 1) cfg.tracing.sampleRate = true := by
  have hreason : "must be between 0.0 and 1.0" ∈ rangeReasons := by decide
  rcases (mem_allErrors.mp h).of_rangeReason hreason with ⟨r, hr, heq, -⟩ | ⟨-, h⟩ | ⟨heq, -⟩
  · exact absurd (ConfigError.invalidValue.inj heq).2 (by decide)
  · exact h
  · exact absurd heq (by decide)

/-! ## What validation decides -/

/-- What the rules say of an accepted config, in the words of the document. -/
structure Sound (cfg : GatewayConfig) : Prop where
  refillRate : ∀ r ∈ cfg.routes, F64.lt (.finite 0) r.rateLimit.refillRatePerSec = true
  sampleRate : F64.le (.finite 0) cfg.tracing.sampleRate = true ∧
    cfg.tracing.sampleRate.le (.finite 1) = true
  routeNames : (cfg.routes.map RouteConfig.name).Nodup
  serviceNames : (cfg.services.map ServiceConfig.name).Nodup
  providerNames : (cfg.auth.providers.map AuthProvider.name).Nodup
  upstream : ∀ r ∈ cfg.routes, ∃ s ∈ cfg.services, s.name = r.upstream.service
  provider : ∀ r ∈ cfg.routes, r.authRequired = true →
    ∃ p ∈ cfg.auth.providers, r.authProvider = some p.name

/-- Validation decides the rules, and a refusal reports every rule that is violated. -/
structure DecidesRules (urlOk : String → Bool) (cfg : GatewayConfig) : Prop where
  ok_iff : validate urlOk cfg = .ok () ↔ ∀ P e, Rule urlOk cfg P e → P
  sound : validate urlOk cfg = .ok () → Sound cfg
  reported : ∀ errs, validate urlOk cfg = .error errs →
    ∀ P e, Rule urlOk cfg P e → ¬ P → e ∈ errs

theorem sound_of_rules {urlOk : String → Bool} {cfg : GatewayConfig}
    (h : ∀ P e, Rule urlOk cfg P e → P) : Sound cfg where
  refillRate := fun _ hr => h _ _ (.route hr .refillRate)
  sampleRate := h _ _ .sampleRate
  routeNames := (accepted_of_rules h).routes_nodup
  serviceNames := (accepted_of_rules h).services_nodup
  providerNames := (accepted_of_rules h).providers_nodup
  upstream := fun r hr => List.mem_map.mp (h _ _ (.route hr .service))
  provider := by
    intro r hr hauth
    obtain ⟨name, hname⟩ := Option.ne_none_iff_exists'.mp (h _ _ (.route hr (.providerNamed hauth)))
    obtain ⟨p, hp, hpname⟩ := List.mem_map.mp (h _ _ (.route hr (.providerExists hauth hname)))
    exact ⟨p, hp, by rw [hname, hpname]⟩

/-- A config that decides the rules reports every violated rule, whether or not it is accepted:
an accepted config violates none. -/
theorem DecidesRules.error_mem {urlOk : String → Bool} {cfg : GatewayConfig}
    (h : DecidesRules urlOk cfg) {P : Prop} {e : ConfigError} (hrule : Rule urlOk cfg P e)
    (hP : ¬ P) : e ∈ allErrors urlOk cfg := by
  have hne : allErrors urlOk cfg ≠ [] := by
    intro hnil
    exact hP (h.ok_iff.mp (validate_ok_iff_allErrors.mpr hnil) P e hrule)
  exact h.reported _ (validate_error_iff.mpr ⟨hne, rfl⟩) P e hrule hP

/-- Validation decides the documented rules of a config exactly when no NaN goes unreported. -/
theorem decidesRules_iff_nanReported (urlOk : String → Bool) (cfg : GatewayConfig) :
    DecidesRules urlOk cfg ↔ NanReported cfg := by
  constructor
  · intro h
    constructor
    · intro hnan
      have hmem := h.error_mem .sampleRate (by simp [hnan, F64.le])
      have hrefused := refused_of_sampleRateError_mem hmem
      rw [hnan] at hrefused
      simp [F64.lt] at hrefused
    · intro r hr hnan
      exact refused_of_refillError_mem
        (h.error_mem (.route hr .refillRate) (by simp [hnan, F64.lt]))
  · intro hnan
    have hrules : validate urlOk cfg = .ok () → ∀ P e, Rule urlOk cfg P e → P := by
      intro hok P e hrule
      by_contra hP
      have hmem := hrule.reported hnan hP
      rw [validate_ok_iff_allErrors.mp hok] at hmem
      exact List.not_mem_nil hmem
    refine ⟨⟨hrules, fun h => validate_ok_iff.mpr (accepted_of_rules h)⟩,
      fun hok => sound_of_rules (hrules hok), ?_⟩
    intro errs herr P e hrule hP
    rw [← (validate_error_iff.mp herr).2]
    exact hrule.reported hnan hP

/-- A rate of NaN is accepted, though it is not greater than zero. -/
theorem not_decidesRules_nan :
    let route : RouteConfig :=
      { minimalRoute "r" ["*"] "/" with rateLimit := ⟨10, .nan, "ip"⟩ }
    validate (fun _ => true) (minimalConfig [route]) = .ok () ∧
      F64.lt (.finite 0) route.rateLimit.refillRatePerSec = false ∧
      ¬ DecidesRules (fun _ => true) (minimalConfig [route]) := by
  intro route
  have hok : validate (fun _ => true) (minimalConfig [route]) = .ok () := by decide
  refine ⟨hok, rfl, fun h => ?_⟩
  have hpos := (h.sound hok).refillRate route (by simp [minimalConfig])
  exact absurd hpos (by decide)

end Validation
end OpenApiGateway
