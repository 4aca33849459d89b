import OpenApiGateway.Config.Types

/-!
# Config validation

`validate` of `controlplane/src/config/validation.rs`: five groups of checks, each adding
its errors to one list, and acceptance when the list stays empty. The URL grammar belongs
to the `url` crate and is a parameter, `urlOk`.

`Accepted` states the rules themselves, without errors or order, and `validate_ok_iff` says
that the checks decide exactly these rules.
-/

namespace OpenApiGateway
namespace Validation

open Lib.Text

/-- The texts that a route's methods, its key and a plugin's fail mode may be. -/
def validMethods : List String := ["GET", "POST", "PUT", "DELETE", "PATCH", "HEAD"]
def validKeyBy : List String := ["ip", "sub"]
def validPluginFailModes : List String := ["closed", "open"]

/-! ## The checks -/

/-- `if cond { errs.push(error) }`. -/
def errorIf (cond : Prop) [Decidable cond] (error : ConfigError) : List ConfigError :=
  if cond then [error] else []

@[simp] theorem errorIf_eq_nil {cond : Prop} [Decidable cond] {error : ConfigError} :
    errorIf cond error = [] ↔ ¬ cond := by
  unfold errorIf
  split <;> simp_all

/-- `if !seen.insert(key(x)) { errs.push(error(x)) }`, over a list. -/
def duplicateErrors {α : Type} (key : α → String) (error : α → ConfigError)
    (seen : List String) : List α → List ConfigError
  | [] => []
  | x :: xs =>
    if key x ∈ seen then error x :: duplicateErrors key error seen xs
    else duplicateErrors key error (key x :: seen) xs

/-- The one version there is. -/
def checkVersion (cfg : GatewayConfig) : List ConfigError :=
  errorIf (cfg.version ≠ 1) (.invalidVersion 1 cfg.version)

/-- Names of routes, services and providers occur once. -/
def checkUniqueness (cfg : GatewayConfig) : List ConfigError :=
  duplicateErrors RouteConfig.name (fun r => .duplicateName "route" r.name) [] cfg.routes
    ++ duplicateErrors ServiceConfig.name (fun s => .duplicateName "service" s.name) []
        cfg.services
    ++ duplicateErrors AuthProvider.name (fun p => .duplicateName "auth provider" p.name) []
        cfg.auth.providers

/-- The references of one route. -/
def checkRouteReferences (cfg : GatewayConfig) (r : RouteConfig) : List ConfigError :=
  errorIf (r.upstream.service ∉ cfg.services.map ServiceConfig.name)
      (.unknownReference s!"routes[{r.name}].upstream.service" "service" r.upstream.service)
    ++ if r.authRequired then
        match r.authProvider with
        | some provider =>
          errorIf (provider ∉ cfg.auth.providers.map AuthProvider.name)
            (.unknownReference s!"routes[{r.name}].auth_provider" "auth provider" provider)
        | none => []
      else []

/-- Routes name services and providers that exist. -/
def checkReferentialIntegrity (cfg : GatewayConfig) : List ConfigError :=
  cfg.routes.flatMap (checkRouteReferences cfg)

/-- `host:port`, split at the last colon. -/
def validateHostPort (value field : String) : List ConfigError :=
  let error := ConfigError.invalidValue field s!"must be host:port format, got: {value}"
  match rsplitn2 ':' value with
  | [port, host] => errorIf ((parseU16 port).isNone = true ∨ host = "") error
  | _ => [error]

/-- One entry of a plugin list. -/
def validatePluginInstance (plugin : PluginInstance) (fieldPrefix : String) : List ConfigError :=
  errorIf (trim plugin.name = "") (.invalidValue s!"{fieldPrefix}[].name" "must not be empty")
    ++ errorIf (plugin.failMode ∉ validPluginFailModes)
        (.invalidValue s!"{fieldPrefix}[{plugin.name}].fail_mode"
          ("must be one of: " ++ ", ".intercalate validPluginFailModes))

/-- A plugin list: each instance is checked, and its name against the names before it. -/
def checkPlugins (fieldPrefix : String) (duplicate : PluginInstance → ConfigError)
    (seen : List String) : List PluginInstance → List ConfigError
  | [] => []
  | plugin :: plugins =>
    validatePluginInstance plugin fieldPrefix ++
      if plugin.name ∈ seen then duplicate plugin :: checkPlugins fieldPrefix duplicate seen plugins
      else checkPlugins fieldPrefix duplicate (plugin.name :: seen) plugins

/-- The fields of one provider. -/
def checkProvider (urlOk : String → Bool) (p : AuthProvider) : List ConfigError :=
  errorIf (p.name = "") (.invalidValue "auth.providers[].name" "must not be empty")
    ++ errorIf (urlOk p.jwksUri = false)
        (.invalidValue s!"auth.providers[{p.name}].jwks_uri" "must be a valid URL")
    ++ errorIf (p.cacheTtlSeconds = 0)
        (.invalidValue s!"auth.providers[{p.name}].cache_ttl_seconds" "must be > 0")

/-- The fields of one route, in the order in which the source checks them. -/
def checkRoute (r : RouteConfig) : List ConfigError :=
  let pre := s!"routes[{r.name}]"
  errorIf (r.name = "") (.invalidValue "routes[].name" "must not be empty")
    ++ errorIf (r.hostnames = []) (.invalidValue s!"{pre}.hostnames" "must not be empty")
    ++ errorIf (r.methods = []) (.invalidValue s!"{pre}.methods" "must not be empty")
    ++ errorIf (startsWith r.pathPrefix "/" = false)
        (.invalidValue s!"{pre}.path_prefix" "must start with '/'")
    ++ r.methods.flatMap (fun m => errorIf (m ∉ validMethods)
        (.invalidValue s!"{pre}.methods" s!"invalid HTTP method: {m}"))
    ++ errorIf (r.rateLimit.bucketCapacity < 1)
        (.invalidValue s!"{pre}.rate_limit.bucket_capacity" "must be >= 1")
    ++ errorIf (r.rateLimit.refillRatePerSec.le (.finite 0) = true)
        (.invalidValue s!"{pre}.rate_limit.refill_rate_per_sec" "must be > 0")
    ++ errorIf (r.rateLimit.keyBy ∉ validKeyBy)
        (.invalidValue s!"{pre}.rate_limit.key_by"
          ("must be one of: " ++ ", ".intercalate validKeyBy))
    ++ checkPlugins s!"{pre}.plugins"
        (fun plugin => .duplicateName "route plugin" s!"{r.name}:{plugin.name}") [] r.plugins

/-- The fields of one service. -/
def checkService (s : ServiceConfig) : List ConfigError :=
  let pre := s!"services[{s.name}]"
  errorIf (s.name = "") (.invalidValue "services[].name" "must not be empty")
    ++ errorIf (s.endpoints = []) (.invalidValue s!"{pre}.endpoints" "must not be empty")
    ++ s.endpoints.flatMap (fun ep => validateHostPort ep s!"{pre}.endpoints")
    ++ errorIf (startsWith s.healthCheck.path "/" = false)
        (.invalidValue s!"{pre}.health_check.path" "must start with '/'")

/-- The addresses that are in use. -/
def checkAddresses (cfg : GatewayConfig) : List ConfigError :=
  validateHostPort cfg.gateway.listenAddress "gateway.listen_address"
    ++ validateHostPort cfg.gateway.adminAddress "gateway.admin_address"
    ++ (match cfg.gateway.extauthzAddress with
        | some address => validateHostPort address "gateway.extauthz_address"
        | none => [])
    ++ (if cfg.xds.enabled then validateHostPort cfg.xds.listenAddress "xds.listen_address"
        else [])
    ++ (if cfg.extProc.enabled then
          validateHostPort cfg.extProc.listenAddress "ext_proc.listen_address"
        else [])

/-- The plugin directory and limits, where plugins are enabled. -/
def checkPluginSettings (cfg : GatewayConfig) : List ConfigError :=
  if cfg.plugins.enabled then
    errorIf (trim cfg.plugins.directory = "")
        (.invalidValue "plugins.directory" "must not be empty when plugins are enabled")
      ++ errorIf (cfg.plugins.limits.maxMemoryBytes = 0)
          (.invalidValue "plugins.limits.max_memory_bytes" "must be > 0")
      ++ errorIf (cfg.plugins.limits.maxInstructions = 0)
          (.invalidValue "plugins.limits.max_instructions" "must be > 0")
      ++ errorIf (cfg.plugins.limits.chainTimeoutMs = 0)
          (.invalidValue "plugins.limits.chain_timeout_ms" "must be > 0")
  else []

/-- All checks on single values. -/
def checkValueConstraints (urlOk : String → Bool) (cfg : GatewayConfig) : List ConfigError :=
  checkAddresses cfg
    ++ cfg.auth.providers.flatMap (checkProvider urlOk)
    ++ validateHostPort cfg.rateLimits.redisAddress "rate_limits.redis_address"
    ++ cfg.routes.flatMap checkRoute
    ++ cfg.services.flatMap checkService
    ++ errorIf (cfg.tracing.sampleRate.lt (.finite 0) = true ∨
          F64.lt (.finite 1) cfg.tracing.sampleRate = true)
        (.invalidValue "observability.tracing.sample_rate" "must be between 0.0 and 1.0")
    ++ checkPluginSettings cfg
    ++ checkPlugins "plugins.global" (fun plugin => .duplicateName "global plugin" plugin.name) []
        cfg.plugins.global

/-- What a route needs because of its other fields. -/
def checkRouteConditions (r : RouteConfig) : List ConfigError :=
  let pre := s!"routes[{r.name}]"
  errorIf (r.authRequired = true ∧ r.authProvider = none)
      (.missingConditional s!"{pre}.auth_provider" "required when auth_required is true")
    ++ errorIf (r.requiredScopes = some [])
        (.invalidValue s!"{pre}.required_scopes" "must be non-empty when present")

/-- What is needed because of other fields. -/
def checkConditionalRequirements (cfg : GatewayConfig) : List ConfigError :=
  cfg.routes.flatMap checkRouteConditions
    ++ errorIf (cfg.tracing.enabled = true ∧ cfg.tracing.otlpEndpoint = "")
        (.missingConditional "observability.tracing.otlp_endpoint"
          "required when tracing is enabled")

/-- All errors of a config, in the order they are collected. -/
def allErrors (urlOk : String → Bool) (cfg : GatewayConfig) : List ConfigError :=
  checkVersion cfg ++ checkUniqueness cfg ++ checkReferentialIntegrity cfg
    ++ checkValueConstraints urlOk cfg ++ checkConditionalRequirements cfg

/-- Validate a parsed config, collecting all errors. -/
def validate (urlOk : String → Bool) (cfg : GatewayConfig) : Except (List ConfigError) Unit :=
  let errs := allErrors urlOk cfg
  if errs = [] then .ok () else .error errs

/-- Parse and validate a config; the YAML grammar is serde's and a parameter. -/
def loadConfigFromStr (parseYaml : String → Except String GatewayConfig)
    (urlOk : String → Bool) (yaml : String) : Except (List ConfigError) GatewayConfig :=
  match parseYaml yaml with
  | .error message => .error [.yamlParse message]
  | .ok cfg =>
    match validate urlOk cfg with
    | .error errs => .error errs
    | .ok () => .ok cfg

/-! ## The rules -/

/-- A text of the form `host:port`, split at its last colon. -/
def HostPort (value : String) : Prop :=
  ∃ port host, rsplitn2 ':' value = [port, host] ∧ (parseU16 port).isSome = true ∧ host ≠ ""

/-- The text is of this form, with this host and this port. -/
def IsEndpoint (value : String) (endpoint : String × ℕ) : Prop :=
  ∃ port, rsplitn2 ':' value = [port, endpoint.1] ∧ parseU16 port = some endpoint.2 ∧
    endpoint.1 ≠ ""

/-- The colon `rsplitn` splits at is the one `rfind` finds. -/
theorem isEndpoint_iff {value : String} {endpoint : String × ℕ} :
    IsEndpoint value endpoint ↔
      ∃ i, rfind ':' value = some i ∧
        parseU16 (String.ofList (value.toList.drop (i + 1))) = some endpoint.2 ∧
        String.ofList (value.toList.take i) ≠ "" ∧
        String.ofList (value.toList.take i) = endpoint.1 := by
  unfold IsEndpoint
  simp only [rsplitn2_eq_pair_iff]
  constructor
  · rintro ⟨_, ⟨i, hi, rfl, hhost⟩, hport, hne⟩
    exact ⟨i, hi, hport, by rwa [hhost], hhost⟩
  · rintro ⟨i, hi, hport, hne, hhost⟩
    exact ⟨_, ⟨i, hi, rfl, hhost⟩, hport, by rwa [← hhost]⟩

/-- `HostPort` says that there is an endpoint to be read. -/
theorem hostPort_iff {value : String} : HostPort value ↔ ∃ endpoint, IsEndpoint value endpoint := by
  constructor
  · rintro ⟨portStr, host, hsplit, hport, hhost⟩
    rcases Option.isSome_iff_exists.mp hport with ⟨port, hport⟩
    exact ⟨(host, port), portStr, hsplit, hport, hhost⟩
  · rintro ⟨⟨host, port⟩, portStr, hsplit, hport, hhost⟩
    exact ⟨portStr, host, hsplit, Option.isSome_iff_exists.mpr ⟨port, hport⟩, hhost⟩

/-- A plugin instance with a name and a known fail mode. -/
def PluginAccepted (plugin : PluginInstance) : Prop :=
  trim plugin.name ≠ "" ∧ plugin.failMode ∈ validPluginFailModes

/-- A plugin list as validation wants it: every instance well formed, no name twice. -/
structure PluginsAccepted (plugins : List PluginInstance) : Prop where
  each : ∀ plugin ∈ plugins, PluginAccepted plugin
  nodup : (plugins.map PluginInstance.name).Nodup

/-- What validation asks of a provider. -/
structure ProviderAccepted (urlOk : String → Bool) (p : AuthProvider) : Prop where
  name_ne : p.name ≠ ""
  jwksUri_ok : urlOk p.jwksUri = true
  cacheTtl_ne : p.cacheTtlSeconds ≠ 0

/-- What validation asks of a route. -/
structure RouteAccepted (cfg : GatewayConfig) (r : RouteConfig) : Prop where
  service_mem : r.upstream.service ∈ cfg.services.map ServiceConfig.name
  provider_mem : r.authRequired = true → ∀ provider, r.authProvider = some provider →
    provider ∈ cfg.auth.providers.map AuthProvider.name
  name_ne : r.name ≠ ""
  hostnames_ne : r.hostnames ≠ []
  methods_ne : r.methods ≠ []
  pathPrefix_slash : startsWith r.pathPrefix "/" = true
  methods_valid : ∀ m ∈ r.methods, m ∈ validMethods
  capacity_pos : 1 ≤ r.rateLimit.bucketCapacity
  refill_not_le : r.rateLimit.refillRatePerSec.le (.finite 0) = false
  keyBy_valid : r.rateLimit.keyBy ∈ validKeyBy
  plugins : PluginsAccepted r.plugins
  provider_isSome : r.authRequired = true → r.authProvider ≠ none
  scopes_ne : r.requiredScopes ≠ some []

/-- What validation asks of a service. -/
structure ServiceAccepted (s : ServiceConfig) : Prop where
  name_ne : s.name ≠ ""
  endpoints_ne : s.endpoints ≠ []
  endpoints_hostPort : ∀ ep ∈ s.endpoints, HostPort ep
  healthPath_slash : startsWith s.healthCheck.path "/" = true

/-- The rules of a config, without the errors that report them. A sample rate of NaN passes,
since neither comparison of the check holds for it. -/
structure Accepted (urlOk : String → Bool) (cfg : GatewayConfig) : Prop where
  version : cfg.version = 1
  routes_nodup : (cfg.routes.map RouteConfig.name).Nodup
  services_nodup : (cfg.services.map ServiceConfig.name).Nodup
  providers_nodup : (cfg.auth.providers.map AuthProvider.name).Nodup
  listenAddress : HostPort cfg.gateway.listenAddress
  adminAddress : HostPort cfg.gateway.adminAddress
  extauthzAddress : ∀ address, cfg.gateway.extauthzAddress = some address → HostPort address
  xdsAddress : cfg.xds.enabled = true → HostPort cfg.xds.listenAddress
  extProcAddress : cfg.extProc.enabled = true → HostPort cfg.extProc.listenAddress
  redisAddress : HostPort cfg.rateLimits.redisAddress
  providers : ∀ p ∈ cfg.auth.providers, ProviderAccepted urlOk p
  routes : ∀ r ∈ cfg.routes, RouteAccepted cfg r
  services : ∀ s ∈ cfg.services, ServiceAccepted s
  sampleRate : cfg.tracing.sampleRate.lt (.finite 0) = false ∧
    F64.lt (.finite 1) cfg.tracing.sampleRate = false
  pluginSettings : cfg.plugins.enabled = true → trim cfg.plugins.directory ≠ "" ∧
    cfg.plugins.limits.maxMemoryBytes ≠ 0 ∧ cfg.plugins.limits.maxInstructions ≠ 0 ∧
    cfg.plugins.limits.chainTimeoutMs ≠ 0
  globalPlugins : PluginsAccepted cfg.plugins.global
  otlpEndpoint : cfg.tracing.enabled = true → cfg.tracing.otlpEndpoint ≠ ""

/-! ## The checks decide the rules -/

/-- There is no duplicate if the keys are distinct and none was seen before. -/
theorem duplicateErrors_eq_nil {α : Type} {key : α → String} {error : α → ConfigError}
    {seen : List String} {l : List α} :
    duplicateErrors key error seen l = [] ↔
      (l.map key).Nodup ∧ ∀ x ∈ l, key x ∉ seen := by
  induction l generalizing seen with
  | nil => simp [duplicateErrors]
  | cons x xs ih =>
    rw [duplicateErrors]
    by_cases hx : key x ∈ seen
    · simp [hx]
    · rw [if_neg hx, ih]
      simp only [List.map_cons, List.nodup_cons, List.mem_map, List.mem_cons, not_or,
        not_exists, not_and, forall_eq_or_imp]
      -- the tail's keys avoid `key x` either as part of `seen` or as part of `Nodup`
      constructor
      · intro h
        exact ⟨⟨fun y hy => (h.2 y hy).1, h.1⟩, hx, fun y hy => (h.2 y hy).2⟩
      · intro h
        exact ⟨h.1.2, fun y hy => ⟨h.1.1 y hy, h.2.2 y hy⟩⟩

@[simp] theorem duplicateErrors_nil_eq_nil {α : Type} {key : α → String}
    {error : α → ConfigError} {l : List α} :
    duplicateErrors key error [] l = [] ↔ (l.map key).Nodup := by
  simp [duplicateErrors_eq_nil]

@[simp] theorem validateHostPort_eq_nil {value field : String} :
    validateHostPort value field = [] ↔ HostPort value := by
  unfold validateHostPort HostPort
  simp only
  split
  · rename_i port host hsplit
    rw [errorIf_eq_nil, hsplit]
    simp only [List.cons.injEq, and_true, not_or, ← Option.isSome_iff_ne_none,
      Option.isNone_iff_eq_none]
    constructor
    · intro h
      exact ⟨port, host, ⟨rfl, rfl⟩, h.1, h.2⟩
    · intro h
      rcases h with ⟨port', host', ⟨hp, hh⟩, hport, hhost⟩
      subst hp hh
      exact ⟨hport, hhost⟩
  · rename_i hsplit
    constructor
    · intro h
      simp at h
    · intro h
      rcases h with ⟨port, host, hps, -⟩
      exact absurd hps (hsplit port host)

@[simp] theorem validatePluginInstance_eq_nil {plugin : PluginInstance} {pre : String} :
    validatePluginInstance plugin pre = [] ↔ PluginAccepted plugin := by
  simp [validatePluginInstance, PluginAccepted]

/-- The loop over a plugin list does two things at once, which are told apart here. -/
theorem checkPlugins_eq_nil {pre : String} {duplicate : PluginInstance → ConfigError}
    {seen : List String} {plugins : List PluginInstance} :
    checkPlugins pre duplicate seen plugins = [] ↔
      (∀ plugin ∈ plugins, PluginAccepted plugin) ∧
        duplicateErrors PluginInstance.name duplicate seen plugins = [] := by
  -- the two loops keep the same `seen`, so the duplicates are those of `duplicateErrors`
  induction plugins generalizing seen with
  | nil => simp [checkPlugins, duplicateErrors]
  | cons plugin plugins ih =>
    rw [checkPlugins, duplicateErrors, List.append_eq_nil_iff, validatePluginInstance_eq_nil,
      List.forall_mem_cons]
    by_cases hseen : plugin.name ∈ seen
    · simp [hseen]
    · rw [if_neg hseen, if_neg hseen, ih, and_assoc]

@[simp] theorem checkPlugins_nil_eq_nil {pre : String} {duplicate : PluginInstance → ConfigError}
    {plugins : List PluginInstance} :
    checkPlugins pre duplicate [] plugins = [] ↔ PluginsAccepted plugins := by
  rw [checkPlugins_eq_nil, duplicateErrors_nil_eq_nil]
  exact ⟨fun h => ⟨h.1, h.2⟩, fun h => ⟨h.each, h.nodup⟩⟩

theorem checkProvider_eq_nil {urlOk : String → Bool} {p : AuthProvider} :
    checkProvider urlOk p = [] ↔ ProviderAccepted urlOk p := by
  simp only [checkProvider, List.append_eq_nil_iff, errorIf_eq_nil, Bool.not_eq_false]
  exact ⟨fun h => ⟨h.1.1, h.1.2, h.2⟩, fun h => ⟨⟨h.name_ne, h.jwksUri_ok⟩, h.cacheTtl_ne⟩⟩

theorem checkService_eq_nil {s : ServiceConfig} :
    checkService s = [] ↔ ServiceAccepted s := by
  simp only [checkService, List.append_eq_nil_iff, errorIf_eq_nil, List.flatMap_eq_nil_iff,
    validateHostPort_eq_nil, Bool.not_eq_false]
  exact ⟨fun h => ⟨h.1.1.1, h.1.1.2, h.1.2, h.2⟩,
    fun h => ⟨⟨⟨h.name_ne, h.endpoints_ne⟩, h.endpoints_hostPort⟩, h.healthPath_slash⟩⟩

theorem checkRouteReferences_eq_nil {cfg : GatewayConfig} {r : RouteConfig} :
    checkRouteReferences cfg r = [] ↔
      r.upstream.service ∈ cfg.services.map ServiceConfig.name ∧
        (r.authRequired = true → ∀ provider, r.authProvider = some provider →
          provider ∈ cfg.auth.providers.map AuthProvider.name) := by
  unfold checkRouteReferences
  rw [List.append_eq_nil_iff, errorIf_eq_nil, not_not]
  cases r.authRequired <;> cases r.authProvider <;> simp

/-- The three groups of checks on one route together decide its rules. -/
theorem route_checks_eq_nil {cfg : GatewayConfig} {r : RouteConfig} :
    checkRouteReferences cfg r = [] ∧ checkRoute r = [] ∧ checkRouteConditions r = [] ↔
      RouteAccepted cfg r := by
  rw [checkRouteReferences_eq_nil]
  simp only [checkRoute, checkRouteConditions, List.append_eq_nil_iff, errorIf_eq_nil,
    List.flatMap_eq_nil_iff, checkPlugins_nil_eq_nil, not_not, not_and, not_lt,
    Bool.not_eq_false, Bool.not_eq_true]
  constructor
  · intro h
    rcases h with ⟨⟨hs, hp⟩, ⟨⟨⟨⟨⟨⟨⟨⟨h1, h2⟩, h3⟩, h4⟩, h5⟩, h6⟩, h7⟩, h8⟩, h9⟩, h10, h11⟩
    exact ⟨hs, hp, h1, h2, h3, h4, h5, h6, h7, h8, h9, h10, h11⟩
  · intro h
    exact ⟨⟨h.service_mem, h.provider_mem⟩,
      ⟨⟨⟨⟨⟨⟨⟨⟨h.name_ne, h.hostnames_ne⟩, h.methods_ne⟩, h.pathPrefix_slash⟩, h.methods_valid⟩,
        h.capacity_pos⟩, h.refill_not_le⟩, h.keyBy_valid⟩, h.plugins⟩,
      h.provider_isSome, h.scopes_ne⟩

/-- Addresses that are not in use are not looked at. -/
theorem checkAddresses_eq_nil {cfg : GatewayConfig} :
    checkAddresses cfg = [] ↔
      HostPort cfg.gateway.listenAddress ∧ HostPort cfg.gateway.adminAddress ∧
      (∀ address, cfg.gateway.extauthzAddress = some address → HostPort address) ∧
      (cfg.xds.enabled = true → HostPort cfg.xds.listenAddress) ∧
      (cfg.extProc.enabled = true → HostPort cfg.extProc.listenAddress) := by
  unfold checkAddresses
  simp only [List.append_eq_nil_iff, validateHostPort_eq_nil, and_assoc]
  cases cfg.gateway.extauthzAddress <;> cases cfg.xds.enabled <;> cases cfg.extProc.enabled <;>
    simp

theorem checkPluginSettings_eq_nil {cfg : GatewayConfig} :
    checkPluginSettings cfg = [] ↔
      (cfg.plugins.enabled = true → trim cfg.plugins.directory ≠ "" ∧
        cfg.plugins.limits.maxMemoryBytes ≠ 0 ∧ cfg.plugins.limits.maxInstructions ≠ 0 ∧
        cfg.plugins.limits.chainTimeoutMs ≠ 0) := by
  unfold checkPluginSettings
  cases cfg.plugins.enabled <;> simp

/-- The per-route checks run in three passes over the routes; as one pass they decide the
rules of every route. -/
theorem routes_checks_eq_nil {cfg : GatewayConfig} :
    cfg.routes.flatMap (checkRouteReferences cfg) = [] ∧ cfg.routes.flatMap checkRoute = [] ∧
      cfg.routes.flatMap checkRouteConditions = [] ↔
    ∀ r ∈ cfg.routes, RouteAccepted cfg r := by
  simp only [List.flatMap_eq_nil_iff, ← route_checks_eq_nil]
  exact ⟨fun h r hr => ⟨h.1 r hr, h.2.1 r hr, h.2.2 r hr⟩,
    fun h => ⟨fun r hr => (h r hr).1, fun r hr => (h r hr).2.1, fun r hr => (h r hr).2.2⟩⟩

/-- Validation accepts if there is nothing to report. -/
theorem validate_ok_iff_allErrors {urlOk : String → Bool} {cfg : GatewayConfig} :
    validate urlOk cfg = .ok () ↔ allErrors urlOk cfg = [] := by
  unfold validate
  simp only
  split <;> simp_all

/-- Validation accepts exactly the configs that meet the rules. -/
theorem validate_ok_iff {urlOk : String → Bool} {cfg : GatewayConfig} :
    validate urlOk cfg = .ok () ↔ Accepted urlOk cfg := by
  rw [validate_ok_iff_allErrors]
  simp only [allErrors, checkVersion, checkUniqueness, checkReferentialIntegrity,
    checkValueConstraints, checkConditionalRequirements, List.append_eq_nil_iff, errorIf_eq_nil,
    not_not, not_and, not_or, duplicateErrors_nil_eq_nil, validateHostPort_eq_nil,
    checkPlugins_nil_eq_nil, checkAddresses_eq_nil, checkPluginSettings_eq_nil, Bool.not_eq_true]
  constructor
  · intro h
    rcases h with ⟨⟨⟨⟨hversion, ⟨hrn, hsn⟩, hpn⟩, href⟩,
      ⟨⟨⟨⟨⟨⟨⟨hl, ha, he, hx, hep⟩, hprov⟩, hredis⟩, hroute⟩, hserv⟩, hrate⟩, hset⟩, hglobal⟩,
      hcond, hotlp⟩
    exact
      { version := hversion, routes_nodup := hrn, services_nodup := hsn, providers_nodup := hpn
        listenAddress := hl, adminAddress := ha, extauthzAddress := he, xdsAddress := hx
        extProcAddress := hep, redisAddress := hredis
        providers := fun p hp =>
          checkProvider_eq_nil.mp (List.flatMap_eq_nil_iff.mp hprov p hp)
        routes := routes_checks_eq_nil.mp ⟨href, hroute, hcond⟩
        services := fun s hs => checkService_eq_nil.mp (List.flatMap_eq_nil_iff.mp hserv s hs)
        sampleRate := hrate, pluginSettings := hset, globalPlugins := hglobal
        otlpEndpoint := hotlp }
  · intro h
    have hroutes := routes_checks_eq_nil.mpr h.routes
    have hprov : cfg.auth.providers.flatMap (checkProvider urlOk) = [] :=
      List.flatMap_eq_nil_iff.mpr fun p hp => checkProvider_eq_nil.mpr (h.providers p hp)
    have hserv : cfg.services.flatMap checkService = [] :=
      List.flatMap_eq_nil_iff.mpr fun s hs => checkService_eq_nil.mpr (h.services s hs)
    exact ⟨⟨⟨⟨h.version, ⟨h.routes_nodup, h.services_nodup⟩, h.providers_nodup⟩, hroutes.1⟩,
      ⟨⟨⟨⟨⟨⟨⟨h.listenAddress, h.adminAddress, h.extauthzAddress, h.xdsAddress,
        h.extProcAddress⟩, hprov⟩, h.redisAddress⟩, hroutes.2.1⟩, hserv⟩, h.sampleRate⟩,
        h.pluginSettings⟩, h.globalPlugins⟩, hroutes.2.2, h.otlpEndpoint⟩

/-- A config that was loaded has passed validation. -/
theorem accepted_of_load {parseYaml : String → Except String GatewayConfig}
    {urlOk : String → Bool} {yaml : String} {cfg : GatewayConfig}
    (h : loadConfigFromStr parseYaml urlOk yaml = .ok cfg) : Accepted urlOk cfg := by
  unfold loadConfigFromStr at h
  split at h
  · exact absurd h (by simp)
  · rename_i parsed hparse
    split at h
    · exact absurd h (by simp)
    · rename_i hvalid
      have heq : parsed = cfg := by simpa using h
      rw [← heq]
      exact validate_ok_iff.mp hvalid

/-! ## A minimal config -/

/-- A route to the service of `minimalConfig`, open to `GET` and without authentication. -/
def minimalRoute (name : String) (hostnames : List String) (pathPrefix : String) :
    RouteConfig where
  name := name
  hostnames := hostnames
  pathPrefix := pathPrefix
  methods := ["GET"]
  authRequired := false
  rateLimit := ⟨10, .finite 1, "ip"⟩
  upstream := ⟨"backend", 1000, 0⟩

/-- One service and one auth provider around the given routes. -/
def minimalConfig (routes : List RouteConfig) : GatewayConfig where
  version := 1
  gateway :=
    { listenAddress := "0.0.0.0:8080", adminAddress := "0.0.0.0:9090", idleTimeoutMs := 60000
      trustForwardedHeaders := false }
  auth := ⟨[⟨"main", "https://issuer", "api", "https://issuer/jwks", 300, 30⟩]⟩
  rateLimits := ⟨"redis:6379", "rl", false, ⟨false, 1, .finite 1⟩⟩
  routes := routes
  services := [⟨"backend", ["backend:80"], ⟨"/health", 1000, 500⟩⟩]
  tracing := ⟨false, "", .finite 0⟩

example : validate (fun _ => true) (minimalConfig [minimalRoute "r" ["*"] "/"]) = .ok () := by
  decide

end Validation
end OpenApiGateway
