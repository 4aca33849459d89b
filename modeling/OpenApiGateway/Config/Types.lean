import Mathlib.Data.Rat.Defs
import OpenApiGateway.Lib.Text

/-!
# The gateway configuration

The record types of `shared/src/config_types.rs` and the errors of
`shared/src/config_error.rs`. Unsigned integers are natural numbers. A `f64` field keeps
the values YAML can spell and a comparison can tell apart: NaN, the two infinities, and a
finite number as the rational it denotes.
-/

namespace OpenApiGateway

/-! ## Numbers and plugin values -/

/-- A double, as far as comparisons see it. -/
inductive F64 where
  | nan
  | negInf
  | finite (q : ℚ)
  | posInf
deriving DecidableEq

namespace F64

/-- `a < b`; every comparison with NaN is false. -/
def lt : F64 → F64 → Bool
  | nan, _ => false
  | _, nan => false
  | negInf, negInf => false
  | negInf, _ => true
  | _, negInf => false
  | posInf, _ => false
  | finite _, posInf => true
  | finite a, finite b => decide (a < b)

/-- `a <= b`; every comparison with NaN is false. -/
def le : F64 → F64 → Bool
  | nan, _ => false
  | _, nan => false
  | negInf, _ => true
  | _, negInf => false
  | _, posInf => true
  | posInf, finite _ => false
  | finite a, finite b => decide (a ≤ b)

end F64

/-- A YAML value, the type of a plugin's free-form `config`. -/
inductive Yaml where
  | null
  | bool (b : Bool)
  | number (n : F64)
  | string (s : String)
  | sequence (items : List Yaml)
  | mapping (entries : List (Yaml × Yaml))
  | tagged (tag : String) (value : Yaml)

/-! ## Sections of the file -/

/-- Gateway server listen addresses and timeouts. -/
structure GatewayServer where
  listenAddress : String
  adminAddress : String
  idleTimeoutMs : ℕ
  trustForwardedHeaders : Bool
  extauthzAddress : Option String := none
  maxConcurrentRequests : Option ℕ := none
deriving DecidableEq

/-- A single JWT/JWKS auth provider. -/
structure AuthProvider where
  name : String
  issuer : String
  audience : String
  jwksUri : String
  cacheTtlSeconds : ℕ
  clockSkewSeconds : ℕ
deriving DecidableEq

/-- Top-level auth configuration. -/
structure AuthConfig where
  providers : List AuthProvider
deriving DecidableEq

/-- In-memory fallback when Redis is unavailable. -/
structure SurvivabilityMode where
  enabled : Bool
  fallbackCapacity : ℕ
  fallbackRefillRatePerSec : F64
deriving DecidableEq

/-- Global rate-limiting settings. -/
structure RateLimitsConfig where
  redisAddress : String
  redisKeyPrefix : String
  failOpen : Bool
  survivabilityMode : SurvivabilityMode
deriving DecidableEq

/-- A single plugin instance bound globally or to a route. -/
structure PluginInstance where
  name : String
  enabled : Bool := true
  failMode : String := "closed"
  config : Yaml := .null

/-- Per-route rate limit bucket parameters. -/
structure RouteRateLimit where
  bucketCapacity : ℕ
  refillRatePerSec : F64
  keyBy : String
deriving DecidableEq

/-- Upstream service reference and request settings. -/
structure UpstreamConfig where
  service : String
  requestTimeoutMs : ℕ
  retries : ℕ
deriving DecidableEq

/-- A single route definition. -/
structure RouteConfig where
  name : String
  hostnames : List String
  pathPrefix : String
  methods : List String
  authRequired : Bool
  authProvider : Option String := none
  requiredScopes : Option (List String) := none
  rateLimit : RouteRateLimit
  upstream : UpstreamConfig
  plugins : List PluginInstance := []

/-- Health check settings for an upstream service. -/
structure HealthCheckConfig where
  path : String
  intervalMs : ℕ
  timeoutMs : ℕ
deriving DecidableEq

/-- A backend service with endpoints and health check. -/
structure ServiceConfig where
  name : String
  endpoints : List String
  healthCheck : HealthCheckConfig
deriving DecidableEq

/-- Distributed tracing configuration. -/
structure TracingConfig where
  enabled : Bool
  otlpEndpoint : String
  sampleRate : F64
deriving DecidableEq

/-- Resource limits for the plugin engine. -/
structure PluginLimits where
  maxMemoryBytes : ℕ := 8 * 1024 * 1024
  maxInstructions : ℕ := 1000000
  chainTimeoutMs : ℕ := 50
deriving DecidableEq

/-- Plugin engine settings in gateway config. -/
structure PluginsConfig where
  enabled : Bool := false
  directory : String := ""
  limits : PluginLimits := {}
  global : List PluginInstance := []

/-- xDS server settings. -/
structure XdsConfig where
  enabled : Bool := false
  listenAddress : String := "0.0.0.0:18000"
deriving DecidableEq

/-- ext_proc server settings. -/
structure ExtProcConfig where
  enabled : Bool := false
  listenAddress : String := "0.0.0.0:19000"
deriving DecidableEq

/-- Root configuration for the API gateway. -/
structure GatewayConfig where
  version : ℕ
  gateway : GatewayServer
  auth : AuthConfig
  rateLimits : RateLimitsConfig
  routes : List RouteConfig
  services : List ServiceConfig
  tracing : TracingConfig
  plugins : PluginsConfig := {}
  xds : XdsConfig := {}
  extProc : ExtProcConfig := {}

/-! ## Errors -/

/-- A single configuration validation error. -/
inductive ConfigError where
  | invalidVersion (expected actual : ℕ)
  | duplicateName (kind name : String)
  | unknownReference (field targetKind target : String)
  | invalidValue (field reason : String)
  | missingConditional (field reason : String)
  | yamlParse (message : String)
deriving DecidableEq

namespace ConfigError

/-- The text an error is shown with. -/
def display : ConfigError → String
  | invalidVersion expected actual => s!"version must be {expected}, got {actual}"
  | duplicateName kind name => s!"duplicate {kind} name: {name}"
  | unknownReference field targetKind target =>
      s!"{field} references unknown {targetKind}: {target}"
  | invalidValue field reason => s!"{field}: {reason}"
  | missingConditional field reason => s!"{field}: {reason}"
  | yamlParse message => s!"YAML parse error: {message}"

/-- The text of a whole error list, one numbered line per error. -/
def displayAll (errors : List ConfigError) : String :=
  s!"{errors.length} config error(s):\n" ++
    String.join (errors.zipIdx.map fun (e, i) => s!"  {i + 1}: {e.display}\n")

end ConfigError

end OpenApiGateway
