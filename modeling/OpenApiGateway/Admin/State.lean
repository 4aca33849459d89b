import OpenApiGateway.Auth.Registry
import OpenApiGateway.Config.EnvoyGen
import OpenApiGateway.Plugins.Registry
import OpenApiGateway.Xds.Wire

/-!
# The application state and a reload of it

`controlplane/src/admin/state.rs` and the reload handler of `admin/handlers.rs`, with the two
components it rebuilds: the plugin engine (`plugins/mod.rs`) and the xDS control plane
(`xds/server.rs`). Here a reload runs from start to end without another one beside it;
`Admin.Interleaving` takes it apart into its steps. Counters and other outputs are recorded
as a list of effects. Libraries are collected in `ReloadLib`.

`failed_reload_changes_nothing` is the main result: whatever the file holds, a reload that is
refused leaves everything active as it was.
-/

namespace OpenApiGateway
namespace Admin

open Auth Plugins Xds

/-! ## State -/

/-- Result of the last config reload attempt. -/
inductive ReloadResult where
  | success
  | validationError
deriving DecidableEq

def ReloadResult.asStr : ReloadResult → String
  | success => "success"
  | validationError => "validation_error"

/-- Mutable config state. -/
structure ConfigState where
  config : GatewayConfig
  sha256 : String
  lastReloadUnix : ℤ
  lastReloadResult : ReloadResult
  lastReloadError : Option String

/-- The engine's runtime and its counter of generations. -/
structure PluginEngine where
  runtime : PluginRuntime
  nextGeneration : ℕ

/-- The snapshot served to Envoy and the version counter. -/
structure XdsControlPlane where
  snapshot : XdsSnapshot
  version : ℕ

/-- Top-level state, as far as reloads and checks share it. -/
structure AppState (κ : Type) where
  configState : ConfigState
  configPath : String
  envoyConfigPath : Option String
  jwksRegistry : JwksCacheRegistry κ
  pluginEngine : Option PluginEngine
  xds : Option XdsControlPlane

/-- The plugin runtime in place, where there is an engine. -/
def AppState.runtime {κ : Type} (st : AppState κ) : Option PluginRuntime :=
  st.pluginEngine.map PluginEngine.runtime

/-- The snapshot in place, where xDS is enabled. -/
def AppState.snapshot {κ : Type} (st : AppState κ) : Option XdsSnapshot :=
  st.xds.map XdsControlPlane.snapshot

/-- What a reload uses of libraries. -/
structure ReloadLib where
  registry : RegistryLib
  fromUtf8Lossy : List UInt8 → String
  parseYaml : String → Except String GatewayConfig
  urlOk : String → Bool
  /-- `prost::Message::encode` into a vector. -/
  encode : Message → Except String (List UInt8)
  /-- SHA-256 of the bytes, in hexadecimal. -/
  sha256Hex : List UInt8 → String
  render : EnvoyGen.Bootstrap → Except EnvoyGen.EnvoyGenError String

/-- `load_config_from_str(&String::from_utf8_lossy(raw))`. -/
def ReloadLib.load (lib : ReloadLib) (raw : List UInt8) :
    Except (List ConfigError) GatewayConfig :=
  Validation.loadConfigFromStr lib.parseYaml lib.urlOk (lib.fromUtf8Lossy raw)

/-! ## Answers -/

/-- The answer of `POST /config/reload`. -/
inductive ReloadResponse where
  | success (message previousSha256 newSha256 : String) (reloadTimestamp : ℤ)
  | error (message error : String) (reloadTimestamp : ℤ)
deriving DecidableEq

def ReloadResponse.status : ReloadResponse → ℕ
  | success .. => 200
  | error .. => 400

/-- What a reload does besides its answer and the state. -/
inductive ReloadEffect where
  | setXdsSnapshotVersion (version : ℕ)
  | broadcast (snapshot : XdsSnapshot)
  | recordXdsPush
  | recordConfigReload (label : String)
  | writeEnvoyConfig (path yaml : String)
deriving DecidableEq

/-- What a reload leaves behind; it gives no answer when it panics. -/
structure ReloadOutcome (κ : Type) where
  response : Option ReloadResponse
  state : AppState κ
  effects : List ReloadEffect

section Reload
variable {κ : Type} (lib : ReloadLib)

/-! ## The components -/

/-- `reload_from_config`: a generation is taken even when the build fails. -/
def PluginEngine.reloadFromConfig (engine : PluginEngine) (files : PluginFiles)
    (config : GatewayConfig) : Except PluginError Unit × PluginEngine :=
  let taken := { engine with nextGeneration := engine.nextGeneration + 1 }
  match buildRuntime lib.registry files config engine.nextGeneration with
  | .error e => (.error e, taken)
  | .ok runtime => (.ok (), { taken with runtime := runtime })

/-- `rebuild_from_config`: a version is taken even when the build fails. -/
def XdsControlPlane.rebuildFromConfig (xds : XdsControlPlane) (config : GatewayConfig) :
    Except ResourceError (List ReloadEffect) × XdsControlPlane :=
  let version := xds.version + 1
  match XdsSnapshot.build lib.encode config version with
  | .error e => (.error e, { xds with version := version })
  | .ok snapshot =>
    (.ok [.setXdsSnapshotVersion version, .broadcast snapshot, .recordXdsPush],
      ⟨snapshot, version⟩)

/-! ## The handler -/

/-- The answer of a failed reload, and what it writes down about it. -/
def errorResponse (now : ℤ) (errorMsg : String) : ReloadResponse :=
  .error "config validation failed" errorMsg now

def ConfigState.recordError (cs : ConfigState) (now : ℤ) (errorMsg : String) : ConfigState :=
  { cs with
    lastReloadUnix := now
    lastReloadResult := .validationError
    lastReloadError := some errorMsg }

def reloadValidationError (st : AppState κ) (now : ℤ) (errorMsg : String)
    (effects : List ReloadEffect) : ReloadOutcome κ where
  response := some (errorResponse now errorMsg)
  state := { st with configState := st.configState.recordError now errorMsg }
  effects := effects ++ [.recordConfigReload "validation_error"]

/-- The config state after a successful reload. -/
def ConfigState.activate (raw : List UInt8) (now : ℤ) (config : GatewayConfig) : ConfigState where
  config := config
  sha256 := lib.sha256Hex raw
  lastReloadUnix := now
  lastReloadResult := .success
  lastReloadError := none

/-- Write the static Envoy config again, where a path for it is set; `none` if generating it
panics. A generation that fails is only logged. -/
def regenerateEnvoyConfig (path : Option String) (config : GatewayConfig) :
    Option (List ReloadEffect) :=
  match path with
  | none => some []
  | some path =>
    match EnvoyGen.generateEnvoyConfig lib.render config with
    | .ok (some yaml) => some [.writeEnvoyConfig path yaml]
    | .ok none => none
    | .error _ => some []

def successResponse (previous : ConfigState) (raw : List UInt8) (now : ℤ) : ReloadResponse :=
  .success "config reloaded successfully" previous.sha256 (lib.sha256Hex raw) now

/-- The last part of a reload: write the config. -/
def activateConfig (st : AppState κ) (raw : List UInt8) (now : ℤ) (newConfig : GatewayConfig)
    (effects : List ReloadEffect) : ReloadOutcome κ :=
  let written := { st with configState := ConfigState.activate lib raw now newConfig }
  let recorded := effects ++ [.recordConfigReload "success"]
  match regenerateEnvoyConfig lib st.envoyConfigPath newConfig with
  | none => ⟨none, written, recorded⟩
  | some more => ⟨some (successResponse lib st.configState raw now), written, recorded ++ more⟩

/-- The middle part of a reload: rebuild the xDS snapshot, where xDS is enabled. -/
def rebuildXds (st : AppState κ) (raw : List UInt8) (now : ℤ) (newConfig : GatewayConfig) :
    ReloadOutcome κ :=
  match st.xds with
  | none => activateConfig lib st raw now newConfig []
  | some xds =>
    match xds.rebuildFromConfig lib newConfig with
    | (.error e, xds) => reloadValidationError { st with xds := some xds } now e.display []
    | (.ok effects, xds) => activateConfig lib { st with xds := some xds } raw now newConfig effects

def applyConfigReload (files : PluginFiles) (st : AppState κ) (raw : List UInt8) (now : ℤ)
    (newConfig : GatewayConfig) : ReloadOutcome κ :=
  match st.pluginEngine with
  | none => rebuildXds lib st raw now newConfig
  | some engine =>
    match engine.reloadFromConfig lib files newConfig with
    | (.error e, engine) =>
      reloadValidationError { st with pluginEngine := some engine } now e.display []
    | (.ok (), engine) => rebuildXds lib { st with pluginEngine := some engine } raw now newConfig

/-- `POST /config/reload` -- reload config from disk. -/
def configReload (files : PluginFiles) (st : AppState κ) (now : ℤ)
    (read : Except String (List UInt8)) : ReloadOutcome κ :=
  match read with
  | .error reason =>
    reloadValidationError st now s!"failed to read {st.configPath}: {reason}" []
  | .ok raw =>
    match lib.load raw with
    | .ok newConfig => applyConfigReload lib files st raw now newConfig
    | .error errors => reloadValidationError st now (ConfigError.displayAll errors) []

/-! ## Startup -/

/-- The xDS control plane of a config, where the config enables it. -/
def initXds (config : GatewayConfig) : Except ResourceError (Option XdsControlPlane) :=
  if config.xds.enabled then
    match XdsSnapshot.build lib.encode config 1 with
    | .error e => .error e
    | .ok snapshot => .ok (some ⟨snapshot, 1⟩)
  else .ok none

/-- The static Envoy config is written at startup, where a path for it is set. -/
def envoyConfigWritten (path : Option String) (config : GatewayConfig) : Bool :=
  match path with
  | none => true
  | some _ =>
    match EnvoyGen.generateEnvoyConfig lib.render config with
    | .ok (some _) => true
    | _ => false

/-- The state `run` serves from; `none` if the process exits before. There is always a plugin
engine, also when the config enables no plugins. -/
def startup (source : KeySource κ) (fetchedAt : AuthProvider → ℕ) (files : PluginFiles) (now : ℤ)
    (configPath : String) (envoyConfigPath : Option String) (raw : List UInt8) :
    Option (AppState κ) :=
  match lib.load raw with
  | .error _ => none
  | .ok config =>
    if envoyConfigWritten lib envoyConfigPath config then
      match JwksCacheRegistry.fromConfig source fetchedAt config.auth,
          buildRuntime lib.registry files config 1, initXds lib config with
      -- the first generation is taken by the runtime at hand
      | .ok jwksRegistry, .ok runtime, .ok xds => some
          { configState := ConfigState.activate lib raw now config
            configPath := configPath
            envoyConfigPath := envoyConfigPath
            jwksRegistry := jwksRegistry
            pluginEngine := some ⟨runtime, 2⟩
            xds := xds }
      | _, _, _ => none
    else none

end Reload

/-- What startup has done when it serves a state. -/
theorem startup_cases {κ : Type} {lib : ReloadLib} {source : KeySource κ}
    {fetchedAt : AuthProvider → ℕ} {files : PluginFiles} {now : ℤ} {configPath : String}
    {envoyConfigPath : Option String} {raw : List UInt8} {st : AppState κ}
    (h : startup lib source fetchedAt files now configPath envoyConfigPath raw = some st) :
    ∃ config registry runtime xds, lib.load raw = .ok config ∧
      JwksCacheRegistry.fromConfig source fetchedAt config.auth = .ok registry ∧
      buildRuntime lib.registry files config 1 = .ok runtime ∧ initXds lib config = .ok xds ∧
      st = ⟨ConfigState.activate lib raw now config, configPath, envoyConfigPath, registry,
        some ⟨runtime, 2⟩, xds⟩ := by
  unfold startup at h
  split at h
  · simp at h
  · rename_i config hload
    split at h
    · split at h
      · rename_i registry runtime xds hregistry hruntime hxds
        exact ⟨config, registry, runtime, xds, hload, hregistry, hruntime, hxds,
          (Option.some.inj h).symm⟩
      · simp at h
    · simp at h

/-- A start without a static Envoy config that gets through its parts. -/
theorem startup_of_parts {κ : Type} {lib : ReloadLib} {source : KeySource κ}
    {fetchedAt : AuthProvider → ℕ} {files : PluginFiles} {raw : List UInt8}
    {config : GatewayConfig} {registry : JwksCacheRegistry κ} {runtime : PluginRuntime}
    {xds : Option XdsControlPlane} (hload : lib.load raw = .ok config)
    (hregistry : JwksCacheRegistry.fromConfig source fetchedAt config.auth = .ok registry)
    (hruntime : buildRuntime lib.registry files config 1 = .ok runtime)
    (hxds : initXds lib config = .ok xds) (now : ℤ) (configPath : String) :
    startup lib source fetchedAt files now configPath none raw =
      some ⟨ConfigState.activate lib raw now config, configPath, none, registry,
        some ⟨runtime, 2⟩, xds⟩ := by
  simp only [startup, hload, envoyConfigWritten, hregistry, hruntime, hxds, if_true]

/-- A file that is read, parsed and accepted. -/
theorem load_of_parts {lib : ReloadLib} {raw : List UInt8} {yaml : String} {config : GatewayConfig}
    (hyaml : lib.fromUtf8Lossy raw = yaml) (hparse : lib.parseYaml yaml = .ok config)
    (hvalid : Validation.validate lib.urlOk config = .ok ()) : lib.load raw = .ok config := by
  unfold ReloadLib.load Validation.loadConfigFromStr
  simp only [hyaml, hparse, hvalid]

theorem configReload_of_load {κ : Type} {lib : ReloadLib} {raw : List UInt8}
    {config : GatewayConfig} (h : lib.load raw = .ok config) (files : PluginFiles)
    (st : AppState κ) (now : ℤ) :
    configReload lib files st now (.ok raw) = applyConfigReload lib files st raw now config := by
  unfold configReload
  simp only [h]

/-- Writing the config changes nothing else. -/
theorem activateConfig_configState {κ : Type} {lib : ReloadLib} (st : AppState κ)
    (raw : List UInt8) (now : ℤ) (config : GatewayConfig) (effects : List ReloadEffect) :
    (activateConfig lib st raw now config effects).state =
      { st with configState := ConfigState.activate lib raw now config } := by
  unfold activateConfig
  simp only
  split
  · rfl
  · rfl

/-- A reload without xDS whose plugin runtime can be built. -/
theorem applyConfigReload_state {κ : Type} {lib : ReloadLib} {files : PluginFiles}
    {st : AppState κ} {raw : List UInt8} {now : ℤ} {config : GatewayConfig}
    {engine after : PluginEngine} (hengine : st.pluginEngine = some engine)
    (hreload : engine.reloadFromConfig lib files config = (.ok (), after)) (hxds : st.xds = none) :
    (applyConfigReload lib files st raw now config).state =
      { st with
        pluginEngine := some after
        configState := ConfigState.activate lib raw now config } := by
  unfold applyConfigReload rebuildXds
  simp only [hengine, hreload, hxds]
  rw [activateConfig_configState]

/-! ## A refused reload -/

/-- Two states that differ at most in counters and in what is written down about the last
reload. -/
structure SameActive {κ : Type} (st st' : AppState κ) : Prop where
  config : st'.configState.config = st.configState.config
  sha256 : st'.configState.sha256 = st.configState.sha256
  runtime : st'.runtime = st.runtime
  snapshot : st'.snapshot = st.snapshot
  jwksRegistry : st'.jwksRegistry = st.jwksRegistry
  configPath : st'.configPath = st.configPath
  envoyConfigPath : st'.envoyConfigPath = st.envoyConfigPath

section Refused
variable {κ : Type} {lib : ReloadLib}

/-- Writing down an error keeps what is active. -/
theorem sameActive_reloadValidationError {st changed : AppState κ} (h : SameActive st changed)
    (now : ℤ) (errorMsg : String) (effects : List ReloadEffect) :
    SameActive st (reloadValidationError changed now errorMsg effects).state :=
  ⟨h.config, h.sha256, h.runtime, h.snapshot, h.jwksRegistry, h.configPath, h.envoyConfigPath⟩

theorem SameActive.refl (st : AppState κ) : SameActive st st := ⟨rfl, rfl, rfl, rfl, rfl, rfl, rfl⟩

/-- The last part of a reload never answers with an error. -/
theorem activateConfig_status {st : AppState κ} {raw : List UInt8} {now : ℤ}
    {config : GatewayConfig} {effects : List ReloadEffect} {response : ReloadResponse}
    (h : (activateConfig lib st raw now config effects).response = some response) :
    response.status = 200 := by
  unfold activateConfig at h
  simp only at h
  split at h
  · simp at h
  · rw [← Option.some.inj h]
    rfl

/-- For a config that passed validation the rebuild of the snapshot does not fail, so that
nothing after the swap of the plugin runtime answers with an error. -/
theorem rebuildXds_status (hencode : ∀ message, ∃ bytes, lib.encode message = .ok bytes)
    {st : AppState κ} {raw : List UInt8} {now : ℤ} {config : GatewayConfig}
    {response : ReloadResponse} (hconfig : Validation.Accepted lib.urlOk config)
    (h : (rebuildXds lib st raw now config).response = some response) :
    response.status = 200 := by
  unfold rebuildXds at h
  split at h
  · exact activateConfig_status h
  · rename_i xds _
    obtain ⟨snapshot, hsnapshot⟩ := XdsSnapshot.build_ok hencode hconfig (xds.version + 1)
    have hrebuild : xds.rebuildFromConfig lib config =
        (.ok [.setXdsSnapshotVersion (xds.version + 1), .broadcast snapshot, .recordXdsPush],
          ⟨snapshot, xds.version + 1⟩) := by
      simp only [XdsControlPlane.rebuildFromConfig, hsnapshot]
    rw [hrebuild] at h
    exact activateConfig_status h

/-- A build that fails keeps the runtime in place. -/
theorem reloadFromConfig_error {engine after : PluginEngine} {files : PluginFiles}
    {config : GatewayConfig} {e : PluginError}
    (h : engine.reloadFromConfig lib files config = (.error e, after)) :
    after.runtime = engine.runtime := by
  unfold PluginEngine.reloadFromConfig at h
  simp only at h
  split at h
  · rw [← (Prod.mk.inj h).2]
  · simp at h

theorem sameActive_of_engine {st : AppState κ} {engine after : PluginEngine}
    (hengine : st.pluginEngine = some engine) (hruntime : after.runtime = engine.runtime) :
    SameActive st { st with pluginEngine := some after } := by
  refine ⟨rfl, rfl, ?_, rfl, rfl, rfl, rfl⟩
  simp [AppState.runtime, hengine, hruntime]

/-- A reload answered with 400 changes nothing active, whatever the file holds and whether or
not it can be read. -/
theorem failed_reload_changes_nothing (lib : ReloadLib)
    (hencode : ∀ message, ∃ bytes, lib.encode message = .ok bytes) (files : PluginFiles)
    (st : AppState κ) (now : ℤ) (read : Except String (List UInt8)) (response : ReloadResponse)
    (hresponse : (configReload lib files st now read).response = some response)
    (hstatus : response.status = 400) :
    SameActive st (configReload lib files st now read).state := by
  have hnot : ¬ response.status = 200 := by omega
  unfold configReload at hresponse ⊢
  split
  · exact sameActive_reloadValidationError (SameActive.refl st) _ _ _
  · rename_i raw
    cases hload : lib.load raw with
    | error errors => exact sameActive_reloadValidationError (SameActive.refl st) _ _ _
    | ok config =>
      have hconfig := Validation.accepted_of_load hload
      simp only [hload] at hresponse
      unfold applyConfigReload at hresponse
      simp only
      unfold applyConfigReload
      -- only the plugin engine can still refuse the config
      cases hengine : st.pluginEngine with
      | none =>
        simp only [hengine] at hresponse
        exact absurd (rebuildXds_status hencode hconfig hresponse) hnot
      | some engine =>
        simp only [hengine] at hresponse
        rcases hreload : engine.reloadFromConfig lib files config with ⟨result, after⟩
        cases result with
        | error e =>
          simp only [hreload]
          exact sameActive_reloadValidationError
            (sameActive_of_engine hengine (reloadFromConfig_error hreload)) _ _ _
        | ok u =>
          simp only [hreload] at hresponse
          exact absurd (rebuildXds_status hencode hconfig hresponse) hnot

end Refused

/-! ## Sample files -/

/-- Four config files: a plain one, one with a global plugin, one with a longer chain timeout,
and one whose auth provider has moved. -/
inductive SampleFile where
  | plain
  | waf
  | slow
  | moved

namespace SampleFile

/-- The sections all four have in common. -/
def commonLines : List String :=
  ["version: 1", "gateway:", "  listen_address: 0.0.0.0:8080", "  admin_address: 0.0.0.0:9090",
    "  request_timeout_ms: 15000", "  idle_timeout_ms: 60000",
    "  max_request_body_bytes: 10485760", "  trust_forwarded_headers: false", "rate_limits:",
    "  redis_address: redis:6379", "  redis_db: 0", "  redis_key_prefix: rl",
    "  default_timeout_ms: 50", "  fail_open: false", "  survivability_mode:",
    "    enabled: false", "    fallback_capacity: 1", "    fallback_refill_rate_per_sec: 1",
    "routes:", "  - name: open", "    hostnames: ['*']", "    path_prefix: /",
    "    methods: [GET]", "    auth_required: false", "    rate_limit:",
    "      bucket_capacity: 10", "      refill_rate_per_sec: 1", "      key_by: ip",
    "    upstream:", "      service: backend", "      request_timeout_ms: 1000",
    "      retries: 0", "services:", "  - name: backend", "    endpoints: ['backend:80']",
    "    health_check:", "      path: /health", "      interval_ms: 1000",
    "      timeout_ms: 500", "observability:", "  access_log_json: true",
    "  prometheus_enabled: true", "  tracing:", "    enabled: false", "    otlp_endpoint: ''",
    "    sample_rate: 0"]

def authLines (issuer : String) : List String :=
  ["auth:", "  providers:", "    - name: main", s!"      issuer: {issuer}", "      audience: api",
    s!"      jwks_uri: {issuer}/jwks", "      cache_ttl_seconds: 300",
    "      clock_skew_seconds: 30"]

def ownLines : SampleFile → List String
  | plain => authLines "https://issuer"
  | waf =>
    ["plugins:", "  enabled: true", "  directory: plugins", "  global:", "    - name: waf"]
      ++ authLines "https://issuer"
  | slow => ["plugins:", "  limits:", "    chain_timeout_ms: 60"] ++ authLines "https://issuer"
  | moved => authLines "https://idp"

/-- A comment on the first line tells the files apart. -/
def comment : SampleFile → String
  | plain => "# plain\n"
  | waf => "# waf\n"
  | slow => "# slow\n"
  | moved => "# moved\n"

def text (file : SampleFile) : String :=
  file.comment ++ "\n".intercalate (file.ownLines ++ commonLines)

/-- The text in UTF-8; it is all ASCII. -/
def bytes (file : SampleFile) : List UInt8 := file.text.toList.map fun c => UInt8.ofNat c.toNat

def openRoute : RouteConfig := Validation.minimalRoute "open" ["*"] "/"

def openConfig : GatewayConfig := Validation.minimalConfig [openRoute]

def config : SampleFile → GatewayConfig
  | plain => openConfig
  | waf =>
    { openConfig with
      plugins := { enabled := true, directory := "plugins", global := [{ name := "waf" }] } }
  | slow => { openConfig with plugins := { limits := { chainTimeoutMs := 60 } } }
  | moved =>
    { openConfig with auth := ⟨[⟨"main", "https://idp", "api", "https://idp/jwks", 300, 30⟩]⟩ }

def sha256 : SampleFile → String
  | plain => "dd187e7d91fafe542ee272ac69203850a89193d069fa478ae35a4b795d27fe54"
  | waf => "2eb48317a2d7ddba809254f559d74baeec0434b0003601ab516a33278288456f"
  | slow => "dc609581f5eba63f80601dbf4eba833fc649c51cab9946bd3440e08f1af34fab"
  | moved => "1aae7c3dfc6c751797c297ff193c490ccd865d25e76f8ea3a5306b7e3aafd6c2"

/-- Tell the files apart by the first letter of their comment. -/
def ofLetter : Option Char → Option SampleFile
  | some 'p' => some plain
  | some 'w' => some waf
  | some 's' => some slow
  | some 'm' => some moved
  | _ => none

/-- The text of the one plugin. Its instances keep their config. -/
def wafSource : String :=
  pluginText ", new = function(self, config) return \x7b config = config \x7d end"

/-- The libraries on these files: reading, parsing and hashing give what the real ones give
for them; the plugin is that of `wafSource`. No file has a path for Envoy's config, so nothing is
rendered. -/
def lib : ReloadLib where
  registry := textPlugins
  fromUtf8Lossy raw :=
    ((ofLetter (raw[2]?.map fun b => Char.ofNat b.toNat)).map text).getD ""
  parseYaml yaml := match ofLetter yaml.toList[2]? with
    | some file => .ok file.config
    | none => .error "missing field `version`"
  urlOk _ := true
  encode := Xds.wireEncode
  sha256Hex raw :=
    ((ofLetter (raw[2]?.map fun b => Char.ofNat b.toNat)).map sha256).getD ""
  render _ := .ok ""

/-- The first letter of the comment. -/
def letter : SampleFile → Char
  | plain => 'p'
  | waf => 'w'
  | slow => 's'
  | moved => 'm'

theorem toList_text (file : SampleFile) :
    ∃ rest, file.text.toList = '#' :: ' ' :: file.letter :: rest := by
  have hcomment : ∃ rest, file.comment.toList = '#' :: ' ' :: file.letter :: rest := by
    cases file with
    | plain => exact ⟨['l', 'a', 'i', 'n', '\n'], by decide⟩
    | waf => exact ⟨['a', 'f', '\n'], by decide⟩
    | slow => exact ⟨['l', 'o', 'w', '\n'], by decide⟩
    | moved => exact ⟨['o', 'v', 'e', 'd', '\n'], by decide⟩
  obtain ⟨rest, hrest⟩ := hcomment
  rw [text, String.toList_append, hrest]
  exact ⟨rest ++ _, by rw [List.cons_append, List.cons_append, List.cons_append]⟩

theorem ofLetter_letter (file : SampleFile) : ofLetter (some file.letter) = some file := by
  cases file with
  | plain => rfl
  | waf => rfl
  | slow => rfl
  | moved => rfl

theorem ofLetter_text (file : SampleFile) : ofLetter file.text.toList[2]? = some file := by
  obtain ⟨rest, hrest⟩ := toList_text file
  rw [hrest]
  exact ofLetter_letter file

theorem ofLetter_bytes (file : SampleFile) :
    ofLetter (file.bytes[2]?.map fun b => Char.ofNat b.toNat) = some file := by
  obtain ⟨rest, hrest⟩ := toList_text file
  have hletter : Char.ofNat (UInt8.ofNat file.letter.toNat).toNat = file.letter := by
    cases file with
    | plain => decide
    | waf => decide
    | slow => decide
    | moved => decide
  rw [bytes, hrest]
  simp only [List.map_cons, List.getElem?_cons_succ, List.getElem?_cons_zero, Option.map_some,
    hletter, ofLetter_letter]

theorem validate_config (file : SampleFile) :
    Validation.validate (fun _ => true) file.config = .ok () := by
  cases file with
  | plain => decide
  | waf => decide
  | slow => decide
  | moved => decide

theorem fromUtf8Lossy_bytes (file : SampleFile) : lib.fromUtf8Lossy file.bytes = file.text := by
  simp only [lib, ofLetter_bytes, Option.map_some, Option.getD_some]

theorem parseYaml_text (file : SampleFile) : lib.parseYaml file.text = .ok file.config := by
  simp only [lib, ofLetter_text]

theorem load_bytes (file : SampleFile) : lib.load file.bytes = .ok file.config :=
  load_of_parts (fromUtf8Lossy_bytes file) (parseYaml_text file) (validate_config file)

theorem sha256Hex_bytes (file : SampleFile) : lib.sha256Hex file.bytes = file.sha256 := by
  simp only [lib, ofLetter_bytes, Option.map_some, Option.getD_some]

/-- A plugin directory with the one plugin `waf`. -/
def pluginFiles : PluginFiles where
  pathExists := fun _ => true
  readDir := fun _ => .ok [.ok ⟨"plugins/waf.lua", some "lua", some "waf", .ok wafSource⟩]

/-- A file system without that directory. -/
def noPluginFiles : PluginFiles where
  pathExists := fun _ => false
  readDir := fun _ => .error "No such file or directory"

/-- Two key servers, each with one key; a decoded key is its modulus. -/
def keySource : KeySource String where
  get _ uri :=
    if uri = "https://issuer/jwks" then .ok ⟨[⟨"issuer-1", "RSA", "u1SU1LfV", "AQAB"⟩]⟩
    else if uri = "https://idp/jwks" then .ok ⟨[⟨"idp-1", "RSA", "0vx7agoe", "AQAB"⟩]⟩
    else .error "404 Not Found"
  fromRsaComponents n _ := .ok n

/-- The registry of a start with one of the first three files. -/
def issuerRegistry : JwksCacheRegistry String :=
  AList.insert "main"
    ⟨⟨"main", "https://issuer", "api", "https://issuer/jwks", 300, 30⟩, [⟨"issuer-1", "u1SU1LfV"⟩],
      0⟩ ∅

/-- The runtime of the plain file. -/
def emptyRuntime (generation : ℕ) : PluginRuntime := ⟨generation, {}, ∅⟩

/-- The runtime of the file with a plugin. -/
def wafRuntime (generation : ℕ) : PluginRuntime where
  generation := generation
  limits := {}
  chains := AList.insert "open"
    ⟨[{ id := "open:waf", name := "waf", priority := 10, version := "1.0.0", failOpen := false
        source := wafSource, config := .null }]⟩ ∅

/-- The state after a start with a file that gives this runtime. -/
def started (file : SampleFile) (runtime : PluginRuntime) : AppState String where
  configState :=
    { config := file.config, sha256 := file.sha256, lastReloadUnix := 0
      lastReloadResult := .success, lastReloadError := none }
  configPath := "configs/gateway.yaml"
  envoyConfigPath := none
  jwksRegistry := issuerRegistry
  pluginEngine := some ⟨runtime, 2⟩
  xds := none

theorem startup_started {file : SampleFile} {files : PluginFiles} {runtime : PluginRuntime}
    (hregistry : JwksCacheRegistry.fromConfig keySource (fun _ => 0) file.config.auth =
      .ok issuerRegistry)
    (hruntime : buildRuntime lib.registry files file.config 1 = .ok runtime) :
    startup lib keySource (fun _ => 0) files 0 "configs/gateway.yaml" none file.bytes =
      some (started file runtime) := by
  have hxds : initXds lib file.config = .ok none := by
    cases file with
    | plain => rfl
    | waf => rfl
    | slow => rfl
    | moved => rfl
  have hstate : ConfigState.activate lib file.bytes 0 file.config =
      (started file runtime).configState := by
    rw [ConfigState.activate, sha256Hex_bytes]
    rfl
  rw [startup_of_parts (load_bytes file) hregistry hruntime hxds, hstate]
  rfl

end SampleFile

open SampleFile in
/-- A file that asks for plugins is refused when their directory is missing. -/
theorem failed_reload_changes_nothing_waf :
    SameActive (started plain (emptyRuntime 1)) (configReload SampleFile.lib noPluginFiles
      (started plain (emptyRuntime 1)) 7 (.ok waf.bytes)).state := by
  have hresponse : (configReload SampleFile.lib noPluginFiles (started plain (emptyRuntime 1)) 7
      (.ok waf.bytes)).response =
        some (errorResponse 7 (PluginError.missingDirectory "plugins").display) := by
    rw [configReload_of_load (load_bytes waf)]
    rfl
  exact failed_reload_changes_nothing SampleFile.lib (fun _ => ⟨_, rfl⟩) noPluginFiles
    (started plain (emptyRuntime 1)) 7 (.ok waf.bytes) _ hresponse rfl

end Admin
end OpenApiGateway
