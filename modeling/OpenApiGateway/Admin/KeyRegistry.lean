import OpenApiGateway.Admin.State
import OpenApiGateway.ExtAuthz.Handler
import OpenApiGateway.Lib.TransitionSystem

/-!
# The key registry across reloads

The JWKS registry is built once, from the config at startup, and a reload does not touch it.
`registry_follows_config` says when this goes unnoticed: as long as no reloaded file has a
provider that the config at startup had not, with exactly the same settings.
`registry_keeps_old_provider` is a reload after which tokens are still verified with the keys
of the provider's old definition.
-/

namespace OpenApiGateway
namespace Admin

open Auth Plugins Xds ExtAuthz Lib.TransitionSystem

/-! ## Reloads and refreshes -/

/-- A reload, or one round of the refresh loop of a provider. -/
inductive KeyAction where
  | reload (files : PluginFiles) (now : ℤ) (read : Except String (List UInt8))
  | refresh (now : ℕ) (name : String)

section Steps
variable {κ : Type} (lib : ReloadLib) (source : KeySource κ)

def keyStep (st : AppState κ) : KeyAction → Option (AppState κ)
  | .reload files now read => some (configReload lib files st now read).state
  | .refresh now name => some { st with jwksRegistry := st.jwksRegistry.refresh source now name }

/-- A reloaded file that loads has no providers but these. -/
def KnownProviders (known : List AuthProvider) (_ : AppState κ) : KeyAction → Prop
  | .reload _ _ (.ok raw) =>
    ∀ config, lib.load raw = .ok config → ∀ provider ∈ config.auth.providers, provider ∈ known
  | _ => True

end Steps

/-! ## What a reload does to config and registry -/

section Reload
variable {κ : Type} (lib : ReloadLib)

/-- The registry is as before, and the active config is as before or this one. -/
def KeysKept (st st' : AppState κ) (config : GatewayConfig) : Prop :=
  st'.jwksRegistry = st.jwksRegistry ∧
    (st'.configState.config = st.configState.config ∨ st'.configState.config = config)

theorem keysKept_rebuildXds (st : AppState κ) (raw : List UInt8) (now : ℤ)
    (config : GatewayConfig) : KeysKept st (rebuildXds lib st raw now config).state config := by
  unfold rebuildXds
  split
  · rw [activateConfig_configState]
    exact ⟨rfl, Or.inr rfl⟩
  · split
    · exact ⟨rfl, Or.inl rfl⟩
    · rw [activateConfig_configState]
      exact ⟨rfl, Or.inr rfl⟩

theorem keysKept_applyConfigReload (files : PluginFiles) (st : AppState κ) (raw : List UInt8)
    (now : ℤ) (config : GatewayConfig) :
    KeysKept st (applyConfigReload lib files st raw now config).state config := by
  unfold applyConfigReload
  split
  · exact keysKept_rebuildXds lib st raw now config
  · split
    · exact ⟨rfl, Or.inl rfl⟩
    · rename_i engine _
      exact keysKept_rebuildXds lib { st with pluginEngine := some engine } raw now config

theorem configReload_jwksRegistry (files : PluginFiles) (st : AppState κ) (now : ℤ)
    (read : Except String (List UInt8)) :
    (configReload lib files st now read).state.jwksRegistry = st.jwksRegistry := by
  unfold configReload
  split
  · rfl
  · split
    · exact (keysKept_applyConfigReload lib _ _ _ _ _).1
    · rfl

/-- After a reload the active config is the old one or that of the file. -/
theorem configReload_config (files : PluginFiles) (st : AppState κ) (now : ℤ)
    (read : Except String (List UInt8)) :
    (configReload lib files st now read).state.configState.config = st.configState.config ∨
      ∃ raw, read = .ok raw ∧ lib.load raw =
        .ok (configReload lib files st now read).state.configState.config := by
  unfold configReload
  split
  · exact Or.inl rfl
  · rename_i raw
    split
    · rename_i config hload
      rcases (keysKept_applyConfigReload lib files st raw now config).2 with hsame | hnew
      · exact Or.inl hsame
      · exact Or.inr ⟨raw, rfl, by rw [hnew, hload]⟩
    · exact Or.inl rfl

end Reload

/-! ## The auth step -/

section Auth
variable {ν κ σ : Type} {source : KeySource κ}

/-- The keys a validation finds after its wait are those of the route's cache after some rounds
of the refresh loop. -/
def WaitsForRefresh (source : KeySource κ) (env : CheckEnv ν κ σ) (route : RouteConfig) : Prop :=
  ∀ cache, env.jwksRegistry.lookup (providerName route) = some cache →
    ∃ times, env.window.keysLater = (cache.afterRefreshes source times).keys

/-- The auth step knows the provider of the route, looks at its cache only, and accepts tokens
only on keys that were fetched from it. -/
structure AuthServed (source : KeySource κ) (env : CheckEnv ν κ σ) (cfg : GatewayConfig)
    (route : RouteConfig) (outcome : AuthOutcome ν κ) : Prop where
  known : .recordAuthFailure route.name "unknown_provider" ∉ outcome.effects
  calls : ∀ call ∈ outcome.authCalls, call.provider ∈ cfg.auth.providers ∧
    KeptFrom source call.provider call.cache
  keys : ∀ call ∈ outcome.authCalls, ∀ identity, call.result = .ok identity →
    ∃ keys fetchedAt now, fetchKeys source fetchedAt call.provider.jwksUri = .ok keys ∧
      validateToken env.jwt now call.token call.provider keys call.requiredScopes = .ok identity

/-- No error of a validation is reported as an unknown provider. -/
theorem errorCode_ne_unknown_provider (e : AuthError) : e.errorCode ≠ "unknown_provider" := by
  cases e <;> simp [AuthError.errorCode]

/-- A denial that is not about an unknown provider, before any cache is looked at. -/
theorem authServed_denied (env : CheckEnv ν κ σ) (cfg : GatewayConfig) (route : RouteConfig)
    (headers : HeaderMap ν) {reason : String} (hreason : reason ≠ "unknown_provider")
    (status : ℕ) (errorCode : String) :
    AuthServed source env cfg route (authDenied route headers reason status errorCode []) := by
  refine ⟨?_, ?_, ?_⟩
  · simpa [authDenied] using hreason.symm
  · exact fun call hcall => absurd hcall (List.not_mem_nil)
  · exact fun call hcall => absurd hcall (List.not_mem_nil)

/-- A validation with the cache of a provider. -/
theorem keys_of_validateWithRefresh {env : CheckEnv ν κ σ} {token : String}
    {provider : AuthProvider} {cache : JwksCache κ} {requiredScopes : List String}
    {identity : ValidatedIdentity} (hkept : KeptFrom source provider cache)
    (hwait : ∃ times, env.window.keysLater = (cache.afterRefreshes source times).keys)
    (h : validateWithRefresh env.jwt env.window token provider cache requiredScopes =
      .ok identity) :
    ∃ keys fetchedAt now, fetchKeys source fetchedAt provider.jwksUri = .ok keys ∧
      validateToken env.jwt now token provider keys requiredScopes = .ok identity := by
  rcases validateToken_of_validateWithRefresh h with hnow | hlater
  -- on the keys as they were, or on those of the same cache after the wait
  · obtain ⟨fetchedAt, hkeys⟩ := hkept.2
    exact ⟨cache.keys, fetchedAt, env.window.now, hkeys, hnow⟩
  · obtain ⟨times, htimes⟩ := hwait
    obtain ⟨fetchedAt, hkeys⟩ := (hkept.afterRefreshes times).2
    rw [← htimes] at hkeys
    exact ⟨env.window.keysLater, fetchedAt, env.window.later, hkeys, hlater⟩

/-- A call with the cache of a provider of the config. -/
theorem authServed_answer {env : CheckEnv ν κ σ} {cfg : GatewayConfig} {route : RouteConfig}
    {requestHeaders : RequestHeaders ν} {call : AuthCall κ}
    (hcalled : Called env cfg route requestHeaders call)
    (hprovider : call.provider ∈ cfg.auth.providers)
    (hkept : KeptFrom source call.provider call.cache) (hwait : WaitsForRefresh source env route)
    (headers : HeaderMap ν) :
    AuthServed source env cfg route (authAnswer env.http route headers call) := by
  refine ⟨?_, fun call' hcall => ?_, fun call' hcall identity hresult => ?_⟩
  · unfold authAnswer
    split
    · exact List.not_mem_nil
    · rename_i e _
      simpa [authDenied] using (errorCode_ne_unknown_provider e).symm
  · rw [authAnswer_authCalls, List.mem_singleton] at hcall
    rw [hcall]
    exact ⟨hprovider, hkept⟩
  · rw [authAnswer_authCalls, List.mem_singleton] at hcall
    rw [hcall, hcalled.result] at hresult
    rw [hcall]
    exact keys_of_validateWithRefresh hkept (hwait call.cache hcalled.cache) hresult

/-- The provider of a route that requires authentication, in a config that was accepted. -/
theorem exists_find_provider {urlOk : String → Bool} {cfg : GatewayConfig} {route : RouteConfig}
    (h : Validation.Accepted urlOk cfg) (hroute : route ∈ cfg.routes)
    (hauth : route.authRequired = true) :
    ∃ provider, (cfg.auth.providers.find? fun p => p.name == providerName route) =
      some provider ∧ provider ∈ cfg.auth.providers ∧ provider.name = providerName route := by
  have haccepted := h.routes route hroute
  obtain ⟨name, hname⟩ := Option.ne_none_iff_exists'.mp (haccepted.provider_isSome hauth)
  have hmem := haccepted.provider_mem hauth name hname
  obtain ⟨provider, hprovider, hprovidername⟩ := List.mem_map.mp hmem
  have hnamed : providerName route = name := by rw [providerName, hname, Option.getD_some]
  have hsome : (cfg.auth.providers.find? fun p => p.name == providerName route).isSome := by
    rw [List.find?_isSome]
    exact ⟨provider, hprovider, by simp [hprovidername, hnamed]⟩
  obtain ⟨found, hfound⟩ := Option.isSome_iff_exists.mp hsome
  have hfoundname := List.find?_some hfound
  exact ⟨found, hfound, List.mem_of_find?_eq_some hfound, by simpa using hfoundname⟩

theorem authServed_applyAuth {urlOk : String → Bool} {env : CheckEnv ν κ σ} {cfg : GatewayConfig}
    {route : RouteConfig} (hcovers : Covers source env.jwksRegistry cfg.auth.providers)
    (haccepted : Validation.Accepted urlOk cfg) (hroute : route ∈ cfg.routes)
    (hauth : route.authRequired = true) (hwait : WaitsForRefresh source env route)
    (requestHeaders : RequestHeaders ν) (headers : HeaderMap ν) :
    AuthServed source env cfg route (applyAuth env cfg route requestHeaders headers) := by
  obtain ⟨provider, hfind, hprovider, hname⟩ := exists_find_provider haccepted hroute hauth
  obtain ⟨cache, hlookup, hkept⟩ := hcovers provider hprovider
  rw [hname] at hlookup
  rcases applyAuth_outcomes env cfg route requestHeaders with
    ⟨hopen, -⟩ | ⟨-, reason, hreason, hout⟩ | ⟨-, hmissing, -⟩ | ⟨-, call, hcalled, hout⟩
  · rw [hauth] at hopen
    simp at hopen
  · rw [hout]
    refine authServed_denied env cfg route headers ?_ 401 reason
    rintro rfl
    simp at hreason
  · -- the provider is in the config and has its cache
    rw [hfind, hlookup] at hmissing
    simp at hmissing
  · rw [hout]
    have hsame : provider = call.provider := Option.some.inj (hfind.symm.trans hcalled.provider)
    have hcache : cache = call.cache := Option.some.inj (hlookup.symm.trans hcalled.cache)
    rw [hsame] at hprovider
    rw [hsame, hcache] at hkept
    exact authServed_answer hcalled hprovider hkept hwait headers

end Auth

/-! ## Runs -/

section Runs
variable {κ : Type} {lib : ReloadLib} {source : KeySource κ}

/-- The registry has, for each provider of the active config, the keys of that provider; so
the auth step serves every route of the config that requires authentication. -/
structure RegistryFollows (source : KeySource κ) (st : AppState κ) : Prop where
  covers : Covers source st.jwksRegistry st.configState.config.auth.providers
  serves : ∀ (ν σ : Type) (env : CheckEnv ν κ σ), env.jwksRegistry = st.jwksRegistry →
    ∀ route ∈ st.configState.config.routes, route.authRequired = true →
      WaitsForRefresh source env route → ∀ requestHeaders headers,
        AuthServed source env st.configState.config route
          (applyAuth env st.configState.config route requestHeaders headers)

/-- The invariant: the registry keeps to the providers of startup, and the active config has no
others. -/
structure KeepsTo (lib : ReloadLib) (source : KeySource κ) (known : List AuthProvider)
    (st : AppState κ) : Prop where
  covers : Covers source st.jwksRegistry known
  subset : ∀ provider ∈ st.configState.config.auth.providers, provider ∈ known
  accepted : Validation.Accepted lib.urlOk st.configState.config

theorem KeepsTo.step {known : List AuthProvider} {st st' : AppState κ} {a : KeyAction}
    (h : KeepsTo lib source known st) (hknown : KnownProviders lib known st a)
    (hstep : keyStep lib source st a = some st') : KeepsTo lib source known st' := by
  cases a with
  | refresh now name =>
    rw [← Option.some.inj hstep]
    exact ⟨h.covers.refresh now name, h.subset, h.accepted⟩
  | reload files now read =>
    rw [← Option.some.inj hstep]
    have hcovers : Covers source (configReload lib files st now read).state.jwksRegistry known := by
      rw [configReload_jwksRegistry]
      exact h.covers
    -- a refused file leaves the active config, any other has only known providers
    rcases configReload_config lib files st now read with hsame | ⟨raw, rfl, hload⟩
    · refine ⟨hcovers, ?_, ?_⟩
      · rw [hsame]
        exact h.subset
      · rw [hsame]
        exact h.accepted
    · exact ⟨hcovers, hknown _ hload, Validation.accepted_of_load hload⟩

theorem KeepsTo.registryFollows {known : List AuthProvider} {st : AppState κ}
    (h : KeepsTo lib source known st) : RegistryFollows source st := by
  have hcovers : Covers source st.jwksRegistry st.configState.config.auth.providers :=
    fun provider hprovider => h.covers provider (h.subset provider hprovider)
  refine ⟨hcovers, fun ν σ env henv route hroute hauth hwait requestHeaders headers => ?_⟩
  rw [← henv] at hcovers
  exact authServed_applyAuth hcovers h.accepted hroute hauth hwait requestHeaders headers

/-- In every state reached from startup by reloads, successful or not, and refreshes, as long
as each reloaded file that loads has no provider the config at startup had not: the registry
has the keys of every provider of the active config, and the auth step uses no others. -/
theorem registry_follows_config (lib : ReloadLib) (source : KeySource κ)
    (fetchedAt : AuthProvider → ℕ) (files : PluginFiles) (now : ℤ) (configPath : String)
    (envoyConfigPath : Option String) (raw : List UInt8) (app st : AppState κ)
    (hstart : startup lib source fetchedAt files now configPath envoyConfigPath raw = some app)
    (hrun : Run (keyStep lib source)
      (KnownProviders lib app.configState.config.auth.providers) app st) :
    RegistryFollows source st := by
  have hinit : KeepsTo lib source app.configState.config.auth.providers app := by
    obtain ⟨config, registry, runtime, xds, hload, hregistry, -, -, rfl⟩ := startup_cases hstart
    have haccepted := Validation.accepted_of_load hload
    exact ⟨covers_fromConfig hregistry haccepted.providers_nodup, fun _ h => h, haccepted⟩
  have hend := hrun.invariant hinit fun _ _ _ h hknown hstep => h.step hknown hstep
  exact hend.registryFollows

end Runs

section Samples
open SampleFile

/-- A reload that leaves the provider as it is, and a refresh. -/
theorem registry_follows_config_waf :
    ∃ st, Run (keyStep SampleFile.lib keySource)
        (KnownProviders SampleFile.lib plain.config.auth.providers)
        (started plain (emptyRuntime 1)) st ∧
      st.configState.config = waf.config ∧ RegistryFollows keySource st := by
  have hreload : keyStep SampleFile.lib keySource (started plain (emptyRuntime 1))
      (.reload pluginFiles 7 (.ok waf.bytes)) =
      some (applyConfigReload SampleFile.lib pluginFiles (started plain (emptyRuntime 1))
        waf.bytes 7 waf.config).state := by
    rw [keyStep, configReload_of_load (load_bytes waf)]
  have hknown : KnownProviders SampleFile.lib plain.config.auth.providers
      (started plain (emptyRuntime 1)) (.reload pluginFiles 7 (.ok waf.bytes)) := by
    intro config hload provider hprovider
    rw [load_bytes, Except.ok.injEq] at hload
    rw [← hload] at hprovider
    exact hprovider
  have hrun : Run (keyStep SampleFile.lib keySource)
      (KnownProviders SampleFile.lib plain.config.auth.providers) (started plain (emptyRuntime 1))
      { (applyConfigReload SampleFile.lib pluginFiles (started plain (emptyRuntime 1)) waf.bytes 7
          waf.config).state with
        jwksRegistry := issuerRegistry.refresh keySource 300 "main" } :=
    (Run.init.snoc hknown hreload).snoc (a := .refresh 300 "main") trivial rfl
  exact ⟨_, hrun, rfl, registry_follows_config SampleFile.lib keySource (fun _ => 0) pluginFiles 0
    "configs/gateway.yaml" none plain.bytes _ _ (startup_started rfl rfl) hrun⟩

/-- A reload moves the provider to another issuer and answers with success. The cache of the
provider is still the one of the old issuer. -/
theorem registry_keeps_old_provider :
    startup SampleFile.lib keySource (fun _ => 0) pluginFiles 0 "configs/gateway.yaml" none
        plain.bytes = some (started plain (emptyRuntime 1)) ∧
      ∃ st, Run (keyStep SampleFile.lib keySource) (fun _ _ => True)
          (started plain (emptyRuntime 1)) st ∧
        st.configState.config = moved.config ∧ st.configState.lastReloadResult = .success ∧
        st.jwksRegistry = issuerRegistry ∧ ¬ RegistryFollows keySource st := by
  have hstep : keyStep SampleFile.lib keySource (started plain (emptyRuntime 1))
      (.reload pluginFiles 7 (.ok moved.bytes)) =
      some (applyConfigReload SampleFile.lib pluginFiles (started plain (emptyRuntime 1))
        moved.bytes 7 moved.config).state := by
    rw [keyStep, configReload_of_load (load_bytes moved)]
  refine ⟨startup_started rfl rfl, _, Run.init.snoc trivial hstep, rfl, rfl, rfl, fun h => ?_⟩
  obtain ⟨cache, hlookup, hprovider, -⟩ := h.covers
    ⟨"main", "https://idp", "api", "https://idp/jwks", 300, 30⟩ (List.mem_singleton_self _)
  have hcached : some cache = issuerRegistry.lookup "main" := hlookup.symm
  rw [issuerRegistry, AList.lookup_insert, Option.some.injEq] at hcached
  rw [hcached] at hprovider
  exact absurd hprovider (by decide)

end Samples

end Admin
end OpenApiGateway
