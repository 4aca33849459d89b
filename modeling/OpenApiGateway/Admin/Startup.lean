import OpenApiGateway.Admin.State
import OpenApiGateway.Auth.Lifecycle
import OpenApiGateway.ExtAuthz.Inflight

/-!
# Building the state from an admitted config

`build_state` of `controlplane/src/admin/state.rs` and the two numbers of the config that are
used there and in `auth/jwks_cache.rs` without a check of their size: the permits of the
concurrency semaphore and the lifetime in the staleness threshold. Validation does not bound
either from above. `contained_iff` says which configs keep both in range.
-/

namespace OpenApiGateway
namespace Admin

open Auth ExtAuthz Lib.TransitionSystem Plugins Xds

/-! ## The initial state -/

/-- `Semaphore::new`, which panics above `MAX_PERMITS`. -/
def semaphoreNew (permits : ℕ) : Option ℕ := if permits ≤ maxPermits then some permits else none

section BuildState
variable {κ : Type}

/-- The initial state and the permits of its semaphore; none when it panics. -/
def buildState (lib : ReloadLib) (now : ℤ) (config : GatewayConfig) (rawYaml : List UInt8)
    (configPath : String) (envoyConfigPath : Option String) (jwksRegistry : JwksCacheRegistry κ)
    (pluginEngine : Option PluginEngine) (xds : Option XdsControlPlane) :
    Option (AppState κ × ℕ) := do
  let permits ← semaphoreNew (concurrencyLimit config)
  let configState : ConfigState :=
    { config
      sha256 := lib.sha256Hex rawYaml
      lastReloadUnix := now
      lastReloadResult := .success
      lastReloadError := none }
  return ({ configState, configPath, envoyConfigPath, jwksRegistry, pluginEngine, xds }, permits)

theorem isSome_buildState_iff (lib : ReloadLib) (now : ℤ) (config : GatewayConfig)
    (rawYaml : List UInt8) (configPath : String) (envoyConfigPath : Option String)
    (jwksRegistry : JwksCacheRegistry κ) (pluginEngine : Option PluginEngine)
    (xds : Option XdsControlPlane) :
    (buildState lib now config rawYaml configPath envoyConfigPath jwksRegistry pluginEngine
      xds).isSome = true ↔ concurrencyLimit config ≤ maxPermits := by
  unfold buildState semaphoreNew
  by_cases h : concurrencyLimit config ≤ maxPermits <;> simp [h]

end BuildState

/-! ## Requests on the semaphore -/

/-- Some request gets a permit in some run. -/
def Served (cfg : GatewayConfig) : Prop :=
  ∃ s, Run inflightStep (fun _ _ => True) (InflightSystem.init cfg) s ∧
    RequestPhase.acquired ∈ s.requests

/-- Not every request is rejected as overload exactly when there is a permit at all. -/
theorem served_iff (cfg : GatewayConfig) : Served cfg ↔ 1 ≤ concurrencyLimit cfg := by
  constructor
  · rintro ⟨s, hrun, hacquired⟩
    have hpermits := (InflightInv.of_run hrun).permits
    have hheld : 0 < s.permitsHeld := List.countP_pos_iff.mpr ⟨_, hacquired, rfl⟩
    omega
  · intro hlimit
    have harrive : inflightStep (InflightSystem.init cfg) .arrive =
        some { InflightSystem.init cfg with requests := [.arrived] } := rfl
    have hfree : concurrencyLimit cfg ≠ 0 := by omega
    refine ⟨{ InflightSystem.init cfg with
      free := concurrencyLimit cfg - 1, requests := [.acquired] }, ?_, by simp⟩
    apply Run.snoc (a := .tryAcquire 0) (Run.snoc .init trivial harrive) trivial
    simp [inflightStep, hfree, InflightSystem.setPhase, InflightSystem.init]

/-! ## The bounds -/

/-- Nothing overflows or panics, and not every request is turned away. -/
structure Contained (cfg : GatewayConfig) : Prop where
  threshold : ∀ p ∈ cfg.auth.providers, staleFactor * p.cacheTtlSeconds < 2 ^ 64
  permits : 1 ≤ concurrencyLimit cfg ∧ concurrencyLimit cfg ≤ maxPermits
  /-- Building the state does not panic. -/
  builds : ∀ {κ : Type} (lib : ReloadLib) (now : ℤ) (rawYaml : List UInt8) (configPath : String)
    (envoyConfigPath : Option String) (jwksRegistry : JwksCacheRegistry κ)
    (pluginEngine : Option PluginEngine) (xds : Option XdsControlPlane),
    (buildState lib now cfg rawYaml configPath envoyConfigPath jwksRegistry pluginEngine
      xds).isSome = true
  /-- Staleness is decided by the product itself, at every time. -/
  staleness : ∀ {κ : Type} (cache : JwksCache κ), cache.provider ∈ cfg.auth.providers →
    ∀ now, cache.isStale now = true ↔
      cache.fetchedAt + staleFactor * cache.provider.cacheTtlSeconds * 10 ^ 9 < now
  served : Served cfg

/-- The lifetimes are small enough to be multiplied, and the number of permits, if it is given,
is one a semaphore can have. -/
def WithinBounds (cfg : GatewayConfig) : Prop :=
  (∀ p ∈ cfg.auth.providers, p.cacheTtlSeconds ≤ (2 ^ 64 - 1) / 10) ∧
    ∀ n ∈ cfg.gateway.maxConcurrentRequests, 1 ≤ n ∧ n ≤ maxPermits

instance (cfg : GatewayConfig) : Decidable (WithinBounds cfg) :=
  inferInstanceAs (Decidable (_ ∧ _))

theorem threshold_iff (ttl : ℕ) : staleFactor * ttl < 2 ^ 64 ↔ ttl ≤ (2 ^ 64 - 1) / 10 := by
  rw [staleFactor]
  omega

theorem permits_iff (cfg : GatewayConfig) :
    (1 ≤ concurrencyLimit cfg ∧ concurrencyLimit cfg ≤ maxPermits) ↔
      ∀ n ∈ cfg.gateway.maxConcurrentRequests, 1 ≤ n ∧ n ≤ maxPermits := by
  unfold concurrencyLimit
  cases cfg.gateway.maxConcurrentRequests with
  | none => simp [maxPermits]
  | some n => simp

/-- A config is contained if and only if both numbers are within bounds; validation, which demands
only that a lifetime is not zero, adds nothing to it. -/
theorem contained_iff (cfg : GatewayConfig) : Contained cfg ↔ WithinBounds cfg := by
  constructor
  · intro h
    refine ⟨fun p hp => (threshold_iff _).mp (h.threshold p hp), (permits_iff cfg).mp h.permits⟩
  · rintro ⟨hthreshold, hpermits⟩
    have hproduct : ∀ p ∈ cfg.auth.providers, staleFactor * p.cacheTtlSeconds < 2 ^ 64 :=
      fun p hp => (threshold_iff _).mpr (hthreshold p hp)
    have hlimit := (permits_iff cfg).mpr hpermits
    refine ⟨hproduct, hlimit, ?_, ?_, (served_iff cfg).mpr hlimit.1⟩
    · intro κ lib now rawYaml configPath envoyConfigPath jwksRegistry pluginEngine xds
      exact (isSome_buildState_iff ..).mpr hlimit.2
    · intro κ cache hprovider now
      exact isStale_iff (hproduct cache.provider hprovider) now

/-- A valid config with the given lifetime of the keys and the given permits. -/
def tuned (ttl : ℕ) (permits : Option ℕ) : GatewayConfig :=
  let cfg := Validation.minimalConfig [Validation.minimalRoute "api" ["*"] "/"]
  { cfg with
    auth := ⟨[⟨"main", "https://issuer", "api", "https://issuer/jwks", ttl, 30⟩]⟩
    gateway := { cfg.gateway with maxConcurrentRequests := permits } }

/-- Three accepted configs: the keys of the first are stale as soon as a nanosecond has passed, the
second serves no request, and the third stops the process. -/
theorem tuned_out_of_bounds :
    (Validation.validate (fun _ => true) (tuned (2 ^ 63) none) = .ok () ∧
      ¬ Contained (tuned (2 ^ 63) none) ∧
      ∀ p ∈ (tuned (2 ^ 63) none).auth.providers, ∀ (keys : List (JwksKey Unit)) fetchedAt,
        (⟨p, keys, fetchedAt⟩ : JwksCache Unit).isStale (fetchedAt + 1) = true) ∧
    (Validation.validate (fun _ => true) (tuned 300 (some 0)) = .ok () ∧
      ¬ Contained (tuned 300 (some 0)) ∧ ¬ Served (tuned 300 (some 0))) ∧
    (Validation.validate (fun _ => true) (tuned 300 (some (2 ^ 61))) = .ok () ∧
      ¬ Contained (tuned 300 (some (2 ^ 61))) ∧
      ∀ (lib : ReloadLib) now, buildState lib now (tuned 300 (some (2 ^ 61))) [] "gateway.yaml" none
        (∅ : JwksCacheRegistry Unit) none none = none) := by
  refine ⟨⟨by decide, ?_, ?_⟩, ⟨by decide, ?_, ?_⟩, by decide, ?_, ?_⟩
  · intro h
    exact absurd (h.threshold _ (List.mem_singleton_self _)) (by decide)
  · intro p hp keys fetchedAt
    rw [List.mem_singleton.mp hp]
    simp [JwksCache.isStale, staleFactor]
  · intro h
    exact absurd h.permits.1 (by decide)
  · rw [served_iff]
    decide
  · intro h
    exact absurd h.permits.2 (by decide)
  · intro lib now
    have hlimit : ¬ concurrencyLimit (tuned 300 (some (2 ^ 61))) ≤ maxPermits := by decide
    rw [← isSome_buildState_iff lib now _ [] "gateway.yaml" none (∅ : JwksCacheRegistry Unit) none
      none] at hlimit
    simpa using hlimit

end Admin
end OpenApiGateway
