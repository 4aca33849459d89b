import OpenApiGateway.Auth.Validator
import OpenApiGateway.Lib.KeyedLoop

/-!
# Filling and refreshing the key caches

`controlplane/src/auth/jwks_cache.rs` and `registry.rs`: one cache per provider, filled when
the registry is built at startup and refilled by the provider's refresh loop. The key servers
and the RSA decoder are the parameter `KeySource`. `KeptFrom` says where the keys of a
cache come from, and `Covers` that a registry has such a cache for each of some providers.
-/

namespace OpenApiGateway
namespace Auth

/-- A single key entry in a JWKS JSON response. -/
structure JwksRawKey where
  kid : String
  kty : String
  n : String
  e : String
deriving DecidableEq

/-- Raw JWKS JSON response from an identity provider. -/
structure JwksDocument where
  keys : List JwksRawKey
deriving DecidableEq

/-- The key servers, asked at a time for the document at a URI, and the RSA decoder. -/
structure KeySource (κ : Type) where
  get : ℕ → String → Except String JwksDocument
  fromRsaComponents : String → String → Except String κ

section Registry
variable {κ : Type} (source : KeySource κ)

/-- Parse raw JWKS keys; all but RSA keys are skipped. -/
def parseJwksKeys : List JwksRawKey → Except AuthError (List (JwksKey κ))
  | [] => .ok []
  | raw :: rest =>
    if raw.kty ≠ "RSA" then parseJwksKeys rest
    else
      match source.fromRsaComponents raw.n raw.e with
      | .error reason =>
        .error (.jwksFetch s!"failed to parse RSA key kid={raw.kid}: {reason}")
      | .ok decodingKey =>
        match parseJwksKeys rest with
        | .error e => .error e
        | .ok keys => .ok (⟨raw.kid, decodingKey⟩ :: keys)

/-- The keys at a URI, at the time they are fetched. -/
def fetchKeys (now : ℕ) (uri : String) : Except AuthError (List (JwksKey κ)) :=
  match source.get now uri with
  | .error reason => .error (.jwksFetch reason)
  | .ok doc => parseJwksKeys source doc.keys

/-- Create a new cache and perform the initial JWKS fetch. -/
def JwksCache.new (now : ℕ) (provider : AuthProvider) : Except AuthError (JwksCache κ) :=
  match fetchKeys source now provider.jwksUri with
  | .error e => .error e
  | .ok keys => .ok ⟨provider, keys, now⟩

/-- Fetch and update the cache; a failed fetch leaves it as it is. -/
def JwksCache.fetchAndStore (now : ℕ) (cache : JwksCache κ) : JwksCache κ :=
  match fetchKeys source now cache.provider.jwksUri with
  | .error _ => cache
  | .ok keys => { cache with keys := keys, fetchedAt := now }

/-- The cache after some rounds of its refresh loop. -/
def JwksCache.afterRefreshes (times : List ℕ) (cache : JwksCache κ) : JwksCache κ :=
  times.foldl (fun cache now => cache.fetchAndStore source now) cache

namespace JwksCacheRegistry

/-- Build the registry by fetching JWKS for every configured provider, each at its time. -/
def fromConfig (now : AuthProvider → ℕ) (auth : AuthConfig) :
    Except AuthError (JwksCacheRegistry κ) :=
  Lib.KeyedLoop.insertEach AuthProvider.name
    (fun provider => JwksCache.new source (now provider) provider) auth.providers ∅

/-- One round of the refresh loop of a provider. -/
def refresh (now : ℕ) (name : String) (caches : JwksCacheRegistry κ) : JwksCacheRegistry κ :=
  match caches.lookup name with
  | none => caches
  | some cache => caches.insert name (cache.fetchAndStore source now)

end JwksCacheRegistry

/-- The cache is the provider's, with keys that were fetched from its URI at some time. -/
def KeptFrom (provider : AuthProvider) (cache : JwksCache κ) : Prop :=
  cache.provider = provider ∧ ∃ now, fetchKeys source now provider.jwksUri = .ok cache.keys

variable {source}

theorem keptFrom_new {now : ℕ} {provider : AuthProvider} {cache : JwksCache κ}
    (h : JwksCache.new source now provider = .ok cache) : KeptFrom source provider cache := by
  unfold JwksCache.new at h
  split at h
  · simp at h
  · rename_i keys hkeys
    rw [← Except.ok.inj h]
    exact ⟨rfl, now, hkeys⟩

theorem KeptFrom.fetchAndStore {provider : AuthProvider} {cache : JwksCache κ}
    (h : KeptFrom source provider cache) (now : ℕ) :
    KeptFrom source provider (cache.fetchAndStore source now) := by
  obtain ⟨hprovider, hkeys⟩ := h
  unfold JwksCache.fetchAndStore
  split
  · -- a failed fetch keeps the keys of an earlier one
    exact ⟨hprovider, hkeys⟩
  · rename_i keys hfetched
    rw [hprovider] at hfetched
    exact ⟨hprovider, now, hfetched⟩

theorem KeptFrom.afterRefreshes {provider : AuthProvider} {cache : JwksCache κ}
    (h : KeptFrom source provider cache) (times : List ℕ) :
    KeptFrom source provider (cache.afterRefreshes source times) := by
  induction times generalizing cache with
  | nil => exact h
  | cons now times ih => exact ih (h.fetchAndStore now)

/-- The registry has, for each of the providers, a cache kept from it. -/
def Covers (source : KeySource κ) (caches : JwksCacheRegistry κ) (providers : List AuthProvider) :
    Prop :=
  ∀ provider ∈ providers, ∃ cache, caches.lookup provider.name = some cache ∧
    KeptFrom source provider cache

/-- Provider names being distinct, a registry that was built covers all of them. -/
theorem covers_fromConfig {now : AuthProvider → ℕ} {auth : AuthConfig}
    {caches : JwksCacheRegistry κ}
    (h : JwksCacheRegistry.fromConfig source now auth = .ok caches)
    (hnodup : (auth.providers.map AuthProvider.name).Nodup) :
    Covers source caches auth.providers := by
  intro provider hprovider
  obtain ⟨cache, hcache, hlookup⟩ := Lib.KeyedLoop.lookup_insertEach h hnodup hprovider
  exact ⟨cache, hlookup, keptFrom_new hcache⟩

/-- A round of a refresh loop changes keys only to newer ones of the same provider. -/
theorem Covers.refresh {caches : JwksCacheRegistry κ} {providers : List AuthProvider}
    (h : Covers source caches providers) (now : ℕ) (name : String) :
    Covers source (caches.refresh source now name) providers := by
  intro provider hprovider
  obtain ⟨cache, hlookup, hkept⟩ := h provider hprovider
  unfold JwksCacheRegistry.refresh
  split
  · exact ⟨cache, hlookup, hkept⟩
  · rename_i refreshed hrefreshed
    by_cases hname : provider.name = name
    · rw [hname, hrefreshed, Option.some.injEq] at hlookup
      subst hlookup
      rw [hname]
      exact ⟨_, AList.lookup_insert _, hkept.fetchAndStore now⟩
    · exact ⟨cache, by rw [AList.lookup_insert_ne hname, hlookup], hkept⟩

end Registry

end Auth
end OpenApiGateway
