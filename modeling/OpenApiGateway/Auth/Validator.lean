import Mathlib.Data.List.AList
import OpenApiGateway.Config.Types

/-!
# Token validation and the JWKS cache

`controlplane/src/auth/`: the token validator, its errors, the key cache of one provider and
the retry after a refresh. Reading a token and checking its signature and registered claims
is `jsonwebtoken`'s, the parameter `JwtLib`; a decoding key is of an abstract type `κ`.
Times are in nanoseconds.
-/

namespace OpenApiGateway
namespace Auth

open Lib.Text

/-! ## Tokens -/

/-- The signature algorithm of a token, as far as the validator tells them apart. -/
inductive Algorithm where
  | rs256
  | other (name : String)
deriving DecidableEq

structure TokenHeader where
  alg : Algorithm
  kid : Option String
deriving DecidableEq

inductive Audience where
  | single (value : String)
  | multiple (values : List String)
deriving DecidableEq

def Audience.toList : Audience → List String
  | single value => [value]
  | multiple values => values

structure Claims where
  sub : Option String
  iss : Option String
  aud : Audience := .multiple []
  exp : Option ℤ
  nbf : Option ℤ
  scope : Option String
  scp : Option (List String)
deriving DecidableEq

/-- The kinds of a decoding error that the validator tells apart. -/
inductive ErrorKind where
  | invalidSignature
  | invalidIssuer
  | invalidAudience
  | expiredSignature
  | immatureSignature
  | other
deriving DecidableEq

/-- What a token is checked against. -/
structure TokenValidation where
  issuer : String
  audience : String
  leeway : ℕ
  validateExp : Bool
  validateNbf : Bool
  requiredSpecClaims : List String
deriving DecidableEq

/-- What the validator uses of `jsonwebtoken`; decoding looks at the time. -/
structure JwtLib (κ : Type) where
  decodeHeader : String → Option TokenHeader
  decode : ℕ → String → κ → TokenValidation → Except ErrorKind Claims

/-- Identity of a validated token. -/
structure ValidatedIdentity where
  sub : String
  iss : String
  aud : List String
  scopes : List String
  expUnix : ℤ
deriving DecidableEq

/-! ## Errors -/

inductive AuthError where
  | missingToken
  | invalidTokenFormat
  | invalidToken
  | unsupportedAlgorithm
  | unknownKeyId
  | invalidSignature
  | invalidIssuer
  | invalidAudience
  | tokenExpired
  | tokenNotYetValid
  | missingSubject
  | insufficientScopes
  | authProviderUnavailable
  | jwksFetch (message : String)
deriving DecidableEq

namespace AuthError

def httpStatus : AuthError → ℕ
  | insufficientScopes => 403
  | authProviderUnavailable => 503
  | jwksFetch _ => 503
  | _ => 401

def errorCode : AuthError → String
  | missingToken => "missing_token"
  | invalidTokenFormat => "invalid_token_format"
  | invalidToken => "invalid_token"
  | unsupportedAlgorithm => "unsupported_algorithm"
  | unknownKeyId => "unknown_key_id"
  | invalidSignature => "invalid_signature"
  | invalidIssuer => "invalid_issuer"
  | invalidAudience => "invalid_audience"
  | tokenExpired => "token_expired"
  | tokenNotYetValid => "token_not_yet_valid"
  | missingSubject => "missing_subject"
  | insufficientScopes => "insufficient_scopes"
  | authProviderUnavailable => "auth_provider_unavailable"
  | jwksFetch _ => "auth_provider_unavailable"

/-- No authentication error is answered with an allow. -/
theorem httpStatus_ne_ok (e : AuthError) : e.httpStatus ≠ 200 := by
  cases e <;> simp [httpStatus]

end AuthError

/-! ## Validating a token -/

structure JwksKey (κ : Type) where
  kid : String
  decodingKey : κ

/-- What a token is checked against for a provider. -/
def providerValidation (provider : AuthProvider) : TokenValidation where
  issuer := provider.issuer
  audience := provider.audience
  leeway := provider.clockSkewSeconds
  validateExp := true
  validateNbf := true
  requiredSpecClaims := ["exp", "iss", "aud"]

section Validator
variable {κ : Type} (jwt : JwtLib κ)

def decodeAndVerify (now : ℕ) (rawToken : String) (decodingKey : κ) (provider : AuthProvider) :
    Except AuthError Claims :=
  match jwt.decode now rawToken decodingKey (providerValidation provider) with
  | .ok claims => .ok claims
  | .error .invalidSignature => .error .invalidSignature
  | .error .invalidIssuer => .error .invalidIssuer
  | .error .invalidAudience => .error .invalidAudience
  | .error .expiredSignature => .error .tokenExpired
  | .error .immatureSignature => .error .tokenNotYetValid
  | .error .other => .error .invalidToken

def extractScopes (claims : Claims) : List String :=
  match claims.scope, claims.scp with
  | some scope, _ => splitWhitespace scope
  | none, some scp => scp
  | none, none => []

def checkScopes (tokenScopes : List String) : List String → Except AuthError Unit
  | [] => .ok ()
  | req :: required =>
    if req ∈ tokenScopes then checkScopes tokenScopes required else .error .insufficientScopes

def validateToken (now : ℕ) (rawToken : String) (provider : AuthProvider)
    (keys : List (JwksKey κ)) (requiredScopes : List String) :
    Except AuthError ValidatedIdentity :=
  match jwt.decodeHeader rawToken with
  | none => .error .invalidToken
  | some header =>
    if header.alg ≠ .rs256 then .error .unsupportedAlgorithm
    else
      match header.kid with
      | none => .error .unknownKeyId
      | some kid =>
        match keys.find? fun k => k.kid == kid with
        | none => .error .unknownKeyId
        | some key => do
          let claims ← decodeAndVerify jwt now rawToken key.decodingKey provider
          let tokenScopes := extractScopes claims
          -- scopes are checked before the subject
          checkScopes tokenScopes requiredScopes
          match claims.sub with
          | none => .error .missingSubject
          | some sub =>
            .ok
              { sub := sub
                iss := claims.iss.getD ""
                aud := claims.aud.toList
                scopes := tokenScopes
                expUnix := claims.exp.getD 0 }

theorem checkScopes_ok_iff {tokenScopes required : List String} :
    checkScopes tokenScopes required = .ok () ↔ ∀ s ∈ required, s ∈ tokenScopes := by
  induction required with
  | nil => simp [checkScopes]
  | cons req required ih =>
    rw [checkScopes]
    by_cases hreq : req ∈ tokenScopes
    · simp [hreq, ih]
    · simp [hreq]

/-! ### Which tokens are accepted -/

/-- The token names `RS256` and a key id, and the first key with that id verifies it for the
provider, with these claims. -/
def Verified (now : ℕ) (rawToken : String) (provider : AuthProvider) (keys : List (JwksKey κ))
    (claims : Claims) : Prop :=
  ∃ kid before key after, jwt.decodeHeader rawToken = some ⟨.rs256, some kid⟩ ∧
    keys = before ++ key :: after ∧ key.kid = kid ∧ (∀ k ∈ before, k.kid ≠ kid) ∧
    jwt.decode now rawToken key.decodingKey (providerValidation provider) = .ok claims

/-- The scopes of a token: the words of its `scope` claim or, without one, its `scp` claim. -/
def claimedScopes (claims : Claims) : List String :=
  claims.scope.elim (claims.scp.getD []) splitWhitespace

/-- The identity says what the claims say. -/
structure ValidatedIdentity.Carries (identity : ValidatedIdentity) (claims : Claims) : Prop where
  sub : claims.sub = some identity.sub
  iss : identity.iss = claims.iss.getD ""
  aud : identity.aud = claims.aud.toList
  scopes : identity.scopes = claimedScopes claims
  expUnix : identity.expUnix = claims.exp.getD 0

theorem extractScopes_eq (claims : Claims) : extractScopes claims = claimedScopes claims := by
  unfold extractScopes claimedScopes
  cases claims.scope with
  | some scope => rfl
  | none =>
    cases claims.scp with
    | some scp => rfl
    | none => rfl

/-- The errors of a token that is not verified. -/
def verificationErrors : List AuthError :=
  [.invalidToken, .unsupportedAlgorithm, .unknownKeyId, .invalidSignature, .invalidIssuer,
    .invalidAudience, .tokenExpired, .tokenNotYetValid]

theorem decodeAndVerify_cases (now : ℕ) (rawToken : String) (decodingKey : κ)
    (provider : AuthProvider) :
    (∃ claims, jwt.decode now rawToken decodingKey (providerValidation provider) = .ok claims ∧
      decodeAndVerify jwt now rawToken decodingKey provider = .ok claims) ∨
    ((∀ claims, jwt.decode now rawToken decodingKey (providerValidation provider) ≠ .ok claims) ∧
      ∃ e ∈ verificationErrors,
        decodeAndVerify jwt now rawToken decodingKey provider = .error e) := by
  unfold decodeAndVerify
  cases jwt.decode now rawToken decodingKey (providerValidation provider) with
  | ok claims => exact Or.inl ⟨claims, rfl, rfl⟩
  | error kind =>
    refine Or.inr ⟨by simp, ?_⟩
    cases kind <;> exact ⟨_, by decide, rfl⟩

/-- What is left to check of a verified token: its scopes and its subject. -/
def acceptClaims (claims : Claims) (requiredScopes : List String) :
    Except AuthError ValidatedIdentity := do
  checkScopes (extractScopes claims) requiredScopes
  match claims.sub with
  | none => .error .missingSubject
  | some sub =>
    .ok
      { sub := sub
        iss := claims.iss.getD ""
        aud := claims.aud.toList
        scopes := extractScopes claims
        expUnix := claims.exp.getD 0 }

theorem acceptClaims_of_missing {claims : Claims} {requiredScopes : List String}
    (h : ¬ ∀ s ∈ requiredScopes, s ∈ claimedScopes claims) :
    acceptClaims claims requiredScopes = .error .insufficientScopes := by
  have hcheck : checkScopes (claimedScopes claims) requiredScopes = .error .insufficientScopes := by
    induction requiredScopes with
    | nil => simp at h
    | cons req required ih =>
      rw [checkScopes]
      split
      · rename_i hreq
        exact ih fun hall => h (List.forall_mem_cons.mpr ⟨hreq, hall⟩)
      · rfl
  rw [acceptClaims, extractScopes_eq, hcheck]
  rfl

theorem acceptClaims_of_scopes {claims : Claims} {requiredScopes : List String}
    (h : ∀ s ∈ requiredScopes, s ∈ claimedScopes claims) :
    acceptClaims claims requiredScopes =
      match claims.sub with
      | none => .error .missingSubject
      | some sub =>
        .ok ⟨sub, claims.iss.getD "", claims.aud.toList, claimedScopes claims,
          claims.exp.getD 0⟩ := by
  have hcheck := checkScopes_ok_iff.mpr h
  rw [acceptClaims, extractScopes_eq, hcheck]
  rfl

theorem acceptClaims_ok_iff {claims : Claims} {requiredScopes : List String}
    {identity : ValidatedIdentity} :
    acceptClaims claims requiredScopes = .ok identity ↔
      (∀ s ∈ requiredScopes, s ∈ claimedScopes claims) ∧ identity.Carries claims := by
  by_cases hscopes : ∀ s ∈ requiredScopes, s ∈ claimedScopes claims
  · rw [acceptClaims_of_scopes hscopes]
    constructor
    · intro h
      split at h
      · simp at h
      · rename_i sub hsub
        rw [← Except.ok.inj h]
        exact ⟨hscopes, hsub, rfl, rfl, rfl, rfl⟩
    · rintro ⟨-, hcarries⟩
      rw [hcarries.sub]
      simp only [← hcarries.iss, ← hcarries.aud, ← hcarries.scopes, ← hcarries.expUnix]
  · rw [acceptClaims_of_missing hscopes]
    simp [hscopes]

variable {jwt}

section Validated
variable {now : ℕ} {rawToken : String} {provider : AuthProvider} {keys : List (JwksKey κ)}
  {claims : Claims}

/-- The key is the one the lookup by id finds. -/
theorem verified_iff : Verified jwt now rawToken provider keys claims ↔
    ∃ kid key, jwt.decodeHeader rawToken = some ⟨.rs256, some kid⟩ ∧
      (keys.find? fun k => k.kid == kid) = some key ∧
      jwt.decode now rawToken key.decodingKey (providerValidation provider) = .ok claims := by
  unfold Verified
  constructor
  · rintro ⟨kid, before, key, after, hheader, rfl, hkid, hbefore, hdecode⟩
    refine ⟨kid, key, hheader, ?_, hdecode⟩
    rw [List.find?_eq_some_iff_append]
    exact ⟨by simpa using hkid, before, after, rfl, fun k hk => by simpa using hbefore k hk⟩
  · rintro ⟨kid, key, hheader, hfind, hdecode⟩
    obtain ⟨hkid, before, after, hkeys, hbefore⟩ := List.find?_eq_some_iff_append.mp hfind
    exact ⟨kid, before, key, after, hheader, hkeys, by simpa using hkid,
      fun k hk => by simpa using hbefore k hk, hdecode⟩

/-- Header, key and time decide the claims. -/
theorem Verified.unique {claims' : Claims} (h : Verified jwt now rawToken provider keys claims)
    (h' : Verified jwt now rawToken provider keys claims') : claims = claims' := by
  obtain ⟨kid, key, hheader, hfind, hdecode⟩ := verified_iff.mp h
  obtain ⟨kid', key', hheader', hfind', hdecode'⟩ := verified_iff.mp h'
  rw [hheader'] at hheader
  simp only [Option.some.injEq, TokenHeader.mk.injEq, true_and] at hheader
  rw [hheader, hfind, Option.some.injEq] at hfind'
  rw [← hfind', hdecode] at hdecode'
  exact Except.ok.inj hdecode'

/-- A verified token is left to its claims; any other is refused with one of the errors. -/
theorem validateToken_cases (now : ℕ) (rawToken : String) (provider : AuthProvider)
    (keys : List (JwksKey κ)) (requiredScopes : List String) :
    (∃ claims, Verified jwt now rawToken provider keys claims ∧
      validateToken jwt now rawToken provider keys requiredScopes =
        acceptClaims claims requiredScopes) ∨
    ((∀ claims, ¬ Verified jwt now rawToken provider keys claims) ∧
      ∃ e ∈ verificationErrors,
        validateToken jwt now rawToken provider keys requiredScopes = .error e) := by
  simp only [verified_iff]
  unfold validateToken
  cases hheader : jwt.decodeHeader rawToken with
  | none => exact Or.inr ⟨by simp, _, by decide, rfl⟩
  | some header =>
    obtain ⟨alg, kid⟩ := header
    by_cases halg : alg = .rs256
    · subst halg
      cases kid with
      | none => exact Or.inr ⟨by simp, .unknownKeyId, by decide, by simp⟩
      | some kid =>
        cases hkey : keys.find? fun k => k.kid == kid with
        | none =>
          refine Or.inr ⟨?_, .unknownKeyId, by decide, by simp [hkey]⟩
          rintro claims ⟨kid', key, hsame, hfind, -⟩
          simp only [Option.some.injEq, TokenHeader.mk.injEq, true_and] at hsame
          simp [← hsame, hkey] at hfind
        | some key =>
          have hcases := @decodeAndVerify_cases κ jwt now rawToken key.decodingKey provider
          rcases hcases with ⟨claims, hdecode, hverify⟩ | ⟨hdecode, e, he, hverify⟩
          · refine Or.inl ⟨claims, ⟨kid, key, rfl, hkey, hdecode⟩, ?_⟩
            simp [hkey, hverify, acceptClaims, bind, Except.bind]
          · refine Or.inr ⟨?_, e, he, by simp [hkey, hverify, bind, Except.bind]⟩
            rintro claims ⟨kid', key', hsame, hfind, hok⟩
            simp only [Option.some.injEq, TokenHeader.mk.injEq, true_and] at hsame
            rw [← hsame, hkey, Option.some.injEq] at hfind
            exact hdecode claims (hfind ▸ hok)
    · exact Or.inr ⟨by simp [halg], _, by decide, if_pos halg⟩

theorem validateToken_ok_iff {requiredScopes : List String} {identity : ValidatedIdentity} :
    validateToken jwt now rawToken provider keys requiredScopes = .ok identity ↔
      ∃ claims, Verified jwt now rawToken provider keys claims ∧
        (∀ s ∈ requiredScopes, s ∈ claimedScopes claims) ∧ identity.Carries claims := by
  have hcases := @validateToken_cases κ jwt now rawToken provider keys requiredScopes
  rcases hcases with ⟨claims, hverified, hresult⟩ | ⟨hnot, e, -, hresult⟩
  · rw [hresult, acceptClaims_ok_iff]
    constructor
    · exact fun h => ⟨claims, hverified, h⟩
    · rintro ⟨claims', hverified', h⟩
      rwa [hverified.unique hverified']
  · rw [hresult]
    exact iff_of_false (by simp) fun ⟨claims, hverified, _⟩ => hnot claims hverified

/-- An accepted token carries every required scope. -/
theorem scopes_of_validateToken {requiredScopes : List String} {identity : ValidatedIdentity}
    (h : validateToken jwt now rawToken provider keys requiredScopes = .ok identity) :
    ∀ s ∈ requiredScopes, s ∈ identity.scopes := by
  obtain ⟨claims, -, hscopes, hcarries⟩ := validateToken_ok_iff.mp h
  rw [hcarries.scopes]
  exact hscopes

/-- Missing scopes are reported of verified tokens only. -/
theorem verified_of_insufficientScopes {requiredScopes : List String}
    (h : validateToken jwt now rawToken provider keys requiredScopes =
      .error .insufficientScopes) :
    ∃ claims, Verified jwt now rawToken provider keys claims := by
  have hcases := @validateToken_cases κ jwt now rawToken provider keys requiredScopes
  rcases hcases with ⟨claims, hverified, -⟩ | ⟨-, e, he, hresult⟩
  · exact ⟨claims, hverified⟩
  · have hsame : e = .insufficientScopes := by simpa [hresult] using h
    rw [hsame] at he
    exact absurd he (by decide)

/-- The validator accepts the tokens that are verified, carry every required scope and have a
subject, and hands on what their claims say. -/
theorem tokens_accepted_iff (jwt : JwtLib κ) (now : ℕ) (rawToken : String)
    (provider : AuthProvider) (keys : List (JwksKey κ)) (requiredScopes : List String) :
    ((∃ identity, validateToken jwt now rawToken provider keys requiredScopes = .ok identity) ↔
      ∃ claims, Verified jwt now rawToken provider keys claims ∧
        (∀ s ∈ requiredScopes, s ∈ claimedScopes claims) ∧ claims.sub.isSome = true) ∧
    (∀ identity, validateToken jwt now rawToken provider keys requiredScopes = .ok identity →
      (∃ claims, Verified jwt now rawToken provider keys claims ∧ identity.Carries claims) ∧
        ∀ s ∈ requiredScopes, s ∈ identity.scopes) ∧
    (validateToken jwt now rawToken provider keys requiredScopes = .error .insufficientScopes →
      ∃ claims, Verified jwt now rawToken provider keys claims) := by
  refine ⟨⟨?_, ?_⟩, ?_, verified_of_insufficientScopes⟩
  · rintro ⟨identity, h⟩
    obtain ⟨claims, hverified, hscopes, hcarries⟩ := validateToken_ok_iff.mp h
    exact ⟨claims, hverified, hscopes, by simp [hcarries.sub]⟩
  · rintro ⟨claims, hverified, hscopes, hsub⟩
    obtain ⟨sub, hsub⟩ := Option.isSome_iff_exists.mp hsub
    have hcarries : ValidatedIdentity.Carries ⟨sub, claims.iss.getD "", claims.aud.toList,
        claimedScopes claims, claims.exp.getD 0⟩ claims := ⟨hsub, rfl, rfl, rfl, rfl⟩
    exact ⟨_, validateToken_ok_iff.mpr ⟨claims, hverified, hscopes, hcarries⟩⟩
  · intro identity h
    obtain ⟨claims, hverified, -, hcarries⟩ := validateToken_ok_iff.mp h
    exact ⟨⟨claims, hverified, hcarries⟩, scopes_of_validateToken h⟩

end Validated

end Validator

/-! ## The key cache -/

/-- JWKS cache for a single auth provider: the settings it was made with, and the keys of
the last successful fetch. -/
structure JwksCache (κ : Type) where
  provider : AuthProvider
  keys : List (JwksKey κ)
  fetchedAt : ℕ

def staleFactor : ℕ := 10

/-- The last successful fetch is older than `staleFactor` times the TTL; the product is a
64-bit number of seconds. -/
def JwksCache.isStale {κ : Type} (cache : JwksCache κ) (now : ℕ) : Bool :=
  decide (10 ^ 9 * (staleFactor * cache.provider.cacheTtlSeconds % 2 ^ 64) < now - cache.fetchedAt)

/-- Caches by provider name. -/
abbrev JwksCacheRegistry (κ : Type) := AList fun _ : String => JwksCache κ

/-- The times and keys one validation meets: the time it starts, and the time and the
cache's keys once the wait for a refresh is over. -/
structure RefreshWindow (κ : Type) where
  now : ℕ
  later : ℕ
  keysLater : List (JwksKey κ)

/-- Validate a token; on an unknown key id, once more after a refresh. -/
def validateWithRefresh {κ : Type} (jwt : JwtLib κ) (window : RefreshWindow κ)
    (rawToken : String) (provider : AuthProvider) (cache : JwksCache κ)
    (requiredScopes : List String) : Except AuthError ValidatedIdentity :=
  if cache.isStale window.now then .error .authProviderUnavailable
  else
    match validateToken jwt window.now rawToken provider cache.keys requiredScopes with
    | .error .unknownKeyId =>
      validateToken jwt window.later rawToken provider window.keysLater requiredScopes
    | other => other

/-- A validation that succeeds accepted the token on the keys before or after the refresh. -/
theorem validateToken_of_validateWithRefresh {κ : Type} {jwt : JwtLib κ}
    {window : RefreshWindow κ} {rawToken : String} {provider : AuthProvider}
    {cache : JwksCache κ} {requiredScopes : List String} {identity : ValidatedIdentity}
    (h : validateWithRefresh jwt window rawToken provider cache requiredScopes = .ok identity) :
    validateToken jwt window.now rawToken provider cache.keys requiredScopes = .ok identity ∨
      validateToken jwt window.later rawToken provider window.keysLater requiredScopes =
        .ok identity := by
  unfold validateWithRefresh at h
  split at h
  · simp at h
  · split at h
    · exact Or.inr h
    · exact Or.inl h

end Auth
end OpenApiGateway
