import OpenApiGateway.Auth.Registry

/-!
# The life of a key cache

`JwksCache::new`, `fetch_and_store` and `is_stale` of `controlplane/src/auth/jwks_cache.rs`
over any history of fetches. A fetch is given by the time it was over and what came back, so
that nothing is assumed about the key server. `cache_lifecycle` is the result: at any point the
cache holds the RSA keys of the last document that could be read in full, and its age is the
age of that document.
-/

namespace OpenApiGateway
namespace Auth

/-! ## Fetches -/

/-- One fetch: when it was over, and the document or the message of a transport or JSON error. -/
structure FetchAttempt where
  finished : ℕ
  reply : Except String JwksDocument

section Lifecycle
variable {κ : Type} (source : KeySource κ)

/-- The key server as one fetch meets it. -/
def KeySource.replying (reply : Except String JwksDocument) : KeySource κ :=
  { source with get := fun _ _ => reply }

def JwksCache.attempt (cache : JwksCache κ) (fetch : FetchAttempt) : JwksCache κ :=
  cache.fetchAndStore (source.replying fetch.reply) fetch.finished

def JwksCache.afterAttempts (cache : JwksCache κ) (fetches : List FetchAttempt) : JwksCache κ :=
  fetches.foldl (fun cache fetch => cache.attempt source fetch) cache

/-! ## Documents -/

/-- The key of an RSA entry, where it can be decoded. -/
def rsaKey (raw : JwksRawKey) : Option (JwksKey κ) :=
  if raw.kty = "RSA" then
    match source.fromRsaComponents raw.n raw.e with
    | .ok decodingKey => some ⟨raw.kid, decodingKey⟩
    | .error _ => none
  else none

/-- The RSA keys of a document, in its order. -/
def rsaKeys (doc : JwksDocument) : List (JwksKey κ) :=
  doc.keys.filterMap (rsaKey source)

/-- Every RSA entry of a document can be decoded. -/
def WellFormed (doc : JwksDocument) : Prop :=
  ∀ raw ∈ doc.keys, raw.kty = "RSA" → ∃ key, source.fromRsaComponents raw.n raw.e = .ok key

/-- The fetch brings this document, and it can be read in full. -/
def FetchAttempt.Brings (fetch : FetchAttempt) (doc : JwksDocument) : Prop :=
  fetch.reply = .ok doc ∧ WellFormed source doc

/-- Transport, JSON or an RSA entry has failed. -/
def FetchAttempt.Fails (fetch : FetchAttempt) : Prop :=
  ∀ doc, ¬ fetch.Brings source doc

variable {source}

theorem wellFormed_cons {raw : JwksRawKey} {raws : List JwksRawKey} :
    WellFormed source ⟨raw :: raws⟩ ↔
      (raw.kty = "RSA" → ∃ key, source.fromRsaComponents raw.n raw.e = .ok key) ∧
        WellFormed source ⟨raws⟩ :=
  List.forall_mem_cons

/-- Parsing is all or nothing: all the RSA keys, -/
theorem parseJwksKeys_of_wellFormed {raws : List JwksRawKey} (h : WellFormed source ⟨raws⟩) :
    parseJwksKeys source raws = .ok (rsaKeys source ⟨raws⟩) := by
  induction raws with
  | nil => rfl
  | cons raw raws ih =>
    obtain ⟨hraw, hrest⟩ := wellFormed_cons.mp h
    by_cases hrsa : raw.kty = "RSA"
    · obtain ⟨key, hkey⟩ := hraw hrsa
      simp [parseJwksKeys, rsaKeys, rsaKey, hrsa, hkey, ih hrest]
    · simp [parseJwksKeys, rsaKeys, rsaKey, hrsa, ih hrest]

/-- or an error. -/
theorem parseJwksKeys_of_not_wellFormed {raws : List JwksRawKey}
    (h : ¬ WellFormed source ⟨raws⟩) : ∃ e, parseJwksKeys source raws = .error e := by
  induction raws with
  | nil => exact absurd (fun raw hraw => absurd hraw List.not_mem_nil) h
  | cons raw raws ih =>
    rw [wellFormed_cons, not_and_or] at h
    unfold parseJwksKeys
    by_cases hrsa : raw.kty = "RSA"
    · rw [if_neg (not_not.mpr hrsa)]
      cases hkey : source.fromRsaComponents raw.n raw.e with
      | error reason => exact ⟨_, rfl⟩
      | ok key =>
        have hrest : ¬ WellFormed source ⟨raws⟩ :=
          h.resolve_left fun hraw => hraw fun _ => ⟨key, hkey⟩
        obtain ⟨e, he⟩ := ih hrest
        exact ⟨e, by simp [he]⟩
    · rw [if_pos hrsa]
      exact ih (h.resolve_left fun hraw => hraw fun h => absurd h hrsa)

theorem parseJwksKeys_replying (reply : Except String JwksDocument) (raws : List JwksRawKey) :
    parseJwksKeys (source.replying reply) raws = parseJwksKeys source raws := by
  induction raws with
  | nil => rfl
  | cons raw raws ih =>
    simp only [parseJwksKeys, ih]
    rfl

theorem fetchKeys_replying (reply : Except String JwksDocument) (now : ℕ) (uri : String) :
    fetchKeys (source.replying reply) now uri =
      match reply with
      | .error reason => .error (.jwksFetch reason)
      | .ok doc => parseJwksKeys source doc.keys := by
  cases reply with
  | error reason => rfl
  | ok doc => exact parseJwksKeys_replying (.ok doc) doc.keys

/-! ## One fetch -/

section Fetch
variable {fetch : FetchAttempt} {doc : JwksDocument}

theorem fetchKeys_of_brings (h : fetch.Brings source doc) (now : ℕ) (uri : String) :
    fetchKeys (source.replying fetch.reply) now uri = .ok (rsaKeys source doc) := by
  rw [fetchKeys_replying, h.1]
  exact parseJwksKeys_of_wellFormed h.2

theorem fetchKeys_of_fails (h : fetch.Fails source) (now : ℕ) (uri : String) :
    ∃ e, fetchKeys (source.replying fetch.reply) now uri = .error e := by
  rw [fetchKeys_replying]
  cases hreply : fetch.reply with
  | error reason => exact ⟨_, rfl⟩
  | ok doc => exact parseJwksKeys_of_not_wellFormed fun hwell => h doc ⟨hreply, hwell⟩

/-- Keys and time change together. -/
theorem attempt_of_brings (h : fetch.Brings source doc) (cache : JwksCache κ) :
    cache.attempt source fetch =
      { cache with keys := rsaKeys source doc, fetchedAt := fetch.finished } := by
  rw [JwksCache.attempt, JwksCache.fetchAndStore, fetchKeys_of_brings h]

theorem attempt_of_fails (h : fetch.Fails source) (cache : JwksCache κ) :
    cache.attempt source fetch = cache := by
  obtain ⟨e, he⟩ := fetchKeys_of_fails h fetch.finished cache.provider.jwksUri
  rw [JwksCache.attempt, JwksCache.fetchAndStore, he]

/-- A round of the refresh loop is a fetch with what the server has at the time. -/
theorem attempt_get (cache : JwksCache κ) (now : ℕ) :
    cache.attempt source ⟨now, source.get now cache.provider.jwksUri⟩ =
      cache.fetchAndStore source now := by
  unfold JwksCache.attempt JwksCache.fetchAndStore
  rw [fetchKeys_replying]
  rfl

/-- A cache is only built from a fetch that brings a document. -/
theorem new_cases {provider : AuthProvider} {cache : JwksCache κ}
    (h : JwksCache.new (source.replying fetch.reply) fetch.finished provider = .ok cache) :
    ∃ doc, fetch.Brings source doc ∧ cache = ⟨provider, rsaKeys source doc, fetch.finished⟩ := by
  unfold JwksCache.new at h
  by_cases hfails : fetch.Fails source
  · obtain ⟨e, he⟩ := fetchKeys_of_fails hfails fetch.finished provider.jwksUri
    rw [he] at h
    simp at h
  · obtain ⟨doc, hdoc⟩ := not_forall.mp hfails
    have hbrings := not_not.mp hdoc
    rw [fetchKeys_of_brings hbrings] at h
    exact ⟨doc, hbrings, (Except.ok.inj h).symm⟩

end Fetch

/-! ## A history of fetches -/

variable (source) in
/-- The last fetch of the history that brought a document, and the document. -/
def LastBrought (history : List FetchAttempt) (last : FetchAttempt) (doc : JwksDocument) : Prop :=
  ∃ before after, history = before ++ last :: after ∧ last.Brings source doc ∧
    ∀ fetch ∈ after, fetch.Fails source

variable (source) in
/-- The cache is that of the last document the history brought. -/
def Reflects (provider : AuthProvider) (history : List FetchAttempt) (cache : JwksCache κ) :
    Prop :=
  ∃ last doc, LastBrought source history last doc ∧
    cache = ⟨provider, rsaKeys source doc, last.finished⟩

section History
variable {provider : AuthProvider} {history : List FetchAttempt} {cache : JwksCache κ}

theorem reflects_new {first : FetchAttempt}
    (h : JwksCache.new (source.replying first.reply) first.finished provider = .ok cache) :
    Reflects source provider [first] cache := by
  obtain ⟨doc, hbrings, hcache⟩ := new_cases h
  exact ⟨first, doc, ⟨[], [], rfl, hbrings, by simp⟩, hcache⟩

theorem Reflects.attempt (h : Reflects source provider history cache) (fetch : FetchAttempt) :
    Reflects source provider (history ++ [fetch]) (cache.attempt source fetch) := by
  obtain ⟨last, doc, ⟨before, after, hhistory, hbrings, hafter⟩, rfl⟩ := h
  by_cases hfails : fetch.Fails source
  · -- one more failure behind the last document
    rw [attempt_of_fails hfails]
    refine ⟨last, doc, ⟨before, after ++ [fetch], by simp [hhistory], hbrings, ?_⟩, rfl⟩
    intro other hother
    rcases List.mem_append.mp hother with hold | hnew
    · exact hafter other hold
    · rw [List.mem_singleton.mp hnew]
      exact hfails
  · obtain ⟨new, hnew⟩ := not_forall.mp hfails
    have hbringsNew := not_not.mp hnew
    rw [attempt_of_brings hbringsNew]
    exact ⟨fetch, new, ⟨history, [], rfl, hbringsNew, by simp⟩, rfl⟩

theorem Reflects.afterAttempts (h : Reflects source provider history cache)
    (fetches : List FetchAttempt) :
    Reflects source provider (history ++ fetches) (cache.afterAttempts source fetches) := by
  induction fetches generalizing history cache with
  | nil =>
    rw [List.append_nil]
    exact h
  | cons fetch fetches ih =>
    have hrest := ih (h.attempt fetch)
    rw [List.append_assoc, List.singleton_append] at hrest
    exact hrest

/-- The refresh loop makes such a history. -/
theorem afterRefreshes_eq (times : List ℕ) (cache : JwksCache κ) :
    cache.afterRefreshes source times =
      cache.afterAttempts source
        (times.map fun now => ⟨now, source.get now cache.provider.jwksUri⟩) := by
  induction times generalizing cache with
  | nil => rfl
  | cons now times ih =>
    have hprovider : (cache.fetchAndStore source now).provider = cache.provider := by
      unfold JwksCache.fetchAndStore
      split
      · rfl
      · rfl
    have hrest := ih (cache.fetchAndStore source now)
    rw [hprovider] at hrest
    show (cache.fetchAndStore source now).afterRefreshes source times =
      (cache.attempt source _).afterAttempts source (times.map _)
    rw [attempt_get, hrest]

end History

end Lifecycle

/-! ## The age of the cache -/

section Stale
variable {κ : Type} {jwt : JwtLib κ}

theorem isStale_iff {cache : JwksCache κ} (h : 10 * cache.provider.cacheTtlSeconds < 2 ^ 64)
    (now : ℕ) :
    cache.isStale now = true ↔
      cache.fetchedAt + 10 * cache.provider.cacheTtlSeconds * 10 ^ 9 < now := by
  rw [JwksCache.isStale, staleFactor, Nat.mod_eq_of_lt h, decide_eq_true_eq]
  omega

/-- No validation reports a stale cache. -/
theorem validateToken_ne_unavailable (now : ℕ) (rawToken : String) (provider : AuthProvider)
    (keys : List (JwksKey κ)) (requiredScopes : List String) :
    validateToken jwt now rawToken provider keys requiredScopes ≠
      .error .authProviderUnavailable := by
  have hcases := @validateToken_cases κ jwt now rawToken provider keys requiredScopes
  rcases hcases with ⟨claims, -, hresult⟩ | ⟨-, e, he, hresult⟩
  · rw [hresult]
    by_cases hscopes : ∀ s ∈ requiredScopes, s ∈ claimedScopes claims
    · rw [acceptClaims_of_scopes hscopes]
      split
      · simp
      · simp
    · simp [acceptClaims_of_missing hscopes]
  · rw [hresult]
    intro h
    rw [Except.error.inj h] at he
    exact absurd he (by decide)

theorem validateWithRefresh_unavailable_iff (jwt : JwtLib κ) (window : RefreshWindow κ)
    (rawToken : String) (provider : AuthProvider) (cache : JwksCache κ)
    (requiredScopes : List String) :
    validateWithRefresh jwt window rawToken provider cache requiredScopes =
        .error .authProviderUnavailable ↔
      cache.isStale window.now = true := by
  unfold validateWithRefresh
  split
  · rename_i hstale
    simp [hstale]
  · rename_i hfresh
    have hfirst := @validateToken_ne_unavailable κ jwt window.now rawToken provider cache.keys
      requiredScopes
    have hretry := @validateToken_ne_unavailable κ jwt window.later rawToken provider
      window.keysLater requiredScopes
    split
    · exact iff_of_false hretry hfresh
    · exact iff_of_false hfirst hfresh

end Stale

/-! ## The result -/

/-- After a successful construction and any further fetches: the keys are the RSA keys, in the
order of the document, of the last document that could be read in full; a fetch that fails
changes nothing; and validation reports the provider as unavailable if and only if more than
ten times the TTL has passed since the end of the last fetch that brought a document. -/
theorem cache_lifecycle {κ : Type} (source : KeySource κ) (provider : AuthProvider)
    (first : FetchAttempt) (cache : JwksCache κ)
    (hnew : JwksCache.new (source.replying first.reply) first.finished provider = .ok cache)
    (fetches : List FetchAttempt) :
    ∃ last doc, LastBrought source (first :: fetches) last doc ∧
      (cache.afterAttempts source fetches).keys = rsaKeys source doc ∧
      (cache.afterAttempts source fetches).fetchedAt = last.finished ∧
      (∀ fetch : FetchAttempt, fetch.Fails source →
        (cache.afterAttempts source (fetches ++ [fetch])) = cache.afterAttempts source fetches) ∧
      (10 * provider.cacheTtlSeconds < 2 ^ 64 → ∀ jwt window rawToken settings requiredScopes,
        validateWithRefresh jwt window rawToken settings (cache.afterAttempts source fetches)
            requiredScopes = .error .authProviderUnavailable ↔
          last.finished + 10 * provider.cacheTtlSeconds * 10 ^ 9 < window.now) := by
  obtain ⟨last, doc, hlast, hcache⟩ := (reflects_new hnew).afterAttempts fetches
  rw [List.singleton_append] at hlast
  refine ⟨last, doc, hlast, by rw [hcache], by rw [hcache], ?_, ?_⟩
  · intro fetch hfails
    rw [JwksCache.afterAttempts, List.foldl_append]
    exact attempt_of_fails hfails _
  · intro hbound jwt window rawToken settings requiredScopes
    rw [validateWithRefresh_unavailable_iff, hcache]
    exact isStale_iff hbound window.now

/-- Whole groups of four base64url characters. -/
def isBase64Url (text : String) : Bool :=
  text.toList.length % 4 == 0 && text.toList.all fun c => c.isAlphanum || c == '-' || c == '_'

/-- A decoder of such texts, with the error for a `+` behind the first group; a decoded key is its
modulus. -/
def sampleSource : KeySource String where
  get := fun _ _ => .error "not asked"
  fromRsaComponents := fun n e =>
    if isBase64Url n && isBase64Url e then .ok n
    else .error "Base64 error: Invalid symbol 43, offset 4."

def sampleProvider : AuthProvider :=
  ⟨"main", "https://issuer", "api", "https://issuer/jwks", 300, 30⟩

/-- A document with two RSA keys around one of another type. -/
def sampleDocument : JwksDocument :=
  ⟨[⟨"a", "RSA", "u1SU1LfV", "AQAB"⟩, ⟨"b", "EC", "", ""⟩, ⟨"c", "RSA", "0vx7agoe", "AQAB"⟩]⟩

/-- The server does not answer, then sends a document with a bad key behind a good one. -/
def sampleFailures : List FetchAttempt :=
  [⟨300 * 10 ^ 9, .error "operation timed out"⟩,
    ⟨600 * 10 ^ 9, .ok ⟨[⟨"d", "RSA", "yeNlzlub", "AQAB"⟩, ⟨"e", "RSA", "zd2j+LKq", "AQAB"⟩]⟩⟩]

theorem cache_lifecycle_failures :
    ∃ cache, JwksCache.new (sampleSource.replying (.ok sampleDocument)) 0 sampleProvider =
        .ok cache ∧
      (cache.afterAttempts sampleSource sampleFailures).keys =
        [⟨"a", "u1SU1LfV"⟩, ⟨"c", "0vx7agoe"⟩] ∧
      ∃ last doc, LastBrought sampleSource (⟨0, .ok sampleDocument⟩ :: sampleFailures) last doc ∧
        (cache.afterAttempts sampleSource sampleFailures).keys = rsaKeys sampleSource doc ∧
        (cache.afterAttempts sampleSource sampleFailures).fetchedAt = last.finished := by
  refine ⟨_, rfl, rfl, ?_⟩
  obtain ⟨last, doc, hlast, hkeys, hfetchedAt, -⟩ :=
    cache_lifecycle sampleSource sampleProvider ⟨0, .ok sampleDocument⟩ _ rfl sampleFailures
  exact ⟨last, doc, hlast, hkeys, hfetchedAt⟩

end Auth
end OpenApiGateway
