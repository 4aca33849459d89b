import OpenApiGateway.ExtAuthz.BucketKeys

/-!
# Reading the forwarded scopes

After a token was validated, the auth step joins its scopes with commas and forwards them in the
header `x-auth-scopes`. An upstream splits the value at the commas. `forwarded_scopes_iff` says for
which identities it gets the scopes of the token back: a scope may itself hold a comma, whether it
comes from the `scope` claim or from the `scp` claim, and text with control characters makes no
header at all.
-/

namespace OpenApiGateway
namespace ExtAuthz

open Lib.Text Auth

variable {ν κ σ : Type}

/-- What an upstream reads of a header value: the text it was made from. -/
structure HeaderReader (http : HttpLib ν) where
  read : ν → String
  read_parseValue : ∀ {s : String} {value : ν}, http.parseValue s = some value → read value = s

/-- The scopes an upstream finds in the header, if there is one. -/
def forwardedScopes {http : HttpLib ν} (reader : HeaderReader http) (headers : HeaderMap ν) :
    Option (List String) :=
  (headers.lookup "x-auth-scopes").map fun value =>
    (splitOn ',' (reader.read value)).filter fun s => s ≠ ""

/-- The scopes of the token, empty ones left out. -/
def grantedScopes (identity : ValidatedIdentity) : List String :=
  identity.scopes.filter fun s => s ≠ ""

/-- The scopes can be joined by commas: the joined text is a header value, and none of them holds
a comma. -/
structure Joinable (http : HttpLib ν) (scopes : List String) : Prop where
  value : (http.parseValue (",".intercalate scopes)).isSome = true
  comma : ∀ s ∈ scopes, ',' ∉ s.toList

section Forwarded
variable {http : HttpLib ν} (reader : HeaderReader http) {identity : ValidatedIdentity}

theorem forwardedScopes_of_value {value : ν}
    (h : http.parseValue (",".intercalate identity.scopes) = some value) (base : HeaderMap ν) :
    forwardedScopes reader (identityHeaders http base identity) =
      some ((splitOn ',' (",".intercalate identity.scopes)).filter fun s => s ≠ "") := by
  rw [forwardedScopes, identityHeaders, http.lookup_insertText h, Option.map_some,
    reader.read_parseValue h]

/-- Without a header value nothing is forwarded, unless it was there before. -/
theorem forwardedScopes_of_none (h : http.parseValue (",".intercalate identity.scopes) = none) :
    forwardedScopes reader (identityHeaders http ∅ identity) = none := by
  have hlookup : (identityHeaders http ∅ identity).lookup "x-auth-scopes" = none := by
    rw [identityHeaders, HttpLib.insertText, h]
    simp only
    rw [http.lookup_insertText_ne (by decide), http.lookup_insertText_ne (by decide),
      AList.lookup_empty]
  rw [forwardedScopes, hlookup, Option.map_none]

theorem forwardedScopes_identityHeaders_iff :
    (∀ base, forwardedScopes reader (identityHeaders http base identity) =
      some (grantedScopes identity)) ↔ Joinable http identity.scopes := by
  cases hvalue : http.parseValue (",".intercalate identity.scopes) with
  | none =>
    -- the header is left out, and an upstream that expects it finds nothing
    refine iff_of_false ?_ fun hjoin => by simpa [hvalue] using hjoin.value
    intro h
    have hempty := h ∅
    rw [forwardedScopes_of_none reader hvalue] at hempty
    exact absurd hempty (by simp)
  | some value =>
    have hread := filter_splitOn_intercalate_iff ',' identity.scopes
    simp only [forwardedScopes_of_value reader hvalue, Option.some.injEq, forall_const]
    constructor
    · intro h
      exact ⟨by rw [hvalue]; rfl, hread.mp h⟩
    · intro hjoin
      exact hread.mpr hjoin.comma

end Forwarded

/-- The upstream of a request whose token was validated reads the token's scopes back exactly if
they can be joined. -/
theorem forwarded_scopes_iff {env : CheckEnv ν κ σ} {cfg : GatewayConfig} {route : RouteConfig}
    {requestHeaders : RequestHeaders ν} (reader : HeaderReader env.http) {call : AuthCall κ}
    {identity : ValidatedIdentity}
    (hcall : call ∈ (applyAuth env cfg route requestHeaders ∅).authCalls)
    (hresult : call.result = .ok identity) :
    (∀ base, forwardedScopes reader (applyAuth env cfg route requestHeaders base).responseHeaders =
      some (grantedScopes identity)) ↔ Joinable env.http identity.scopes := by
  have hheaders : ∀ base, (applyAuth env cfg route requestHeaders base).responseHeaders =
      identityHeaders env.http base identity := by
    intro base
    rw [applyAuth_of_call hcall hresult base]
  simp only [hheaders]
  exact forwardedScopes_identityHeaders_iff reader

/-- Upstreams that read every value of this library as it is. -/
def octetsReader : HeaderReader HttpLib.octets where
  read value := value
  read_parseValue := by
    intro s value h
    change (if s.toList.any isControl = true then none else some s) = some value at h
    split at h
    · exact absurd h (by simp)
    · exact (Option.some.inj h).symm

/-- The issuer's tokens, with the given scopes in the claim `scp`. -/
def scopedTokens (scopes : List String) : JwtLib Unit where
  decodeHeader _ := some ⟨.rs256, some "k"⟩
  decode _ _ _ _ :=
    .ok ⟨some "alice", some "https://issuer", .single "api", some 1, none, none, some scopes⟩

def scopedEnv (scopes : List String) : CheckEnv String Unit Unit :=
  { issuerEnv with jwt := scopedTokens scopes }

/-- The auth step of a request with such a token, for the protected route. -/
def scopedAuth (scopes : List String) (base : HeaderMap String) : AuthOutcome String Unit :=
  applyAuth (scopedEnv scopes) (Validation.minimalConfig [protectedRoute]) protectedRoute
    (tokenRequest "t").headers base

def scopedIdentity (scopes : List String) : ValidatedIdentity :=
  ⟨"alice", "https://issuer", ["api"], scopes, 1⟩

theorem forwarded_scopes_iff_scopedTokens :
    ∃ call ∈ (scopedAuth ["reports", "admin"] ∅).authCalls,
      call.result = .ok (scopedIdentity ["reports", "admin"]) ∧
      ((∀ base,
        forwardedScopes octetsReader (scopedAuth ["reports", "admin"] base).responseHeaders =
          some (grantedScopes (scopedIdentity ["reports", "admin"]))) ↔
      Joinable HttpLib.octets ["reports", "admin"]) :=
  ⟨_, List.mem_singleton_self _, rfl,
    @forwarded_scopes_iff String Unit Unit (scopedEnv ["reports", "admin"])
      (Validation.minimalConfig [protectedRoute]) protectedRoute (tokenRequest "t").headers
      octetsReader _ _ (List.mem_singleton_self _) rfl⟩

/-- One scope `reports,admin` reaches the upstream as two, of which the token has none. -/
theorem scope_split_in_two :
    Validation.validate (fun _ => true) (Validation.minimalConfig [protectedRoute]) = .ok () ∧
    (scopedAuth ["reports,admin"] ∅).authCalls.map AuthCall.result =
      [.ok (scopedIdentity ["reports,admin"])] ∧
    forwardedScopes octetsReader (scopedAuth ["reports,admin"] ∅).responseHeaders =
      some ["reports", "admin"] ∧
    ¬ ∀ base, forwardedScopes octetsReader (scopedAuth ["reports,admin"] base).responseHeaders =
      some (grantedScopes (scopedIdentity ["reports,admin"])) := by
  have hseen : forwardedScopes octetsReader (scopedAuth ["reports,admin"] ∅).responseHeaders =
      some ["reports", "admin"] := by decide
  refine ⟨by decide, rfl, hseen, fun h => ?_⟩
  have hsame := h ∅
  rw [hseen] at hsame
  exact absurd hsame (by decide)

end ExtAuthz
end OpenApiGateway
