import OpenApiGateway.ExtAuthz.Mediation
import OpenApiGateway.Plugins.Headers

/-!
# Who sets the headers of an answer

An allow answer merges four writers into one map: the plugins' response headers, the auth
step, the limiter, and last the plugins' upstream headers. This file says which of them a
header of the answer comes from. `plugin_headers_authentic_iff` tells for which sequences of
plugin calls the headers the gateway owns keep the gateway's values in every answer.
-/

namespace OpenApiGateway
namespace ExtAuthz

open Lib.Text Auth RateLimit Plugins

variable {ν κ σ : Type}

/-! ## Merging plugin headers -/

/-- The header that a plugin's entry under this name makes, if its name and its value are
both accepted. -/
def pluginHeader (http : HttpLib ν) (entry : Option String) (name : String) : Option ν :=
  match entry, http.parseName name with
  | some text, some _ => http.parseValue text
  | _, _ => none

theorem lookup_insertParsed (http : HttpLib ν) (headers : HeaderMap ν) {key : String}
    (hlower : toAsciiLowercase key = key) (text name : String) :
    (http.insertParsed headers (key, text)).lookup name =
      if name = key then (pluginHeader http (some text) name).or (headers.lookup name)
      else headers.lookup name := by
  unfold HttpLib.insertParsed pluginHeader
  by_cases hname : name = key
  · subst hname
    rw [if_pos rfl]
    cases hparse : http.parseName name with
    | none => rfl
    | some parsed =>
      have hparsed : parsed = name := (http.parseName_eq hparse).trans hlower
      subst hparsed
      cases hvalue : http.parseValue text with
      | none => simp [hvalue]
      | some value => simp [hvalue]
  · rw [if_neg hname]
    split
    · rename_i parsed value hparse _
      have hparsed : parsed = key := (http.parseName_eq hparse).trans hlower
      rw [hparsed]
      exact AList.lookup_insert_ne hname
    · rfl

/-- A map with lower-case names overrides a header exactly where it has an entry that makes
one; the order of its entries does not matter. -/
theorem lookup_insertStringHeaders (http : HttpLib ν) (headers : HeaderMap ν)
    {values : PluginHeaders} (hlower : ∀ key ∈ values.keys, toAsciiLowercase key = key)
    (name : String) :
    (insertStringHeaders http headers values).lookup name =
      (pluginHeader http (values.lookup name) name).or (headers.lookup name) := by
  obtain ⟨entries, hnodup⟩ := values
  unfold insertStringHeaders
  simp only [AList.lookup]
  simp only [AList.keys] at hlower
  -- over the entries: each key occurs once, so at most one step touches `name`
  induction entries generalizing headers with
  | nil => rfl
  | cons entry entries ih =>
    obtain ⟨key, text⟩ := entry
    rw [List.nodupKeys_cons] at hnodup
    have hkey : toAsciiLowercase key = key := hlower key (by simp)
    have hrest := ih (http.insertParsed headers (key, text)) hnodup.2
      (fun k hk => hlower k (List.mem_cons_of_mem _ hk))
    have hstep := lookup_insertParsed http headers hkey text name
    simp only [AList.lookup] at hstep
    rw [List.foldl_cons, hrest, hstep]
    by_cases hname : name = key
    · subst hname
      rw [if_pos rfl, List.dlookup_eq_none.mpr hnodup.1, List.dlookup_cons_eq]
      rfl
    · rw [if_neg hname, List.dlookup_cons_ne _ _ hname]

/-! ## The gateway's own headers -/

/-- The rate limit headers of an answer with their texts, in the order they are written. -/
def rateLimitTexts (nowSecs : ℕ) (decision : RateDecision) : List (String × String) :=
  [("x-rate-limit-remaining", toString decision.remaining),
    ("x-rate-limit-limit", toString decision.limit),
    ("x-rate-limit-mode", decision.mode.asHeaderValue),
    ("x-rate-limit-reset", toString (nowSecs + retryAfterSecs decision))]

def rateLimitNames : List String :=
  ["x-rate-limit-remaining", "x-rate-limit-limit", "x-rate-limit-mode", "x-rate-limit-reset"]

theorem rateLimitTexts_visible (nowSecs : ℕ) (decision : RateDecision) :
    ∀ entry ∈ rateLimitTexts nowSecs decision, entry.2.toList.all isVisibleAscii = true := by
  have hmode : decision.mode.asHeaderValue.toList.all isVisibleAscii = true := by
    cases decision.mode with
    | redis => decide
    | degradedLocal => decide
    | failOpen => decide
  intro entry hentry
  simp only [rateLimitTexts, List.mem_cons, List.not_mem_nil, or_false] at hentry
  rcases hentry with rfl | rfl | rfl | rfl
  · exact toString_visible _
  · exact toString_visible _
  · exact hmode
  · exact toString_visible _

/-- The limiter's headers are always its own: each text makes a header value. -/
theorem lookup_insertRateLimitHeaders (http : HttpLib ν) (nowSecs : ℕ) (headers : HeaderMap ν)
    (decision : RateDecision) {name text : String}
    (hentry : (name, text) ∈ rateLimitTexts nowSecs decision) :
    (insertRateLimitHeaders http nowSecs headers decision).lookup name = http.parseValue text := by
  obtain ⟨value, hvalue, -⟩ :=
    http.parseValue_visible (rateLimitTexts_visible nowSecs decision _ hentry)
  rw [hvalue]
  unfold insertRateLimitHeaders
  -- the four names differ, so a later write leaves an earlier one alone
  simp only [rateLimitTexts, List.mem_cons, Prod.mk.injEq, List.not_mem_nil, or_false] at hentry
  rcases hentry with ⟨rfl, rfl⟩ | ⟨rfl, rfl⟩ | ⟨rfl, rfl⟩ | ⟨rfl, rfl⟩
  · rw [http.lookup_insertText_ne (by decide), http.lookup_insertText_ne (by decide),
      http.lookup_insertText_ne (by decide), http.lookup_insertText hvalue]
  · rw [http.lookup_insertText_ne (by decide), http.lookup_insertText_ne (by decide),
      http.lookup_insertText hvalue]
  · rw [http.lookup_insertText_ne (by decide), http.lookup_insertText hvalue]
  · rw [http.lookup_insertText hvalue]

theorem exists_rateLimitText (nowSecs : ℕ) (decision : RateDecision) {name : String}
    (hname : name ∈ rateLimitNames) : ∃ text, (name, text) ∈ rateLimitTexts nowSecs decision := by
  have hnames : rateLimitNames = (rateLimitTexts nowSecs decision).map Prod.fst := rfl
  rw [hnames, List.mem_map] at hname
  obtain ⟨⟨n, text⟩, hmem, rfl⟩ := hname
  exact ⟨text, hmem⟩

theorem lookup_insertRateLimitHeaders_ne (http : HttpLib ν) (nowSecs : ℕ)
    (headers : HeaderMap ν) (decision : RateDecision) {name : String}
    (hname : name ∉ rateLimitNames) :
    (insertRateLimitHeaders http nowSecs headers decision).lookup name = headers.lookup name := by
  simp only [rateLimitNames, List.mem_cons, List.not_mem_nil, or_false, not_or] at hname
  unfold insertRateLimitHeaders
  rw [http.lookup_insertText_ne hname.2.2.2, http.lookup_insertText_ne hname.2.2.1,
    http.lookup_insertText_ne hname.2.1, http.lookup_insertText_ne hname.1]

theorem lookup_identityHeaders_congr (http : HttpLib ν) {headers headers' : HeaderMap ν}
    {name : String} (h : headers.lookup name = headers'.lookup name)
    (identity : ValidatedIdentity) :
    (identityHeaders http headers identity).lookup name =
      (identityHeaders http headers' identity).lookup name := by
  unfold identityHeaders
  apply http.lookup_insertText_congr
  apply http.lookup_insertText_congr
  exact http.lookup_insertText_congr h _ _

/-- When the auth step passes, it has either done nothing, or added the headers of an
identity it has validated. In both cases it does not look at the headers it is given. -/
theorem applyAuth_passed {env : CheckEnv ν κ σ} {cfg : GatewayConfig} {req : CheckRequest ν}
    {route : RouteConfig} {headers : HeaderMap ν}
    (h : (applyAuth env cfg route req.headers headers).result = .ok ()) :
    (∀ base, applyAuth env cfg route req.headers base = ⟨.ok (), base, none, [], []⟩) ∨
    ∃ call identity, Validated env cfg req route call ∧ call.result = .ok identity ∧
      ∀ base, applyAuth env cfg route req.headers base =
        ⟨.ok (), identityHeaders env.http base identity, some identity.sub, [], [call]⟩ := by
  rcases applyAuth_outcomes env cfg route req.headers with
    ⟨-, hout⟩ | ⟨-, reason, -, hout⟩ | ⟨-, -, hout⟩ | ⟨-, call, hcalled, hout⟩
  · exact Or.inl hout
  · simp [hout, authDenied] at h
  · simp [hout, authDenied] at h
  · cases hresult : call.result with
    | error e => simp [hout, authAnswer, hresult, authDenied] at h
    | ok identity =>
      have hvalidated : Validated env cfg req route call :=
        ⟨hcalled, identity, hresult⟩
      refine Or.inr ⟨call, identity, hvalidated, hresult, fun base => ?_⟩
      rw [hout, authAnswer, hresult]

/-- The limiter's key depends on the response headers only through the subject. -/
theorem limiterCheck_congr {env : CheckEnv ν κ σ} {cfg : GatewayConfig} {s : σ}
    {route : RouteConfig} {req : CheckRequest ν} {headers headers' : HeaderMap ν}
    (h : headers.lookup "x-auth-sub" = headers'.lookup "x-auth-sub") :
    limiterCheck env cfg s route req headers = limiterCheck env cfg s route req headers' := by
  unfold limiterCheck bucketKeyValue
  rw [h]

/-- A denial of the auth step is never an answer 200. -/
theorem applyAuth_deny_ne_ok {env : CheckEnv ν κ σ} {cfg : GatewayConfig} {req : CheckRequest ν}
    {route : RouteConfig} {headers : HeaderMap ν} {deny : AuthDeny}
    (h : (applyAuth env cfg route req.headers headers).result = .error deny) :
    deny.status ≠ 200 := by
  cases hauth : route.authRequired with
  | false =>
    rw [applyAuth_of_not_required env cfg req.headers hauth] at h
    simp at h
  | true =>
    rcases applyAuth_cases env cfg req hauth headers with ⟨deny', hdeny, hne⟩ | ⟨hok, -⟩
    · rw [h, Except.error.injEq] at hdeny
      rw [hdeny]
      exact hne
    · rw [h] at hok
      simp at hok

/-- What follows the plugins allows a request only through both the auth step and the
limiter, with the headers in this order. -/
theorem checkAuth_allow_headers {env : CheckEnv ν κ σ} {cfg : GatewayConfig} {s : σ}
    {req : CheckRequest ν} {info : RequestInfo} {route : RouteConfig} {plugin : PluginContinue ν}
    (hstatus : (checkAuth env cfg s req info route plugin).response.status = 200) :
    let auth := applyAuth env cfg route req.headers plugin.responseHeaders
    auth.result = .ok () ∧
      (checkAuth env cfg s req info route plugin).authCalls = auth.authCalls ∧
      ∃ decision, (limiterCheck env cfg s route req auth.responseHeaders).1 = .ok decision ∧
        (checkAuth env cfg s req info route plugin).response.headers =
          env.http.insertText
            (insertStringHeaders env.http
              (insertRateLimitHeaders env.http env.nowSecs auth.responseHeaders decision)
              plugin.upstreamHeaders)
            "x-request-id" info.requestId := by
  intro auth
  unfold checkAuth at hstatus ⊢
  cases hresult : (applyAuth env cfg route req.headers plugin.responseHeaders).result with
  | error deny =>
    simp only [hresult] at hstatus
    exact absurd hstatus (applyAuth_deny_ne_ok hresult)
  | ok passed =>
    -- past the auth step, 200 means that the limiter allowed
    have hspec := checkRateLimit_spec env cfg s req info route plugin auth
    simp only [hresult] at hstatus ⊢
    obtain ⟨decision, hdecision, hallowed⟩ := hspec.2.mp hstatus
    refine ⟨trivial, hspec.1, decision, hdecision, ?_⟩
    unfold checkRateLimit
    simp only [auth] at hdecision
    simp only [hdecision, hallowed, if_true]
    rfl

/-- The answer of an allowed request whose chain ended normally, with the order in which its
headers were written. -/
theorem checkInner_allow_headers {env : CheckEnv ν κ σ} {cfg : GatewayConfig} {s : σ}
    {req : CheckRequest ν} {route : RouteConfig} {up down : PluginHeaders} {us : ℕ}
    (hroute : matchRoute cfg.routes (requestHost env.http req) req.path = some route)
    (hplugin : pluginOutcome env req route = some (.ok (.continue up down us)))
    (hstatus : (checkInner env cfg s req).response.status = 200) :
    let auth := applyAuth env cfg route req.headers (insertStringHeaders env.http ∅ down)
    auth.result = .ok () ∧ (checkInner env cfg s req).authCalls = auth.authCalls ∧
      ∃ decision, (limiterCheck env cfg s route req auth.responseHeaders).1 = .ok decision ∧
        (checkInner env cfg s req).response.headers =
          env.http.insertText
            (insertStringHeaders env.http
              (insertRateLimitHeaders env.http env.nowSecs auth.responseHeaders decision) up)
            "x-request-id" req.requestId := by
  have hstep : executeAccessPlugins env req (requestInfo env.http req) route =
      (.ok ⟨pluginRequest env req (requestInfo env.http req) route, up,
        insertStringHeaders env.http ∅ down⟩, [.recordPluginChain route.name us]) := by
    obtain ⟨engine, hengine, hresult⟩ := Option.map_eq_some_iff.mp hplugin
    unfold executeAccessPlugins
    simp only [hengine, hresult]
  rw [checkInner_of_matched hroute] at hstatus ⊢
  unfold checkMatched at hstatus ⊢
  split at hstatus
  · rename_i hmethod
    rw [hstep] at hstatus
    rw [if_pos hmethod, hstep]
    exact checkAuth_allow_headers hstatus
  · simp [methodDenied, earlyDeny, denyResponse] at hstatus

/-! ## Authentic headers -/

/-- The headers the gateway owns have, in the answer to this request, the values the gateway
gives them: they are what the auth step, the limiter and the request id make of an empty map,
and an `x-auth-` header is that of an identity validated for this request. -/
structure HeadersAuthentic (env : CheckEnv ν κ σ) (cfg : GatewayConfig) (s : σ)
    (req : CheckRequest ν) (route : RouteConfig) : Prop where
  auth_validated : ∀ name value, startsWith name "x-auth-" = true →
    (checkInner env cfg s req).response.headers.lookup name = some value →
    ∃ call ∈ (checkInner env cfg s req).authCalls, Validated env cfg req route call ∧
      ∃ identity, call.result = .ok identity ∧
        (identityHeaders env.http ∅ identity).lookup name = some value
  auth_unforged : ∀ name, startsWith name "x-auth-" = true →
    (checkInner env cfg s req).response.headers.lookup name =
      (applyAuth env cfg route req.headers ∅).responseHeaders.lookup name
  rateLimit : ∃ decision, (limiterCheck env cfg s route req
      (applyAuth env cfg route req.headers ∅).responseHeaders).1 = .ok decision ∧
    ∀ name ∈ rateLimitNames, (checkInner env cfg s req).response.headers.lookup name =
      (insertRateLimitHeaders env.http env.nowSecs ∅ decision).lookup name
  requestId : (checkInner env cfg s req).response.headers.lookup "x-request-id" =
    env.http.parseValue req.requestId

/-- No call leaves a usable `x-auth-` header in the response headers, nor a usable rate limit
header in the upstream headers. -/
structure Harmless (http : HttpLib ν) (calls : List ChainCall) : Prop where
  auth : ∀ name, startsWith name "x-auth-" = true →
    pluginHeader http (lastResponseHeader calls name) name = none
  rateLimit : ∀ name ∈ rateLimitNames,
    pluginHeader http (lastServiceHeader calls name) name = none

/-! ### Calls of the plugins in the answer -/

section Calls
variable {env : CheckEnv ν κ σ} {cfg : GatewayConfig} {s : σ} {req : CheckRequest ν}
  {route : RouteConfig} {request : PluginRequest} {calls : List ChainCall} {us : ℕ}

theorem lookup_insertResponseHeaders (http : HttpLib ν) (headers : HeaderMap ν)
    (request : PluginRequest) (calls : List ChainCall) (name : String) :
    (insertStringHeaders http headers
        (stateAfter request RuntimeState.new calls).responseHeaders).lookup name =
      (pluginHeader http (lastResponseHeader calls name) name).or (headers.lookup name) := by
  rw [← lookup_responseHeaders request]
  apply lookup_insertStringHeaders
  intro key hkey
  obtain ⟨text, htext⟩ := Option.isSome_iff_exists.mp (AList.lookup_isSome.mpr hkey)
  rw [lookup_responseHeaders] at htext
  exact lowercase_of_lastResponseHeader htext

theorem lookup_insertUpstreamHeaders (http : HttpLib ν) (headers : HeaderMap ν)
    (request : PluginRequest) (calls : List ChainCall) (name : String) :
    (insertStringHeaders http headers
        (stateAfter request RuntimeState.new calls).upstreamHeaders).lookup name =
      (pluginHeader http (lastServiceHeader calls name) name).or (headers.lookup name) := by
  rw [← lookup_upstreamHeaders request]
  apply lookup_insertStringHeaders
  intro key hkey
  obtain ⟨text, htext⟩ := Option.isSome_iff_exists.mp (AList.lookup_isSome.mpr hkey)
  rw [lookup_upstreamHeaders] at htext
  exact (lowercase_of_lastServiceHeader htext).1

/-- An `x-auth-` name is reserved, and no other header the gateway writes. -/
theorem authName_spec {name : String} (h : startsWith name "x-auth-" = true) :
    isReserved name = true ∧ name ≠ "x-request-id" ∧ name ∉ rateLimitNames := by
  refine ⟨?_, ?_, ?_⟩
  · simp [isReserved, reservedHeaderPrefixes, h]
  · rintro rfl
    exact absurd h (by decide)
  · intro hmem
    have hnone : ∀ n ∈ rateLimitNames, startsWith n "x-auth-" = false := by decide
    rw [hnone name hmem] at h
    simp at h

/-- Plugins cannot give an `x-auth-` name to an upstream header. -/
theorem pluginHeader_service_auth (http : HttpLib ν) (calls : List ChainCall) {name : String}
    (h : startsWith name "x-auth-" = true) :
    pluginHeader http (lastServiceHeader calls name) name = none := by
  cases hlast : lastServiceHeader calls name with
  | none => rfl
  | some text =>
    have hfree := (lowercase_of_lastServiceHeader hlast).2
    rw [(authName_spec h).1] at hfree
    simp at hfree

/-- The chain of this request ended normally, after these calls of its plugins. -/
def ContinuesAfter (env : CheckEnv ν κ σ) (req : CheckRequest ν) (route : RouteConfig)
    (calls : List ChainCall) : Prop :=
  ∃ us, pluginOutcome env req route =
    let after := stateAfter (pluginRequest env req (requestInfo env.http req) route)
      RuntimeState.new calls
    some (.ok (.continue after.upstreamHeaders after.responseHeaders us))

/-- An allow answer header by header: the plugins' response headers lie below the auth step's,
their upstream headers above the limiter's. -/
theorem allow_lookup
    (hroute : matchRoute cfg.routes (requestHost env.http req) req.path = some route)
    (hplugin : ContinuesAfter env req route calls)
    (hstatus : (checkInner env cfg s req).response.status = 200) :
    ∃ base decision,
      (∀ name, base.lookup name = pluginHeader env.http (lastResponseHeader calls name) name) ∧
      (applyAuth env cfg route req.headers base).result = .ok () ∧
      (checkInner env cfg s req).authCalls =
        (applyAuth env cfg route req.headers base).authCalls ∧
      (limiterCheck env cfg s route req
        (applyAuth env cfg route req.headers base).responseHeaders).1 = .ok decision ∧
      (∀ name, name ≠ "x-request-id" →
        (checkInner env cfg s req).response.headers.lookup name =
          (pluginHeader env.http (lastServiceHeader calls name) name).or
            ((insertRateLimitHeaders env.http env.nowSecs
              (applyAuth env cfg route req.headers base).responseHeaders decision).lookup name)) ∧
      (∀ value, env.http.parseValue req.requestId = some value →
        (checkInner env cfg s req).response.headers.lookup "x-request-id" = some value) := by
  obtain ⟨us, hplugin⟩ := hplugin
  obtain ⟨hauth, hcalls, decision, hdecision, hheaders⟩ :=
    checkInner_allow_headers hroute hplugin hstatus
  refine ⟨_, decision, fun name => ?_, hauth, hcalls, hdecision, fun name hname => ?_,
    fun value hvalue => ?_⟩
  · rw [lookup_insertResponseHeaders, AList.lookup_empty, Option.or_none]
  · rw [hheaders, env.http.lookup_insertText_ne hname, lookup_insertUpstreamHeaders]
  · rw [hheaders, env.http.lookup_insertText hvalue]

/-- After harmless calls the gateway's headers are authentic. -/
theorem authentic_of_harmless {count nanos : ℕ}
    (hroute : matchRoute cfg.routes (requestHost env.http req) req.path = some route)
    (hid : req.requestId = generateRequestId count nanos)
    (hplugin : ContinuesAfter env req route calls)
    (hstatus : (checkInner env cfg s req).response.status = 200)
    (hharmless : Harmless env.http calls) : HeadersAuthentic env cfg s req route := by
  obtain ⟨base, decision, hbase, hok, hcalls, hdecision, hlookup, hrequestId⟩ :=
    allow_lookup hroute hplugin hstatus
  have hpassed := applyAuth_passed hok
  -- the auth step finds no `x-auth-` header of a plugin
  have hauth : ∀ name, startsWith name "x-auth-" = true →
      (applyAuth env cfg route req.headers base).responseHeaders.lookup name =
        (applyAuth env cfg route req.headers ∅).responseHeaders.lookup name := by
    intro name hname
    have hempty : base.lookup name = (∅ : HeaderMap ν).lookup name := by
      rw [hbase, hharmless.auth name hname, AList.lookup_empty]
    rcases hpassed with hopen | ⟨call, identity, -, -, hcall⟩
    · rw [hopen, hopen]
      exact hempty
    · rw [hcall, hcall]
      exact lookup_identityHeaders_congr env.http hempty identity
  -- nor does anything after the auth step write one
  have hunforged : ∀ name, startsWith name "x-auth-" = true →
      (checkInner env cfg s req).response.headers.lookup name =
        (applyAuth env cfg route req.headers ∅).responseHeaders.lookup name := by
    intro name hname
    obtain ⟨-, hne, hother⟩ := authName_spec hname
    rw [hlookup name hne, pluginHeader_service_auth env.http calls hname, Option.none_or,
      lookup_insertRateLimitHeaders_ne env.http env.nowSecs _ decision hother, hauth name hname]
  refine ⟨?_, hunforged, ⟨decision, ?_, ?_⟩, ?_⟩
  · intro name value hname hvalue
    rw [hunforged name hname] at hvalue
    rcases hpassed with hopen | ⟨call, identity, hvalidated, hresult, hcall⟩
    · rw [hopen] at hvalue
      simp at hvalue
    · rw [hcall] at hvalue
      refine ⟨call, ?_, hvalidated, identity, hresult, hvalue⟩
      rw [hcalls, hcall]
      exact List.mem_singleton_self call
  · rw [← hdecision, limiterCheck_congr (hauth "x-auth-sub" (by decide))]
  · intro name hname
    obtain ⟨text, htext⟩ := exists_rateLimitText env.nowSecs decision hname
    have hne : name ≠ "x-request-id" := by
      rintro rfl
      exact absurd hname (by decide)
    rw [hlookup name hne, hharmless.rateLimit name hname, Option.none_or,
      lookup_insertRateLimitHeaders env.http env.nowSecs _ decision htext,
      lookup_insertRateLimitHeaders env.http env.nowSecs _ decision htext]
  · obtain ⟨value, hvalue, -⟩ :=
      env.http.parseValue_visible (generateRequestId_visible count nanos)
    rw [← hid] at hvalue
    rw [hrequestId value hvalue, hvalue]

end Calls

/-- A chain of the plugin engine that ends normally did so after some sequence of calls; if
these are harmless, the gateway's headers in the answer are authentic. -/
theorem chain_headers_authentic {ω ι : Type} {host : LuaHost ω ι} {clock : ChainClock}
    {runtime : PluginRuntime} {slot : Except PluginError (ThreadLocalVm ω ι)}
    {env : CheckEnv ν κ σ} {cfg : GatewayConfig} {s : σ} {req : CheckRequest ν}
    {route : RouteConfig} {up down : PluginHeaders} {us count nanos : ℕ}
    (hengine : env.pluginEngine =
      some fun request => (executeAccess host clock runtime slot request).result)
    (hroute : matchRoute cfg.routes (requestHost env.http req) req.path = some route)
    (hid : req.requestId = generateRequestId count nanos)
    (hplugin : pluginOutcome env req route = some (.ok (.continue up down us)))
    (hstatus : (checkInner env cfg s req).response.status = 200) :
    ∃ calls, ContinuesAfter env req route calls ∧
      (Harmless env.http calls → HeadersAuthentic env cfg s req route) := by
  have hresult := hplugin
  rw [pluginOutcome, hengine, Option.map_some, Option.some.injEq] at hresult
  obtain ⟨calls, hup, hdown⟩ := executeAccess_continue hresult
  have hafter : ContinuesAfter env req route calls := by
    refine ⟨us, ?_⟩
    rw [hplugin, hup, hdown]
  exact ⟨calls, hafter, authentic_of_harmless hroute hid hafter hstatus⟩

/-! ### Exactly the harmless calls -/

/-- Whatever the configuration, the route, the request and the surroundings: in an answer 200
to a request whose plugins made these calls, the gateway's headers are authentic. -/
def HeadersOwned (http : HttpLib ν) (calls : List ChainCall) : Prop :=
  ∀ (κ σ : Type) (urlOk : String → Bool) (cfg : GatewayConfig) (env : CheckEnv ν κ σ) (s : σ)
    (req : CheckRequest ν) (route : RouteConfig) (count nanos : ℕ),
    Validation.validate urlOk cfg = .ok () → env.http = http →
    req.requestId = generateRequestId count nanos →
    matchRoute cfg.routes (requestHost env.http req) req.path = some route →
    ContinuesAfter env req route calls →
    (checkInner env cfg s req).response.status = 200 → HeadersAuthentic env cfg s req route

/-- A route for every host without authentication, with buckets of this capacity. -/
def openRoute (capacity : ℕ) : RouteConfig :=
  { Validation.minimalRoute "open" ["*"] "/" with rateLimit := ⟨capacity, .finite 1, "ip"⟩ }

/-- Surroundings in which plugins make the given calls and the limiter, in the given mode,
finds every bucket full. -/
def callingEnv (http : HttpLib ν) (calls : List ChainCall) (mode : RateLimitMode)
    (nowSecs : ℕ) : CheckEnv ν Unit Unit where
  http := http
  jwt := ⟨fun _ => none, fun _ _ _ _ => .error .other⟩
  pluginEngine := some fun request =>
    let after := stateAfter request RuntimeState.new calls
    .ok (.continue after.upstreamHeaders after.responseHeaders 0)
  jwksRegistry := ∅
  window := ⟨0, 0, []⟩
  limiter := fun s _ capacity _ => (.ok ⟨true, capacity, capacity - 1, 0, mode⟩, s)
  nowSecs := nowSecs

/-- A request without any header. -/
def openRequest : CheckRequest ν := ⟨[], "GET", "/", generateRequestId 0 0⟩

section Open
variable (http : HttpLib ν) (calls : List ChainCall) (capacity nowSecs : ℕ)
  (mode : RateLimitMode)

theorem openRequest_matches :
    matchRoute (Validation.minimalConfig [openRoute capacity]).routes
      (requestHost (callingEnv http calls mode nowSecs).http openRequest)
      (openRequest : CheckRequest ν).path = some (openRoute capacity) := by
  have hhost : hostMatches "*" (openRoute capacity) = true := by
    simp [hostMatches, openRoute, Validation.minimalRoute]
  have hpath : startsWith "/" (openRoute capacity).pathPrefix = true := startsWith_self "/"
  show matchRoute [openRoute capacity] "*" "/" = some (openRoute capacity)
  simp only [matchRoute, List.filter_cons, hhost, hpath, List.filter_nil, if_true]
  rfl

theorem openRequest_continues :
    ContinuesAfter (callingEnv http calls mode nowSecs) openRequest (openRoute capacity) calls :=
  ⟨0, rfl⟩

/-- The request passes the open route without any validation. -/
theorem openRequest_allowed :
    (checkInner (callingEnv http calls mode nowSecs)
        (Validation.minimalConfig [openRoute capacity]) () openRequest).response.status = 200 ∧
      (checkInner (callingEnv http calls mode nowSecs)
        (Validation.minimalConfig [openRoute capacity]) () openRequest).authCalls = [] := by
  have hmethod : methodAllowed (openRoute capacity) "GET" = true := by
    simp [methodAllowed, openRoute, Validation.minimalRoute, eqIgnoreAsciiCase_self]
  rw [checkInner_of_matched (openRequest_matches http calls capacity nowSecs mode)]
  exact checkMatched_of_open _ _ _ rfl hmethod trivial fun _ _ _ _ => ⟨_, rfl, rfl⟩

variable {http calls}

theorem openRequest_authentic (h : HeadersOwned http calls)
    (hvalid : Validation.validate (fun _ => true)
      (Validation.minimalConfig [openRoute capacity]) = .ok ()) :
    HeadersAuthentic (callingEnv http calls mode nowSecs)
      (Validation.minimalConfig [openRoute capacity]) () openRequest (openRoute capacity) :=
  h Unit Unit (fun _ => true) _ _ () openRequest (openRoute capacity) 0 0 hvalid rfl rfl
    (openRequest_matches http calls capacity nowSecs mode)
    (openRequest_continues http calls capacity nowSecs mode)
    (openRequest_allowed http calls capacity nowSecs mode).1

/-- On the open route a usable `x-auth-` response header of a plugin is never authentic. -/
theorem no_auth_header_of_owned (h : HeadersOwned http calls) {name : String}
    (hname : startsWith name "x-auth-" = true) :
    pluginHeader http (lastResponseHeader calls name) name = none := by
  have hallowed := openRequest_allowed http calls 1 0 .redis
  obtain ⟨base, decision, hbase, -, -, -, hlookup, -⟩ :=
    allow_lookup (openRequest_matches http calls 1 0 .redis)
      (openRequest_continues http calls 1 0 .redis) hallowed.1
  have hauthentic := openRequest_authentic 1 0 .redis h (by decide)
  rw [Option.eq_none_iff_forall_ne_some]
  intro value hvalue
  obtain ⟨-, hne, hother⟩ := authName_spec hname
  -- the header of the answer is the plugin's, although there is no call it could belong to
  have hforged := hlookup name hne
  rw [pluginHeader_service_auth _ calls hname, Option.none_or,
    lookup_insertRateLimitHeaders_ne _ _ _ decision hother,
    applyAuth_of_not_required _ _ _ rfl, hbase] at hforged
  obtain ⟨call, hcall, -⟩ :=
    hauthentic.auth_validated name value hname (hforged.trans hvalue)
  rw [hallowed.2] at hcall
  simp at hcall

/-- On the open route a usable rate limit header of a plugin is authentic only if it is the
text the limiter's answer gives. -/
theorem rateLimit_text_of_owned (h : HeadersOwned http calls)
    (hvalid : Validation.validate (fun _ => true)
      (Validation.minimalConfig [openRoute capacity]) = .ok ())
    {name : String} (hname : name ∈ rateLimitNames) {value : ν}
    (hvalue : pluginHeader http (lastServiceHeader calls name) name = some value) :
    ∃ text, (name, text) ∈ rateLimitTexts nowSecs ⟨true, capacity, capacity - 1, 0, mode⟩ ∧
      http.toStr value = some text := by
  obtain ⟨base, decision, -, -, -, -, hlookup, -⟩ :=
    allow_lookup (openRequest_matches http calls capacity nowSecs mode)
      (openRequest_continues http calls capacity nowSecs mode)
      (openRequest_allowed http calls capacity nowSecs mode).1
  obtain ⟨decision', hdecision, hauthentic⟩ :=
    (openRequest_authentic capacity nowSecs mode h hvalid).rateLimit
  have hdecision' : decision' = ⟨true, capacity, capacity - 1, 0, mode⟩ :=
    (Except.ok.inj hdecision).symm
  subst hdecision'
  obtain ⟨text, htext⟩ := exists_rateLimitText nowSecs
    ⟨true, capacity, capacity - 1, 0, mode⟩ hname
  obtain ⟨own, hown, hreads⟩ := http.parseValue_visible (rateLimitTexts_visible _ _ _ htext)
  have hne : name ≠ "x-request-id" := by
    rintro rfl
    exact absurd hname (by decide)
  -- the answer has the plugin's value; being authentic, it has the limiter's
  have hplugin : _ = (pluginHeader http (lastServiceHeader calls name) name).or _ :=
    hlookup name hne
  have hlimiter : _ = (insertRateLimitHeaders http nowSecs ∅
      ⟨true, capacity, capacity - 1, 0, mode⟩).lookup name := hauthentic name hname
  rw [hvalue, Option.some_or] at hplugin
  rw [lookup_insertRateLimitHeaders _ _ _ _ htext, hown, hplugin, Option.some.injEq] at hlimiter
  exact ⟨text, htext, by rw [hlimiter, hreads]⟩

theorem no_rateLimit_header_of_owned (h : HeadersOwned http calls) {name : String}
    (hname : name ∈ rateLimitNames) :
    pluginHeader http (lastServiceHeader calls name) name = none := by
  rw [Option.eq_none_iff_forall_ne_some]
  intro value hvalue
  -- two answers of the limiter that agree on none of the four headers
  obtain ⟨text, htext, hreads⟩ :=
    rateLimit_text_of_owned 1 0 .redis h (by decide) hname hvalue
  obtain ⟨text', htext', hreads'⟩ :=
    rateLimit_text_of_owned 2 1 .degradedLocal h (by decide) hname hvalue
  have hdiffer : ∀ e ∈ rateLimitTexts 0 ⟨true, 1, 0, 0, .redis⟩,
      ∀ e' ∈ rateLimitTexts 1 ⟨true, 2, 1, 0, .degradedLocal⟩, e.1 = e'.1 → e.2 ≠ e'.2 := by
    decide
  have hsame : text = text' := Option.some.inj (hreads.symm.trans hreads')
  exact hdiffer _ htext _ htext' rfl hsame

end Open

/-- The headers the gateway owns are authentic in every answer 200 after these calls of the
plugins, exactly when the calls leave no usable `x-auth-` header in the response headers and no
usable rate limit header in the upstream headers. -/
theorem plugin_headers_authentic_iff (http : HttpLib ν) (calls : List ChainCall) :
    HeadersOwned http calls ↔ Harmless http calls := by
  constructor
  · intro h
    exact ⟨fun name hname => no_auth_header_of_owned h hname,
      fun name hname => no_rateLimit_header_of_owned h hname⟩
  · intro hharmless κ σ urlOk cfg env s req route count nanos _ hhttp hid hroute hplugin hstatus
    rw [← hhttp] at hharmless
    exact authentic_of_harmless hroute hid hplugin hstatus hharmless

/-- A chain with one plugin that sets a subject as a response header and a number of remaining
requests as an upstream header. -/
def forgingHost : LuaHost Unit String :=
  constantHost fun _ =>
    .call () (.setResponseHeader "X-Auth-Sub" "admin") fun _ =>
      .call () (.setServiceHeader "X-Rate-Limit-Remaining" "999999") fun _ => .done ()

def forgerBinding : PluginBinding where
  id := "open:forger"
  name := "forger"
  priority := 10
  version := "1.0.0"
  failOpen := false
  source := pluginSource ("gateway.response.set_header('X-Auth-Sub', 'admin') " ++
    "gateway.service.request.set_header('X-Rate-Limit-Remaining', '999999')")
  config := .null

/-- Surroundings with a plugin engine that runs this chain for the route `open`. -/
def forgingEnv : CheckEnv String Unit Unit :=
  { callingEnv HttpLib.plain [] .redis 0 with
    pluginEngine := some fun request =>
      (executeAccess forgingHost ⟨fun _ => 0, 0⟩
        ⟨1, {}, AList.insert "open" ⟨[forgerBinding]⟩ ∅⟩ (.ok ⟨(), 0, ∅⟩)
        request).result }

/-- The answer to a request without a token. -/
def forgedOutcome : CheckOutcome String Unit Unit :=
  checkInner forgingEnv (Validation.minimalConfig [openRoute 10]) () openRequest

/-- The forged headers are in an answer for which nothing was validated and one request of
ten was used up. -/
theorem plugin_headers_forged :
    Validation.validate (fun _ => true) (Validation.minimalConfig [openRoute 10]) = .ok () ∧
      forgedOutcome.response.status = 200 ∧ forgedOutcome.authCalls.length = 0 ∧
      forgedOutcome.response.headers.lookup "x-auth-sub" = some "admin" ∧
      forgedOutcome.response.headers.lookup "x-rate-limit-limit" = some "10" ∧
      forgedOutcome.response.headers.lookup "x-rate-limit-remaining" = some "999999" := by
  refine ⟨by decide, rfl, rfl, rfl, rfl, rfl⟩

end ExtAuthz
end OpenApiGateway
