import OpenApiGateway.ExtAuthz.HeaderOwnership

/-!
# Which bucket a request is counted in

The keys a check asks its limiter for, and when two subjects of a route keyed by `sub` are
counted apart. The subject reaches the key through the header `x-auth-sub`: it is parsed to a
header value, inserted over what a plugin may have written there, and read back as text, with
`anonymous` for a value that is not text. `subject_buckets_isolated_iff` says for which
subjects this is one to one.
-/

namespace OpenApiGateway
namespace ExtAuthz

open Lib.Text Auth RateLimit Plugins

variable {ν κ σ : Type}

/-! ## The keys of a check -/

/-- A limiter that keeps the keys it is asked for. -/
def recordKey : Limiter (List String) := fun keys key _ _ => (.error .unavailable, keys ++ [key])

/-- The same surroundings with a limiter that keeps its keys. -/
def CheckEnv.recording (env : CheckEnv ν κ σ) : CheckEnv ν κ (List String) :=
  { env with limiter := recordKey }

/-- A check whose limiter keeps its keys. -/
def recorded (env : CheckEnv ν κ σ) (cfg : GatewayConfig) (req : CheckRequest ν) :
    CheckOutcome ν κ (List String) :=
  checkInner env.recording cfg [] req

/-- The keys a check asks its limiter for. -/
def bucketKeys (env : CheckEnv ν κ σ) (cfg : GatewayConfig) (req : CheckRequest ν) : List String :=
  (recorded env cfg req).limiterState

theorem checkRateLimit_limiterState (env : CheckEnv ν κ σ) (cfg : GatewayConfig) (s : σ)
    (req : CheckRequest ν) (info : RequestInfo) (route : RouteConfig) (plugin : PluginContinue ν)
    (auth : AuthOutcome ν κ) :
    (checkRateLimit env cfg s req info route plugin auth).limiterState =
      (limiterCheck env cfg s route req auth.responseHeaders).2 := by
  unfold checkRateLimit
  simp only
  split
  · split
    · rfl
    · rfl
  · rfl

theorem checkAuth_authCalls (env : CheckEnv ν κ σ) (cfg : GatewayConfig) (s : σ)
    (req : CheckRequest ν) (info : RequestInfo) (route : RouteConfig)
    (plugin : PluginContinue ν) :
    (checkAuth env cfg s req info route plugin).authCalls =
      (applyAuth env cfg route req.headers plugin.responseHeaders).authCalls := by
  unfold checkAuth
  simp only
  split
  · rfl
  · exact (checkRateLimit_spec env cfg s req info route plugin _).1

section Continued
variable {env : CheckEnv ν κ σ} {cfg : GatewayConfig} {s : σ} {req : CheckRequest ν}
  {route : RouteConfig}

/-- A check whose chain ends normally goes on to the auth step. -/
theorem checkInner_of_continued {plugin : PluginContinue ν} {effects : List Effect}
    (hroute : matchRoute cfg.routes (requestHost env.http req) req.path = some route)
    (hmethod : methodAllowed route req.method = true)
    (hplugin : executeAccessPlugins env req (requestInfo env.http req) route =
      (.ok plugin, effects)) :
    checkInner env cfg s req =
      { checkAuth env cfg s req (requestInfo env.http req) route plugin with
        effects := effects ++
          (checkAuth env cfg s req (requestInfo env.http req) route plugin).effects } := by
  rw [checkInner_of_matched hroute]
  unfold checkMatched
  rw [if_pos hmethod, hplugin]

/-- A request that gets through the plugins and the auth step is put to the limiter once. -/
theorem checkInner_limiterState {plugin : PluginContinue ν} {effects : List Effect}
    (hroute : matchRoute cfg.routes (requestHost env.http req) req.path = some route)
    (hmethod : methodAllowed route req.method = true)
    (hplugin : executeAccessPlugins env req (requestInfo env.http req) route =
      (.ok plugin, effects))
    (hauth : (applyAuth env cfg route req.headers plugin.responseHeaders).result = .ok ()) :
    (checkInner env cfg s req).limiterState =
      (limiterCheck env cfg s route req
        (applyAuth env cfg route req.headers plugin.responseHeaders).responseHeaders).2 := by
  rw [checkInner_of_continued hroute hmethod hplugin]
  unfold checkAuth
  simp only [hauth]
  exact checkRateLimit_limiterState env cfg s req _ route plugin _

/-- A call that the check records was made by the auth step, after the chain had ended
normally. -/
theorem checkInner_authCalls {call : AuthCall κ}
    (hroute : matchRoute cfg.routes (requestHost env.http req) req.path = some route)
    (hcall : call ∈ (checkInner env cfg s req).authCalls) :
    methodAllowed route req.method = true ∧ ∃ plugin effects,
      executeAccessPlugins env req (requestInfo env.http req) route = (.ok plugin, effects) ∧
      call ∈ (applyAuth env cfg route req.headers plugin.responseHeaders).authCalls := by
  rw [checkInner_of_matched hroute] at hcall
  unfold checkMatched at hcall
  split at hcall
  · rename_i hmethod
    refine ⟨hmethod, ?_⟩
    split at hcall
    · exact absurd hcall List.not_mem_nil
    · rename_i plugin effects hplugin
      rw [checkAuth_authCalls] at hcall
      exact ⟨plugin, effects, hplugin, hcall⟩
  · exact absurd hcall List.not_mem_nil

end Continued

/-- A check asks for no key, or for the one key of its route. -/
theorem bucketKeys_cases {env : CheckEnv ν κ σ} {cfg : GatewayConfig} {req : CheckRequest ν}
    {route : RouteConfig}
    (hroute : matchRoute cfg.routes (requestHost env.http req) req.path = some route) :
    bucketKeys env cfg req = [] ∨ ∃ headers, bucketKeys env cfg req =
      [buildKey cfg.rateLimits.redisKeyPrefix route.name route.rateLimit.keyBy
        (bucketKeyValue env cfg route req headers)] := by
  have hroute' : matchRoute cfg.routes (requestHost env.recording.http req) req.path = some route :=
    hroute
  unfold bucketKeys recorded
  rw [checkInner_of_matched hroute']
  unfold checkMatched
  split
  · split
    · exact .inl rfl
    · rename_i plugin effects hplugin
      unfold checkAuth
      simp only
      split
      · exact .inl rfl
      · right
        rw [checkRateLimit_limiterState]
        exact ⟨_, rfl⟩
  · exact .inl rfl

/-! ## A validated subject -/

/-- The request passes the auth step of the route as this subject. -/
structure PassesAs (http : HttpLib ν) (jwt : JwtLib κ) (cfg : GatewayConfig) (route : RouteConfig)
    (sub : String) (env : CheckEnv ν κ σ) (req : CheckRequest ν) : Prop where
  http_eq : env.http = http
  jwt_eq : env.jwt = jwt
  matched : matchRoute cfg.routes (requestHost http req) req.path = some route
  validated : ∃ call identity, call ∈ (recorded env cfg req).authCalls ∧
    call.result = .ok identity ∧ identity.sub = sub

/-- The text a subject is counted under, over what was under `x-auth-sub` before. -/
def subjectValue (http : HttpLib ν) (sub : String) (written : Option ν) : String :=
  (((http.parseValue sub).or written).bind http.toStr).getD "anonymous"

theorem lookup_identityHeaders_sub (http : HttpLib ν) (headers : HeaderMap ν)
    (identity : ValidatedIdentity) :
    (identityHeaders http headers identity).lookup "x-auth-sub" =
      (http.parseValue identity.sub).or (headers.lookup "x-auth-sub") := by
  unfold identityHeaders
  rw [http.lookup_insertText_ne (by decide), http.lookup_insertText_ne (by decide)]
  cases hvalue : http.parseValue identity.sub with
  | none => simp [HttpLib.insertText, hvalue]
  | some value => rw [http.lookup_insertText hvalue, Option.some_or]

/-- The auth step that made a successful call passes, with the headers of that identity. -/
theorem applyAuth_of_call {env : CheckEnv ν κ σ} {cfg : GatewayConfig} {route : RouteConfig}
    {requestHeaders : RequestHeaders ν} {headers : HeaderMap ν} {call : AuthCall κ}
    {identity : ValidatedIdentity}
    (hcall : call ∈ (applyAuth env cfg route requestHeaders headers).authCalls)
    (hresult : call.result = .ok identity) (base : HeaderMap ν) :
    applyAuth env cfg route requestHeaders base =
      ⟨.ok (), identityHeaders env.http base identity, some identity.sub, [], [call]⟩ := by
  rcases applyAuth_outcomes env cfg route requestHeaders with
    ⟨-, hout⟩ | ⟨-, reason, -, hout⟩ | ⟨-, -, hout⟩ | ⟨-, made, -, hout⟩
  · rw [hout] at hcall
    exact absurd hcall List.not_mem_nil
  · rw [hout] at hcall
    exact absurd hcall List.not_mem_nil
  · rw [hout] at hcall
    exact absurd hcall List.not_mem_nil
  · rw [hout, authAnswer_authCalls, List.mem_singleton] at hcall
    rw [hout, authAnswer, ← hcall, hresult]

/-- The surroundings with an engine whose chains end normally and set these headers. -/
def CheckEnv.writing (env : CheckEnv ν κ σ) (down : PluginHeaders) : CheckEnv ν κ σ :=
  { env with pluginEngine := some fun _ => .ok (.continue ∅ down 0) }

/-- What the plugin step of such surroundings hands on. -/
def writtenBy (env : CheckEnv ν κ σ) (req : CheckRequest ν) (route : RouteConfig)
    (down : PluginHeaders) : PluginContinue ν where
  request := pluginRequest env req (requestInfo env.http req) route
  upstreamHeaders := ∅
  responseHeaders := insertStringHeaders env.http ∅ down

section Subject
variable {http : HttpLib ν} {jwt : JwtLib κ} {cfg : GatewayConfig} {route : RouteConfig}
  {sub : String} {env : CheckEnv ν κ σ} {req : CheckRequest ν}

/-- How a request passes as a subject: its chain has ended normally, and the auth step accepts
whatever headers the chain has set. -/
theorem PassesAs.spec (h : PassesAs http jwt cfg route sub env req) :
    methodAllowed route req.method = true ∧ ∃ plugin effects call identity,
      executeAccessPlugins env req (requestInfo env.http req) route = (.ok plugin, effects) ∧
      identity.sub = sub ∧ call.result = .ok identity ∧
      ∀ base, applyAuth env cfg route req.headers base =
        ⟨.ok (), identityHeaders env.http base identity, some identity.sub, [], [call]⟩ := by
  obtain ⟨hhttp, -, hroute, call, identity, hcall, hresult, hsub⟩ := h
  have hroute' : matchRoute cfg.routes (requestHost env.recording.http req) req.path = some route :=
    hhttp.symm ▸ hroute
  obtain ⟨hmethod, plugin, effects, hplugin, hmade⟩ := checkInner_authCalls hroute' hcall
  exact ⟨hmethod, plugin, effects, call, identity, hplugin, hsub, hresult,
    applyAuth_of_call hmade hresult⟩

/-- The one key of a request that passes as a subject, for the headers its chain has set. -/
theorem PassesAs.bucketKeys_eq (h : PassesAs http jwt cfg route sub env req)
    (hkey : route.rateLimit.keyBy = "sub") {plugin : PluginContinue ν} {effects : List Effect}
    (hplugin : executeAccessPlugins env req (requestInfo env.http req) route =
      (.ok plugin, effects)) :
    bucketKeys env cfg req =
      [buildKey cfg.rateLimits.redisKeyPrefix route.name "sub"
        (subjectValue http sub (plugin.responseHeaders.lookup "x-auth-sub"))] := by
  obtain ⟨hmethod, -, -, call, identity, -, hsub, -, hauth⟩ := h.spec
  have hroute : matchRoute cfg.routes (requestHost env.recording.http req) req.path = some route :=
    h.http_eq.symm ▸ h.matched
  have hpassed : (applyAuth env.recording cfg route req.headers plugin.responseHeaders).result =
      .ok () := by
    show (applyAuth env cfg route req.headers plugin.responseHeaders).result = .ok ()
    rw [hauth]
  have hkeys : bucketKeys env cfg req = _ :=
    checkInner_limiterState hroute hmethod hplugin hpassed
  rw [hkeys]
  show [] ++ [buildKey _ _ _ (bucketKeyValue env cfg route req
    (applyAuth env cfg route req.headers plugin.responseHeaders).responseHeaders)] = _
  rw [hauth, List.nil_append]
  simp only [bucketKeyValue, hkey, beq_self_eq_true, if_true, lookup_identityHeaders_sub, hsub,
    subjectValue, h.http_eq]

/-- Which headers the plugins set makes no difference to whether a request passes. -/
theorem PassesAs.writing (h : PassesAs http jwt cfg route sub env req) (down : PluginHeaders) :
    PassesAs http jwt cfg route sub (env.writing down) req := by
  obtain ⟨hmethod, -, -, call, identity, -, hsub, hresult, hauth⟩ := h.spec
  have hroute : matchRoute cfg.routes (requestHost (env.writing down).recording.http req) req.path =
      some route := h.http_eq.symm ▸ h.matched
  have hplugin : executeAccessPlugins (env.writing down).recording req
      (requestInfo (env.writing down).recording.http req) route =
        (.ok (writtenBy env req route down), [.recordPluginChain route.name 0]) := rfl
  refine ⟨h.http_eq, h.jwt_eq, h.matched, call, identity, ?_, hresult, hsub⟩
  unfold recorded
  rw [checkInner_of_continued hroute hmethod hplugin, checkAuth_authCalls]
  show call ∈ (applyAuth env cfg route req.headers _).authCalls
  rw [hauth]
  exact List.mem_singleton_self call

/-- With these headers set, the subject is inserted over what they make of `x-auth-sub`. -/
theorem PassesAs.bucketKeys_writing (h : PassesAs http jwt cfg route sub env req)
    (hkey : route.rateLimit.keyBy = "sub") (down : PluginHeaders) :
    bucketKeys (env.writing down) cfg req =
      [buildKey cfg.rateLimits.redisKeyPrefix route.name "sub"
        (subjectValue http sub ((insertStringHeaders http ∅ down).lookup "x-auth-sub"))] := by
  have hplugin : executeAccessPlugins (env.writing down) req
      (requestInfo (env.writing down).http req) route =
        (.ok (writtenBy env req route down), [.recordPluginChain route.name 0]) := rfl
  rw [(h.writing down).bucketKeys_eq hkey hplugin, ← h.http_eq]
  rfl

end Subject

/-! ## Subjects that are counted apart -/

/-- The subject makes a header value that reads back, and is not the stand-in text. -/
def NamesItself (http : HttpLib ν) (sub : String) : Prop :=
  (∃ value, http.parseValue sub = some value ∧ http.toStr value = some sub) ∧ sub ≠ "anonymous"

/-- Both subjects make header values, and if they differ, one of them names itself. -/
structure Separable (http : HttpLib ν) (s₁ s₂ : String) : Prop where
  left : http.parseValue s₁ ≠ none
  right : http.parseValue s₂ ≠ none
  apart : s₁ = s₂ ∨ NamesItself http s₁ ∨ NamesItself http s₂

theorem buildKey_inj {keyPrefix route dimension v₁ v₂ : String}
    (h : buildKey keyPrefix route dimension v₁ = buildKey keyPrefix route dimension v₂) :
    v₁ = v₂ := by
  have happ : keyPrefix ++ ":" ++ route ++ ":" ++ dimension ++ ":" ++ v₁ =
      keyPrefix ++ ":" ++ route ++ ":" ++ dimension ++ ":" ++ v₂ := h
  simpa using happ

theorem subjectValue_of_names {http : HttpLib ν} {sub : String} (h : NamesItself http sub)
    (written : Option ν) : subjectValue http sub written = sub := by
  obtain ⟨⟨value, hparse, hread⟩, -⟩ := h
  simp [subjectValue, hparse, hread]

/-- A subject that makes a header value is counted under its own text or the stand-in, whatever
was written before. -/
theorem subjectValue_of_parsed {http : HttpLib ν} {sub : String}
    (h : http.parseValue sub ≠ none) (written written' : Option ν) :
    subjectValue http sub written = subjectValue http sub written' ∧
      (subjectValue http sub written = sub ∨ subjectValue http sub written = "anonymous") := by
  obtain ⟨value, hvalue⟩ := Option.ne_none_iff_exists'.mp h
  simp only [subjectValue, hvalue, Option.some_or, Option.bind_some, true_and]
  cases hread : http.toStr value with
  | none => exact .inr rfl
  | some text => exact .inl (http.toStr_parseValue hvalue hread)

theorem subjectValue_of_not_names {http : HttpLib ν} {sub : String}
    (hparse : http.parseValue sub ≠ none) (h : ¬ NamesItself http sub) (written : Option ν) :
    subjectValue http sub written = "anonymous" := by
  rcases (subjectValue_of_parsed hparse written none).2 with hself | hanon
  · -- counted under its own text, so this text is the stand-in
    obtain ⟨value, hvalue⟩ := Option.ne_none_iff_exists'.mp hparse
    by_contra hne
    apply h
    rw [hself] at hne
    refine ⟨⟨value, hvalue, ?_⟩, hne⟩
    simp only [subjectValue, hvalue, Option.some_or, Option.bind_some] at hself
    cases hread : http.toStr value with
    | none =>
      rw [hread] at hself
      exact absurd hself.symm hne
    | some text => rw [http.toStr_parseValue hvalue hread]
  · exact hanon

/-- Separable subjects are counted under one text exactly when they are the same. -/
theorem Separable.subjectValue_eq_iff {http : HttpLib ν} {s₁ s₂ : String}
    (h : Separable http s₁ s₂) (w₁ w₂ : Option ν) :
    subjectValue http s₁ w₁ = subjectValue http s₂ w₂ ↔ s₁ = s₂ := by
  constructor
  · intro heq
    rcases h.apart with hsame | hnames | hnames
    · exact hsame
    · rw [subjectValue_of_names hnames] at heq
      rcases (subjectValue_of_parsed h.right w₂ none).2 with hself | hanon
      · rw [heq, hself]
      · exact absurd (heq.trans hanon) hnames.2
    · rw [subjectValue_of_names hnames] at heq
      rcases (subjectValue_of_parsed h.left w₁ none).2 with hself | hanon
      · rw [← heq, hself]
      · exact absurd (heq.symm.trans hanon) hnames.2
  · rintro rfl
    exact (subjectValue_of_parsed h.left w₁ w₂).1

/-- What a plugin writes under `x-auth-sub`. -/
def writtenSubject (text : String) : PluginHeaders := AList.insert "x-auth-sub" text ∅

theorem lookup_writtenSubject {http : HttpLib ν}
    (hname : http.parseName "x-auth-sub" = some "x-auth-sub") (text : String) :
    (insertStringHeaders http ∅ (writtenSubject text)).lookup "x-auth-sub" =
      http.parseValue text := by
  have hentries : (writtenSubject text).entries = [⟨"x-auth-sub", text⟩] := rfl
  simp only [insertStringHeaders, hentries, List.foldl_cons, List.foldl_nil,
    HttpLib.insertParsed, hname]
  cases http.parseValue text with
  | none => rfl
  | some value => exact AList.lookup_insert ∅

/-- Over a subject that makes no header value, a plugin can put any other subject's text. -/
theorem exists_written_eq {http : HttpLib ν}
    (hname : http.parseName "x-auth-sub" = some "x-auth-sub") {s : String}
    (hnone : http.parseValue s = none) (other : String) :
    ∃ down : PluginHeaders,
      subjectValue http s ((insertStringHeaders http ∅ down).lookup "x-auth-sub") =
        subjectValue http other none := by
  refine ⟨writtenSubject other, ?_⟩
  rw [lookup_writtenSubject hname]
  simp only [subjectValue, hnone, Option.none_or, Option.or_none]

/-- Whatever the plugins do, the requests of two subjects use one bucket exactly when the
subjects are the same. -/
def SubjectsIsolated (σ : Type) (http : HttpLib ν) (jwt : JwtLib κ) (cfg : GatewayConfig)
    (route : RouteConfig) (s₁ s₂ : String) : Prop :=
  ∀ (env₁ env₂ : CheckEnv ν κ σ) (req₁ req₂ : CheckRequest ν),
    PassesAs http jwt cfg route s₁ env₁ req₁ → PassesAs http jwt cfg route s₂ env₂ req₂ →
      (bucketKeys env₁ cfg req₁ = bucketKeys env₂ cfg req₂ ↔ s₁ = s₂)

theorem SubjectsIsolated.symm {http : HttpLib ν} {jwt : JwtLib κ} {cfg : GatewayConfig}
    {route : RouteConfig} {s₁ s₂ : String} (h : SubjectsIsolated σ http jwt cfg route s₁ s₂) :
    SubjectsIsolated σ http jwt cfg route s₂ s₁ := by
  intro env₁ env₂ req₁ req₂ h₁ h₂
  rw [eq_comm, h env₂ env₁ req₂ req₁ h₂ h₁]
  exact eq_comm

section Isolation
variable {http : HttpLib ν} {jwt : JwtLib κ} {cfg : GatewayConfig} {route : RouteConfig}
  {s₁ s₂ : String} {env₁ env₂ : CheckEnv ν κ σ} {req₁ req₂ : CheckRequest ν}

/-- Isolation, read on the texts that two subjects are counted under. -/
theorem SubjectsIsolated.subjectValue_eq_iff (h : SubjectsIsolated σ http jwt cfg route s₁ s₂)
    (hkey : route.rateLimit.keyBy = "sub") (h₁ : PassesAs http jwt cfg route s₁ env₁ req₁)
    (h₂ : PassesAs http jwt cfg route s₂ env₂ req₂) (down₁ down₂ : PluginHeaders) :
    subjectValue http s₁ ((insertStringHeaders http ∅ down₁).lookup "x-auth-sub") =
      subjectValue http s₂ ((insertStringHeaders http ∅ down₂).lookup "x-auth-sub") ↔ s₁ = s₂ := by
  rw [← h _ _ _ _ (h₁.writing down₁) (h₂.writing down₂), h₁.bucketKeys_writing hkey,
    h₂.bucketKeys_writing hkey, List.cons.injEq]
  constructor
  · intro heq
    rw [heq]
    exact ⟨rfl, rfl⟩
  · intro heq
    exact buildKey_inj heq.1

/-- Isolated subjects make header values: otherwise plugins decide which bucket is used. -/
theorem SubjectsIsolated.parsed (h : SubjectsIsolated σ http jwt cfg route s₁ s₂)
    (hkey : route.rateLimit.keyBy = "sub")
    (hname : http.parseName "x-auth-sub" = some "x-auth-sub")
    (h₁ : PassesAs http jwt cfg route s₁ env₁ req₁)
    (h₂ : PassesAs http jwt cfg route s₂ env₂ req₂) : http.parseValue s₁ ≠ none := by
  intro hnone
  by_cases hsame : s₁ = s₂
  · -- one subject, counted as `anonymous` without a plugin and as `a` with one
    subst hsame
    obtain ⟨value, hvalue, hread⟩ := http.parseValue_visible (s := "a") (by decide)
    have heq := (h.subjectValue_eq_iff hkey h₁ h₂ ∅ (writtenSubject "a")).mpr rfl
    rw [lookup_writtenSubject hname, hvalue] at heq
    have hempty : (insertStringHeaders http ∅ (∅ : PluginHeaders)).lookup "x-auth-sub" = none := rfl
    rw [hempty] at heq
    simp [subjectValue, hnone, hread] at heq
  · obtain ⟨down, hdown⟩ := exists_written_eq hname hnone s₂
    exact hsame ((h.subjectValue_eq_iff hkey h₁ h₂ down ∅).mp hdown)

end Isolation

/-- Of two subjects that pass on a route keyed by `sub`, the requests use one bucket exactly
for the same subject, if and only if both make header values and, where they differ, one of
them names itself. -/
theorem subject_buckets_isolated_iff (http : HttpLib ν) (jwt : JwtLib κ) (cfg : GatewayConfig)
    (route : RouteConfig) (s₁ s₂ : String) (hkey : route.rateLimit.keyBy = "sub")
    (hname : http.parseName "x-auth-sub" = some "x-auth-sub") :
    SubjectsIsolated σ http jwt cfg route s₁ s₂ ↔
      ((∃ (env : CheckEnv ν κ σ) (req : CheckRequest ν), PassesAs http jwt cfg route s₁ env req) →
        (∃ (env : CheckEnv ν κ σ) (req : CheckRequest ν),
          PassesAs http jwt cfg route s₂ env req) → Separable http s₁ s₂) := by
  constructor
  · rintro h ⟨env₁, req₁, h₁⟩ ⟨env₂, req₂, h₂⟩
    have hleft := h.parsed hkey hname h₁ h₂
    have hright := h.symm.parsed hkey hname h₂ h₁
    refine ⟨hleft, hright, ?_⟩
    by_contra hnot
    rw [not_or, not_or] at hnot
    -- neither names itself: both are counted as `anonymous`
    apply hnot.1
    apply (h.subjectValue_eq_iff hkey h₁ h₂ ∅ ∅).mp
    rw [subjectValue_of_not_names hleft hnot.2.1, subjectValue_of_not_names hright hnot.2.2]
  · intro h env₁ env₂ req₁ req₂ h₁ h₂
    have hsep := h ⟨env₁, req₁, h₁⟩ ⟨env₂, req₂, h₂⟩
    obtain ⟨-, plugin₁, effects₁, -, -, hplugin₁, -⟩ := h₁.spec
    obtain ⟨-, plugin₂, effects₂, -, -, hplugin₂, -⟩ := h₂.spec
    rw [h₁.bucketKeys_eq hkey hplugin₁, h₂.bucketKeys_eq hkey hplugin₂]
    constructor
    · intro heq
      exact (hsep.subjectValue_eq_iff _ _).mp (buildKey_inj (List.cons.inj heq).1)
    · intro hsame
      rw [(hsep.subjectValue_eq_iff _ _).mpr hsame]

/-! ## The subjects in characters -/

/-- A header library that refuses control characters, keeps all others, and reads only visible
ASCII back. -/
structure KeepsOctets (http : HttpLib ν) : Prop where
  parseValue_iff : ∀ s, http.parseValue s ≠ none ↔ s.toList.any isControl = false
  toStr_visible : ∀ s value, http.parseValue s = some value →
    http.toStr value ≠ none → s.toList.all isVisibleAscii = true

theorem keepsOctets_octets : KeepsOctets HttpLib.octets where
  parseValue_iff := by
    intro s
    show (if s.toList.any isControl = true then none else some s) ≠ none ↔ _
    cases s.toList.any isControl with
    | false => simp
    | true => simp
  toStr_visible := by
    intro s value hparse hread
    have hvalue : s = value := by
      simp only [HttpLib.octets] at hparse
      split at hparse
      · simp at hparse
      · exact Option.some.inj hparse
    simp only [HttpLib.octets] at hread
    split at hread
    · rename_i hvisible
      rw [hvalue]
      exact hvisible
    · exact absurd rfl hread

theorem KeepsOctets.namesItself_iff {http : HttpLib ν} (h : KeepsOctets http) (sub : String) :
    NamesItself http sub ↔ sub.toList.all isVisibleAscii = true ∧ sub ≠ "anonymous" := by
  constructor
  · rintro ⟨⟨value, hparse, hread⟩, hne⟩
    exact ⟨h.toStr_visible sub value hparse (by simp [hread]), hne⟩
  · rintro ⟨hvisible, hne⟩
    exact ⟨http.parseValue_visible hvisible, hne⟩

/-- Subjects are separable when neither has a control character and, if they differ, one of
them is visible ASCII other than the stand-in. -/
theorem KeepsOctets.separable_iff {http : HttpLib ν} (h : KeepsOctets http) (s₁ s₂ : String) :
    Separable http s₁ s₂ ↔
      s₁.toList.any isControl = false ∧ s₂.toList.any isControl = false ∧
      (s₁ = s₂ ∨ (s₁.toList.all isVisibleAscii = true ∧ s₁ ≠ "anonymous") ∨
        (s₂.toList.all isVisibleAscii = true ∧ s₂ ≠ "anonymous")) := by
  rw [← h.parseValue_iff, ← h.parseValue_iff, ← h.namesItself_iff, ← h.namesItself_iff]
  exact ⟨fun h => ⟨h.left, h.right, h.apart⟩, fun h => ⟨h.1, h.2.1, h.2.2⟩⟩

/-! ## Two subjects in one bucket -/

/-- The protected route, counted by subject. -/
def subjectRoute : RouteConfig := { protectedRoute with rateLimit := ⟨10, .finite 1, "sub"⟩ }

/-- The subject that a token of the issuer encodes. -/
def encodedSubject (token : String) : String :=
  if token = "1" then "José" else if token = "2" then "Zoë" else token

/-- Every token is valid, and carries the subject it encodes. -/
def issuedTokens : JwtLib Unit where
  decodeHeader _ := some ⟨.rs256, some "k"⟩
  decode _ token _ _ :=
    .ok ⟨some (encodedSubject token), some "https://issuer",
      .single "api", some 1, none, none, none⟩

/-- Surroundings in which such tokens are accepted for the provider `main`, without plugins. -/
def issuerEnv : CheckEnv String Unit Unit :=
  { plainEnv none with
    http := HttpLib.octets
    jwt := issuedTokens
    jwksRegistry := AList.insert "main"
      ⟨⟨"main", "https://issuer", "api", "https://issuer/jwks", 300, 30⟩, [⟨"k", ()⟩], 0⟩ ∅ }

theorem subject_buckets_isolated_iff_subjectRoute :
    subjectRoute.rateLimit.keyBy = "sub" ∧
      HttpLib.octets.parseName "x-auth-sub" = some "x-auth-sub" ∧
      (SubjectsIsolated Unit HttpLib.octets issuedTokens (Validation.minimalConfig [subjectRoute])
        subjectRoute "alice" "bob" ↔
      ((∃ (env : CheckEnv String Unit Unit) (req : CheckRequest String),
        PassesAs HttpLib.octets issuedTokens (Validation.minimalConfig [subjectRoute])
          subjectRoute "alice" env req) →
        (∃ (env : CheckEnv String Unit Unit) (req : CheckRequest String),
          PassesAs HttpLib.octets issuedTokens (Validation.minimalConfig [subjectRoute])
            subjectRoute "bob" env req) → Separable HttpLib.octets "alice" "bob")) :=
  ⟨rfl, by decide, subject_buckets_isolated_iff HttpLib.octets issuedTokens
    (Validation.minimalConfig [subjectRoute]) subjectRoute "alice" "bob" rfl (by decide)⟩

/-- The users José and Zoë share one bucket. -/
theorem subjects_share_bucket :
    KeepsOctets HttpLib.octets ∧
    Validation.validate (fun _ => true) (Validation.minimalConfig [subjectRoute]) = .ok () ∧
    bucketKeys issuerEnv (Validation.minimalConfig [subjectRoute]) (tokenRequest "1") =
      ["rl:private:sub:anonymous"] ∧
    bucketKeys issuerEnv (Validation.minimalConfig [subjectRoute]) (tokenRequest "2") =
      ["rl:private:sub:anonymous"] ∧
    ¬ SubjectsIsolated Unit HttpLib.octets issuedTokens (Validation.minimalConfig [subjectRoute])
      subjectRoute "José" "Zoë" := by
  have h₁ : PassesAs HttpLib.octets issuedTokens (Validation.minimalConfig [subjectRoute])
      subjectRoute "José" issuerEnv (tokenRequest "1") :=
    ⟨rfl, rfl, rfl, _, _, List.mem_singleton_self _, rfl, rfl⟩
  have h₂ : PassesAs HttpLib.octets issuedTokens (Validation.minimalConfig [subjectRoute])
      subjectRoute "Zoë" issuerEnv (tokenRequest "2") :=
    ⟨rfl, rfl, rfl, _, _, List.mem_singleton_self _, rfl, rfl⟩
  refine ⟨keepsOctets_octets, by decide, by decide, by decide, fun h => ?_⟩
  have hsame := (h issuerEnv issuerEnv (tokenRequest "1") (tokenRequest "2") h₁ h₂).mp (by decide)
  exact absurd hsame (by decide)

end ExtAuthz
end OpenApiGateway
