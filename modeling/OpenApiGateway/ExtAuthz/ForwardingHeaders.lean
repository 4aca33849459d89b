import OpenApiGateway.ExtAuthz.BucketKeys

/-!
# Forwarding headers that are not trusted

Without a plugin engine a check reads three request headers: `host`, `authorization` and
`x-envoy-external-address`; with `trust_forwarded_headers` it also reads `x-forwarded-for`. Here
that setting is off, and two requests are compared that differ in headers whose names start with
`x-forwarded-`. Every stage of the check then does the same for both. The request id and the clock
may differ as well: they show in one response header each.
-/

namespace OpenApiGateway
namespace ExtAuthz

open Lib.Text Auth RateLimit Plugins

variable {ν κ σ : Type}

/-! ## Requests that agree -/

/-- The headers that proxies on the way put in. -/
def isForwarding (name : String) : Bool := startsWith name "x-forwarded-"

/-- The requests have the same method, path and headers, forwarding headers apart. -/
structure AgreeButForwarding (req req' : CheckRequest ν) : Prop where
  method : req.method = req'.method
  path : req.path = req'.path
  headers : ∀ name, isForwarding name = false →
    req.headers.getAll name = req'.headers.getAll name

section Reads
variable {req req' : CheckRequest ν} (h : AgreeButForwarding req req')
include h

/-- Every other header has the same text in both requests. -/
theorem AgreeButForwarding.headerStr_eq (http : HttpLib ν) {name : String}
    (hname : isForwarding name = false) :
    headerStr http req.headers name = headerStr http req'.headers name := by
  rw [headerStr, headerStr, RequestHeaders.get_eq_head?, RequestHeaders.get_eq_head?,
    h.headers name hname]

theorem AgreeButForwarding.requestHost_eq (http : HttpLib ν) :
    requestHost http req = requestHost http req' := by
  rw [requestHost, requestHost, h.headerStr_eq http (by decide)]

theorem AgreeButForwarding.clientIp_eq (http : HttpLib ν) :
    clientIp http req.headers false = clientIp http req'.headers false := by
  have haddress : headerStr http req.headers "x-envoy-external-address" =
      headerStr http req'.headers "x-envoy-external-address" := h.headerStr_eq http (by decide)
  -- without trust the address that Envoy has set is the only one looked at
  show (headerStr http req.headers "x-envoy-external-address").getD "0.0.0.0" =
    (headerStr http req'.headers "x-envoy-external-address").getD "0.0.0.0"
  rw [haddress]

/-- Authentication reads the `authorization` header only. -/
theorem AgreeButForwarding.applyAuth_eq (env : CheckEnv ν κ σ) (cfg : GatewayConfig)
    (route : RouteConfig) (headers : HeaderMap ν) :
    applyAuth env cfg route req.headers headers = applyAuth env cfg route req'.headers headers := by
  have hbearer : extractBearer env.http req.headers = extractBearer env.http req'.headers := by
    rw [extractBearer, extractBearer, h.headerStr_eq env.http (by decide)]
  unfold applyAuth
  rw [hbearer]

/-- Both requests are put to the limiter under the same key. -/
theorem AgreeButForwarding.limiterCheck_eq (env : CheckEnv ν κ σ) {cfg : GatewayConfig}
    (htrust : cfg.gateway.trustForwardedHeaders = false) (s : σ) (route : RouteConfig)
    (headers : HeaderMap ν) :
    limiterCheck env cfg s route req headers = limiterCheck env cfg s route req' headers := by
  have hvalue : bucketKeyValue env cfg route req headers =
      bucketKeyValue env cfg route req' headers := by
    rw [bucketKeyValue, bucketKeyValue, htrust, h.clientIp_eq]
  rw [limiterCheck, limiterCheck, hvalue]

end Reads

/-! ## Answers that agree -/

/-- The headers agree under every name that is not excepted. -/
def HeadersAgree (excepted : String → Prop) (headers headers' : HeaderMap ν) : Prop :=
  ∀ name, ¬ excepted name → headers.lookup name = headers'.lookup name

/-- Under an excepted name the inserted texts may differ. -/
theorem HeadersAgree.insertText {excepted : String → Prop} {headers headers' : HeaderMap ν}
    (h : HeadersAgree excepted headers headers') (http : HttpLib ν) {name text text' : String}
    (htext : text = text' ∨ excepted name) :
    HeadersAgree excepted (http.insertText headers name text)
      (http.insertText headers' name text') := by
  intro other hother
  rcases htext with rfl | hname
  · exact http.lookup_insertText_congr (h other hother) name text
  · have hne : other ≠ name := fun heq => hother (heq ▸ hname)
    rw [http.lookup_insertText_ne hne, http.lookup_insertText_ne hne, h other hother]

/-- The same answer and the same next state of the limiter. -/
structure SameAnswer (excepted : String → Prop) (out out' : CheckOutcome ν κ σ) : Prop where
  status : out.response.status = out'.response.status
  headers : HeadersAgree excepted out.response.headers out'.response.headers
  body : out.response.body = out'.response.body
  limiterState : out.limiterState = out'.limiterState

/-- The headers that name the request id or the clock, where these differ. -/
def idOrTime (id id' : String) (secs secs' : ℕ) (name : String) : Prop :=
  (name = "x-request-id" ∧ id ≠ id') ∨ (name = "x-rate-limit-reset" ∧ secs ≠ secs')

/-- The same surroundings at another time. -/
def CheckEnv.atSecs (env : CheckEnv ν κ σ) (secs : ℕ) : CheckEnv ν κ σ :=
  { env with nowSecs := secs }

/-! ## The stages of a check -/

section Responses
variable (http : HttpLib ν) {id id' : String} {secs secs' : ℕ}

theorem HeadersAgree.refl (excepted : String → Prop) (headers : HeaderMap ν) :
    HeadersAgree excepted headers headers := fun _ _ => rfl

/-- The request id comes last in most responses. -/
theorem HeadersAgree.insertRequestId {headers headers' : HeaderMap ν}
    (h : HeadersAgree (idOrTime id id' secs secs') headers headers') :
    HeadersAgree (idOrTime id id' secs secs') (http.insertText headers "x-request-id" id)
      (http.insertText headers' "x-request-id" id') := by
  apply h.insertText http
  by_cases hid : id = id'
  · exact Or.inl hid
  · exact Or.inr (Or.inl ⟨rfl, hid⟩)

theorem headersAgree_insertRateLimitHeaders (headers : HeaderMap ν) (decision : RateDecision) :
    HeadersAgree (idOrTime id id' secs secs') (insertRateLimitHeaders http secs headers decision)
      (insertRateLimitHeaders http secs' headers decision) := by
  apply (HeadersAgree.refl _ _).insertText http
  by_cases hsecs : secs = secs'
  · exact Or.inl (by rw [hsecs])
  · exact Or.inr (Or.inr ⟨rfl, hsecs⟩)

/-- Denials have no other header than the request id. -/
theorem sameAnswer_denied (status : ℕ) (errorCode : String) (s : σ) (effects effects' : List Effect)
    (calls calls' : List (AuthCall κ)) :
    SameAnswer (idOrTime id id' secs secs')
      ⟨denyResponse http status errorCode id, s, effects, calls⟩
      ⟨denyResponse http status errorCode id', s, effects', calls'⟩ :=
  ⟨rfl, (HeadersAgree.refl _ ∅).insertRequestId http, rfl, rfl⟩

end Responses

section Stages
variable {cfg : GatewayConfig} (htrust : cfg.gateway.trustForwardedHeaders = false)
  {req req' : CheckRequest ν} (hagree : AgreeButForwarding req req') (env : CheckEnv ν κ σ)
  (secs : ℕ) (s : σ) (info info' : RequestInfo) (route : RouteConfig)
include htrust hagree

/-- The answers of each gate differ in the request id and the time only. -/
theorem sameAnswer_checkRateLimit {plugin plugin' : PluginContinue ν}
    (hplugin : plugin.upstreamHeaders = ∅) (hplugin' : plugin'.upstreamHeaders = ∅)
    (auth : AuthOutcome ν κ) :
    SameAnswer (idOrTime info.requestId info'.requestId env.nowSecs secs)
      (checkRateLimit env cfg s req info route plugin auth)
      (checkRateLimit (env.atSecs secs) cfg s req' info' route plugin' auth) := by
  have hlimiter : limiterCheck (env.atSecs secs) cfg s route req' auth.responseHeaders =
      limiterCheck env cfg s route req auth.responseHeaders :=
    (hagree.limiterCheck_eq env htrust s route auth.responseHeaders).symm
  unfold checkRateLimit
  rw [hlimiter, hplugin, hplugin']
  cases limiterCheck env cfg s route req auth.responseHeaders with
  | mk answer next =>
    cases answer with
    | error e => exact sameAnswer_denied env.http _ _ _ _ _ _ _
    | ok decision =>
      have hlimited := @headersAgree_insertRateLimitHeaders ν env.http info.requestId
        info'.requestId env.nowSecs secs auth.responseHeaders decision
      by_cases hallowed : decision.allowed = true
      · simp only [hallowed, if_true]
        exact ⟨rfl, hlimited.insertRequestId env.http, rfl, rfl⟩
      · -- a denial names the waiting time, which is the decision's, and no request id
        simp only [hallowed]
        exact ⟨rfl, hlimited.insertText env.http (Or.inl rfl), rfl, rfl⟩

theorem sameAnswer_checkAuth {plugin plugin' : PluginContinue ν}
    (hplugin : plugin.upstreamHeaders = ∅) (hplugin' : plugin'.upstreamHeaders = ∅)
    (hresponse : plugin.responseHeaders = plugin'.responseHeaders) :
    SameAnswer (idOrTime info.requestId info'.requestId env.nowSecs secs)
      (checkAuth env cfg s req info route plugin)
      (checkAuth (env.atSecs secs) cfg s req' info' route plugin') := by
  have hauth : applyAuth (env.atSecs secs) cfg route req'.headers plugin'.responseHeaders =
      applyAuth env cfg route req.headers plugin.responseHeaders := by
    rw [hresponse]
    exact (hagree.applyAuth_eq env cfg route plugin'.responseHeaders).symm
  unfold checkAuth
  rw [hauth]
  generalize applyAuth env cfg route req.headers plugin.responseHeaders = auth
  simp only
  cases auth.result with
  | error deny => exact sameAnswer_denied env.http _ _ _ _ _ _ _
  | ok =>
    have hrest := sameAnswer_checkRateLimit htrust hagree env secs s info info' route hplugin
      hplugin' auth
    exact ⟨hrest.status, hrest.headers, hrest.body, hrest.limiterState⟩

theorem sameAnswer_checkMatched (hengine : env.pluginEngine = none) :
    SameAnswer (idOrTime info.requestId info'.requestId env.nowSecs secs)
      (checkMatched env cfg s req info route)
      (checkMatched (env.atSecs secs) cfg s req' info' route) := by
  have hplugin : executeAccessPlugins env req info route =
      (.ok ⟨pluginRequest env req info route, ∅, ∅⟩, []) := by
    rw [executeAccessPlugins, hengine]
  have hplugin' : executeAccessPlugins (env.atSecs secs) req' info' route =
      (.ok ⟨pluginRequest (env.atSecs secs) req' info' route, ∅, ∅⟩, []) := by
    have hengine' : (env.atSecs secs).pluginEngine = none := hengine
    rw [executeAccessPlugins, hengine']
  unfold checkMatched
  rw [hplugin, hplugin', hagree.method]
  by_cases hmethod : methodAllowed route req'.method = true
  · rw [if_pos hmethod, if_pos hmethod]
    have hrest := @sameAnswer_checkAuth ν κ σ cfg htrust req req' hagree env secs s info info'
      route ⟨pluginRequest env req info route, ∅, ∅⟩
      ⟨pluginRequest (env.atSecs secs) req' info' route, ∅, ∅⟩ rfl rfl rfl
    exact ⟨hrest.status, hrest.headers, hrest.body, hrest.limiterState⟩
  · rw [if_neg hmethod, if_neg hmethod]
    exact sameAnswer_denied env.http _ _ _ _ _ _ _

theorem sameAnswer_checkInner (hengine : env.pluginEngine = none) :
    SameAnswer (idOrTime req.requestId req'.requestId env.nowSecs secs)
      (checkInner env cfg s req) (checkInner (env.atSecs secs) cfg s req') := by
  have hhost : requestHost (env.atSecs secs).http req' = requestHost env.http req :=
    (hagree.requestHost_eq env.http).symm
  unfold checkInner
  rw [hhost, ← hagree.path]
  cases matchRoute cfg.routes (requestHost env.http req) req.path with
  | none => exact ⟨rfl, (HeadersAgree.refl _ ∅).insertRequestId env.http, rfl, rfl⟩
  | some route =>
    exact sameAnswer_checkMatched htrust hagree env secs s (requestInfo env.http req)
      (requestInfo env.http req') route hengine

end Stages

/-- Where forwarding headers are not trusted and no plugin runs, they make no difference: the
answer, the bucket and the limiter's next state are the same. -/
theorem forwarding_headers_ignored (env : CheckEnv ν κ σ) (secs : ℕ) {cfg : GatewayConfig} (s : σ)
    {req req' : CheckRequest ν} (hengine : env.pluginEngine = none)
    (htrust : cfg.gateway.trustForwardedHeaders = false) (hagree : AgreeButForwarding req req') :
    SameAnswer (idOrTime req.requestId req'.requestId env.nowSecs secs)
        (checkInner env cfg s req) (checkInner (env.atSecs secs) cfg s req') ∧
      bucketKeys env cfg req = bucketKeys (env.atSecs secs) cfg req' := by
  have hrecorded := sameAnswer_checkInner htrust hagree env.recording secs [] hengine
  exact ⟨sameAnswer_checkInner htrust hagree env secs s hengine, hrecorded.limiterState⟩

/-- A request that claims to come from another address. -/
def forwardedRequest : CheckRequest String :=
  ⟨[("x-forwarded-for", "10.0.0.1")], "GET", "/orders", "00000002"⟩

theorem forwarding_headers_ignored_forwardedRequest :
    let cfg := Validation.minimalConfig [Validation.minimalRoute "orders" ["*"] "/orders"]
    AgreeButForwarding plainRequest forwardedRequest ∧
      SameAnswer (idOrTime "00000001" "00000002" 0 7)
        (checkInner (plainEnv none) cfg () plainRequest)
        (checkInner ((plainEnv none).atSecs 7) cfg () forwardedRequest) ∧
      bucketKeys (plainEnv none) cfg plainRequest =
        bucketKeys ((plainEnv none).atSecs 7) cfg forwardedRequest := by
  intro cfg
  have hagree : AgreeButForwarding plainRequest forwardedRequest := by
    refine ⟨rfl, rfl, ?_⟩
    intro name hname
    have hne : "x-forwarded-for" ≠ name := by
      rintro rfl
      exact absurd hname (by decide)
    simp [plainRequest, forwardedRequest, RequestHeaders.getAll, hne]
  have hsame := @forwarding_headers_ignored String Unit Unit (plainEnv none) 7 cfg () plainRequest
    forwardedRequest rfl rfl hagree
  exact ⟨hagree, hsame⟩

end ExtAuthz
end OpenApiGateway
