import OpenApiGateway.Config.Types
import OpenApiGateway.ExtAuthz.Http
import OpenApiGateway.Lib.PrefixRouting
import OpenApiGateway.RateLimit.Types

/-!
# Helpers of the check service

`controlplane/src/extauthz/helpers.rs`: choosing the policy route, reading request headers,
and building responses. What the source writes to its log and metrics is recorded as a list
of effects, without the durations.
-/

namespace OpenApiGateway
namespace ExtAuthz

open Lib.Text

/-! ## Choosing the route -/

/-- `r.hostnames.iter().any(|h| h == "*" || h == host)`. -/
def hostMatches (host : String) (r : RouteConfig) : Bool :=
  r.hostnames.any fun h => h == "*" || h == host

/-- Match an incoming request to a route by hostname and longest path prefix. -/
def matchRoute (routes : List RouteConfig) (host path : String) : Option RouteConfig :=
  Lib.PrefixRouting.maxByKey (fun r => r.pathPrefix.utf8ByteSize)
    ((routes.filter (hostMatches host)).filter fun r => startsWith path r.pathPrefix)

theorem mem_of_matchRoute {routes : List RouteConfig} {host path : String} {route : RouteConfig}
    (h : matchRoute routes host path = some route) : route ∈ routes := by
  have hmem := Lib.PrefixRouting.mem_of_maxByKey h
  exact List.mem_of_mem_filter (List.mem_of_mem_filter hmem)

/-! ## Reading request headers -/

/-- Result of parsing the Authorization header for a Bearer token. -/
inductive BearerResult where
  | valid (token : String)
  | malformed
deriving DecidableEq

section Headers
variable {ν : Type} (http : HttpLib ν)

def headerStr (headers : RequestHeaders ν) (name : String) : Option String :=
  (headers.get name).bind http.toStr

/-- Extract the Bearer token from the Authorization header. -/
def extractBearer (headers : RequestHeaders ν) : Option BearerResult :=
  match headerStr http headers "authorization" with
  | none => none
  | some value =>
    if startsWith value "Bearer " then
      let token := String.ofList (value.toList.drop 7)
      if token = "" then some .malformed else some (.valid token)
    else none

theorem extractBearer_of_header {http : HttpLib ν} {headers : RequestHeaders ν} {token : String}
    (hheader : headerStr http headers "authorization" = some ("Bearer " ++ token))
    (hne : token ≠ "") : extractBearer http headers = some (.valid token) := by
  have hstarts : startsWith ("Bearer " ++ token) "Bearer " = true := by
    rw [startsWith_iff, String.toList_append]
    exact List.prefix_append _ _
  have hrest : String.ofList (("Bearer " ++ token).toList.drop 7) = token := by
    rw [String.toList_append, List.drop_left' (by decide), String.ofList_toList]
  rw [extractBearer, hheader]
  simp only [hstarts, if_true, hrest, hne, if_false]

/-- The part of a text before its first comma. -/
def beforeComma (s : String) : String := String.ofList (s.toList.takeWhile fun c => c != ',')

def clientIp (headers : RequestHeaders ν) (trustForwarded : Bool) : String :=
  let direct := (headerStr http headers "x-envoy-external-address").getD "0.0.0.0"
  if trustForwarded then
    match headerStr http headers "x-forwarded-for" with
    | some xff =>
      let ip := trim (beforeComma xff)
      if ip ≠ "" then ip else direct
    | none => direct
  else direct

end Headers

/-! ## Effects -/

/-- An access log entry, without its time stamps and constant fields. -/
structure AccessLogEntry where
  requestId : String
  remoteAddr : String
  host : String
  method : String
  path : String
  route : String
  status : ℕ
  authSubject : Option String
  rateLimitMode : String
  upstreamService : String
deriving DecidableEq

/-- What the handler writes besides its response. -/
inductive Effect where
  | emitLog (entry : AccessLogEntry)
  | recordRequest (route method : String) (status : ℕ)
  | recordAuthFailure (route reason : String)
  | recordRateLimitDenied (route : String)
  | recordRateLimitDegraded (route : String)
  | recordRateLimitAllowed (route : String)
  /-- Both timings of a chain: its total, and as the plugin `__chain__` of the access phase. -/
  | recordPluginChain (route : String) (durationUs : ℕ)
  | recordPluginShortCircuit (plugin route : String) (status : ℕ)
  | recordPluginError (plugin route errorType : String)
  | runPluginLog (route : String) (status : ℕ)
deriving DecidableEq

/-- The parts of a request that its log entry repeats. -/
structure RequestInfo where
  requestId : String
  remoteAddr : String
  host : String
  method : String
  path : String
deriving DecidableEq

/-- The log entry and the request metric of one answer, as the source writes them together. -/
def logAndRecord (info : RequestInfo) (route upstream : String) (status : ℕ)
    (authSubject : Option String) (rateLimitMode : String) : List Effect :=
  [.emitLog
    { requestId := info.requestId, remoteAddr := info.remoteAddr, host := info.host
      method := info.method, path := info.path, route := route, status := status
      authSubject := authSubject, rateLimitMode := rateLimitMode, upstreamService := upstream },
    .recordRequest route info.method status]

/-! ## Building responses -/

section Responses
variable {ν : Type} (http : HttpLib ν)

/-- `(decision.retry_after_ms / 1000).max(1)`. -/
def retryAfterSecs (decision : RateLimit.RateDecision) : ℕ := max (decision.retryAfterMs / 1000) 1

/-- Insert rate-limit response headers from a rate decision. -/
def insertRateLimitHeaders (nowSecs : ℕ) (headers : HeaderMap ν)
    (decision : RateLimit.RateDecision) : HeaderMap ν :=
  http.insertText
    (http.insertText
      (http.insertText
        (http.insertText headers "x-rate-limit-remaining" (toString decision.remaining))
        "x-rate-limit-limit" (toString decision.limit))
      "x-rate-limit-mode" decision.mode.asHeaderValue)
    "x-rate-limit-reset" (toString (nowSecs + retryAfterSecs decision))

def insertStringHeaders (headers : HeaderMap ν) (values : AList fun _ : String => String) :
    HeaderMap ν :=
  values.entries.foldl (fun hs entry => http.insertParsed hs (entry.1, entry.2)) headers

def allowResponse (headers : HeaderMap ν) (requestId : String) : Response ν where
  status := 200
  headers := http.insertText headers "x-request-id" requestId
  body := .empty

def denyResponse (status : ℕ) (errorCode requestId : String) : Response ν where
  status := status
  headers := http.insertText ∅ "x-request-id" requestId
  body := .json [("error", errorCode)]

def overloadResponse (requestId : String) : Response ν where
  status := 503
  headers := http.insertText (http.insertText (http.insertText ∅ "x-gateway-overloaded" "true")
    "retry-after" "1") "x-request-id" requestId
  body := .json [("error", "gateway_overloaded")]

/-- Helper for early deny paths: access log, request metric and the deny response. -/
def earlyDeny (info : RequestInfo) (route : RouteConfig) (status : ℕ) (errorCode : String) :
    Response ν × List Effect :=
  (denyResponse http status errorCode info.requestId,
    logAndRecord info route.name route.upstream.service status none "none")

def methodDenied (info : RequestInfo) (route : RouteConfig) : Response ν × List Effect :=
  earlyDeny http info route 405 "method_not_allowed"

end Responses

end ExtAuthz
end OpenApiGateway
