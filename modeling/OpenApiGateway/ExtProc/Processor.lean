import OpenApiGateway.Plugins.Sdk
import OpenApiGateway.Xds.Resources

/-!
# The external processor

`controlplane/src/extproc/processor.rs`: the reply to one message of an `ext_proc` stream, with
the message types of `proto/envoy/service/ext_proc/v3/external_processor.proto`. A client
steers the reply by three request headers, one of which names a header to be set.

The reply acts on the request after authorization, since `build_http_filters` puts the filter
behind `ext_authz`. `runFilters` follows a request through that chain, and
`identity_headers_kept_iff` says for which request headers the identity that authorization has
written is the one the upstream gets.
-/

namespace OpenApiGateway
namespace ExtProc

open Lib.Text Plugins

/-! ## Messages -/

structure HeaderValue where
  key : String
  value : String
deriving DecidableEq

structure HeaderValueOption where
  header : Option HeaderValue
deriving DecidableEq

structure HeaderMutation where
  setHeaders : List HeaderValueOption
  removeHeaders : List String
deriving DecidableEq

structure ImmediateResponse where
  status : ℕ
  body : String
  headerMutation : Option HeaderMutation
deriving DecidableEq

structure CommonResponse where
  headerMutation : Option HeaderMutation
  immediateResponse : Option ImmediateResponse
  clearRouteCache : Bool
deriving DecidableEq

structure HeadersResponse where
  response : Option CommonResponse
deriving DecidableEq

structure BodyResponse where
  response : Option CommonResponse
deriving DecidableEq

inductive ProcessingRequestKind where
  | requestHeaders (headers : List HeaderValue) (method path : String)
  | requestBody (body : List UInt8) (endOfStream : Bool)
  | responseHeaders (headers : List HeaderValue) (status : ℕ)
  | responseBody (body : List UInt8) (endOfStream : Bool)
deriving DecidableEq

structure ProcessingRequest where
  request : Option ProcessingRequestKind
deriving DecidableEq

inductive ProcessingResponseKind where
  | requestHeaders (reply : HeadersResponse)
  | requestBody (reply : BodyResponse)
  | responseHeaders (reply : HeadersResponse)
  | responseBody (reply : BodyResponse)
  | immediateResponse (reply : ImmediateResponse)
deriving DecidableEq

structure ProcessingResponse where
  response : Option ProcessingResponseKind
deriving DecidableEq

/-! ## The processor -/

/-- The first header of this name, in any letter case. -/
def findHeader (headers : List HeaderValue) (name : String) : Option HeaderValue :=
  headers.find? fun header => eqIgnoreAsciiCase header.key name

/-- A reply that changes nothing, or only the headers. -/
def commonResponse (mutation : Option HeaderMutation) : CommonResponse := ⟨mutation, none, false⟩

def emptyBodyResponse (isRequest : Bool) : ProcessingResponse :=
  let body : BodyResponse := ⟨some (commonResponse none)⟩
  ⟨some (if isRequest then .requestBody body else .responseBody body)⟩

/-- The header that the client asks to be set: `key=value`, each part trimmed. -/
def requestedHeader (headers : List HeaderValue) : Option HeaderValue :=
  ((findHeader headers "x-ext-proc-set-header").bind fun header =>
    splitOnce '=' header.value).map fun (key, value) => ⟨trim key, trim value⟩

/-- The reply to one message. -/
def process (request : ProcessingRequest) : ProcessingResponse :=
  match request.request with
  | some (.requestHeaders headers _ _) =>
    match findHeader headers "x-ext-proc-immediate-status" with
    | some statusHeader =>
      ⟨some (.immediateResponse
        -- a status that is no number becomes 403
        { status := (parseU32 statusHeader.value).getD 403
          body := ((findHeader headers "x-ext-proc-immediate-body").map HeaderValue.value).getD
            "blocked by ext_proc"
          headerMutation := none })⟩
    | none =>
      let mutation := (requestedHeader headers).map fun header =>
        { setHeaders := [⟨some header⟩], removeHeaders := [] }
      ⟨some (.requestHeaders ⟨some (commonResponse mutation)⟩)⟩
  | some (.requestBody _ _) => emptyBodyResponse true
  | some (.responseHeaders _ _) => ⟨some (.responseHeaders ⟨some (commonResponse none)⟩)⟩
  | some (.responseBody _ _) => emptyBodyResponse false
  | none => ⟨none⟩

/-! ## The headers of a reply -/

/-- The header changes in a part of a reply. -/
def CommonResponse.mutations (reply : CommonResponse) : List HeaderMutation :=
  reply.headerMutation.toList ++
    (reply.immediateResponse.bind ImmediateResponse.headerMutation).toList

def ProcessingResponseKind.mutations : ProcessingResponseKind → List HeaderMutation
  | requestHeaders reply => (reply.response.map CommonResponse.mutations).getD []
  | requestBody reply => (reply.response.map CommonResponse.mutations).getD []
  | responseHeaders reply => (reply.response.map CommonResponse.mutations).getD []
  | responseBody reply => (reply.response.map CommonResponse.mutations).getD []
  | immediateResponse reply => reply.headerMutation.toList

/-- The headers that a change sets. -/
def HeaderMutation.sets (mutation : HeaderMutation) : List HeaderValue :=
  mutation.setHeaders.filterMap HeaderValueOption.header

/-- The headers that a reply sets, wherever in it. -/
def ProcessingResponse.sets (response : ProcessingResponse) : List HeaderValue :=
  ((response.response.map ProcessingResponseKind.mutations).getD []).flatMap HeaderMutation.sets

/-- The header that a client makes the processor set. -/
def injectedHeader (headers : List HeaderValue) : Option HeaderValue :=
  if (findHeader headers "x-ext-proc-immediate-status").isSome then none
  else requestedHeader headers

/-- A reply to request headers sets the one header that the client asks for. -/
theorem sets_process_requestHeaders (headers : List HeaderValue) (method path : String) :
    (process ⟨some (.requestHeaders headers method path)⟩).sets =
      (injectedHeader headers).toList := by
  unfold process injectedHeader
  simp only
  cases findHeader headers "x-ext-proc-immediate-status" with
  | some statusHeader => rfl
  | none =>
    cases requestedHeader headers with
    | none => rfl
    | some header => rfl

/-! ## The filter chain -/

/-- The values of a header, by its name in lower case. -/
def valuesOf (headers : List HeaderValue) (name : String) : List String :=
  (headers.filter fun header => toAsciiLowercase header.key == name).map HeaderValue.value

/-- Set a header, in the place of all that had its name. -/
def setHeader (headers : List HeaderValue) (header : HeaderValue) : List HeaderValue :=
  (headers.filter fun h => !eqIgnoreAsciiCase h.key header.key) ++ [header]

/-- What Envoy makes of a reply to request headers: an immediate response ends the request, any
other reply changes its headers. The processor removes none. -/
def applyReply (headers : List HeaderValue) (reply : ProcessingResponse) :
    Option (List HeaderValue) :=
  match reply.response with
  | some (.immediateResponse _) => none
  | _ => some (reply.sets.foldl setHeader headers)

/-- One filter of the chain, by its name. The authorization step is a parameter: it gives the
request the headers of an allow answer, or ends it. -/
def filterStep (authorize : List HeaderValue → Option (List HeaderValue)) (method path : String)
    (filter : String) (headers : List HeaderValue) : Option (List HeaderValue) :=
  if filter = "envoy.filters.http.ext_authz" then authorize headers
  else if filter = "envoy.filters.http.ext_proc" then
    applyReply headers (process ⟨some (.requestHeaders headers method path)⟩)
  else some headers

/-- A request on its way through the filters, in their order; what comes out goes upstream. -/
def runFilters (authorize : List HeaderValue → Option (List HeaderValue)) (method path : String) :
    List String → List HeaderValue → Option (List HeaderValue)
  | [], headers => some headers
  | filter :: filters, headers =>
    (filterStep authorize method path filter headers).bind
      (runFilters authorize method path filters)

theorem valuesOf_setHeader {headers : List HeaderValue} {header : HeaderValue} {name : String}
    (hname : toAsciiLowercase header.key ≠ name) :
    valuesOf (setHeader headers header) name = valuesOf headers name := by
  unfold valuesOf setHeader
  rw [List.filter_append, List.filter_filter]
  have hsame : headers.filter (fun h =>
      toAsciiLowercase h.key == name && !eqIgnoreAsciiCase h.key header.key) =
        headers.filter fun h => toAsciiLowercase h.key == name := by
    apply List.filter_congr
    intro h _
    by_cases hh : toAsciiLowercase h.key = name
    · simp [hh, eqIgnoreAsciiCase, hname.symm]
    · simp [hh]
  simp [hsame, hname]

/-- What the `ext_proc` filter leaves of a header that the client does not ask for. -/
theorem valuesOf_applyReply {headers upstream : List HeaderValue} {method path name : String}
    (hname : ∀ header, injectedHeader headers = some header → toAsciiLowercase header.key ≠ name)
    (h : applyReply headers (process ⟨some (.requestHeaders headers method path)⟩) =
      some upstream) :
    valuesOf upstream name = valuesOf headers name := by
  have hsets := sets_process_requestHeaders headers method path
  unfold applyReply at h
  split at h
  · simp at h
  · rw [hsets, Option.some.injEq] at h
    rw [← h]
    cases hinjected : injectedHeader headers with
    | none => rfl
    | some header => exact valuesOf_setHeader (hname header hinjected)

section Chain
variable {encode : Xds.Message → Except String (List UInt8)} {cfg : GatewayConfig}
  {filters : List Xds.Filter}

theorem name_of_httpFilter {name typeUrl : String} {message : Xds.Message} {filter : Xds.Filter}
    (h : Xds.httpFilter encode name typeUrl message = .ok filter) : filter.name = name := by
  obtain ⟨any, -, hfilter⟩ := Lib.Fallible.eq_ok_of_bind h
  rw [← Except.ok.inj hfilter]

theorem names_of_optionalFilter {name typeUrl : String} {message : String → Xds.Message}
    {address : Option String}
    (h : Xds.optionalFilter encode name typeUrl message address = .ok filters) :
    filters.map Xds.Filter.name = (address.map fun _ => name).toList := by
  cases address with
  | none =>
    rw [← Except.ok.inj h]
    rfl
  | some address =>
    obtain ⟨filter, hfilter, heq⟩ := Lib.Fallible.map_eq_ok h
    rw [heq]
    simp [name_of_httpFilter hfilter]

/-- The filters of the listener, in order. -/
theorem names_of_buildHttpFilters (h : Xds.buildHttpFilters encode cfg = .ok filters) :
    filters.map Xds.Filter.name =
      (cfg.gateway.extauthzAddress.map fun _ => "envoy.filters.http.ext_authz").toList ++
        (if cfg.extProc.enabled then ["envoy.filters.http.ext_proc"] else []) ++
        ["envoy.filters.http.router"] := by
  obtain ⟨authz, hauthz, h⟩ := Lib.Fallible.eq_ok_of_bind h
  obtain ⟨proc, hproc, h⟩ := Lib.Fallible.eq_ok_of_bind h
  obtain ⟨router, hrouter, h⟩ := Lib.Fallible.eq_ok_of_bind h
  rw [← Except.ok.inj h, List.map_append, List.map_append, names_of_optionalFilter hauthz,
    names_of_optionalFilter hproc, List.map_singleton, name_of_httpFilter hrouter]
  cases cfg.extProc.enabled with
  | false => rfl
  | true => rfl

/-- A request that authorization has let through meets at most the `ext_proc` filter on its
way upstream. -/
theorem runFilters_built {authorize : List HeaderValue → Option (List HeaderValue)}
    {method path : String} (hauthz : cfg.gateway.extauthzAddress ≠ none)
    (hbuilt : Xds.buildHttpFilters encode cfg = .ok filters) (client : List HeaderValue) :
    runFilters authorize method path (filters.map Xds.Filter.name) client =
      (authorize client).bind fun headers =>
        if cfg.extProc.enabled then
          applyReply headers (process ⟨some (.requestHeaders headers method path)⟩)
        else some headers := by
  obtain ⟨address, haddress⟩ := Option.ne_none_iff_exists'.mp hauthz
  rw [names_of_buildHttpFilters hbuilt, haddress]
  show (authorize client).bind _ = _
  congr 1
  funext headers
  cases cfg.extProc.enabled with
  | false => rfl
  | true =>
    show (applyReply headers (process ⟨some (.requestHeaders headers method path)⟩)).bind _ =
      applyReply headers (process ⟨some (.requestHeaders headers method path)⟩)
    cases applyReply headers (process ⟨some (.requestHeaders headers method path)⟩) with
    | none => rfl
    | some sent => rfl

end Chain

/-! ## Identity headers -/

/-- For request headers as authorization leaves them, the processor sets no reserved header, and
the `x-auth-` headers go upstream as they are. -/
structure IdentityKept (headers : List HeaderValue) : Prop where
  sets : ∀ method path, ∀ header ∈ (process ⟨some (.requestHeaders headers method path)⟩).sets,
    isReserved (toAsciiLowercase header.key) = false
  upstream : ∀ (encode : Xds.Message → Except String (List UInt8)) (cfg : GatewayConfig)
    (filters : List Xds.Filter) (authorize : List HeaderValue → Option (List HeaderValue))
    (method path : String) (client sent : List HeaderValue),
    cfg.gateway.extauthzAddress ≠ none → Xds.buildHttpFilters encode cfg = .ok filters →
    authorize client = some headers →
    runFilters authorize method path (filters.map Xds.Filter.name) client = some sent →
    ∀ name, startsWith name "x-auth-" = true → valuesOf sent name = valuesOf headers name

/-- The client asks for a reserved header: no header asks for an immediate response, and the
first `x-ext-proc-set-header` has the form `key=value` with a reserved name as its key. -/
structure AsksForReserved (headers : List HeaderValue) : Prop where
  goesOn : ∀ header ∈ headers, eqIgnoreAsciiCase header.key "x-ext-proc-immediate-status" = false
  asks : ∃ before directive after key value, headers = before ++ directive :: after ∧
    (∀ header ∈ before, eqIgnoreAsciiCase header.key "x-ext-proc-set-header" = false) ∧
    eqIgnoreAsciiCase directive.key "x-ext-proc-set-header" = true ∧
    directive.value = key ++ "=" ++ value ∧ '=' ∉ key.toList ∧
    isReserved (toAsciiLowercase (trim key)) = true

theorem findHeader_eq_none_iff {headers : List HeaderValue} {name : String} :
    findHeader headers name = none ↔
      ∀ header ∈ headers, eqIgnoreAsciiCase header.key name = false := by
  simp [findHeader]

theorem findHeader_eq_some_iff {headers : List HeaderValue} {name : String} {header : HeaderValue} :
    findHeader headers name = some header ↔ eqIgnoreAsciiCase header.key name = true ∧
      ∃ before after, headers = before ++ header :: after ∧
        ∀ h ∈ before, eqIgnoreAsciiCase h.key name = false := by
  simp [findHeader, List.find?_eq_some_iff_append]

/-- The processor is made to set a reserved header exactly when the client asks for one. -/
theorem injectedHeader_reserved_iff (headers : List HeaderValue) :
    (∃ header, injectedHeader headers = some header ∧
      isReserved (toAsciiLowercase header.key) = true) ↔ AsksForReserved headers := by
  unfold injectedHeader requestedHeader
  constructor
  · rintro ⟨header, hinjected, hreserved⟩
    split at hinjected
    · simp at hinjected
    · rename_i himmediate
      have hnone : findHeader headers "x-ext-proc-immediate-status" = none := by
        simpa using himmediate
      obtain ⟨⟨key, value⟩, hsplit, hheader⟩ := Option.map_eq_some_iff.mp hinjected
      obtain ⟨directive, hdirective, hsplit⟩ := Option.bind_eq_some_iff.mp hsplit
      obtain ⟨hname, before, after, heq, hbefore⟩ := findHeader_eq_some_iff.mp hdirective
      obtain ⟨hvalue, hkey⟩ := splitOnce_eq_some_iff.mp hsplit
      refine ⟨findHeader_eq_none_iff.mp hnone, before, directive, after, key, value, heq, hbefore,
        hname, ?_, hkey, ?_⟩
      · apply String.toList_inj.mp
        rw [hvalue]
        simp [String.toList_append]
      · rw [← hheader] at hreserved
        exact hreserved
  · rintro ⟨hgoes, before, directive, after, key, value, heq, hbefore, hname, hvalue, hkey, hres⟩
    have hsplit : splitOnce '=' directive.value = some (key, value) := by
      apply splitOnce_eq_some_iff.mpr
      refine ⟨?_, hkey⟩
      rw [hvalue]
      simp [String.toList_append]
    have hdirective : findHeader headers "x-ext-proc-set-header" = some directive :=
      findHeader_eq_some_iff.mpr ⟨hname, before, after, heq, hbefore⟩
    refine ⟨⟨trim key, trim value⟩, ?_, hres⟩
    rw [findHeader_eq_none_iff.mpr hgoes, hdirective]
    simp [hsplit]

/-- A name that starts with `x-auth-` is reserved. -/
theorem isReserved_of_auth {name : String} (h : startsWith name "x-auth-" = true) :
    isReserved name = true := by
  simp [isReserved, reservedHeaderPrefixes, h]

/-- The identity that authorization has written is kept exactly when the client does not ask
the processor for a reserved header. -/
theorem identity_headers_kept_iff (headers : List HeaderValue) :
    IdentityKept headers ↔ ¬ AsksForReserved headers := by
  rw [← injectedHeader_reserved_iff]
  constructor
  · rintro h ⟨header, hinjected, hreserved⟩
    have hset := h.sets "" "" header (by simp [sets_process_requestHeaders, hinjected])
    rw [hreserved] at hset
    exact absurd hset (by simp)
  · intro h
    have hfree : ∀ header, injectedHeader headers = some header →
        isReserved (toAsciiLowercase header.key) = false := by
      intro header hinjected
      by_contra hreserved
      exact h ⟨header, hinjected, by simpa using hreserved⟩
    constructor
    · intro method path header hmem
      rw [sets_process_requestHeaders, Option.mem_toList] at hmem
      exact hfree header hmem
    · intro encode cfg filters authorize method path client sent hauthz hbuilt hauthorized hsent
        name hname
      rw [runFilters_built hauthz hbuilt, hauthorized, Option.bind_some] at hsent
      split at hsent
      · apply valuesOf_applyReply _ hsent
        intro header hinjected hkey
        have hreserved := isReserved_of_auth hname
        rw [← hkey, hfree header hinjected] at hreserved
        exact absurd hreserved (by simp)
      · rw [← Option.some.inj hsent]

/-- A client with the identity `mallory` that asks to be `admin`. -/
def forgingHeaders : List HeaderValue :=
  [⟨"x-ext-proc-set-header", "X-Auth-Sub = admin"⟩, ⟨"x-auth-sub", "mallory"⟩]

/-- The upstream gets the identity that the client has asked for. -/
theorem identity_forged_through_processor :
    let cfg : GatewayConfig :=
      { Validation.minimalConfig [Validation.minimalRoute "r" ["*"] "/"] with
        gateway := { listenAddress := "0.0.0.0:8080", adminAddress := "0.0.0.0:9090"
                     idleTimeoutMs := 60000, trustForwardedHeaders := false
                     extauthzAddress := some "127.0.0.1:9191" }
        extProc := { enabled := true } }
    let authorize : List HeaderValue → Option (List HeaderValue) :=
      fun headers => some (setHeader headers ⟨"x-auth-sub", "mallory"⟩)
    Validation.validate (fun _ => true) cfg = .ok () ∧
    (process ⟨some (.requestHeaders forgingHeaders "GET" "/")⟩).sets = [⟨"X-Auth-Sub", "admin"⟩] ∧
    ¬ IdentityKept forgingHeaders ∧
    ∃ filters sent, Xds.buildHttpFilters (fun _ => .ok []) cfg = .ok filters ∧
      runFilters authorize "GET" "/" (filters.map Xds.Filter.name)
        [⟨"x-ext-proc-set-header", "X-Auth-Sub = admin"⟩] = some sent ∧
      valuesOf sent "x-auth-sub" = ["admin"] := by
  have hsets : (process ⟨some (.requestHeaders forgingHeaders "GET" "/")⟩).sets =
      [⟨"X-Auth-Sub", "admin"⟩] := by decide
  refine ⟨by decide, hsets, fun h => ?_, _, _, rfl, rfl, by decide⟩
  have hfree := h.sets "GET" "/" ⟨"X-Auth-Sub", "admin"⟩
    (by rw [hsets]; exact List.mem_singleton_self _)
  exact absurd hfree (by decide)

end ExtProc
end OpenApiGateway
