import OpenApiGateway.ExtProc.Processor
import OpenApiGateway.Lib.WireFormat

/-!
# Messages of the external processor on the wire

The encoding that `prost` derives for the messages of
`proto/envoy/service/ext_proc/v3/external_processor.proto`, and the reading of them at the other
end. A request or reply whose status codes fit their field is read back from its bytes, and every
reply of the processor is such a one.
-/

namespace OpenApiGateway
namespace ExtProc

open Lib.WireFormat Lib.Text

/-! ## Codecs -/

/-- `HeaderValue`: a name and a value. -/
def headerValueCodec : Codec HeaderValue where
  fields h := textField 1 h.key ++ textField 2 h.value
  read fields := do
    let key ← readText 1 fields
    let value ← readText 2 fields
    return ⟨key, value⟩

/-- `HeaderValueOption`, whose header may be missing. -/
def headerValueOptionCodec : Codec HeaderValueOption where
  fields o := headerValueCodec.optionalField 1 o.header
  read fields := do
    let header ← headerValueCodec.readOptional 1 fields
    return ⟨header⟩

/-- `HeaderMutation`: headers to set and names to remove. -/
def headerMutationCodec : Codec HeaderMutation where
  fields m :=
    headerValueOptionCodec.messageFields 1 m.setHeaders ++
      contentFields 2 (m.removeHeaders.map textBytes)
  read fields := do
    let setHeaders ← headerValueOptionCodec.readMessages 1 fields
    let removeHeaders ← readTexts 2 fields
    return ⟨setHeaders, removeHeaders⟩

/-- `ImmediateResponse`: a status, a body and headers. -/
def immediateResponseCodec : Codec ImmediateResponse where
  fields r :=
    numberField 1 r.status ++ textField 2 r.body ++
      headerMutationCodec.optionalField 3 r.headerMutation
  read fields := do
    let body ← readText 2 fields
    let headerMutation ← headerMutationCodec.readOptional 3 fields
    return ⟨readNumber 1 fields % 2 ^ 32, body, headerMutation⟩

/-- `CommonResponse`, in the replies to headers and to bodies. -/
def commonResponseCodec : Codec CommonResponse where
  fields r :=
    headerMutationCodec.optionalField 1 r.headerMutation ++
      immediateResponseCodec.optionalField 2 r.immediateResponse ++
      numberField 3 r.clearRouteCache.toNat
  read fields := do
    let headerMutation ← headerMutationCodec.readOptional 1 fields
    let immediateResponse ← immediateResponseCodec.readOptional 2 fields
    return ⟨headerMutation, immediateResponse, readNumber 3 fields != 0⟩

/-- `HeadersResponse`. -/
def headersResponseCodec : Codec HeadersResponse where
  fields r := commonResponseCodec.optionalField 1 r.response
  read fields := do
    let response ← commonResponseCodec.readOptional 1 fields
    return ⟨response⟩

/-- `BodyResponse`. -/
def bodyResponseCodec : Codec BodyResponse where
  fields r := commonResponseCodec.optionalField 1 r.response
  read fields := do
    let response ← commonResponseCodec.readOptional 1 fields
    return ⟨response⟩

/-- `RequestHeaders`: headers, method and path. -/
def requestHeadersCodec : Codec (List HeaderValue × String × String) where
  fields r :=
    headerValueCodec.messageFields 1 r.1 ++ textField 2 r.2.1 ++ textField 3 r.2.2
  read fields := do
    let headers ← headerValueCodec.readMessages 1 fields
    let method ← readText 2 fields
    let path ← readText 3 fields
    return (headers, method, path)

/-- `ResponseHeaders`: headers and status. -/
def responseHeadersCodec : Codec (List HeaderValue × ℕ) where
  fields r := headerValueCodec.messageFields 1 r.1 ++ numberField 2 r.2
  read fields := do
    let headers ← headerValueCodec.readMessages 1 fields
    return (headers, readNumber 2 fields % 2 ^ 32)

/-- `RequestBody` and `ResponseBody`. -/
def bodyCodec : Codec (List UInt8 × Bool) where
  fields r := bytesField 1 r.1 ++ numberField 2 r.2.toNat
  read fields := some (readBytes 1 fields, readNumber 2 fields != 0)

/-- `ProcessingRequest`: a `oneof` of four kinds of messages; of several the last one counts. -/
def processingRequestCodec : Codec ProcessingRequest where
  fields r :=
    match r.request with
    | none => []
    | some (.requestHeaders headers method path) =>
      requestHeadersCodec.messageField 1 (headers, method, path)
    | some (.requestBody body endOfStream) => bodyCodec.messageField 2 (body, endOfStream)
    | some (.responseHeaders headers status) =>
      responseHeadersCodec.messageField 3 (headers, status)
    | some (.responseBody body endOfStream) => bodyCodec.messageField 4 (body, endOfStream)
  read fields :=
    match readVariant [1, 2, 3, 4] fields with
    | none => some ⟨none⟩
    | some (1, content) => (requestHeadersCodec.decode content).map fun r =>
      ⟨some (.requestHeaders r.1 r.2.1 r.2.2)⟩
    | some (2, content) => (bodyCodec.decode content).map fun r => ⟨some (.requestBody r.1 r.2)⟩
    | some (3, content) => (responseHeadersCodec.decode content).map fun r =>
      ⟨some (.responseHeaders r.1 r.2)⟩
    | some (_, content) => (bodyCodec.decode content).map fun r => ⟨some (.responseBody r.1 r.2)⟩

/-- `ProcessingResponse`: a `oneof` of five kinds of replies. -/
def processingResponseCodec : Codec ProcessingResponse where
  fields r :=
    match r.response with
    | none => []
    | some (.requestHeaders reply) => headersResponseCodec.messageField 1 reply
    | some (.requestBody reply) => bodyResponseCodec.messageField 2 reply
    | some (.responseHeaders reply) => headersResponseCodec.messageField 3 reply
    | some (.responseBody reply) => bodyResponseCodec.messageField 4 reply
    | some (.immediateResponse reply) => immediateResponseCodec.messageField 5 reply
  read fields :=
    match readVariant [1, 2, 3, 4, 5] fields with
    | none => some ⟨none⟩
    | some (1, content) => (headersResponseCodec.decode content).map fun r =>
      ⟨some (.requestHeaders r)⟩
    | some (2, content) => (bodyResponseCodec.decode content).map fun r => ⟨some (.requestBody r)⟩
    | some (3, content) => (headersResponseCodec.decode content).map fun r =>
      ⟨some (.responseHeaders r)⟩
    | some (4, content) => (bodyResponseCodec.decode content).map fun r => ⟨some (.responseBody r)⟩
    | some (_, content) => (immediateResponseCodec.decode content).map fun r =>
      ⟨some (.immediateResponse r)⟩

/-! ## The laws -/

theorem lawful_headerValue (h : HeaderValue) : headerValueCodec.Lawful h where
  small := List.forall_mem_append.mpr
    ⟨small_textField (by omega) _, small_textField (by omega) _⟩
  read _ := by
    have hkey : readText 1 (headerValueCodec.fields h) = some h.key :=
      readText_textField (by simp [headerValueCodec])
    have hvalue : readText 2 (headerValueCodec.fields h) = some h.value :=
      readText_textField (by simp [headerValueCodec])
    exact bind_eq_some hkey (bind_eq_some hvalue rfl)

theorem lawful_headerValueOption (o : HeaderValueOption) : headerValueOptionCodec.Lawful o where
  small := small_contentFields (by omega) _
  read hlength := by
    have hheader : headerValueCodec.readOptional 1 (headerValueOptionCodec.fields o) =
        some o.header :=
      Codec.readOptional_optionalField hlength (fun header _ => lawful_headerValue header) rfl
    exact bind_eq_some hheader rfl

theorem lawful_headerMutation (m : HeaderMutation) : headerMutationCodec.Lawful m where
  small := List.forall_mem_append.mpr
    ⟨small_contentFields (by omega) _, small_contentFields (by omega) _⟩
  read hlength := by
    have hset : headerValueOptionCodec.readMessages 1 (headerMutationCodec.fields m) =
        some m.setHeaders :=
      Codec.readMessages_messageFields hlength (fun o _ => lawful_headerValueOption o)
        (by simp [headerMutationCodec])
    have hremove : readTexts 2 (headerMutationCodec.fields m) = some m.removeHeaders :=
      readTexts_contentFields (by simp [headerMutationCodec])
    exact bind_eq_some hset (bind_eq_some hremove rfl)

/-- A status of 32 bits is what the field can hold. -/
theorem lawful_immediateResponse {r : ImmediateResponse} (h : r.status < 2 ^ 32) :
    immediateResponseCodec.Lawful r where
  small := by
    refine List.forall_mem_append.mpr ⟨List.forall_mem_append.mpr ⟨?_, ?_⟩, ?_⟩
    · exact small_numberField (by omega) (by omega)
    · exact small_textField (by omega) _
    · exact small_contentFields (by omega) _
  read hlength := by
    have hstatus : readNumber 1 (immediateResponseCodec.fields r) = r.status :=
      readNumber_numberField (by simp [immediateResponseCodec])
    have hbody : readText 2 (immediateResponseCodec.fields r) = some r.body :=
      readText_textField (by simp [immediateResponseCodec])
    have hmutation : headerMutationCodec.readOptional 3 (immediateResponseCodec.fields r) =
        some r.headerMutation :=
      Codec.readOptional_optionalField hlength (fun m _ => lawful_headerMutation m)
        (by simp [immediateResponseCodec])
    refine bind_eq_some hbody (bind_eq_some hmutation ?_)
    rw [hstatus, Nat.mod_eq_of_lt h]
    rfl

/-- The status of an immediate response in it fits its field. -/
def CommonResponse.InRange (r : CommonResponse) : Prop :=
  ∀ reply ∈ r.immediateResponse, reply.status < 2 ^ 32

/-- A reply round-trips when the answer inside it does. -/
theorem lawful_commonResponse {r : CommonResponse} (h : r.InRange) :
    commonResponseCodec.Lawful r where
  small := by
    refine List.forall_mem_append.mpr ⟨List.forall_mem_append.mpr ⟨?_, ?_⟩, ?_⟩
    · exact small_contentFields (by omega) _
    · exact small_contentFields (by omega) _
    · exact small_numberField (by omega) (by have := Bool.toNat_le r.clearRouteCache; omega)
  read hlength := by
    have hmutation : headerMutationCodec.readOptional 1 (commonResponseCodec.fields r) =
        some r.headerMutation :=
      Codec.readOptional_optionalField hlength (fun m _ => lawful_headerMutation m)
        (by simp [commonResponseCodec])
    have himmediate : immediateResponseCodec.readOptional 2 (commonResponseCodec.fields r) =
        some r.immediateResponse :=
      Codec.readOptional_optionalField hlength
        (fun reply hreply => lawful_immediateResponse (h reply hreply))
        (by simp [commonResponseCodec])
    have hclear : readNumber 3 (commonResponseCodec.fields r) = r.clearRouteCache.toNat :=
      readNumber_numberField (by simp [commonResponseCodec])
    refine bind_eq_some hmutation (bind_eq_some himmediate ?_)
    rw [hclear]
    cases r with
    | mk mutation immediate clear => cases clear <;> rfl

theorem lawful_headersResponse {r : HeadersResponse} (h : ∀ reply ∈ r.response, reply.InRange) :
    headersResponseCodec.Lawful r where
  small := small_contentFields (by omega) _
  read hlength := by
    have hresponse : commonResponseCodec.readOptional 1 (headersResponseCodec.fields r) =
        some r.response :=
      Codec.readOptional_optionalField hlength
        (fun reply hreply => lawful_commonResponse (h reply hreply)) rfl
    exact bind_eq_some hresponse rfl

theorem lawful_bodyResponse {r : BodyResponse} (h : ∀ reply ∈ r.response, reply.InRange) :
    bodyResponseCodec.Lawful r where
  small := small_contentFields (by omega) _
  read hlength := by
    have hresponse : commonResponseCodec.readOptional 1 (bodyResponseCodec.fields r) =
        some r.response :=
      Codec.readOptional_optionalField hlength
        (fun reply hreply => lawful_commonResponse (h reply hreply)) rfl
    exact bind_eq_some hresponse rfl

/-- Headers, method and path are texts, which always round-trip. -/
theorem lawful_requestHeaders (r : List HeaderValue × String × String) :
    requestHeadersCodec.Lawful r where
  small := by
    refine List.forall_mem_append.mpr ⟨List.forall_mem_append.mpr ⟨?_, ?_⟩, ?_⟩
    · exact small_contentFields (by omega) _
    · exact small_textField (by omega) _
    · exact small_textField (by omega) _
  read hlength := by
    have hheaders : headerValueCodec.readMessages 1 (requestHeadersCodec.fields r) = some r.1 :=
      Codec.readMessages_messageFields hlength (fun header _ => lawful_headerValue header)
        (by simp [requestHeadersCodec])
    have hmethod : readText 2 (requestHeadersCodec.fields r) = some r.2.1 :=
      readText_textField (by simp [requestHeadersCodec])
    have hpath : readText 3 (requestHeadersCodec.fields r) = some r.2.2 :=
      readText_textField (by simp [requestHeadersCodec])
    exact bind_eq_some hheaders (bind_eq_some hmethod (bind_eq_some hpath rfl))

theorem lawful_responseHeaders {r : List HeaderValue × ℕ} (h : r.2 < 2 ^ 32) :
    responseHeadersCodec.Lawful r where
  small := List.forall_mem_append.mpr
    ⟨small_contentFields (by omega) _, small_numberField (by omega) (by omega)⟩
  read hlength := by
    have hheaders : headerValueCodec.readMessages 1 (responseHeadersCodec.fields r) = some r.1 :=
      Codec.readMessages_messageFields hlength (fun header _ => lawful_headerValue header)
        (by simp [responseHeadersCodec])
    have hstatus : readNumber 2 (responseHeadersCodec.fields r) = r.2 :=
      readNumber_numberField (by simp [responseHeadersCodec])
    refine bind_eq_some hheaders ?_
    rw [hstatus, Nat.mod_eq_of_lt h]
    rfl

theorem lawful_body (r : List UInt8 × Bool) : bodyCodec.Lawful r where
  small := by
    refine List.forall_mem_append.mpr ⟨small_bytesField (by omega) _, ?_⟩
    exact small_numberField (by omega) (by have := Bool.toNat_le r.2; omega)
  read _ := by
    have hbody : readBytes 1 (bodyCodec.fields r) = r.1 :=
      readBytes_bytesField (by simp [bodyCodec])
    have hend : readNumber 2 (bodyCodec.fields r) = r.2.toNat :=
      readNumber_numberField (by simp [bodyCodec])
    show some (readBytes 1 (bodyCodec.fields r), readNumber 2 (bodyCodec.fields r) != 0) = some r
    rw [hbody, hend]
    obtain ⟨body, last⟩ := r
    cases last with
    | true => rfl
    | false => rfl

/-- The status of response headers fits its field. -/
def ProcessingRequest.InRange (r : ProcessingRequest) : Prop :=
  match r.request with
  | some (.responseHeaders _ status) => status < 2 ^ 32
  | _ => True

/-- The status codes of a reply fit their fields. -/
def ProcessingResponse.InRange (r : ProcessingResponse) : Prop :=
  match r.response with
  | some (.requestHeaders reply) => ∀ common ∈ reply.response, common.InRange
  | some (.requestBody reply) => ∀ common ∈ reply.response, common.InRange
  | some (.responseHeaders reply) => ∀ common ∈ reply.response, common.InRange
  | some (.responseBody reply) => ∀ common ∈ reply.response, common.InRange
  | some (.immediateResponse reply) => reply.status < 2 ^ 32
  | none => True

/-- Every message of a client whose numbers fit is read as it was sent. -/
theorem lawful_processingRequest {r : ProcessingRequest} (h : r.InRange) :
    processingRequestCodec.Lawful r := by
  obtain ⟨request⟩ := r
  cases request with
  | none => exact ⟨by simp [processingRequestCodec], fun _ => rfl⟩
  | some kind =>
    cases kind with
    | requestHeaders headers method path =>
      refine ⟨small_contentFields (by omega) _, fun hlength => ?_⟩
      obtain ⟨hvariant, hdecode⟩ := Codec.decode_of_readVariant [1, 2, 3, 4] (by decide)
        (lawful_requestHeaders (headers, method, path)) hlength
      simp [processingRequestCodec, hvariant, hdecode]
    | requestBody body endOfStream =>
      refine ⟨small_contentFields (by omega) _, fun hlength => ?_⟩
      obtain ⟨hvariant, hdecode⟩ := Codec.decode_of_readVariant [1, 2, 3, 4] (by decide)
        (lawful_body (body, endOfStream)) hlength
      simp [processingRequestCodec, hvariant, hdecode]
    | responseHeaders headers status =>
      refine ⟨small_contentFields (by omega) _, fun hlength => ?_⟩
      have hstatus : (headers, status).2 < 2 ^ 32 := h
      obtain ⟨hvariant, hdecode⟩ := Codec.decode_of_readVariant [1, 2, 3, 4] (by decide)
        (lawful_responseHeaders hstatus) hlength
      simp [processingRequestCodec, hvariant, hdecode]
    | responseBody body endOfStream =>
      refine ⟨small_contentFields (by omega) _, fun hlength => ?_⟩
      obtain ⟨hvariant, hdecode⟩ := Codec.decode_of_readVariant [1, 2, 3, 4] (by decide)
        (lawful_body (body, endOfStream)) hlength
      simp [processingRequestCodec, hvariant, hdecode]

/-- Every reply whose numbers fit is read as it was sent. -/
theorem lawful_processingResponse {r : ProcessingResponse} (h : r.InRange) :
    processingResponseCodec.Lawful r := by
  obtain ⟨response⟩ := r
  cases response with
  | none => exact ⟨by simp [processingResponseCodec], fun _ => rfl⟩
  | some kind =>
    cases kind with
    | requestHeaders reply =>
      refine ⟨small_contentFields (by omega) _, fun hlength => ?_⟩
      obtain ⟨hvariant, hdecode⟩ := Codec.decode_of_readVariant [1, 2, 3, 4, 5] (by decide)
        (lawful_headersResponse h) hlength
      simp [processingResponseCodec, hvariant, hdecode]
    | requestBody reply =>
      refine ⟨small_contentFields (by omega) _, fun hlength => ?_⟩
      obtain ⟨hvariant, hdecode⟩ := Codec.decode_of_readVariant [1, 2, 3, 4, 5] (by decide)
        (lawful_bodyResponse h) hlength
      simp [processingResponseCodec, hvariant, hdecode]
    | responseHeaders reply =>
      refine ⟨small_contentFields (by omega) _, fun hlength => ?_⟩
      obtain ⟨hvariant, hdecode⟩ := Codec.decode_of_readVariant [1, 2, 3, 4, 5] (by decide)
        (lawful_headersResponse h) hlength
      simp [processingResponseCodec, hvariant, hdecode]
    | responseBody reply =>
      refine ⟨small_contentFields (by omega) _, fun hlength => ?_⟩
      obtain ⟨hvariant, hdecode⟩ := Codec.decode_of_readVariant [1, 2, 3, 4, 5] (by decide)
        (lawful_bodyResponse h) hlength
      simp [processingResponseCodec, hvariant, hdecode]
    | immediateResponse reply =>
      refine ⟨small_contentFields (by omega) _, fun hlength => ?_⟩
      obtain ⟨hvariant, hdecode⟩ := Codec.decode_of_readVariant [1, 2, 3, 4, 5] (by decide)
        (lawful_immediateResponse h) hlength
      simp [processingResponseCodec, hvariant, hdecode]

/-- Whatever the client writes as a status, the reply has one that fits its field. -/
theorem inRange_process (request : ProcessingRequest) : (process request).InRange := by
  have hcommon : ∀ mutation, (commonResponse mutation).InRange := by
    intro mutation reply hreply
    simp [commonResponse] at hreply
  have hparse : ∀ s : String, (parseU32 s).getD 403 < 2 ^ 32 := by
    intro s
    unfold parseU32
    dsimp only
    split
    · rename_i hdigits
      exact hdigits.2.2
    · simp
  unfold process
  split
  · dsimp only
    split
    · exact hparse _
    · simpa [ProcessingResponse.InRange] using hcommon _
  · simpa [ProcessingResponse.InRange, emptyBodyResponse] using hcommon none
  · simpa [ProcessingResponse.InRange] using hcommon none
  · simpa [ProcessingResponse.InRange, emptyBodyResponse] using hcommon none
  · trivial

end ExtProc
end OpenApiGateway
