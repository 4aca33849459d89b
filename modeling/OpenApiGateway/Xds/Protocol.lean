import OpenApiGateway.Xds.Resources

/-!
# Discovery requests and their answers

`xds/protocol.rs`, the responses of `xds/snapshot.rs` and what `stream_aggregated_resources` of
`xds/server.rs` does with one message: what it records of it, and what it answers from a
snapshot. Of a request the fields that are read are modelled; `resource_names` is never read.

Every message is answered, an acknowledgement too: with the resources of its type or, for a type
the snapshot does not have, with all four (`answer_of_mem`, `answer_of_notMem`).
-/

namespace OpenApiGateway
namespace Xds

open Lib.Fallible

structure Node where
  id : String
deriving DecidableEq

/-- A message of a client: a first request, an acknowledgement or a rejection. -/
structure DiscoveryRequest where
  versionInfo : String := ""
  node : Option Node := none
  typeUrl : String
  responseNonce : String := ""
  /-- The message of the error, if the client reports one. -/
  errorDetail : Option String := none
deriving DecidableEq

/-- All resources of one type, with the version they belong to. -/
structure DiscoveryResponse where
  versionInfo : String
  resources : List Any
  typeUrl : String
  nonce : String
deriving DecidableEq

/-- A rejection brings an error text that is not empty. -/
def isNack (request : DiscoveryRequest) : Bool :=
  (request.errorDetail.map fun message => decide (message ≠ "")).getD false

/-- The node id a stream is registered under, from its first message. -/
def DiscoveryRequest.nodeId (request : DiscoveryRequest) : String :=
  ((request.node.map Node.id).filter (· ≠ "")).getD "unknown"

/-- User-facing ACK/NACK status for one connected Envoy. -/
structure EnvoyConnectionStatus where
  nodeId : String
  lastTypeUrl : Option String := none
  lastAckedVersion : Option String := none
  lastNonce : Option String := none
  lastNack : Option String := none
deriving DecidableEq

/-- What a message changes in the status. -/
def EnvoyConnectionStatus.record (status : EnvoyConnectionStatus) (message : DiscoveryRequest) :
    EnvoyConnectionStatus :=
  let status :=
    { status with
      lastTypeUrl := if message.typeUrl = "" then none else some message.typeUrl
      lastNonce := if message.responseNonce = "" then none else some message.responseNonce }
  if isNack message then { status with lastNack := message.errorDetail }
  else if message.versionInfo ≠ "" then
    { status with lastAckedVersion := some message.versionInfo, lastNack := none }
  else status

@[simp]
theorem EnvoyConnectionStatus.nodeId_record (status : EnvoyConnectionStatus)
    (message : DiscoveryRequest) : (status.record message).nodeId = status.nodeId := by
  simp only [EnvoyConnectionStatus.record]
  cases isNack message with
  | true => rfl
  | false =>
    by_cases hversion : message.versionInfo = ""
    · simp [hversion]
    · simp [hversion]

namespace XdsSnapshot

/-- The response for a type, if the snapshot has resources of it. -/
def responseFor (snapshot : XdsSnapshot) (typeUrl : String) : Option DiscoveryResponse :=
  (snapshot.resources.lookup typeUrl).map fun resources =>
    { versionInfo := toString snapshot.version
      resources := resources
      typeUrl := typeUrl
      nonce := snapshot.nonce }

/-- The responses of all types, in the order in which they are pushed. -/
def orderedResponses (snapshot : XdsSnapshot) : List DiscoveryResponse :=
  typeUrlsInOrder.filterMap snapshot.responseFor

/-- The responses the stream sends for a message. -/
def answer (snapshot : XdsSnapshot) (message : DiscoveryRequest) : List DiscoveryResponse :=
  let responses :=
    if message.typeUrl = "" then snapshot.orderedResponses
    else (snapshot.responseFor message.typeUrl).toList
  if responses.isEmpty then typeUrlsInOrder.filterMap snapshot.responseFor else responses

/-! ## What is in a response -/

section Responses
variable {snapshot : XdsSnapshot} {response : DiscoveryResponse} {typeUrl : String}

theorem versionInfo_of_responseFor (h : snapshot.responseFor typeUrl = some response) :
    response.versionInfo = toString snapshot.version := by
  obtain ⟨resources, -, rfl⟩ := Option.map_eq_some_iff.mp h
  rfl

theorem typeUrl_of_responseFor (h : snapshot.responseFor typeUrl = some response) :
    response.typeUrl = typeUrl := by
  obtain ⟨resources, -, rfl⟩ := Option.map_eq_some_iff.mp h
  rfl

theorem responseFor_of_mem_orderedResponses (h : response ∈ snapshot.orderedResponses) :
    ∃ typeUrl, snapshot.responseFor typeUrl = some response := by
  obtain ⟨typeUrl, -, hresponse⟩ := List.mem_filterMap.mp h
  exact ⟨typeUrl, hresponse⟩

/-- What a message is answered with are responses of the snapshot. -/
theorem responseFor_of_mem_answer {message : DiscoveryRequest}
    (h : response ∈ snapshot.answer message) :
    ∃ typeUrl, snapshot.responseFor typeUrl = some response := by
  unfold answer at h
  simp only at h
  split at h
  · split at h <;> exact responseFor_of_mem_orderedResponses h
  · split at h
    · exact responseFor_of_mem_orderedResponses h
    · exact ⟨message.typeUrl, Option.mem_toList.mp h⟩

end Responses

/-! ## Snapshots of a config -/

/-- The snapshot has resources for the four types and for no other. -/
def Complete (snapshot : XdsSnapshot) : Prop :=
  ∀ typeUrl, (snapshot.resources.lookup typeUrl).isSome ↔ typeUrl ∈ typeUrlsInOrder

section Build
variable {encode : Message → Except String (List UInt8)} {config : GatewayConfig} {version : ℕ}
  {snapshot : XdsSnapshot}

/-- What a snapshot that could be built looks like. -/
theorem build_cases (h : build encode config version = .ok snapshot) :
    ∃ clusters endpoints listener routes,
      snapshot =
        { version := version
          nonce := s!"snapshot-{version}"
          resources := (((AList.insert clusterTypeUrl clusters ∅).insert endpointTypeUrl
            endpoints).insert listenerTypeUrl [listener]).insert routeTypeUrl [routes] } := by
  obtain ⟨clusters, -, h⟩ := eq_ok_of_bind h
  obtain ⟨endpoints, -, h⟩ := eq_ok_of_bind h
  obtain ⟨listener, -, h⟩ := eq_ok_of_bind h
  obtain ⟨routes, -, h⟩ := eq_ok_of_bind h
  exact ⟨clusters, endpoints, listener, routes, (Except.ok.inj h).symm⟩

theorem version_of_build (h : build encode config version = .ok snapshot) :
    snapshot.version = version := by
  obtain ⟨clusters, endpoints, listener, routes, rfl⟩ := build_cases h
  rfl

/-- A snapshot that could be built has resources of all four types. -/
theorem complete_of_build (h : build encode config version = .ok snapshot) :
    snapshot.Complete := by
  obtain ⟨clusters, endpoints, listener, routes, rfl⟩ := build_cases h
  intro typeUrl
  simp only [AList.lookup_isSome, AList.mem_insert, typeUrlsInOrder, List.mem_cons,
    List.not_mem_nil, or_false]
  constructor
  · rintro (h | h | h | h | h)
    · exact Or.inr (Or.inr (Or.inr h))
    · exact Or.inr (Or.inr (Or.inl h))
    · exact Or.inr (Or.inl h)
    · exact Or.inl h
    · exact absurd h (AList.notMem_empty _)
  · rintro (h | h | h | h)
    · exact Or.inr (Or.inr (Or.inr (Or.inl h)))
    · exact Or.inr (Or.inr (Or.inl h))
    · exact Or.inr (Or.inl h)
    · exact Or.inl h

end Build

section Complete
variable {snapshot : XdsSnapshot} (hcomplete : snapshot.Complete) {message : DiscoveryRequest}
include hcomplete

theorem Complete.responseFor {typeUrl : String} (h : typeUrl ∈ typeUrlsInOrder) :
    ∃ response, snapshot.responseFor typeUrl = some response := by
  obtain ⟨resources, hresources⟩ := Option.isSome_iff_exists.mp ((hcomplete typeUrl).mpr h)
  unfold XdsSnapshot.responseFor
  rw [hresources]
  exact ⟨_, rfl⟩

/-- All four responses, in order. -/
theorem Complete.typeUrl_orderedResponses :
    snapshot.orderedResponses.map DiscoveryResponse.typeUrl = typeUrlsInOrder := by
  have hresponses : ∀ typeUrls ⊆ typeUrlsInOrder,
      (typeUrls.filterMap snapshot.responseFor).map DiscoveryResponse.typeUrl = typeUrls := by
    intro typeUrls hsub
    induction typeUrls with
    | nil => rfl
    | cons typeUrl typeUrls ih =>
      rw [List.cons_subset] at hsub
      obtain ⟨response, hresponse⟩ := hcomplete.responseFor hsub.1
      rw [List.filterMap_cons_some hresponse, List.map_cons, ih hsub.2,
        typeUrl_of_responseFor hresponse]
  exact hresponses typeUrlsInOrder (List.Subset.refl _)

/-- A message for one of the four types is answered with that type. -/
theorem Complete.answer_of_mem (h : message.typeUrl ∈ typeUrlsInOrder) :
    ∃ response, snapshot.answer message = [response] ∧ response.typeUrl = message.typeUrl ∧
      response.versionInfo = toString snapshot.version := by
  obtain ⟨response, hresponse⟩ := hcomplete.responseFor h
  have hne : message.typeUrl ≠ "" := by
    intro hempty
    rw [hempty] at h
    exact absurd h (by decide)
  refine ⟨response, ?_, typeUrl_of_responseFor hresponse, versionInfo_of_responseFor hresponse⟩
  simp [XdsSnapshot.answer, hne, hresponse]

/-- Any other message is answered with all four types. -/
theorem Complete.answer_of_notMem (h : message.typeUrl ∉ typeUrlsInOrder) :
    snapshot.answer message = snapshot.orderedResponses := by
  have hnone : snapshot.responseFor message.typeUrl = none := by
    have hlookup := mt (hcomplete message.typeUrl).mp h
    rw [Option.not_isSome_iff_eq_none] at hlookup
    simp [XdsSnapshot.responseFor, hlookup]
  unfold XdsSnapshot.answer orderedResponses
  simp only [hnone]
  split <;> simp

end Complete

end XdsSnapshot

end Xds
end OpenApiGateway
