import OpenApiGateway.Lib.TransitionSystem
import OpenApiGateway.Xds.Wire

/-!
# One client on one stream

A client subscribes to some type URLs with one initial request each and acknowledges every
response it receives once; the server answers request after request from a snapshot that stays
installed. Both directions of the stream keep the order.

The server keeps no record of what it has sent, so an acknowledgement is answered like any other
request and the exchange feeds itself. `one_response_iff_no_ack_read` says that it sends one
response for each type as long as, and only as long as, it has read no acknowledgement.
-/

namespace OpenApiGateway
namespace Xds

open Lib.TransitionSystem

/-- The first request for a type. -/
def initialRequest (node : Option Node) (typeUrl : String) : DiscoveryRequest :=
  { node := node, typeUrl := typeUrl }

/-- The acknowledgement of a response. -/
def ackOf (response : DiscoveryResponse) : DiscoveryRequest :=
  { versionInfo := response.versionInfo
    typeUrl := response.typeUrl
    responseNonce := response.nonce }

/-- The request is a subscription, not an acknowledgement. -/
def DiscoveryRequest.Initial (request : DiscoveryRequest) : Prop := request.versionInfo = ""

instance : DecidablePred DiscoveryRequest.Initial :=
  fun request => inferInstanceAs (Decidable (request.versionInfo = ""))

/-- The stream between a client and the server: the types still to be subscribed to, what is
under way in both directions, and all that the server has read and sent. -/
structure Exchange where
  unsubscribed : List String
  toServer : List DiscoveryRequest := []
  toClient : List DiscoveryResponse := []
  served : List DiscoveryRequest := []
  sent : List DiscoveryResponse := []

inductive ExchangeAction where
  | subscribe
  | ack
  | serve
deriving DecidableEq

namespace Exchange

/-- Responses sent so far for a type. -/
def responses (s : Exchange) (typeUrl : String) : List DiscoveryResponse :=
  s.sent.filter (·.typeUrl = typeUrl)

def step (snapshot : XdsSnapshot) (node : Option Node) (s : Exchange) :
    ExchangeAction → Option Exchange
  | .subscribe =>
    match s.unsubscribed with
    | [] => none
    | typeUrl :: rest =>
      some
        { s with
          unsubscribed := rest
          toServer := s.toServer ++ [initialRequest node typeUrl] }
  | .ack =>
    match s.toClient with
    | [] => none
    | response :: rest =>
      some { s with toClient := rest, toServer := s.toServer ++ [ackOf response] }
  | .serve =>
    match s.toServer with
    | [] => none
    | request :: rest =>
      some
        { s with
          toServer := rest
          toClient := s.toClient ++ snapshot.answer request
          served := s.served ++ [request]
          sent := s.sent ++ snapshot.answer request }

/-! ## The invariant -/

/-- What holds in every state, for a client that subscribes to types the snapshot has. -/
structure Inv (types : List String) (s : Exchange) : Prop where
  /-- Request by request, the server has sent one response of the same type. -/
  answered : s.sent.map DiscoveryResponse.typeUrl = s.served.map DiscoveryRequest.typeUrl
  subscribed : ((s.served ++ s.toServer).filter DiscoveryRequest.Initial).map
    DiscoveryRequest.typeUrl ++ s.unsubscribed = types
  underWay : ∀ response ∈ s.toClient, response ∈ s.sent
  /-- An acknowledgement on its way is one of a response that was sent. -/
  acked : ∀ request ∈ s.toServer, ¬ request.Initial →
    request.typeUrl ∈ s.sent.map DiscoveryResponse.typeUrl
  /-- The first response of a type was for an initial request. -/
  opened : ∀ response ∈ s.sent, ∃ request ∈ s.served, request.Initial ∧
    request.typeUrl = response.typeUrl
  versions : ∀ response ∈ s.sent, response.versionInfo ≠ ""

section Inv
variable {snapshot : XdsSnapshot} {node : Option Node} {types : List String} {s s' : Exchange}

theorem inv_init (types : List String) : Inv types { unsubscribed := types } :=
  ⟨rfl, rfl, by simp, by simp, by simp, by simp⟩

theorem Inv.subscribe (h : s.Inv types) {typeUrl : String} {rest : List String}
    (hrest : s.unsubscribed = typeUrl :: rest) :
    Inv types
      { s with
        unsubscribed := rest
        toServer := s.toServer ++ [initialRequest node typeUrl] } := by
  have hinitial : (initialRequest node typeUrl).Initial := rfl
  refine ⟨h.answered, ?_, h.underWay, ?_, h.opened, h.versions⟩
  · have hsubscribed := h.subscribed
    rw [hrest] at hsubscribed
    rw [← List.append_assoc, List.filter_append, List.map_append, List.append_assoc,
      List.filter_cons_of_pos (by simpa using hinitial)]
    exact hsubscribed
  · intro request hrequest hack
    rcases List.mem_append.mp hrequest with hrequest | hrequest
    · exact h.acked request hrequest hack
    · rw [List.mem_singleton] at hrequest
      exact absurd (hrequest ▸ hinitial) hack

theorem Inv.ack (h : s.Inv types) {response : DiscoveryResponse} {rest : List DiscoveryResponse}
    (hrest : s.toClient = response :: rest) :
    Inv types { s with toClient := rest, toServer := s.toServer ++ [ackOf response] } := by
  have hsent : response ∈ s.sent := h.underWay response (hrest ▸ List.mem_cons_self)
  have hack : ¬ (ackOf response).Initial := h.versions response hsent
  refine ⟨h.answered, ?_, ?_, ?_, h.opened, h.versions⟩
  · have hsubscribed := h.subscribed
    rw [← List.append_assoc, List.filter_append, List.filter_cons_of_neg (by simpa using hack),
      List.filter_nil, List.append_nil]
    exact hsubscribed
  · intro other hother
    exact h.underWay other (hrest ▸ List.mem_cons_of_mem _ hother)
  · intro request hrequest hnot
    rcases List.mem_append.mp hrequest with hrequest | hrequest
    · exact h.acked request hrequest hnot
    · rw [List.mem_singleton] at hrequest
      subst hrequest
      exact List.mem_map_of_mem hsent

/-- A request of one of the types the client may ask for has a type of the snapshot. -/
theorem Inv.typeUrl_mem (h : s.Inv types) (hknown : ∀ t ∈ types, t ∈ typeUrlsInOrder)
    {request : DiscoveryRequest} (hrequest : request ∈ s.served ++ s.toServer)
    (hinitial : request.Initial) : request.typeUrl ∈ typeUrlsInOrder := by
  refine hknown _ ?_
  rw [← h.subscribed]
  refine List.mem_append_left _ (List.mem_map_of_mem (List.mem_filter.mpr ⟨hrequest, ?_⟩))
  exact decide_eq_true hinitial

theorem Inv.serve (hcomplete : snapshot.Complete) (hknown : ∀ t ∈ types, t ∈ typeUrlsInOrder)
    (h : s.Inv types) {request : DiscoveryRequest} {rest : List DiscoveryRequest}
    (hrest : s.toServer = request :: rest) :
    Inv types
      { s with
        toServer := rest
        toClient := s.toClient ++ snapshot.answer request
        served := s.served ++ [request]
        sent := s.sent ++ snapshot.answer request } := by
  have hhead : request ∈ s.toServer := hrest ▸ List.mem_cons_self
  -- an initial request for the type of any request that is not one itself was served before
  have hbefore : ¬ request.Initial →
      ∃ first ∈ s.served, first.Initial ∧ first.typeUrl = request.typeUrl := by
    intro hack
    obtain ⟨response, hresponse, htype⟩ := List.mem_map.mp (h.acked request hhead hack)
    rw [← htype]
    exact h.opened response hresponse
  have hmem : request.typeUrl ∈ typeUrlsInOrder := by
    by_cases hinitial : request.Initial
    · exact h.typeUrl_mem hknown (List.mem_append_right _ hhead) hinitial
    · obtain ⟨first, hfirst, hinitial, htype⟩ := hbefore hinitial
      rw [← htype]
      exact h.typeUrl_mem hknown (List.mem_append_left _ hfirst) hinitial
  obtain ⟨response, hanswer, htype, hversion⟩ := hcomplete.answer_of_mem hmem
  rw [hanswer]
  constructor
  case answered =>
    simp only [List.map_append, List.map_cons, List.map_nil, h.answered, htype]
  case subscribed =>
    have hsubscribed := h.subscribed
    rw [hrest] at hsubscribed
    rw [List.append_assoc, List.singleton_append]
    exact hsubscribed
  case underWay =>
    intro other hother
    rcases List.mem_append.mp hother with hother | hother
    · exact List.mem_append_left _ (h.underWay other hother)
    · exact List.mem_append_right _ hother
  case acked =>
    intro other hother hack
    rw [List.map_append]
    exact List.mem_append_left _ (h.acked other (hrest ▸ List.mem_cons_of_mem _ hother) hack)
  case opened =>
    intro other hother
    rcases List.mem_append.mp hother with hother | hother
    · obtain ⟨first, hfirst, hopened⟩ := h.opened other hother
      exact ⟨first, List.mem_append_left _ hfirst, hopened⟩
    · rw [List.mem_singleton] at hother
      subst hother
      by_cases hinitial : request.Initial
      · exact ⟨request, by simp, hinitial, htype.symm⟩
      · obtain ⟨first, hfirst, hopened, hsame⟩ := hbefore hinitial
        exact ⟨first, List.mem_append_left _ hfirst, hopened, hsame.trans htype.symm⟩
  case versions =>
    intro other hother
    rcases List.mem_append.mp hother with hother | hother
    · exact h.versions other hother
    · rw [List.mem_singleton] at hother
      subst hother
      rw [hversion]
      exact Nat.repr_ne_empty

theorem Inv.step (hcomplete : snapshot.Complete) (hknown : ∀ t ∈ types, t ∈ typeUrlsInOrder)
    {action : ExchangeAction} (h : s.Inv types) (hstep : s.step snapshot node action = some s') :
    s'.Inv types := by
  cases action <;> simp only [Exchange.step] at hstep <;> split at hstep <;>
    simp only [reduceCtorEq, Option.some.injEq] at hstep <;> subst hstep <;> rename_i hrest
  · exact h.subscribe hrest
  · exact h.ack hrest
  · exact h.serve hcomplete hknown hrest

end Inv

section Counting
variable {types : List String} {s : Exchange}

theorem Inv.length_responses (h : s.Inv types) (typeUrl : String) :
    (s.responses typeUrl).length = (s.served.map DiscoveryRequest.typeUrl).count typeUrl := by
  rw [← h.answered, responses, ← List.countP_eq_length_filter, List.count, List.countP_map]
  rfl

/-- As long as no acknowledgement was read, the server has read each type at most once. -/
theorem Inv.nodup_served (h : s.Inv types) (hnodup : types.Nodup)
    (hinitial : ∀ request ∈ s.served, request.Initial) :
    (s.served.map DiscoveryRequest.typeUrl).Nodup := by
  have hall : s.served.filter DiscoveryRequest.Initial = s.served :=
    List.filter_eq_self.mpr fun request hrequest => decide_eq_true (hinitial request hrequest)
  have hsubscribed := h.subscribed
  rw [List.filter_append, hall, List.map_append, List.append_assoc] at hsubscribed
  rw [← hsubscribed] at hnodup
  exact (List.nodup_append.mp hnodup).1

/-- The type of an acknowledgement that was read has been read before, in a subscription. -/
theorem Inv.two_le_count (h : s.Inv types) {request : DiscoveryRequest}
    (hrequest : request ∈ s.served) (hack : ¬ request.Initial) :
    request.typeUrl ∈ types ∧
      2 ≤ (s.served.map DiscoveryRequest.typeUrl).count request.typeUrl := by
  have hsent : request.typeUrl ∈ s.sent.map DiscoveryResponse.typeUrl := by
    rw [h.answered]
    exact List.mem_map_of_mem hrequest
  obtain ⟨response, hresponse, hresponseType⟩ := List.mem_map.mp hsent
  obtain ⟨first, hfirst, hinitial, hfirstType⟩ := h.opened response hresponse
  have htype : first.typeUrl = request.typeUrl := hfirstType.trans hresponseType
  refine ⟨?_, ?_⟩
  · rw [← h.subscribed, ← htype]
    refine List.mem_append_left _ (List.mem_map_of_mem (List.mem_filter.mpr ⟨?_, ?_⟩))
    · exact List.mem_append_left _ hfirst
    · exact decide_eq_true hinitial
  · have hne : first ≠ request := fun heq => hack (heq ▸ hinitial)
    have hpair : List.Subperm [first, request] s.served := by
      refine List.subperm_of_subset (by simpa using hne) ?_
      intro other hother
      simp only [List.mem_cons, List.not_mem_nil, or_false] at hother
      rcases hother with rfl | rfl
      · exact hfirst
      · exact hrequest
    have hcount := hpair.countP_le ((· == request.typeUrl) ∘ DiscoveryRequest.typeUrl)
    rw [List.count, List.countP_map]
    refine le_trans (le_of_eq ?_) hcount
    simp [htype]

end Counting

/-- For a client that subscribes to some of the four types, the server has sent at most one
response for each of them if and only if it has read no acknowledgement. -/
theorem one_response_iff_no_ack_read (encode : Message → Except String (List UInt8))
    (config : GatewayConfig) (version : ℕ) (snapshot : XdsSnapshot)
    (hbuild : XdsSnapshot.build encode config version = .ok snapshot) (node : Option Node)
    (types : List String) (hnodup : types.Nodup) (hknown : ∀ t ∈ types, t ∈ typeUrlsInOrder)
    (s : Exchange)
    (hrun : Run (step snapshot node) (fun _ _ => True) { unsubscribed := types } s) :
    (∀ typeUrl ∈ types, (s.responses typeUrl).length ≤ 1) ↔
      ∀ request ∈ s.served, request.Initial := by
  have hcomplete := XdsSnapshot.complete_of_build hbuild
  have hinv : s.Inv types :=
    hrun.invariant (inv_init types) fun _ _ _ hs _ hstep => hs.step hcomplete hknown hstep
  constructor
  · intro hone request hrequest
    by_contra hack
    obtain ⟨hmem, htwo⟩ := hinv.two_le_count hrequest hack
    have hle := hone request.typeUrl hmem
    rw [hinv.length_responses] at hle
    omega
  · intro hinitial typeUrl _
    rw [hinv.length_responses]
    exact List.nodup_iff_count_le_one.mp (hinv.nodup_served hnodup hinitial) typeUrl

/-! ### One subscription -/

theorem one_response_iff_no_ack_read_clusters :
    ∃ s : Exchange,
      Run (step (minimalSnapshot 1) none) (fun _ _ => True) { unsubscribed := [clusterTypeUrl] } s ∧
        s.served = [initialRequest none clusterTypeUrl] ∧
        ∀ typeUrl ∈ [clusterTypeUrl], (s.responses typeUrl).length ≤ 1 := by
  have hrun : runAll (step (minimalSnapshot 1) none) (fun _ _ => True)
      { unsubscribed := [clusterTypeUrl] } [.subscribe, .serve, .ack] = some _ := rfl
  have hreached := run_of_runAll hrun .init
  refine ⟨_, hreached, rfl, ?_⟩
  refine (one_response_iff_no_ack_read _ _ _ _ (build_minimalSnapshot 1) none _ (by simp) ?_ _
    hreached).mpr ?_
  · decide
  · decide

/-- The client acknowledges the version and nonce of the installed snapshot and is sent the same
response again. -/
theorem ack_is_answered :
    ∃ s : Exchange,
      Run (step (minimalSnapshot 1) none) (fun _ _ => True) { unsubscribed := [clusterTypeUrl] } s ∧
        s.served =
          [initialRequest none clusterTypeUrl,
            { versionInfo := "1", typeUrl := clusterTypeUrl, responseNonce := "snapshot-1" }] ∧
        s.sent.map DiscoveryResponse.versionInfo = ["1", "1"] ∧
        s.sent.map DiscoveryResponse.nonce = ["snapshot-1", "snapshot-1"] ∧
        (s.responses clusterTypeUrl).length = 2 := by
  have hrun : runAll (step (minimalSnapshot 1) none) (fun _ _ => True)
      { unsubscribed := [clusterTypeUrl] } [.subscribe, .serve, .ack, .serve] = some _ := rfl
  exact ⟨_, run_of_runAll hrun .init, rfl, rfl, rfl, rfl⟩

end Exchange

end Xds
end OpenApiGateway
