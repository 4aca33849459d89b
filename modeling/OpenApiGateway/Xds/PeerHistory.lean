import OpenApiGateway.Xds.Peer
import OpenApiGateway.Xds.Provenance

/-!
# What a peer knows while configs change

A stream carries the answers of its own task and the broadcasts of any number of rebuilds, of
different versions and in any mixture. A peer reads them in the order of the channel, and at any
time it may have read only the first of them.

`peer_follows_versions` says that every byte string on the channel can be read, and that the
versions a peer has last seen tell what it knows: where they are the same for the four types, it
knows the loaded config of that version, whatever it was sent before and in between.
-/

namespace OpenApiGateway
namespace Xds

open Lib.TransitionSystem Lib.WireFormat

/-! ## The last version of a type -/

/-- The version of the last response of a type. -/
def lastVersion (typeUrl : String) (responses : List DiscoveryResponse) : Option String :=
  (responses.filter fun response => response.typeUrl = typeUrl).getLast?.map
    DiscoveryResponse.versionInfo

section LastVersion
variable {typeUrl : String} {responses : List DiscoveryResponse} {response : DiscoveryResponse}

theorem lastVersion_concat_self (h : response.typeUrl = typeUrl) :
    lastVersion typeUrl (responses ++ [response]) = some response.versionInfo := by
  simp [lastVersion, List.filter_append, h]

theorem lastVersion_concat_of_ne (h : response.typeUrl ≠ typeUrl) :
    lastVersion typeUrl (responses ++ [response]) = lastVersion typeUrl responses := by
  simp [lastVersion, List.filter_append, h]

theorem exists_of_lastVersion {version : String}
    (h : lastVersion typeUrl responses = some version) :
    ∃ response ∈ responses, response.versionInfo = version := by
  obtain ⟨response, hlast, hversion⟩ := Option.map_eq_some_iff.mp h
  exact ⟨response, List.mem_of_mem_filter (List.mem_of_getLast? hlast), hversion⟩

end LastVersion

/-! ## Parts of what a peer knows -/

namespace PeerConfig
variable {peer view other : PeerConfig} {t u : String}

/-- The part of one type is as in `view`. -/
def AgreesOn (peer view : PeerConfig) (t : String) : Prop := peer.update view [t] = peer

theorem agreesOn_update_self : (peer.update view [t]).AgreesOn view t := by
  unfold AgreesOn
  rw [update_cons]
  simp [update]

/-- Another type leaves the part alone. -/
theorem AgreesOn.update (h : peer.AgreesOn view t) (hne : u ≠ t) :
    (peer.update other [u]).AgreesOn view t := by
  unfold AgreesOn at h ⊢
  have hcommute : (peer.update other [u]).update view [t] =
      (peer.update view [t]).update other [u] := by
    simp only [PeerConfig.update, List.mem_singleton, mk.injEq]
    refine ⟨?_, ?_, ?_, ?_⟩
    all_goals
      split
      · rename_i ht
        rw [if_neg (fun hu => hne (hu.symm.trans ht))]
      · rfl
  rw [hcommute, h]

theorem eq_of_agreesOn (h : ∀ t ∈ typeUrlsInOrder, peer.AgreesOn view t) : peer = view := by
  have hall : ∀ types : List String, (∀ t ∈ types, peer.AgreesOn view t) →
      peer.update view types = peer := by
    intro types htypes
    induction types with
    | nil => simp [PeerConfig.update]
    | cons t types ih =>
      have ht : peer.update view [t] = peer := htypes t List.mem_cons_self
      rw [← update_cons, ht]
      exact ih fun u hu => htypes u (List.mem_cons_of_mem _ hu)
  rw [← hall typeUrlsInOrder h]
  exact update_of_subset (List.Subset.refl _)

end PeerConfig

/-! ## Reading a channel -/

section Channel
variable {configs : List GatewayConfig} {view : ℕ → PeerConfig}

/-- Each response says, for its type, what the view of its version says. -/
def Tells (view : ℕ → PeerConfig) (response : DiscoveryResponse) : Prop :=
  ∃ n, response.versionInfo = toString (n + 1) ∧
    ∀ peer, receive peer (discoveryResponseCodec.encode response) =
      some (peer.update (view n) [response.typeUrl])

/-- By induction from the right: the last response of a type decides what is known of it. -/
theorem foldlM_receive_tells {responses : List DiscoveryResponse}
    (htells : ∀ response ∈ responses, Tells view response) (peer : PeerConfig) :
    ∃ known, (responses.map discoveryResponseCodec.encode).foldlM receive peer = some known ∧
      ∀ t n, lastVersion t responses = some (toString (n + 1)) → known.AgreesOn (view n) t := by
  induction responses using List.reverseRecOn with
  | nil => exact ⟨peer, rfl, by simp [lastVersion]⟩
  | append_singleton responses response ih =>
    obtain ⟨known, hknown, hagrees⟩ := ih fun r hr => htells r (List.mem_append_left _ hr)
    obtain ⟨m, hversion, hreceive⟩ := htells response (by simp)
    refine ⟨known.update (view m) [response.typeUrl], ?_, ?_⟩
    · rw [List.map_append, List.foldlM_append, hknown]
      show receive known _ >>= _ = _
      rw [hreceive known]
      rfl
    · intro t n hlast
      by_cases ht : response.typeUrl = t
      · rw [lastVersion_concat_self ht, hversion, Option.some.injEq] at hlast
        have hmn : m = n := by
          have hsucc := Lib.Text.toString_nat_injective hlast
          omega
        rw [ht, hmn]
        exact PeerConfig.agreesOn_update_self
      · rw [lastVersion_concat_of_ne ht] at hlast
        exact (hagrees t n hlast).update ht

/-- For every config there is one view that all responses of its version tell. -/
theorem exists_views (hsized : ∀ config ∈ configs, Sized config) :
    ∃ view : ℕ → PeerConfig, ∀ n config snapshot, configs[n]? = some config →
      XdsSnapshot.build wireEncode config (n + 1) = .ok snapshot →
      (view n).Describes config ∧
        ∀ typeUrl response, snapshot.responseFor typeUrl = some response →
          (discoveryResponseCodec.encode response).length < 2 ^ 64 → ∀ peer,
          receive peer (discoveryResponseCodec.encode response) =
            some (peer.update (view n) [typeUrl]) := by
  have heach : ∀ n, ∃ view : PeerConfig, ∀ config snapshot, configs[n]? = some config →
      XdsSnapshot.build wireEncode config (n + 1) = .ok snapshot →
      view.Describes config ∧
        ∀ typeUrl response, snapshot.responseFor typeUrl = some response →
          (discoveryResponseCodec.encode response).length < 2 ^ 64 → ∀ peer,
          receive peer (discoveryResponseCodec.encode response) =
            some (peer.update view [typeUrl]) := by
    intro n
    cases hconfig : configs[n]? with
    | none => exact ⟨{}, by simp⟩
    | some config =>
      cases hbuild : XdsSnapshot.build wireEncode config (n + 1) with
      | error e =>
        refine ⟨{}, fun config' snapshot h h' => ?_⟩
        rw [← Option.some.inj h, hbuild] at h'
        cases h'
      | ok snapshot =>
        obtain ⟨view, hview⟩ := view_of_build (hsized config (List.mem_of_getElem? hconfig)) hbuild
        refine ⟨view, fun config' snapshot' h h' => ?_⟩
        obtain rfl := Option.some.inj h
        obtain rfl := Except.ok.inj (hbuild.symm.trans h')
        exact hview
  choose view hview using heach
  exact ⟨view, hview⟩

end Channel

namespace XdsControlPlane

/-- What a peer makes of a part of a channel, from the history of the control plane. -/
theorem FromHistory.receive_channel {s : XdsControlPlane} {configs : List GatewayConfig}
    (hhistory : s.FromHistory wireEncode configs) (hsized : ∀ loaded ∈ configs, Sized loaded)
    {stream : StreamTask} (hstream : stream ∈ s.streams) {received : List DiscoveryResponse}
    (hreceived : received <+: stream.sent.map Sent.response)
    (hlength : ∀ response ∈ received, (discoveryResponseCodec.encode response).length < 2 ^ 64)
    (peer : PeerConfig) :
    ∃ known, (received.map discoveryResponseCodec.encode).foldlM receive peer = some known ∧
      ∀ n loaded, configs[n]? = some loaded →
        (∀ t ∈ typeUrlsInOrder, lastVersion t received = some (toString (n + 1))) →
        known.Describes loaded := by
  obtain ⟨view, hview⟩ := exists_views hsized
  have hgenuine : ∀ response ∈ received, Genuine wireEncode configs response := by
    intro response hresponse
    obtain ⟨entry, hentry, rfl⟩ := List.mem_map.mp (hreceived.subset hresponse)
    exact (hhistory.streams stream hstream).sent entry hentry
  have htells : ∀ response ∈ received, Tells view response := by
    intro response hresponse
    obtain ⟨snapshot, ⟨n, loaded, hloaded, hbuild⟩, hfor⟩ := hgenuine response hresponse
    refine ⟨n, ?_, (hview n loaded snapshot hloaded hbuild).2 _ response hfor
      (hlength response hresponse)⟩
    rw [XdsSnapshot.versionInfo_of_responseFor hfor, XdsSnapshot.version_of_build hbuild]
  obtain ⟨known, hknown, hagrees⟩ := foldlM_receive_tells htells peer
  refine ⟨known, hknown, fun n loaded hloaded hlast => ?_⟩
  have heq : known = view n := PeerConfig.eq_of_agreesOn fun t ht => hagrees t n (hlast t ht)
  -- a response of that version was built from the config at its position
  obtain ⟨response, hresponse, hversion⟩ := exists_of_lastVersion (hlast _ List.mem_cons_self)
  obtain ⟨snapshot, ⟨m, loaded', hloaded', hbuild⟩, hfor⟩ := hgenuine response hresponse
  rw [XdsSnapshot.versionInfo_of_responseFor hfor, XdsSnapshot.version_of_build hbuild] at hversion
  have hmn : m = n := by
    have hsucc := Lib.Text.toString_nat_injective hversion
    omega
  subst hmn
  obtain rfl := Option.some.inj (hloaded.symm.trans hloaded')
  rw [heq]
  exact (hview m loaded snapshot hloaded hbuild).1

/-- In every run of fewer than `2 ^ 64 - 1` rebuilds and with any interleaving, whatever a peer has
read of its channel could be read; and if the last responses of the four types have the version
of the `n`-th loaded config, then that config is what the peer knows. -/
theorem peer_follows_versions (config : GatewayConfig) (s₀ s : XdsControlPlane)
    (hnew : XdsControlPlane.new wireEncode config = .ok s₀) (actions : List XdsAction)
    (hrun : runAll (XdsControlPlane.step wireEncode) anyStep s₀ actions = some s)
    (hfew : (drawnConfigs actions).length + 1 < 2 ^ 64)
    (hsized : ∀ loaded ∈ config :: drawnConfigs actions, Sized loaded)
    (stream : StreamTask) (hstream : stream ∈ s.streams) (received : List DiscoveryResponse)
    (hreceived : received <+: stream.sent.map Sent.response)
    (hlength : ∀ response ∈ received, (discoveryResponseCodec.encode response).length < 2 ^ 64)
    (peer : PeerConfig) :
    ∃ known, (received.map discoveryResponseCodec.encode).foldlM receive peer = some known ∧
      ∀ n loaded, (config :: drawnConfigs actions)[n]? = some loaded →
        (∀ t ∈ typeUrlsInOrder, lastVersion t received = some (toString (n + 1))) →
        known.Describes loaded := by
  exact (fromHistory_runAll hnew hrun hfew).receive_channel hsized hstream hreceived hlength peer

/-- A stream whose first message asks for clusters and is answered from the first version, and to
which then the second version is broadcast. -/
def askingThenBroadcast : List XdsAction :=
  [.connect, .stream 0 (.receive { typeUrl := clusterTypeUrl }), .stream 0 .readSnapshot,
    .stream 0 .send, .draw calledOut, .rebuild 0 .build, .rebuild 0 .install,
    .rebuild 0 .broadcast, .rebuild 0 (.visit "unknown"), .rebuild 0 .deliver,
    .rebuild 0 .deliver, .rebuild 0 .deliver, .rebuild 0 .deliver]

/-- The control plane after these steps. -/
def afterBroadcast : Option XdsControlPlane :=
  (XdsControlPlane.new wireEncode (Validation.minimalConfig [])).toOption.bind fun s =>
    runAll (XdsControlPlane.step wireEncode) anyStep s askingThenBroadcast

/-- What was put into the channel of the stream. -/
def channelAfterBroadcast : List DiscoveryResponse :=
  ((afterBroadcast.bind fun s => s.streams.head?).map fun stream =>
    stream.sent.map Sent.response).getD []

theorem peer_follows_versions_askingThenBroadcast :
    channelAfterBroadcast.map DiscoveryResponse.versionInfo = ["1", "2", "2", "2", "2"] ∧
      ∃ known, (channelAfterBroadcast.map discoveryResponseCodec.encode).foldlM receive {} =
        some known ∧ known.Describes calledOut := by
  have hversions : channelAfterBroadcast.map DiscoveryResponse.versionInfo =
      ["1", "2", "2", "2", "2"] := by decide +kernel
  have hlast : ∀ t ∈ typeUrlsInOrder, lastVersion t channelAfterBroadcast = some (toString 2) := by
    decide +kernel
  have hshort : ∀ response ∈ channelAfterBroadcast,
      (discoveryResponseCodec.encode response).length < 2 ^ 64 := by decide +kernel
  have hsome : (afterBroadcast.bind fun s => s.streams.head?).isSome = true := by decide +kernel
  have hsized : ∀ loaded ∈ [Validation.minimalConfig [], calledOut], Sized loaded := by
    simp only [List.forall_mem_cons]
    exact ⟨by constructor <;> decide, sized_calledOut, by simp⟩
  refine ⟨hversions, ?_⟩
  -- the states of the run are those that were evaluated
  obtain ⟨stream, hstream⟩ := Option.isSome_iff_exists.mp hsome
  have hchannel : channelAfterBroadcast = stream.sent.map Sent.response := by
    rw [channelAfterBroadcast, hstream]
    rfl
  obtain ⟨s, hs, hhead⟩ := Option.bind_eq_some_iff.mp hstream
  obtain ⟨s₀, hs₀, hrun⟩ := Option.bind_eq_some_iff.mp hs
  have hnew : XdsControlPlane.new wireEncode (Validation.minimalConfig []) = .ok s₀ := by
    cases h : XdsControlPlane.new wireEncode (Validation.minimalConfig []) with
    | error e => simp [h, Except.toOption] at hs₀
    | ok s₁ =>
      rw [h] at hs₀
      exact congrArg Except.ok (Option.some.inj hs₀)
  obtain ⟨known, hknown, hdescribes⟩ := peer_follows_versions (Validation.minimalConfig []) s₀ s
    hnew askingThenBroadcast hrun (by decide) hsized stream (List.mem_of_mem_head? hhead)
    channelAfterBroadcast (hchannel ▸ List.prefix_rfl) hshort {}
  exact ⟨known, hknown, hdescribes 1 calledOut rfl hlast⟩

end XdsControlPlane

end Xds
end OpenApiGateway
