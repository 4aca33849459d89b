import OpenApiGateway.Xds.Wire

/-!
# Generation after validation

Three places of the source split a `host:port` text: validation with `rsplitn` and both generators
with `rfind`, one looking at the host first and one at the port. They accept the same texts and
read the same host and port from them (`Validation.IsEndpoint`). Since every address a generator
parses is one that validation has looked at, a validated config can always be generated from: the
static config (`generateEnvoyConfig_ok`) as well as a snapshot (`Xds.XdsSnapshot.build_ok`).
-/

namespace OpenApiGateway
namespace EnvoyGen

open Lib.Text Lib.Fallible

theorem parseEndpoint_eq_ok_iff {value : String} {endpoint : String × ℕ} :
    parseEndpoint value = .ok endpoint ↔ Validation.IsEndpoint value endpoint := by
  rw [Validation.isEndpoint_iff, parseEndpoint]
  cases rfind ':' value with
  | none => simp
  | some i =>
    simp only [Option.some.injEq, exists_eq_left']
    by_cases hhost : String.ofList (value.toList.take i) = ""
    · cases parseU16 (String.ofList (value.toList.drop (i + 1))) with
      | none => simp [hhost]
      | some port => simp [hhost]
    · cases parseU16 (String.ofList (value.toList.drop (i + 1))) with
      | none => simp [hhost]
      | some port => simp [hhost, Prod.ext_iff, and_comm]

theorem parseEndpoint_ok {value : String} (h : Validation.HostPort value) :
    ∃ endpoint, parseEndpoint value = .ok endpoint := by
  rcases Validation.hostPort_iff.mp h with ⟨endpoint, hendpoint⟩
  exact ⟨endpoint, parseEndpoint_eq_ok_iff.mpr hendpoint⟩

theorem buildClusters_ok {services : List ServiceConfig}
    (h : ∀ s ∈ services, Validation.ServiceAccepted s) :
    ∃ clusters, buildClusters services = .ok clusters := by
  refine mapM_ok fun service hservice => ?_
  have hendpoints := mapM_ok fun ep hep =>
    parseEndpoint_ok ((h service hservice).endpoints_hostPort ep hep)
  exact bind_ok hendpoints fun _ => ⟨_, rfl⟩

/-- With distinct route names the listener is built, and without a panic. -/
theorem buildListener_ok {cfg : GatewayConfig}
    (haddress : Validation.HostPort cfg.gateway.listenAddress)
    (hnodup : (cfg.routes.map RouteConfig.name).Nodup) :
    ∃ listener, buildListener cfg = .ok (some listener) := by
  obtain ⟨endpoint, hendpoint⟩ := parseEndpoint_ok haddress
  obtain ⟨vhosts, hvhosts, -⟩ := Routing.static_isStableGrouping hnodup
    fun r _ => Routing.staticMeaning_buildRouteEntry r
  have hbuild : buildVirtualHosts cfg.routes = some vhosts := hvhosts
  unfold buildListener
  rw [hendpoint, hbuild]
  exact ⟨_, rfl⟩

/-- The clusters beside those of the services: the one of the ext_authz address, if it is
given. -/
def OwnClusters (cfg : GatewayConfig) (own : List Cluster) : Prop :=
  (cfg.gateway.extauthzAddress = none ∧ own = []) ∨
    ∃ address endpoint, cfg.gateway.extauthzAddress = some address ∧
      parseEndpoint address = .ok endpoint ∧ own = [buildExtAuthzCluster endpoint]

/-- What is rendered for a config that passed validation. -/
theorem generateEnvoyConfig_spec {urlOk : String → Bool} {cfg : GatewayConfig}
    (h : Validation.Accepted urlOk cfg) :
    ∃ listener clusters own, buildListener cfg = .ok (some listener) ∧
      buildClusters cfg.services = .ok clusters ∧ OwnClusters cfg own ∧
      ∀ render, generateEnvoyConfig render cfg =
        (render ⟨[listener], clusters ++ own, ⟨"127.0.0.1", 9901⟩⟩).map some := by
  obtain ⟨listener, hlistener⟩ := buildListener_ok h.listenAddress h.routes_nodup
  obtain ⟨clusters, hclusters⟩ := buildClusters_ok h.services
  -- the ext_authz address is parsed only where it is given, and then it was validated
  cases haddress : cfg.gateway.extauthzAddress with
  | none =>
    refine ⟨listener, clusters, [], hlistener, hclusters, Or.inl ⟨haddress, rfl⟩, fun render => ?_⟩
    unfold generateEnvoyConfig
    rw [hlistener]
    simp only [bind, Except.bind, hclusters, haddress]
    cases render ⟨[listener], clusters ++ [], ⟨"127.0.0.1", 9901⟩⟩ <;> rfl
  | some address =>
    obtain ⟨endpoint, hendpoint⟩ := parseEndpoint_ok (h.extauthzAddress address haddress)
    refine ⟨listener, clusters, [buildExtAuthzCluster endpoint], hlistener, hclusters,
      Or.inr ⟨address, endpoint, haddress, hendpoint, rfl⟩, fun render => ?_⟩
    unfold generateEnvoyConfig
    rw [hlistener]
    simp only [bind, Except.bind, Except.map, hclusters, haddress, hendpoint]
    cases render ⟨[listener], clusters ++ [buildExtAuthzCluster endpoint],
      ⟨"127.0.0.1", 9901⟩⟩ <;> rfl

/-- For a config that passed validation, generating the static config never fails, as long as its
text can be written. -/
theorem generateEnvoyConfig_ok {urlOk : String → Bool} {cfg : GatewayConfig}
    {render : Bootstrap → Except EnvoyGenError String}
    (hrender : ∀ bootstrap, ∃ text, render bootstrap = .ok text)
    (h : Validation.Accepted urlOk cfg) :
    ∃ text, generateEnvoyConfig render cfg = .ok (some text) := by
  obtain ⟨listener, clusters, own, -, -, -, hgenerate⟩ := generateEnvoyConfig_spec h
  obtain ⟨text, htext⟩ := hrender ⟨[listener], clusters ++ own, ⟨"127.0.0.1", 9901⟩⟩
  refine ⟨text, ?_⟩
  rw [hgenerate, htext]
  rfl

end EnvoyGen

/-- The three splits of an address agree, and a validated config can be generated from, statically
and for xDS at any version. -/
theorem generation_total :
    (∀ value field : String,
      (Validation.validateHostPort value field = [] ↔
        ∃ endpoint, EnvoyGen.parseEndpoint value = .ok endpoint) ∧
      ∀ endpoint, EnvoyGen.parseEndpoint value = .ok endpoint ↔
        Xds.parseEndpoint value = .ok endpoint) ∧
    ∀ (urlOk : String → Bool) (cfg : GatewayConfig)
      (render : EnvoyGen.Bootstrap → Except EnvoyGen.EnvoyGenError String)
      (encode : Xds.Message → Except String (List UInt8)),
      (∀ bootstrap, ∃ text, render bootstrap = .ok text) →
      (∀ message, ∃ bytes, encode message = .ok bytes) →
      Validation.validate urlOk cfg = .ok () →
      (∃ text, EnvoyGen.generateEnvoyConfig render cfg = .ok (some text)) ∧
        ∀ version, ∃ snapshot, Xds.XdsSnapshot.build encode cfg version = .ok snapshot := by
  refine ⟨?_, ?_⟩
  · intro value field
    rw [Validation.validateHostPort_eq_nil, Validation.hostPort_iff]
    simp only [EnvoyGen.parseEndpoint_eq_ok_iff, Xds.parseEndpoint_eq_ok_iff, implies_true,
      and_self]
  · intro urlOk cfg render encode hrender hencode hvalid
    have haccepted := Validation.validate_ok_iff.mp hvalid
    exact ⟨EnvoyGen.generateEnvoyConfig_ok hrender haccepted,
      Xds.XdsSnapshot.build_ok hencode haccepted⟩

/-- A config with an ext_authz address, whose cluster only the static config holds. -/
def guarded : GatewayConfig :=
  let cfg := Validation.minimalConfig [Validation.minimalRoute "api" ["*"] "/"]
  { cfg with gateway := { cfg.gateway with extauthzAddress := some "127.0.0.1:9000" } }

/-- It is generated from both ways. What text the YAML library makes of the static config does not
matter here, as long as it makes one. -/
theorem generation_total_guarded :
    Validation.validate (fun _ => true) guarded = .ok () ∧
      (∃ text, EnvoyGen.generateEnvoyConfig (fun _ => .ok "") guarded = .ok (some text)) ∧
      ∃ snapshot, Xds.XdsSnapshot.build Xds.wireEncode guarded 1 = .ok snapshot := by
  have hvalid : Validation.validate (fun _ => true) guarded = .ok () := by decide
  obtain ⟨hstatic, hxds⟩ := generation_total.2 (fun _ => true) guarded (fun _ => .ok "")
    Xds.wireEncode (fun _ => ⟨"", rfl⟩) (fun _ => ⟨_, rfl⟩) hvalid
  exact ⟨hvalid, hstatic, hxds 1⟩

end OpenApiGateway
