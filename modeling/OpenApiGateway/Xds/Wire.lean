import OpenApiGateway.Lib.WireFormat
import OpenApiGateway.Routing.VirtualHosts
import OpenApiGateway.Xds.Protocol

/-!
# xDS resources on the wire

The encoding that `prost` derives for the messages of `proto/`: the field numbers are those of the
`.proto` files. A record of the model stands for a message and the messages it is nested in, such as
a socket address for an `Endpoint` with an `Address` with a `SocketAddress`, and its codec has them
all. The readers are for a peer that knows the same `.proto` files.

A packed message is read by the URL of its type (`readAny`), which is why the URL has to be that of
the message inside. `readAny_pack` says that then every message whose numbers fit their fields is
read back from its bytes.
-/

namespace OpenApiGateway
namespace Xds

open Lib.WireFormat

/-! ## Codecs of the messages -/

/-- A signed number, as the unsigned one with the same 64 bits. -/
def toU64 (z : ℤ) : ℕ := (z % 2 ^ 64).toNat

/-- `google.protobuf.Duration`; `nanos` is an `int32`. -/
def durationCodec : Codec Duration where
  fields d := numberField 1 (toU64 d.seconds) ++ numberField 2 (toU64 d.nanos)
  read fields :=
    some ⟨Int.bmod (readNumber 1 fields) (2 ^ 64), Int.bmod (readNumber 2 fields) (2 ^ 32)⟩

/-- `SocketAddress`; the port is a `uint32`. -/
def socketAddressCodec : Codec SocketAddress where
  fields a := textField 1 a.address ++ numberField 2 a.portValue
  read fields := do
    let address ← readText 1 fields
    return ⟨address, readNumber 2 fields % 2 ^ 32⟩

/-- `Address`. -/
def addressCodec : Codec SocketAddress := socketAddressCodec.wrapped

/-- `LbEndpoint`, with its `Endpoint`. -/
def lbEndpointCodec : Codec SocketAddress := addressCodec.wrapped.wrapped

/-- `ClusterLoadAssignment`, with one `LocalityLbEndpoints`. -/
def clusterLoadAssignmentCodec : Codec ClusterLoadAssignment where
  fields a :=
    textField 1 a.clusterName ++ lbEndpointCodec.listed.messageFields 2 [a.lbEndpoints]
  read fields := do
    let clusterName ← readText 1 fields
    match ← lbEndpointCodec.listed.readMessages 2 fields with
    | [lbEndpoints] => return ⟨clusterName, lbEndpoints⟩
    | _ => none

/-- `RetryPolicy`. -/
def retryPolicyCodec : Codec RetryPolicy where
  fields p := textField 1 p.retryOn ++ numberField 2 p.numRetries
  read fields := do
    let retryOn ← readText 1 fields
    return ⟨retryOn, readNumber 2 fields % 2 ^ 32⟩

/-- `RouteAction`: cluster, timeout and retry policy of a route. -/
def routeActionCodec : Codec (String × Duration × Option RetryPolicy) where
  fields action :=
    textField 1 action.1 ++ durationCodec.messageField 2 action.2.1 ++
      retryPolicyCodec.optionalField 3 action.2.2
  read fields := do
    let cluster ← readText 1 fields
    let timeout ← durationCodec.readMessage 2 fields
    let retryPolicy ← retryPolicyCodec.readOptional 3 fields
    return (cluster, timeout, retryPolicy)

/-- `Route`, with its `RouteMatch`. -/
def routeCodec : Codec Route where
  fields r :=
    Codec.text.messageField 1 r.pathPrefix ++
      routeActionCodec.messageField 2 (r.cluster, r.timeout, r.retryPolicy)
  read fields := do
    let pathPrefix ← Codec.text.readMessage 1 fields
    let (cluster, timeout, retryPolicy) ← routeActionCodec.readMessage 2 fields
    return ⟨pathPrefix, cluster, timeout, retryPolicy⟩

/-- `VirtualHost`, with its domains and entries. -/
def virtualHostCodec : Codec (Envoy.VirtualHost Route) where
  fields v :=
    textField 1 v.name ++ contentFields 2 (v.domains.map textBytes) ++
      routeCodec.messageFields 3 v.routes
  read fields := do
    let name ← readText 1 fields
    let domains ← readTexts 2 fields
    let routes ← routeCodec.readMessages 3 fields
    return ⟨name, domains, routes⟩

/-- `RouteConfiguration`. -/
def routeConfigurationCodec : Codec RouteConfiguration where
  fields c := textField 1 c.name ++ virtualHostCodec.messageFields 2 c.virtualHosts
  read fields := do
    let name ← readText 1 fields
    let virtualHosts ← virtualHostCodec.readMessages 2 fields
    return ⟨name, virtualHosts⟩

/-- `HealthCheck`, with its two thresholds. -/
def healthCheckCodec : Codec HealthCheck where
  fields h :=
    durationCodec.messageField 1 h.timeout ++ durationCodec.messageField 2 h.interval ++
      textField 3 h.path ++ numberField 4 h.unhealthyThreshold ++ numberField 5 h.healthyThreshold
  read fields := do
    let timeout ← durationCodec.readMessage 1 fields
    let interval ← durationCodec.readMessage 2 fields
    let path ← readText 3 fields
    return ⟨timeout, interval, path, readNumber 4 fields % 2 ^ 32, readNumber 5 fields % 2 ^ 32⟩

/-- `Cluster`, with its endpoints inside. -/
def clusterCodec : Codec Cluster where
  fields c :=
    textField 1 c.name ++ textField 2 c.type ++ textField 3 c.lbPolicy ++
      durationCodec.messageField 4 c.connectTimeout ++
      clusterLoadAssignmentCodec.messageField 5 c.loadAssignment ++
      healthCheckCodec.messageFields 6 c.healthChecks
  read fields := do
    let name ← readText 1 fields
    let type ← readText 2 fields
    let lbPolicy ← readText 3 fields
    let connectTimeout ← durationCodec.readMessage 4 fields
    let loadAssignment ← clusterLoadAssignmentCodec.readMessage 5 fields
    let healthChecks ← healthCheckCodec.readMessages 6 fields
    return ⟨name, type, lbPolicy, connectTimeout, loadAssignment, healthChecks⟩

/-- `google.protobuf.Any`. -/
def anyCodec : Codec Any where
  fields a := textField 1 a.typeUrl ++ bytesField 2 a.value
  read fields := do
    let typeUrl ← readText 1 fields
    return ⟨typeUrl, readBytes 2 fields⟩

/-- `Filter` and `HttpFilter`. -/
def filterCodec : Codec Filter where
  fields f := textField 1 f.name ++ anyCodec.messageField 2 f.typedConfig
  read fields := do
    let name ← readText 1 fields
    let typedConfig ← anyCodec.readMessage 2 fields
    return ⟨name, typedConfig⟩

/-- `Rds`: the name of the route configuration and where it comes from. -/
def rdsCodec : Codec (String × String) where
  fields rds := textField 1 rds.1 ++ textField 2 rds.2
  read fields := do
    let routeConfigName ← readText 1 fields
    let configSource ← readText 2 fields
    return (routeConfigName, configSource)

/-- `HttpConnectionManager`, with its `HttpProtocolOptions`. -/
def httpConnectionManagerCodec : Codec HttpConnectionManager where
  fields m :=
    textField 1 m.statPrefix ++ numberField 2 m.generateRequestId.toNat ++
      durationCodec.wrapped.messageField 3 m.idleTimeout ++
      rdsCodec.messageField 4 (m.routeConfigName, m.configSource) ++
      filterCodec.messageFields 5 m.httpFilters
  read fields := do
    let statPrefix ← readText 1 fields
    let idleTimeout ← durationCodec.wrapped.readMessage 3 fields
    let (routeConfigName, configSource) ← rdsCodec.readMessage 4 fields
    let httpFilters ← filterCodec.readMessages 5 fields
    return ⟨statPrefix, readNumber 2 fields != 0, idleTimeout, routeConfigName, configSource,
      httpFilters⟩

/-- `Listener`, with one `FilterChain`. -/
def listenerCodec : Codec Listener where
  fields l :=
    textField 1 l.name ++ addressCodec.messageField 2 l.address ++
      filterCodec.listed.messageFields 3 [l.filters]
  read fields := do
    let name ← readText 1 fields
    let address ← addressCodec.readMessage 2 fields
    match ← filterCodec.listed.readMessages 3 fields with
    | [filters] => return ⟨name, address, filters⟩
    | _ => none

/-! ## The laws -/

/-- What an `int64` and an `int32` can hold. -/
structure Duration.InRange (d : Duration) : Prop where
  seconds : -2 ^ 63 ≤ d.seconds ∧ d.seconds < 2 ^ 63
  nanos : -2 ^ 31 ≤ d.nanos ∧ d.nanos < 2 ^ 31

theorem toU64_lt (z : ℤ) : toU64 z < 2 ^ 64 := by
  have hnonneg := Int.emod_nonneg z (b := 2 ^ 64) (by norm_num)
  have hlt := Int.emod_lt_of_pos z (b := 2 ^ 64) (by norm_num)
  unfold toU64
  omega

/-- Reading the low bits of the unsigned number is reading those of the signed one. -/
theorem bmod_toU64 (z : ℤ) {n : ℕ} (hn : (n : ℤ) ∣ 2 ^ 64) :
    Int.bmod (toU64 z) n = Int.bmod z n := by
  have hnonneg := Int.emod_nonneg z (b := 2 ^ 64) (by norm_num)
  have hcast : ((toU64 z : ℕ) : ℤ) = z % 2 ^ 64 := Int.toNat_of_nonneg hnonneg
  rw [hcast, Int.bmod_def, Int.bmod_def, Int.emod_emod_of_dvd z hn]

/-- A duration round-trips if its parts fit their fields; negative ones are written as `u64`. -/
theorem lawful_duration {d : Duration} (h : d.InRange) : durationCodec.Lawful d where
  small := by
    refine List.forall_mem_append.mpr ⟨?_, ?_⟩
    · exact small_numberField (by omega) (toU64_lt _)
    · exact small_numberField (by omega) (toU64_lt _)
  read _ := by
    have hseconds : readNumber 1 (durationCodec.fields d) = toU64 d.seconds :=
      readNumber_numberField (by simp [durationCodec])
    have hnanos : readNumber 2 (durationCodec.fields d) = toU64 d.nanos :=
      readNumber_numberField (by simp [durationCodec])
    have hs : Int.bmod (toU64 d.seconds) (2 ^ 64) = d.seconds := by
      rw [bmod_toU64 _ (by norm_num)]
      obtain ⟨hlow, hhigh⟩ := h.seconds
      exact Int.bmod_eq_of_le (by norm_num; omega) (by norm_num; omega)
    have hn : Int.bmod (toU64 d.nanos) (2 ^ 32) = d.nanos := by
      rw [bmod_toU64 _ (by norm_num)]
      obtain ⟨hlow, hhigh⟩ := h.nanos
      exact Int.bmod_eq_of_le (by norm_num; omega) (by norm_num; omega)
    show some _ = some d
    rw [hseconds, hnanos, hs, hn]

theorem lawful_socketAddress {a : SocketAddress} (h : a.portValue < 2 ^ 32) :
    socketAddressCodec.Lawful a where
  small := by
    refine List.forall_mem_append.mpr ⟨small_textField (by omega) _, ?_⟩
    exact small_numberField (by omega) (by omega)
  read _ := by
    have haddress : readText 1 (socketAddressCodec.fields a) = some a.address :=
      readText_textField (by simp [socketAddressCodec])
    have hport : readNumber 2 (socketAddressCodec.fields a) = a.portValue :=
      readNumber_numberField (by simp [socketAddressCodec])
    refine bind_eq_some haddress ?_
    rw [hport, Nat.mod_eq_of_lt h]
    rfl

theorem lawful_address {a : SocketAddress} (h : a.portValue < 2 ^ 32) : addressCodec.Lawful a :=
  (lawful_socketAddress h).wrapped

/-- Endpoints round-trip if their ports fit. -/
theorem lawful_clusterLoadAssignment {a : ClusterLoadAssignment}
    (h : ∀ endpoint ∈ a.lbEndpoints, endpoint.portValue < 2 ^ 32) :
    clusterLoadAssignmentCodec.Lawful a where
  small := by
    refine List.forall_mem_append.mpr ⟨small_textField (by omega) _, ?_⟩
    exact small_contentFields (by omega) _
  read hlength := by
    have hname : readText 1 (clusterLoadAssignmentCodec.fields a) = some a.clusterName :=
      readText_textField (by simp [clusterLoadAssignmentCodec])
    have hlist : lbEndpointCodec.listed.Lawful a.lbEndpoints :=
      Codec.Lawful.listed fun endpoint hendpoint =>
        (lawful_address (h endpoint hendpoint)).wrapped.wrapped
    have hgroups : lbEndpointCodec.listed.readMessages 2 (clusterLoadAssignmentCodec.fields a) =
        some [a.lbEndpoints] :=
      Codec.readMessages_messageFields hlength (by simpa using hlist)
        (by simp [clusterLoadAssignmentCodec])
    exact bind_eq_some hname (bind_eq_some hgroups rfl)

theorem lawful_retryPolicy {p : RetryPolicy} (h : p.numRetries < 2 ^ 32) :
    retryPolicyCodec.Lawful p where
  small := by
    refine List.forall_mem_append.mpr ⟨small_textField (by omega) _, ?_⟩
    exact small_numberField (by omega) (by omega)
  read _ := by
    have hretryOn : readText 1 (retryPolicyCodec.fields p) = some p.retryOn :=
      readText_textField (by simp [retryPolicyCodec])
    have hretries : readNumber 2 (retryPolicyCodec.fields p) = p.numRetries :=
      readNumber_numberField (by simp [retryPolicyCodec])
    refine bind_eq_some hretryOn ?_
    rw [hretries, Nat.mod_eq_of_lt h]
    rfl

/-- The numbers of a route fit their fields. -/
structure Route.InRange (r : Route) : Prop where
  timeout : r.timeout.InRange
  retryPolicy : ∀ p ∈ r.retryPolicy, p.numRetries < 2 ^ 32

theorem lawful_routeAction {r : Route} (h : r.InRange) :
    routeActionCodec.Lawful (r.cluster, r.timeout, r.retryPolicy) where
  small := by
    refine List.forall_mem_append.mpr ⟨List.forall_mem_append.mpr ⟨?_, ?_⟩, ?_⟩
    · exact small_textField (by omega) _
    · exact small_contentFields (by omega) _
    · exact small_contentFields (by omega) _
  read hlength := by
    have hcluster : readText 1 (routeActionCodec.fields (r.cluster, r.timeout, r.retryPolicy)) =
        some r.cluster :=
      readText_textField (by simp [routeActionCodec])
    have htimeout : durationCodec.readMessage 2
        (routeActionCodec.fields (r.cluster, r.timeout, r.retryPolicy)) = some r.timeout :=
      Codec.readMessage_messageField hlength (lawful_duration h.timeout)
        (by simp [routeActionCodec])
    have hretry : retryPolicyCodec.readOptional 3
        (routeActionCodec.fields (r.cluster, r.timeout, r.retryPolicy)) = some r.retryPolicy :=
      Codec.readOptional_optionalField hlength
        (fun p hp => lawful_retryPolicy (h.retryPolicy p hp)) (by simp [routeActionCodec])
    exact bind_eq_some hcluster (bind_eq_some htimeout (bind_eq_some hretry rfl))

/-- An entry round-trips if its timeout and its number of retries fit. -/
theorem lawful_route {r : Route} (h : r.InRange) : routeCodec.Lawful r where
  small := by
    refine List.forall_mem_append.mpr ⟨?_, ?_⟩
    · exact small_contentFields (by omega) _
    · exact small_contentFields (by omega) _
  read hlength := by
    have hmatch : Codec.text.readMessage 1 (routeCodec.fields r) = some r.pathPrefix :=
      Codec.readMessage_messageField hlength (.text _) (by simp [routeCodec])
    have haction : routeActionCodec.readMessage 2 (routeCodec.fields r) =
        some (r.cluster, r.timeout, r.retryPolicy) :=
      Codec.readMessage_messageField hlength (lawful_routeAction h) (by simp [routeCodec])
    exact bind_eq_some hmatch (bind_eq_some haction rfl)

theorem lawful_virtualHost {v : Envoy.VirtualHost Route} (h : ∀ r ∈ v.routes, r.InRange) :
    virtualHostCodec.Lawful v where
  small := by
    refine List.forall_mem_append.mpr ⟨List.forall_mem_append.mpr ⟨?_, ?_⟩, ?_⟩
    · exact small_textField (by omega) _
    · exact small_contentFields (by omega) _
    · exact small_contentFields (by omega) _
  read hlength := by
    have hname : readText 1 (virtualHostCodec.fields v) = some v.name :=
      readText_textField (by simp [virtualHostCodec])
    have hdomains : readTexts 2 (virtualHostCodec.fields v) = some v.domains :=
      readTexts_contentFields (by simp [virtualHostCodec])
    have hroutes : routeCodec.readMessages 3 (virtualHostCodec.fields v) = some v.routes :=
      Codec.readMessages_messageFields hlength (fun r hr => lawful_route (h r hr))
        (by simp [virtualHostCodec])
    exact bind_eq_some hname (bind_eq_some hdomains (bind_eq_some hroutes rfl))

theorem lawful_routeConfiguration {c : RouteConfiguration}
    (h : ∀ v ∈ c.virtualHosts, ∀ r ∈ v.routes, r.InRange) : routeConfigurationCodec.Lawful c where
  small := by
    refine List.forall_mem_append.mpr ⟨small_textField (by omega) _, ?_⟩
    exact small_contentFields (by omega) _
  read hlength := by
    have hname : readText 1 (routeConfigurationCodec.fields c) = some c.name :=
      readText_textField (by simp [routeConfigurationCodec])
    have hhosts : virtualHostCodec.readMessages 2 (routeConfigurationCodec.fields c) =
        some c.virtualHosts :=
      Codec.readMessages_messageFields hlength (fun v hv => lawful_virtualHost (h v hv))
        (by simp [routeConfigurationCodec])
    exact bind_eq_some hname (bind_eq_some hhosts rfl)

/-- The numbers of a health check fit their fields. -/
structure HealthCheck.InRange (h : HealthCheck) : Prop where
  timeout : h.timeout.InRange
  interval : h.interval.InRange
  unhealthyThreshold : h.unhealthyThreshold < 2 ^ 32
  healthyThreshold : h.healthyThreshold < 2 ^ 32

theorem lawful_healthCheck {c : HealthCheck} (h : c.InRange) : healthCheckCodec.Lawful c where
  small := by
    have hunhealthy := h.unhealthyThreshold
    have hhealthy := h.healthyThreshold
    refine List.forall_mem_append.mpr ⟨List.forall_mem_append.mpr ⟨List.forall_mem_append.mpr
      ⟨List.forall_mem_append.mpr ⟨?_, ?_⟩, ?_⟩, ?_⟩, ?_⟩
    · exact small_contentFields (by omega) _
    · exact small_contentFields (by omega) _
    · exact small_textField (by omega) _
    · exact small_numberField (by omega) (by omega)
    · exact small_numberField (by omega) (by omega)
  read hlength := by
    have htimeout : durationCodec.readMessage 1 (healthCheckCodec.fields c) = some c.timeout :=
      Codec.readMessage_messageField hlength (lawful_duration h.timeout)
        (by simp [healthCheckCodec])
    have hinterval : durationCodec.readMessage 2 (healthCheckCodec.fields c) = some c.interval :=
      Codec.readMessage_messageField hlength (lawful_duration h.interval)
        (by simp [healthCheckCodec])
    have hpath : readText 3 (healthCheckCodec.fields c) = some c.path :=
      readText_textField (by simp [healthCheckCodec])
    have hunhealthy : readNumber 4 (healthCheckCodec.fields c) = c.unhealthyThreshold :=
      readNumber_numberField (by simp [healthCheckCodec])
    have hhealthy : readNumber 5 (healthCheckCodec.fields c) = c.healthyThreshold :=
      readNumber_numberField (by simp [healthCheckCodec])
    refine bind_eq_some htimeout (bind_eq_some hinterval (bind_eq_some hpath ?_))
    rw [hunhealthy, hhealthy, Nat.mod_eq_of_lt h.unhealthyThreshold,
      Nat.mod_eq_of_lt h.healthyThreshold]
    rfl

/-- The numbers of a cluster fit their fields. -/
structure Cluster.InRange (c : Cluster) : Prop where
  connectTimeout : c.connectTimeout.InRange
  endpoints : ∀ endpoint ∈ c.loadAssignment.lbEndpoints, endpoint.portValue < 2 ^ 32
  healthChecks : ∀ check ∈ c.healthChecks, check.InRange

theorem lawful_cluster {c : Cluster} (h : c.InRange) : clusterCodec.Lawful c where
  small := by
    refine List.forall_mem_append.mpr ⟨List.forall_mem_append.mpr ⟨List.forall_mem_append.mpr
      ⟨List.forall_mem_append.mpr ⟨List.forall_mem_append.mpr ⟨?_, ?_⟩, ?_⟩, ?_⟩, ?_⟩, ?_⟩
    · exact small_textField (by omega) _
    · exact small_textField (by omega) _
    · exact small_textField (by omega) _
    · exact small_contentFields (by omega) _
    · exact small_contentFields (by omega) _
    · exact small_contentFields (by omega) _
  read hlength := by
    have hname : readText 1 (clusterCodec.fields c) = some c.name :=
      readText_textField (by simp [clusterCodec])
    have htype : readText 2 (clusterCodec.fields c) = some c.type :=
      readText_textField (by simp [clusterCodec])
    have hpolicy : readText 3 (clusterCodec.fields c) = some c.lbPolicy :=
      readText_textField (by simp [clusterCodec])
    have htimeout : durationCodec.readMessage 4 (clusterCodec.fields c) = some c.connectTimeout :=
      Codec.readMessage_messageField hlength (lawful_duration h.connectTimeout)
        (by simp [clusterCodec])
    have hassignment : clusterLoadAssignmentCodec.readMessage 5 (clusterCodec.fields c) =
        some c.loadAssignment :=
      Codec.readMessage_messageField hlength (lawful_clusterLoadAssignment h.endpoints)
        (by simp [clusterCodec])
    have hchecks : healthCheckCodec.readMessages 6 (clusterCodec.fields c) = some c.healthChecks :=
      Codec.readMessages_messageFields hlength
        (fun check hcheck => lawful_healthCheck (h.healthChecks check hcheck))
        (by simp [clusterCodec])
    exact bind_eq_some hname (bind_eq_some htype (bind_eq_some hpolicy (bind_eq_some htimeout
      (bind_eq_some hassignment (bind_eq_some hchecks rfl)))))

/-- A packed message is bytes, which always round-trip. -/
theorem lawful_any (a : Any) : anyCodec.Lawful a where
  small := by
    refine List.forall_mem_append.mpr ⟨small_textField (by omega) _, ?_⟩
    exact small_bytesField (by omega) _
  read _ := by
    have htype : readText 1 (anyCodec.fields a) = some a.typeUrl :=
      readText_textField (by simp [anyCodec])
    have hvalue : readBytes 2 (anyCodec.fields a) = a.value :=
      readBytes_bytesField (by simp [anyCodec])
    refine bind_eq_some htype ?_
    rw [hvalue]
    rfl

theorem lawful_filter (f : Filter) : filterCodec.Lawful f where
  small := by
    refine List.forall_mem_append.mpr ⟨small_textField (by omega) _, ?_⟩
    exact small_contentFields (by omega) _
  read hlength := by
    have hname : readText 1 (filterCodec.fields f) = some f.name :=
      readText_textField (by simp [filterCodec])
    have hconfig : anyCodec.readMessage 2 (filterCodec.fields f) = some f.typedConfig :=
      Codec.readMessage_messageField hlength (lawful_any _) (by simp [filterCodec])
    exact bind_eq_some hname (bind_eq_some hconfig rfl)

theorem lawful_rds (rds : String × String) : rdsCodec.Lawful rds where
  small := by
    refine List.forall_mem_append.mpr ⟨small_textField (by omega) _, ?_⟩
    exact small_textField (by omega) _
  read _ := by
    have hname : readText 1 (rdsCodec.fields rds) = some rds.1 :=
      readText_textField (by simp [rdsCodec])
    have hsource : readText 2 (rdsCodec.fields rds) = some rds.2 :=
      readText_textField (by simp [rdsCodec])
    exact bind_eq_some hname (bind_eq_some hsource rfl)

theorem lawful_httpConnectionManager {m : HttpConnectionManager} (h : m.idleTimeout.InRange) :
    httpConnectionManagerCodec.Lawful m where
  small := by
    have hbool : m.generateRequestId.toNat < 2 ^ 64 := by cases m.generateRequestId <;> decide
    refine List.forall_mem_append.mpr ⟨List.forall_mem_append.mpr ⟨List.forall_mem_append.mpr
      ⟨List.forall_mem_append.mpr ⟨?_, ?_⟩, ?_⟩, ?_⟩, ?_⟩
    · exact small_textField (by omega) _
    · exact small_numberField (by omega) hbool
    · exact small_contentFields (by omega) _
    · exact small_contentFields (by omega) _
    · exact small_contentFields (by omega) _
  read hlength := by
    have hstat : readText 1 (httpConnectionManagerCodec.fields m) = some m.statPrefix :=
      readText_textField (by simp [httpConnectionManagerCodec])
    have hgenerate : readNumber 2 (httpConnectionManagerCodec.fields m) =
        m.generateRequestId.toNat :=
      readNumber_numberField (by simp [httpConnectionManagerCodec])
    have hidle : durationCodec.wrapped.readMessage 3 (httpConnectionManagerCodec.fields m) =
        some m.idleTimeout :=
      Codec.readMessage_messageField hlength (lawful_duration h).wrapped
        (by simp [httpConnectionManagerCodec])
    have hrds : rdsCodec.readMessage 4 (httpConnectionManagerCodec.fields m) =
        some (m.routeConfigName, m.configSource) :=
      Codec.readMessage_messageField hlength (lawful_rds _) (by simp [httpConnectionManagerCodec])
    have hfilters : filterCodec.readMessages 5 (httpConnectionManagerCodec.fields m) =
        some m.httpFilters :=
      Codec.readMessages_messageFields hlength (fun f _ => lawful_filter f)
        (by simp [httpConnectionManagerCodec])
    refine bind_eq_some hstat (bind_eq_some hidle (bind_eq_some hrds (bind_eq_some hfilters ?_)))
    rw [hgenerate]
    cases hflag : m.generateRequestId <;> simp [← hflag]

theorem lawful_listener {l : Listener} (h : l.address.portValue < 2 ^ 32) :
    listenerCodec.Lawful l where
  small := by
    refine List.forall_mem_append.mpr ⟨List.forall_mem_append.mpr ⟨?_, ?_⟩, ?_⟩
    · exact small_textField (by omega) _
    · exact small_contentFields (by omega) _
    · exact small_contentFields (by omega) _
  read hlength := by
    have hname : readText 1 (listenerCodec.fields l) = some l.name :=
      readText_textField (by simp [listenerCodec])
    have haddress : addressCodec.readMessage 2 (listenerCodec.fields l) = some l.address :=
      Codec.readMessage_messageField hlength (lawful_address h) (by simp [listenerCodec])
    have hlist : filterCodec.listed.Lawful l.filters :=
      Codec.Lawful.listed fun f _ => lawful_filter f
    have hchains : filterCodec.listed.readMessages 3 (listenerCodec.fields l) = some [l.filters] :=
      Codec.readMessages_messageFields hlength (by simpa using hlist) (by simp [listenerCodec])
    exact bind_eq_some hname (bind_eq_some haddress (bind_eq_some hchains rfl))

/-! ## Packed messages and responses -/

/-- The bytes of a message. Writing to a vector does not fail. -/
def encodeMessage : Message → List UInt8
  | .httpConnectionManager m => httpConnectionManagerCodec.encode m
  | .listener m => listenerCodec.encode m
  | .routeConfiguration m => routeConfigurationCodec.encode m
  | .cluster m => clusterCodec.encode m
  | .clusterLoadAssignment m => clusterLoadAssignmentCodec.encode m
  | .extAuthz grpcService => Codec.text.encode grpcService
  | .extProc grpcService => Codec.text.encode grpcService
  | .router => Codec.empty.encode ()

/-- The encoding of `prost`, which does not fail on a vector. -/
def wireEncode (m : Message) : Except String (List UInt8) := .ok (encodeMessage m)

/-- The URL under which a message is packed. -/
def Message.typeUrl : Message → String
  | .httpConnectionManager _ => httpConnectionManagerTypeUrl
  | .listener _ => listenerTypeUrl
  | .routeConfiguration _ => routeTypeUrl
  | .cluster _ => clusterTypeUrl
  | .clusterLoadAssignment _ => endpointTypeUrl
  | .extAuthz _ => extAuthzTypeUrl
  | .extProc _ => extProcTypeUrl
  | .router => routerTypeUrl

/-- What a peer reads from a packed message: the URL says what to read it as. -/
def readAny (any : Any) : Option Message :=
  if any.typeUrl = clusterTypeUrl then (clusterCodec.decode any.value).map .cluster
  else if any.typeUrl = endpointTypeUrl then
    (clusterLoadAssignmentCodec.decode any.value).map .clusterLoadAssignment
  else if any.typeUrl = listenerTypeUrl then (listenerCodec.decode any.value).map .listener
  else if any.typeUrl = routeTypeUrl then
    (routeConfigurationCodec.decode any.value).map .routeConfiguration
  else if any.typeUrl = httpConnectionManagerTypeUrl then
    (httpConnectionManagerCodec.decode any.value).map .httpConnectionManager
  else if any.typeUrl = extAuthzTypeUrl then (Codec.text.decode any.value).map .extAuthz
  else if any.typeUrl = extProcTypeUrl then (Codec.text.decode any.value).map .extProc
  else if any.typeUrl = routerTypeUrl then
    (Codec.empty.decode any.value).map fun _ => .router
  else none

/-- The numbers of a message fit their fields. -/
def Message.InRange : Message → Prop
  | .httpConnectionManager m => m.idleTimeout.InRange
  | .listener m => m.address.portValue < 2 ^ 32
  | .routeConfiguration m => ∀ v ∈ m.virtualHosts, ∀ r ∈ v.routes, r.InRange
  | .cluster m => m.InRange
  | .clusterLoadAssignment m => ∀ endpoint ∈ m.lbEndpoints, endpoint.portValue < 2 ^ 32
  | .extAuthz _ | .extProc _ | .router => True

/-- A URL belongs to one type. -/
theorem nodup_typeUrls : [routerTypeUrl, extProcTypeUrl, extAuthzTypeUrl,
    httpConnectionManagerTypeUrl, routeTypeUrl, listenerTypeUrl, endpointTypeUrl,
    clusterTypeUrl].Nodup := by
  decide +kernel

/-- A packed message is read as what it is. -/
theorem readAny_pack {m : Message} (h : m.InRange) (hlength : (encodeMessage m).length < 2 ^ 64) :
    readAny ⟨m.typeUrl, encodeMessage m⟩ = some m := by
  -- the URL of the message is none of those that are asked for before
  have hne := nodup_typeUrls
  simp only [List.nodup_cons, List.mem_cons, not_or] at hne
  cases m with
  | httpConnectionManager m =>
    have hread := (lawful_httpConnectionManager h).decode_encode hlength
    simp [readAny, Message.typeUrl, encodeMessage, hne, hread]
  | listener m =>
    have hread := (lawful_listener h).decode_encode hlength
    simp [readAny, Message.typeUrl, encodeMessage, hne, hread]
  | routeConfiguration m =>
    have hread := (lawful_routeConfiguration h).decode_encode hlength
    simp [readAny, Message.typeUrl, encodeMessage, hne, hread]
  | cluster m =>
    have hread := (lawful_cluster h).decode_encode hlength
    simp [readAny, Message.typeUrl, encodeMessage, hread]
  | clusterLoadAssignment m =>
    have hread := (lawful_clusterLoadAssignment h).decode_encode hlength
    simp [readAny, Message.typeUrl, encodeMessage, hne, hread]
  | extAuthz grpcService =>
    have hread := (Codec.Lawful.text grpcService).decode_encode hlength
    simp [readAny, Message.typeUrl, encodeMessage, hne, hread]
  | extProc grpcService =>
    have hread := (Codec.Lawful.text grpcService).decode_encode hlength
    simp [readAny, Message.typeUrl, encodeMessage, hne, hread]
  | router =>
    have hread := Codec.Lawful.empty.decode_encode hlength
    simp [readAny, Message.typeUrl, encodeMessage, hne, hread]

/-- `DiscoveryResponse`. -/
def discoveryResponseCodec : Codec DiscoveryResponse where
  fields r :=
    textField 1 r.versionInfo ++ anyCodec.messageFields 2 r.resources ++ textField 3 r.typeUrl ++
      textField 4 r.nonce
  read fields := do
    let versionInfo ← readText 1 fields
    let resources ← anyCodec.readMessages 2 fields
    let typeUrl ← readText 3 fields
    let nonce ← readText 4 fields
    return ⟨versionInfo, resources, typeUrl, nonce⟩

/-- A response round-trips, whatever is packed in it. -/
theorem lawful_discoveryResponse (r : DiscoveryResponse) : discoveryResponseCodec.Lawful r where
  small := by
    refine List.forall_mem_append.mpr ⟨List.forall_mem_append.mpr ⟨List.forall_mem_append.mpr
      ⟨?_, ?_⟩, ?_⟩, ?_⟩
    · exact small_textField (by omega) _
    · exact small_contentFields (by omega) _
    · exact small_textField (by omega) _
    · exact small_textField (by omega) _
  read hlength := by
    have hversion : readText 1 (discoveryResponseCodec.fields r) = some r.versionInfo :=
      readText_textField (by simp [discoveryResponseCodec])
    have hresources : anyCodec.readMessages 2 (discoveryResponseCodec.fields r) =
        some r.resources :=
      Codec.readMessages_messageFields hlength (fun a _ => lawful_any a)
        (by simp [discoveryResponseCodec])
    have htype : readText 3 (discoveryResponseCodec.fields r) = some r.typeUrl :=
      readText_textField (by simp [discoveryResponseCodec])
    have hnonce : readText 4 (discoveryResponseCodec.fields r) = some r.nonce :=
      readText_textField (by simp [discoveryResponseCodec])
    exact bind_eq_some hversion (bind_eq_some hresources (bind_eq_some htype
      (bind_eq_some hnonce rfl)))

/-! ## What is packed is not longer than what it is packed in -/

theorem length_value_le (any : Any) : any.value.length ≤ (anyCodec.encode any).length := by
  by_cases hempty : any.value = []
  · simp [hempty]
  · exact length_le_of_mem_contentsAt (k := 2) (by simp [anyCodec, hempty])

theorem length_typedConfig_le (f : Filter) :
    f.typedConfig.value.length ≤ (filterCodec.encode f).length := by
  refine (length_value_le _).trans ?_
  exact length_le_of_mem_contentsAt (k := 2) (by simp [filterCodec])

/-- Of a listener. -/
theorem length_filter_le {l : Listener} {f : Filter} (h : f ∈ l.filters) :
    f.typedConfig.value.length ≤ (listenerCodec.encode l).length := by
  have hfilter : (filterCodec.encode f).length ≤ (filterCodec.listed.encode l.filters).length :=
    length_le_of_mem_contentsAt (k := 1) (by simpa [Codec.listed] using ⟨f, h, rfl⟩)
  have hchain : (filterCodec.listed.encode l.filters).length ≤ (listenerCodec.encode l).length :=
    length_le_of_mem_contentsAt (k := 3) (by simp [listenerCodec])
  exact (length_typedConfig_le f).trans (hfilter.trans hchain)

/-- Of the HTTP connection manager. -/
theorem length_httpFilter_le {m : HttpConnectionManager} {f : Filter} (h : f ∈ m.httpFilters) :
    f.typedConfig.value.length ≤ (httpConnectionManagerCodec.encode m).length := by
  refine (length_typedConfig_le f).trans ?_
  exact length_le_of_mem_contentsAt (k := 5)
    (by simpa [httpConnectionManagerCodec] using ⟨f, h, rfl⟩)

/-- What is packed is shorter than the response around it. -/
theorem length_resource_le {r : DiscoveryResponse} {any : Any} (h : any ∈ r.resources) :
    any.value.length ≤ (discoveryResponseCodec.encode r).length := by
  refine (length_value_le any).trans ?_
  exact length_le_of_mem_contentsAt (k := 2)
    (by simpa [discoveryResponseCodec] using ⟨any, h, rfl⟩)

/-! ## A small snapshot -/

/-- The resources of a config without routes, with the one service of `minimalConfig`. -/
def minimalResources : AList fun _ : String => List Any :=
  ((XdsSnapshot.build wireEncode (Validation.minimalConfig []) 1).toOption.map
    XdsSnapshot.resources).getD ∅

/-- The snapshot of that config. -/
def minimalSnapshot (version : ℕ) : XdsSnapshot where
  version := version
  nonce := s!"snapshot-{version}"
  resources := minimalResources

theorem build_minimalSnapshot (version : ℕ) :
    XdsSnapshot.build wireEncode (Validation.minimalConfig []) version =
      .ok (minimalSnapshot version) := rfl

end Xds
end OpenApiGateway
