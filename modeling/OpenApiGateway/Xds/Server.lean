import OpenApiGateway.Lib.TransitionSystem
import OpenApiGateway.Xds.Wire

/-!
# The xDS control plane

`controlplane/src/xds/server.rs`, `registry.rs` and `version.rs` as a transition system: the
tasks of any number of ADS streams, any number of `rebuild_from_config` calls, and the clients at
the other end of the streams. A step is what happens between two points at which another task can
come in.

A stream's task reads a message, registers the stream at the first one, takes the snapshot and
sends its answer response by response into the stream's channel. A rebuild draws a version, builds
a snapshot, installs it, and sends its responses to each registered stream in turn. The map of the
registry is walked while others change it: an entry that stays in it is visited, one that comes
later may be visited or not, in any order.
-/

namespace OpenApiGateway
namespace Xds

/-- Capacity of a stream's channel. -/
def channelCapacity : ℕ := 16

/-- A response in the order of the channel, with the rebuild that broadcast it, if any. -/
structure Sent where
  rebuild : Option ℕ
  response : DiscoveryResponse
deriving DecidableEq

inductive StreamPhase where
  /-- At the next inbound message. -/
  | reading
  | answering (message : DiscoveryRequest)
  | sending (snapshot : XdsSnapshot) (pending : List DiscoveryResponse)
  /-- The inbound half is over; the registry is still to be cleaned up. -/
  | ended
  | finished
deriving DecidableEq

/-- An ADS stream: where its task is, the status it was registered with, and its channel. -/
structure StreamTask where
  phase : StreamPhase := .reading
  status : Option EnvoyConnectionStatus := none
  receiverOpen : Bool := true
  /-- How many responses are in the channel. -/
  queued : ℕ := 0
  /-- All that was put into the channel. -/
  sent : List Sent := []
deriving DecidableEq

namespace StreamTask

/-- The node id, once the first message was read. -/
def nodeId (stream : StreamTask) : Option String := stream.status.map EnvoyConnectionStatus.nodeId

/-- Put a response into the channel; with no room left the sender waits. -/
def push (stream : StreamTask) (rebuild : Option ℕ) (response : DiscoveryResponse) :
    Option StreamTask :=
  if stream.queued < channelCapacity then
    some { stream with queued := stream.queued + 1, sent := stream.sent ++ [⟨rebuild, response⟩] }
  else none

/-- The first message was read under this id, the stream has not ended and its receiver is
open. -/
def Live (stream : StreamTask) (id : String) : Prop :=
  stream.nodeId = some id ∧ stream.phase ≠ .ended ∧ stream.phase ≠ .finished ∧
    stream.receiverOpen = true

instance (stream : StreamTask) (id : String) : Decidable (stream.Live id) :=
  inferInstanceAs (Decidable (_ ∧ _))

end StreamTask

/-- Senders of the active streams by node id; a sender is named by its stream. -/
abbrev XdsRegistry := AList fun _ : String => ℕ

/-- The responses that a broadcast is sending to one stream. -/
structure Delivery where
  nodeId : String
  stream : ℕ
  pending : List DiscoveryResponse
deriving DecidableEq

/-- How far a broadcast is. -/
structure Broadcast where
  /-- The registry and the streams when it began. -/
  start : XdsRegistry
  streams : List StreamTask
  visited : List String := []
  current : Option Delivery := none
  disconnected : List String := []
deriving DecidableEq

inductive RebuildPhase where
  | building (config : GatewayConfig)
  | built (snapshot : XdsSnapshot)
  | installed (snapshot : XdsSnapshot)
  | iterating (snapshot : XdsSnapshot) (broadcast : Broadcast)
  | removing (snapshot : XdsSnapshot) (broadcast : Broadcast)
  | finished (snapshot : XdsSnapshot) (broadcast : Broadcast)
  | failed (error : ResourceError)
  /-- Dropped by its caller at a point where it waits. -/
  | abandoned

/-- A `rebuild_from_config` call with the version it has drawn. -/
structure RebuildTask where
  version : ℕ
  phase : RebuildPhase

structure XdsControlPlane where
  snapshot : XdsSnapshot
  versions : ℕ
  registry : XdsRegistry := ∅
  streams : List StreamTask := []
  rebuilds : List RebuildTask := []

inductive StreamAction where
  | receive (message : DiscoveryRequest)
  | readSnapshot
  | send
  | endInbound
  | cleanup
  /-- The client takes a response out of the channel. -/
  | take
  /-- The client drops the receiver. -/
  | close
deriving DecidableEq

inductive RebuildAction where
  | build
  | install
  | broadcast
  | visit (nodeId : String)
  | deliver
  | endIteration
  | remove
  | abandon
deriving DecidableEq

inductive XdsAction where
  | connect
  | stream (i : ℕ) (action : StreamAction)
  | draw (config : GatewayConfig)
  | rebuild (k : ℕ) (action : RebuildAction)

namespace XdsControlPlane

def new (encode : Message → Except String (List UInt8)) (config : GatewayConfig) :
    Except ResourceError XdsControlPlane := do
  let snapshot ← XdsSnapshot.build encode config 1
  return { snapshot := snapshot, versions := 1 }

/-! ## Steps of a stream -/

/-- A step of stream `i`: the stream and the registry after it. -/
def streamStep (s : XdsControlPlane) (i : ℕ) (stream : StreamTask) :
    StreamAction → Option (StreamTask × XdsRegistry)
  | .receive message =>
    match stream.phase, stream.status with
    | .reading, none =>
      let status : EnvoyConnectionStatus := { nodeId := message.nodeId }
      some
        ({ stream with phase := .answering message, status := some (status.record message) },
          s.registry.insert message.nodeId i)
    | .reading, some status =>
      some
        ({ stream with phase := .answering message, status := some (status.record message) },
          s.registry)
    | _, _ => none
  | .readSnapshot =>
    match stream.phase with
    | .answering message =>
      some ({ stream with phase := .sending s.snapshot (s.snapshot.answer message) }, s.registry)
    | _ => none
  | .send =>
    match stream.phase with
    | .sending snapshot (response :: rest) =>
      -- when the receiver is gone the rest of the answer is dropped
      if stream.receiverOpen then
        (stream.push none response).map fun stream =>
          ({ stream with phase := .sending snapshot rest }, s.registry)
      else some ({ stream with phase := .reading }, s.registry)
    | .sending _ [] => some ({ stream with phase := .reading }, s.registry)
    | _ => none
  | .endInbound =>
    match stream.phase with
    | .reading => some ({ stream with phase := .ended }, s.registry)
    | _ => none
  | .cleanup =>
    match stream.phase, stream.nodeId with
    | .ended, some id => some ({ stream with phase := .finished }, s.registry.erase id)
    | .ended, none => some ({ stream with phase := .finished }, s.registry)
    | _, _ => none
  | .take =>
    if 0 < stream.queued then some ({ stream with queued := stream.queued - 1 }, s.registry)
    else none
  | .close => some ({ stream with receiverOpen := false }, s.registry)

/-! ## Steps of a rebuild -/

/-- Send the next response to the stream that is being visited. -/
def deliverStep (s : XdsControlPlane) (k : ℕ) (snapshot : XdsSnapshot) (b : Broadcast)
    (delivery : Delivery) : Option (XdsControlPlane × RebuildPhase) :=
  match delivery.pending, s.streams[delivery.stream]? with
  | [], _ => some (s, .iterating snapshot { b with current := none })
  | response :: rest, some stream =>
    if stream.receiverOpen then
      (stream.push (some k) response).map fun stream =>
        ({ s with streams := s.streams.set delivery.stream stream },
          .iterating snapshot { b with current := some { delivery with pending := rest } })
    else
      some (s, .iterating snapshot
        { b with current := none, disconnected := b.disconnected ++ [delivery.nodeId] })
  | _ :: _, none => none

/-- Every entry that is still the one it was at the start has been visited. -/
def IterationOver (s : XdsControlPlane) (b : Broadcast) : Prop :=
  b.current = none ∧
    ∀ id ∈ b.start.keys, id ∈ b.visited ∨ s.registry.lookup id ≠ b.start.lookup id

instance (s : XdsControlPlane) (b : Broadcast) : Decidable (s.IterationOver b) :=
  inferInstanceAs (Decidable (_ ∧ _))

/-- A step of rebuild `k`: the control plane and the rebuild's phase after it. -/
def rebuildStep (encode : Message → Except String (List UInt8)) (s : XdsControlPlane) (k : ℕ)
    (version : ℕ) : RebuildPhase → RebuildAction → Option (XdsControlPlane × RebuildPhase)
  | .building config, .build =>
    match XdsSnapshot.build encode config version with
    | .ok snapshot => some (s, .built snapshot)
    -- the version is used up
    | .error e => some (s, .failed e)
  -- whatever is installed by now, also a later version
  | .built snapshot, .install => some ({ s with snapshot := snapshot }, .installed snapshot)
  | .built _, .abandon => some (s, .abandoned)
  | .installed snapshot, .broadcast =>
    some (s, .iterating snapshot { start := s.registry, streams := s.streams })
  | .iterating snapshot b, .visit id =>
    -- the shards are visited while others insert and remove
    match b.current, s.registry.lookup id with
    | none, some i =>
      if id ∈ b.visited then none
      else
        some (s, .iterating snapshot
          { b with
            visited := id :: b.visited
            current := some ⟨id, i, snapshot.orderedResponses⟩ })
    | _, _ => none
  | .iterating snapshot b, .deliver => b.current.bind (s.deliverStep k snapshot b)
  | .iterating snapshot b, .endIteration =>
    if s.IterationOver b then some (s, .removing snapshot b) else none
  | .iterating _ _, .abandon => some (s, .abandoned)
  | .removing snapshot b, .remove =>
    match b.disconnected with
    | [] => some (s, .finished snapshot b)
    | id :: rest =>
      -- by id: also a stream that has registered under it since
      some ({ s with registry := s.registry.erase id },
        .removing snapshot { b with disconnected := rest })
  | _, _ => none

/-- The version counter is a 64-bit number. -/
def step (encode : Message → Except String (List UInt8)) (s : XdsControlPlane) :
    XdsAction → Option XdsControlPlane
  | .connect => some { s with streams := s.streams ++ [{}] }
  | .stream i action =>
    match s.streams[i]? with
    | none => none
    | some stream =>
      (s.streamStep i stream action).map fun (stream, registry) =>
        { s with registry := registry, streams := s.streams.set i stream }
  | .draw config =>
    -- the atomic counter, before anything is built
    let version := (s.versions + 1) % 2 ^ 64
    some
      { s with versions := version, rebuilds := s.rebuilds ++ [⟨version, .building config⟩] }
  | .rebuild k action =>
    match s.rebuilds[k]? with
    | none => none
    | some task =>
      (s.rebuildStep encode k task.version task.phase action).map fun (s, phase) =>
        { s with rebuilds := s.rebuilds.set k ⟨task.version, phase⟩ }

end XdsControlPlane

/-! ## What a step does to a stream -/

namespace StreamTask
variable {old new : StreamTask}

/-- A stream keeps its node id, its channel's log only grows, and what is over stays over. -/
structure Evolves (old new : StreamTask) : Prop where
  nodeId : ∀ id, old.nodeId = some id → new.nodeId = some id
  sent : old.sent <+: new.sent
  live : ∀ id, new.Live id → old.nodeId = none ∨ old.Live id
  finished : old.phase = .finished → new.phase = .finished

theorem Evolves.refl (stream : StreamTask) : Evolves stream stream :=
  ⟨fun _ h => h, List.prefix_rfl, fun _ h => Or.inr h, fun h => h⟩

theorem push_cases {rebuild : Option ℕ} {response : DiscoveryResponse}
    (h : old.push rebuild response = some new) :
    new =
      { old with queued := old.queued + 1, sent := old.sent ++ [⟨rebuild, response⟩] } := by
  unfold push at h
  split at h
  · exact (Option.some.inj h).symm
  · simp at h

theorem Evolves.push {rebuild : Option ℕ} {response : DiscoveryResponse}
    (h : old.push rebuild response = some new) : old.Evolves new := by
  rw [push_cases h]
  exact ⟨fun _ h => h, List.prefix_append _ _, fun _ h => Or.inr h, fun h => h⟩

/-- A step of a task that goes on. -/
theorem Evolves.of_running (hid : new.nodeId = old.nodeId)
    (hopen : new.receiverOpen = old.receiverOpen) (hsent : old.sent <+: new.sent)
    (hended : old.phase ≠ .ended) (hfinished : old.phase ≠ .finished) : old.Evolves new := by
  refine ⟨fun id h => hid.trans h, hsent, ?_, fun h => absurd h hfinished⟩
  rintro id ⟨hlive, -, -, hreceiver⟩
  exact Or.inr ⟨hid.symm.trans hlive, hended, hfinished, hopen.symm.trans hreceiver⟩

/-- A step after which the stream is not live. -/
theorem Evolves.of_over (hid : new.nodeId = old.nodeId) (hsent : new.sent = old.sent)
    (hover : ∀ id, ¬ new.Live id) (hfinished : old.phase = .finished → new.phase = .finished) :
    old.Evolves new :=
  ⟨fun _ h => hid.trans h, hsent ▸ List.prefix_rfl, fun id h => absurd h (hover id), hfinished⟩

end StreamTask

namespace XdsControlPlane
variable {encode : Message → Except String (List UInt8)} {s s' : XdsControlPlane} {i : ℕ}
  {old new : StreamTask} {registry : XdsRegistry}

/-- The steps of a stream: action, and stream and registry after it. -/
inductive StreamMove (s : XdsControlPlane) (i : ℕ) (old : StreamTask) :
    StreamAction → StreamTask → XdsRegistry → Prop
  | first {message : DiscoveryRequest} {status : EnvoyConnectionStatus} :
      old.phase = .reading → old.status = none → status.nodeId = message.nodeId →
      StreamMove s i old (.receive message)
        { old with phase := .answering message, status := some status }
        (s.registry.insert message.nodeId i)
  | receive {message : DiscoveryRequest} {before status : EnvoyConnectionStatus} :
      old.phase = .reading → old.status = some before → status.nodeId = before.nodeId →
      StreamMove s i old (.receive message)
        { old with phase := .answering message, status := some status } s.registry
  | readSnapshot {message : DiscoveryRequest} :
      old.phase = .answering message →
      StreamMove s i old .readSnapshot
        { old with phase := .sending s.snapshot (s.snapshot.answer message) } s.registry
  | send {snapshot : XdsSnapshot} {response : DiscoveryResponse}
      {rest : List DiscoveryResponse} {pushed : StreamTask} :
      old.phase = .sending snapshot (response :: rest) → old.push none response = some pushed →
      StreamMove s i old .send { pushed with phase := .sending snapshot rest } s.registry
  | stop {snapshot : XdsSnapshot} {pending : List DiscoveryResponse} :
      old.phase = .sending snapshot pending →
      StreamMove s i old .send { old with phase := .reading } s.registry
  | endInbound :
      old.phase = .reading →
      StreamMove s i old .endInbound { old with phase := .ended } s.registry
  | cleanup {id : String} :
      old.phase = .ended → old.nodeId = some id →
      StreamMove s i old .cleanup { old with phase := .finished } (s.registry.erase id)
  | cleanupUnknown :
      old.phase = .ended → StreamMove s i old .cleanup { old with phase := .finished } s.registry
  | take : StreamMove s i old .take { old with queued := old.queued - 1 } s.registry
  | close : StreamMove s i old .close { old with receiverOpen := false } s.registry

theorem streamMove_of_streamStep {action : StreamAction}
    (h : s.streamStep i old action = some (new, registry)) :
    StreamMove s i old action new registry := by
  unfold streamStep at h
  split at h
  · split at h
    · rename_i hphase hstatus
      obtain ⟨rfl, rfl⟩ := Prod.mk.inj (Option.some.inj h)
      exact .first hphase hstatus (by simp)
    · rename_i hphase hstatus
      obtain ⟨rfl, rfl⟩ := Prod.mk.inj (Option.some.inj h)
      exact .receive hphase hstatus (by simp)
    · simp at h
  · split at h
    · rename_i hphase
      obtain ⟨rfl, rfl⟩ := Prod.mk.inj (Option.some.inj h)
      exact .readSnapshot hphase
    · simp at h
  · split at h
    · rename_i hphase
      split at h
      · obtain ⟨pushed, hpush, heq⟩ := Option.map_eq_some_iff.mp h
        obtain ⟨rfl, rfl⟩ := Prod.mk.inj heq
        exact .send hphase hpush
      · obtain ⟨rfl, rfl⟩ := Prod.mk.inj (Option.some.inj h)
        exact .stop hphase
    · rename_i hphase
      obtain ⟨rfl, rfl⟩ := Prod.mk.inj (Option.some.inj h)
      exact .stop hphase
    · simp at h
  · split at h
    · rename_i hphase
      obtain ⟨rfl, rfl⟩ := Prod.mk.inj (Option.some.inj h)
      exact .endInbound hphase
    · simp at h
  · split at h
    · rename_i hphase hid
      obtain ⟨rfl, rfl⟩ := Prod.mk.inj (Option.some.inj h)
      exact .cleanup hphase hid
    · rename_i hphase _
      obtain ⟨rfl, rfl⟩ := Prod.mk.inj (Option.some.inj h)
      exact .cleanupUnknown hphase
    · simp at h
  · split at h
    · obtain ⟨rfl, rfl⟩ := Prod.mk.inj (Option.some.inj h)
      exact .take
    · simp at h
  · obtain ⟨rfl, rfl⟩ := Prod.mk.inj (Option.some.inj h)
    exact .close

theorem StreamMove.evolves {action : StreamAction} (h : StreamMove s i old action new registry) :
    old.Evolves new := by
  cases h with
  | first hphase hstatus _ =>
    have hnone : old.nodeId = none := by rw [StreamTask.nodeId, hstatus]; rfl
    exact ⟨by simp [hnone], List.prefix_rfl, fun _ _ => Or.inl hnone, by simp [hphase]⟩
  | receive hphase hstatus hid =>
    refine .of_running ?_ rfl List.prefix_rfl (by simp [hphase]) (by simp [hphase])
    simp [StreamTask.nodeId, hstatus, hid]
  | readSnapshot hphase =>
    exact .of_running rfl rfl List.prefix_rfl (by simp [hphase]) (by simp [hphase])
  | send hphase hpush =>
    rw [StreamTask.push_cases hpush]
    exact .of_running rfl rfl (List.prefix_append _ _) (by simp [hphase]) (by simp [hphase])
  | stop hphase =>
    exact .of_running rfl rfl List.prefix_rfl (by simp [hphase]) (by simp [hphase])
  | endInbound hphase => exact .of_over rfl rfl (by simp [StreamTask.Live]) (by simp [hphase])
  | cleanup | cleanupUnknown => exact .of_over rfl rfl (by simp [StreamTask.Live]) fun _ => rfl
  | take => exact ⟨fun _ h => h, List.prefix_rfl, fun _ h => Or.inr h, fun h => h⟩
  | close => exact .of_over rfl rfl (by simp [StreamTask.Live]) fun h => h

/-- What a step of a stream can do to the registry: nothing, register the stream at its first
message, or take out its node id at the end. -/
inductive RegistryEffect (s : XdsControlPlane) (i : ℕ) (old : StreamTask) (action : StreamAction)
    (new : StreamTask) : XdsRegistry → Prop
  | keep : new.nodeId = old.nodeId → RegistryEffect s i old action new s.registry
  | register (message : DiscoveryRequest) : action = .receive message → old.nodeId = none →
      new.nodeId = some message.nodeId →
      RegistryEffect s i old action new (s.registry.insert message.nodeId i)
  | remove (id : String) : old.phase = .ended → old.nodeId = some id → new.phase = .finished →
      RegistryEffect s i old action new (s.registry.erase id)

theorem StreamMove.registryEffect {action : StreamAction}
    (h : StreamMove s i old action new registry) :
    RegistryEffect s i old action new registry := by
  cases h with
  | first _ hstatus hid =>
    exact .register _ rfl (by rw [StreamTask.nodeId, hstatus]; rfl)
      (by simp [StreamTask.nodeId, hid])
  | receive _ hstatus hid => exact .keep (by simp [StreamTask.nodeId, hstatus, hid])
  | send _ hpush =>
    rw [StreamTask.push_cases hpush]
    exact .keep rfl
  | cleanup hphase hid => exact .remove _ hphase hid rfl
  | readSnapshot | stop | endInbound | cleanupUnknown | take | close => exact .keep rfl

/-! ## What a step of a rebuild does -/

/-- The steps of a rebuild: phase, action, and control plane and phase after it. -/
inductive RebuildMove (encode : Message → Except String (List UInt8)) (s : XdsControlPlane)
    (k version : ℕ) : RebuildPhase → RebuildAction → XdsControlPlane → RebuildPhase → Prop
  | build {config : GatewayConfig} {snapshot : XdsSnapshot} :
      XdsSnapshot.build encode config version = .ok snapshot →
      RebuildMove encode s k version (.building config) .build s (.built snapshot)
  | fail {config : GatewayConfig} {e : ResourceError} :
      RebuildMove encode s k version (.building config) .build s (.failed e)
  | install {snapshot : XdsSnapshot} :
      RebuildMove encode s k version (.built snapshot) .install { s with snapshot := snapshot }
        (.installed snapshot)
  | broadcast {snapshot : XdsSnapshot} :
      RebuildMove encode s k version (.installed snapshot) .broadcast s
        (.iterating snapshot { start := s.registry, streams := s.streams })
  | visit {snapshot : XdsSnapshot} {b : Broadcast} {id : String} {i : ℕ} :
      b.current = none → s.registry.lookup id = some i →
      RebuildMove encode s k version (.iterating snapshot b) (.visit id) s
        (.iterating snapshot
          { b with
            visited := id :: b.visited
            current := some ⟨id, i, snapshot.orderedResponses⟩ })
  | next {snapshot : XdsSnapshot} {b : Broadcast} {delivery : Delivery} :
      b.current = some delivery → delivery.pending = [] →
      RebuildMove encode s k version (.iterating snapshot b) .deliver s
        (.iterating snapshot { b with current := none })
  | deliver {snapshot : XdsSnapshot} {b : Broadcast} {delivery : Delivery}
      {response : DiscoveryResponse} {rest : List DiscoveryResponse} {old new : StreamTask} :
      b.current = some delivery → delivery.pending = response :: rest →
      s.streams[delivery.stream]? = some old → old.push (some k) response = some new →
      RebuildMove encode s k version (.iterating snapshot b) .deliver
        { s with streams := s.streams.set delivery.stream new }
        (.iterating snapshot { b with current := some { delivery with pending := rest } })
  | disconnect {snapshot : XdsSnapshot} {b : Broadcast} {delivery : Delivery}
      {stream : StreamTask} :
      b.current = some delivery → s.streams[delivery.stream]? = some stream →
      stream.receiverOpen = false →
      RebuildMove encode s k version (.iterating snapshot b) .deliver s
        (.iterating snapshot
          { b with current := none, disconnected := b.disconnected ++ [delivery.nodeId] })
  | endIteration {snapshot : XdsSnapshot} {b : Broadcast} :
      s.IterationOver b →
      RebuildMove encode s k version (.iterating snapshot b) .endIteration s (.removing snapshot b)
  | remove {snapshot : XdsSnapshot} {b : Broadcast} {id : String} {rest : List String} :
      b.disconnected = id :: rest →
      RebuildMove encode s k version (.removing snapshot b) .remove
        { s with registry := s.registry.erase id }
        (.removing snapshot { b with disconnected := rest })
  | finish {snapshot : XdsSnapshot} {b : Broadcast} :
      RebuildMove encode s k version (.removing snapshot b) .remove s (.finished snapshot b)
  | abandon {phase : RebuildPhase} :
      RebuildMove encode s k version phase .abandon s .abandoned

theorem rebuildMove_of_deliverStep {k version : ℕ} {snapshot : XdsSnapshot} {b : Broadcast}
    {delivery : Delivery} {phase : RebuildPhase} (hcurrent : b.current = some delivery)
    (h : s.deliverStep k snapshot b delivery = some (s', phase)) :
    RebuildMove encode s k version (.iterating snapshot b) .deliver s' phase := by
  unfold deliverStep at h
  split at h
  · rename_i hpending
    obtain ⟨rfl, rfl⟩ := Prod.mk.inj (Option.some.inj h)
    exact .next hcurrent hpending
  · rename_i hpending hstream
    split at h
    · obtain ⟨new, hpush, heq⟩ := Option.map_eq_some_iff.mp h
      obtain ⟨rfl, rfl⟩ := Prod.mk.inj heq
      exact .deliver hcurrent hpending hstream hpush
    · rename_i hclosed
      obtain ⟨rfl, rfl⟩ := Prod.mk.inj (Option.some.inj h)
      exact .disconnect hcurrent hstream (Bool.eq_false_iff.mpr hclosed)
  · simp at h

theorem rebuildMove_of_rebuildStep {k version : ℕ} {phase phase' : RebuildPhase}
    {action : RebuildAction}
    (h : s.rebuildStep encode k version phase action = some (s', phase')) :
    RebuildMove encode s k version phase action s' phase' := by
  unfold rebuildStep at h
  split at h
  · split at h
    · rename_i hbuild
      obtain ⟨rfl, rfl⟩ := Prod.mk.inj (Option.some.inj h)
      exact .build hbuild
    · obtain ⟨rfl, rfl⟩ := Prod.mk.inj (Option.some.inj h)
      exact .fail
  · obtain ⟨rfl, rfl⟩ := Prod.mk.inj (Option.some.inj h)
    exact .install
  · obtain ⟨rfl, rfl⟩ := Prod.mk.inj (Option.some.inj h)
    exact .abandon
  · obtain ⟨rfl, rfl⟩ := Prod.mk.inj (Option.some.inj h)
    exact .broadcast
  · split at h
    · rename_i hcurrent hlookup
      split at h
      · simp at h
      · obtain ⟨rfl, rfl⟩ := Prod.mk.inj (Option.some.inj h)
        exact .visit hcurrent hlookup
    · simp at h
  · obtain ⟨delivery, hcurrent, hdeliver⟩ := Option.bind_eq_some_iff.mp h
    exact rebuildMove_of_deliverStep hcurrent hdeliver
  · split at h
    · rename_i hover
      obtain ⟨rfl, rfl⟩ := Prod.mk.inj (Option.some.inj h)
      exact .endIteration hover
    · simp at h
  · obtain ⟨rfl, rfl⟩ := Prod.mk.inj (Option.some.inj h)
    exact .abandon
  · split at h
    · obtain ⟨rfl, rfl⟩ := Prod.mk.inj (Option.some.inj h)
      exact .finish
    · rename_i hdisconnected
      obtain ⟨rfl, rfl⟩ := Prod.mk.inj (Option.some.inj h)
      exact .remove hdisconnected
  · simp at h

/-- No step of a rebuild touches the other rebuilds. -/
theorem RebuildMove.rebuilds {k version : ℕ} {phase phase' : RebuildPhase}
    {action : RebuildAction} (h : RebuildMove encode s k version phase action s' phase') :
    s'.rebuilds = s.rebuilds := by
  cases h <;> rfl

/-! ## What a step does -/

/-- The steps of the control plane: action, and control plane after it. -/
inductive Move (encode : Message → Except String (List UInt8)) (s : XdsControlPlane) :
    XdsAction → XdsControlPlane → Prop
  | connect : Move encode s .connect { s with streams := s.streams ++ [{}] }
  | stream {i : ℕ} {old new : StreamTask} {action : StreamAction} {registry : XdsRegistry} :
      s.streams[i]? = some old → StreamMove s i old action new registry →
      Move encode s (.stream i action)
        { s with registry := registry, streams := s.streams.set i new }
  | draw {config : GatewayConfig} :
      Move encode s (.draw config)
        { s with
          versions := (s.versions + 1) % 2 ^ 64
          rebuilds := s.rebuilds ++ [⟨(s.versions + 1) % 2 ^ 64, .building config⟩] }
  | rebuild {k : ℕ} {task : RebuildTask} {action : RebuildAction} {s' : XdsControlPlane}
      {phase : RebuildPhase} :
      s.rebuilds[k]? = some task →
      RebuildMove encode s k task.version task.phase action s' phase →
      Move encode s (.rebuild k action)
        { s' with rebuilds := s'.rebuilds.set k ⟨task.version, phase⟩ }

theorem Move.of_step {action : XdsAction} (h : s.step encode action = some s') :
    Move encode s action s' := by
  unfold step at h
  split at h
  · obtain rfl := Option.some.inj h
    exact .connect
  · split at h
    · simp at h
    · rename_i hold
      obtain ⟨⟨new, registry⟩, hmove, rfl⟩ := Option.map_eq_some_iff.mp h
      exact .stream hold (streamMove_of_streamStep hmove)
  · obtain rfl := Option.some.inj h
    exact .draw
  · split at h
    · simp at h
    · rename_i htask
      obtain ⟨⟨moved, phase⟩, hmove, rfl⟩ := Option.map_eq_some_iff.mp h
      exact .rebuild htask (rebuildMove_of_rebuildStep hmove)

/-! ## Snapshots come from configs -/

end XdsControlPlane

/-- The snapshot a rebuild has built. -/
def RebuildPhase.snapshot : RebuildPhase → Option XdsSnapshot
  | .built snapshot | .installed snapshot | .iterating snapshot _ | .removing snapshot _
  | .finished snapshot _ => some snapshot
  | .building _ | .failed _ | .abandoned => none

/-- The snapshot of a rebuild is complete and has the version it has drawn. -/
def RebuildTask.Sound (task : RebuildTask) : Prop :=
  ∀ snapshot, task.phase.snapshot = some snapshot →
    snapshot.Complete ∧ snapshot.version = task.version

theorem RebuildTask.Sound.building (version : ℕ) (config : GatewayConfig) :
    RebuildTask.Sound ⟨version, .building config⟩ := by
  intro snapshot hsnapshot
  simp [RebuildPhase.snapshot] at hsnapshot

namespace XdsControlPlane
variable {encode : Message → Except String (List UInt8)} {s s' : XdsControlPlane}

theorem RebuildMove.sound {k version : ℕ} {phase phase' : RebuildPhase} {action : RebuildAction}
    (h : RebuildMove encode s k version phase action s' phase')
    (hsound : RebuildTask.Sound ⟨version, phase⟩) : RebuildTask.Sound ⟨version, phase'⟩ := by
  cases h with
  | build hbuild =>
    intro snapshot hsnapshot
    obtain rfl := Option.some.inj hsnapshot
    exact ⟨XdsSnapshot.complete_of_build hbuild, XdsSnapshot.version_of_build hbuild⟩
  | fail | abandon =>
    intro snapshot hsnapshot
    simp [RebuildPhase.snapshot] at hsnapshot
  | install | broadcast | visit | next | deliver | disconnect | endIteration | remove | finish =>
    exact hsound

theorem sound_step {action : XdsAction} (h : ∀ task ∈ s.rebuilds, task.Sound)
    (hstep : s.step encode action = some s') : ∀ task ∈ s'.rebuilds, task.Sound := by
  cases Move.of_step hstep with
  | connect => exact h
  | stream => exact h
  | draw => exact List.forall_mem_append.mpr ⟨h, List.forall_mem_singleton.mpr (.building _ _)⟩
  | rebuild htask hmove =>
    intro other hother
    rcases List.mem_or_eq_of_mem_set hother with hother | rfl
    · exact h other (hmove.rebuilds ▸ hother)
    · exact hmove.sound (h _ (List.mem_of_getElem? htask))

/-- The control plane of a config with one service, at its start. -/
def minimalControlPlane : XdsControlPlane := { snapshot := minimalSnapshot 1, versions := 1 }

end XdsControlPlane

end Xds
end OpenApiGateway
