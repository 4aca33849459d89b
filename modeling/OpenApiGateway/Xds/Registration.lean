import OpenApiGateway.Xds.Server

/-!
# Live streams and the registry

The registry is keyed by node id and not by stream: a second stream under the same id takes the
entry over, and the cleanup of the first one then takes it out. The same happens when a broadcast
takes out an id it found disconnected after a new stream has registered under it.

`live_stream_registered` says when this does not happen: when a stream registers under an id, no
other stream holds that id and no broadcast is about to take it out. Then every live stream stays
in the registry, and a broadcast that is over has sent it all four responses.
-/

namespace OpenApiGateway
namespace Xds

open Lib.TransitionSystem

/-- A broadcast may still take the id out of the registry. -/
def RebuildPhase.Holds : RebuildPhase → String → Prop
  | .iterating _ b, id => id ∈ b.disconnected ∨ b.current.map Delivery.nodeId = some id
  | .removing _ b, id => id ∈ b.disconnected
  | _, _ => False

instance (phase : RebuildPhase) (id : String) : Decidable (phase.Holds id) :=
  match phase with
  | .iterating _ b =>
    inferInstanceAs (Decidable (id ∈ b.disconnected ∨ b.current.map Delivery.nodeId = some id))
  | .removing _ b => inferInstanceAs (Decidable (id ∈ b.disconnected))
  | .building _ | .built _ | .installed _ | .finished _ _ | .failed _ | .abandoned =>
    isFalse not_false

/-- The stream had sent its first message when the broadcast began. -/
def Broadcast.Present (b : Broadcast) (i : ℕ) : Prop :=
  ∃ stream id, b.streams[i]? = some stream ∧ stream.nodeId = some id

namespace XdsControlPlane

/-- A stream registers only under an id that no unfinished stream has and that no broadcast is
about to take out. -/
def DistinctIds (s : XdsControlPlane) : XdsAction → Prop
  | .stream i (.receive message) =>
    s.streams[i]?.bind StreamTask.nodeId = none →
      (∀ stream ∈ s.streams, stream.nodeId = some message.nodeId → stream.phase = .finished) ∧
        ∀ task ∈ s.rebuilds, ¬ task.phase.Holds message.nodeId
  | _ => True

instance (s : XdsControlPlane) (action : XdsAction) : Decidable (s.DistinctIds action) :=
  match action with
  | .stream i (.receive message) =>
    inferInstanceAs (Decidable (s.streams[i]?.bind StreamTask.nodeId = none →
      (∀ stream ∈ s.streams, stream.nodeId = some message.nodeId → stream.phase = .finished) ∧
        ∀ task ∈ s.rebuilds, ¬ task.phase.Holds message.nodeId))
  | .stream _ .readSnapshot | .stream _ .send | .stream _ .endInbound | .stream _ .cleanup
  | .stream _ .take | .stream _ .close | .connect | .draw _ | .rebuild _ _ => isTrue trivial

/-- The stream of a number is live under an id. -/
def LiveAt (s : XdsControlPlane) (i : ℕ) (id : String) : Prop :=
  ∃ stream, s.streams[i]? = some stream ∧ stream.Live id

/-- The stream has the id and has not been cleaned up. -/
def UsedAt (s : XdsControlPlane) (i : ℕ) (id : String) : Prop :=
  ∃ stream, s.streams[i]? = some stream ∧ stream.nodeId = some id ∧ stream.phase ≠ .finished

theorem LiveAt.usedAt {s : XdsControlPlane} {i : ℕ} {id : String} (h : s.LiveAt i id) :
    s.UsedAt i id := by
  obtain ⟨stream, hstream, hid, -, hfinished, -⟩ := h
  exact ⟨stream, hstream, hid, hfinished⟩

/-- Rebuild `k` has sent the response to stream `i`. -/
def Delivered (s : XdsControlPlane) (k i : ℕ) (response : DiscoveryResponse) : Prop :=
  ∃ stream, s.streams[i]? = some stream ∧ ⟨some k, response⟩ ∈ stream.sent

/-! ## The invariant of a broadcast -/

/-- Streams that were there at the start have an id. -/
def Known (s : XdsControlPlane) (b : Broadcast) : Prop :=
  ∀ i, b.Present i → ∃ stream id, s.streams[i]? = some stream ∧ stream.nodeId = some id

/-- No id that was found disconnected is one of a live stream. -/
def Stale (s : XdsControlPlane) (b : Broadcast) : Prop :=
  ∀ id ∈ b.disconnected, ∀ i, ¬ s.LiveAt i id

/-- Every live stream that was there at the start was sent all responses. -/
def Reached (s : XdsControlPlane) (k : ℕ) (snapshot : XdsSnapshot) (b : Broadcast) : Prop :=
  ∀ i id, b.Present i → s.LiveAt i id →
    ∀ response ∈ snapshot.orderedResponses, s.Delivered k i response

/-- What holds while a rebuild goes through the registry. -/
structure IterationOk (s : XdsControlPlane) (k : ℕ) (snapshot : XdsSnapshot) (b : Broadcast) :
    Prop where
  known : s.Known b
  stale : s.Stale b
  start : ∀ i id, b.Present i → s.LiveAt i id → b.start.lookup id = some i
  /-- The stream that is being visited is the only one live under its id. -/
  current : ∀ delivery, b.current = some delivery → ∀ i, s.LiveAt i delivery.nodeId →
    i = delivery.stream
  visited : ∀ i id, b.Present i → s.LiveAt i id → id ∈ b.visited →
    ∀ response ∈ snapshot.orderedResponses, s.Delivered k i response ∨
      ∃ delivery, b.current = some delivery ∧ delivery.stream = i ∧ response ∈ delivery.pending

/-- What holds of a rebuild in each of its phases. -/
def PhaseOk (s : XdsControlPlane) (k : ℕ) : RebuildPhase → Prop
  | .iterating snapshot b => s.IterationOk k snapshot b
  | .removing snapshot b => s.Known b ∧ s.Stale b ∧ s.Reached k snapshot b
  | .finished snapshot b => s.Known b ∧ s.Reached k snapshot b
  | _ => True

/-- Every stream of the later state is one of the earlier state, or new and without an id. -/
structure Follows (s s' : XdsControlPlane) : Prop where
  evolves : ∀ (i : ℕ) (old : StreamTask), s.streams[i]? = some old →
    ∃ new, s'.streams[i]? = some new ∧ old.Evolves new
  origin : ∀ (i : ℕ) (new : StreamTask), s'.streams[i]? = some new →
    new.nodeId = none ∨ ∃ old, s.streams[i]? = some old ∧ old.Evolves new

section Follows
variable {s s' : XdsControlPlane} {k : ℕ} {snapshot : XdsSnapshot} {b : Broadcast}

theorem Follows.of_streams_eq (h : s'.streams = s.streams) : Follows s s' := by
  refine ⟨fun i old hold => ⟨old, h ▸ hold, .refl old⟩,
    fun i new hnew => Or.inr ⟨new, ?_, .refl new⟩⟩
  rw [← h]
  exact hnew

theorem Follows.of_set {i : ℕ} {old new : StreamTask} (hold : s.streams[i]? = some old)
    (hevolves : old.Evolves new) (h : s'.streams = s.streams.set i new) : Follows s s' := by
  constructor
  · intro j other hother
    by_cases hij : i = j
    · subst hij
      rw [hold, Option.some.injEq] at hother
      subst hother
      exact ⟨new, by rw [h, getElem?_set_self hold], hevolves⟩
    · exact ⟨other, by rw [h, List.getElem?_set_ne hij, hother], .refl other⟩
  · intro j other hother
    right
    rw [h] at hother
    by_cases hij : i = j
    · subst hij
      rw [getElem?_set_self hold, Option.some.injEq] at hother
      subst hother
      exact ⟨old, hold, hevolves⟩
    · rw [List.getElem?_set_ne hij] at hother
      exact ⟨other, hother, .refl other⟩

/-- A live stream was live before, or has just got its id. -/
theorem Follows.liveAt (h : Follows s s') {i : ℕ} {id : String} (hlive : s'.LiveAt i id) :
    s.LiveAt i id ∨ ∃ old, s.streams[i]? = some old ∧ old.nodeId = none := by
  obtain ⟨new, hnew, hlive⟩ := hlive
  rcases h.origin i new hnew with hnone | ⟨old, hold, hevolves⟩
  · rw [hlive.1] at hnone
    simp at hnone
  · rcases hevolves.live id hlive with hnone | hlive
    · exact Or.inr ⟨old, hold, hnone⟩
    · exact Or.inl ⟨old, hold, hlive⟩

/-- An id that is in use now was so before, or its stream had none yet. -/
theorem Follows.usedAt (h : Follows s s') {i : ℕ} {id : String} (hused : s'.UsedAt i id) :
    s.UsedAt i id ∨ ∃ old, s.streams[i]? = some old ∧ old.nodeId = none := by
  obtain ⟨new, hnew, hid, hfinished⟩ := hused
  rcases h.origin i new hnew with hnone | ⟨old, hold, hevolves⟩
  · rw [hid] at hnone
    simp at hnone
  · cases hold' : old.nodeId with
    | none => exact Or.inr ⟨old, hold, hold'⟩
    | some id' =>
      have hsame := hevolves.nodeId id' hold'
      rw [hid, Option.some.injEq] at hsame
      subst hsame
      exact Or.inl ⟨old, hold, hold', fun hover => hfinished (hevolves.finished hover)⟩

/-- No stream of the earlier state has got an id. -/
def SameIds (s s' : XdsControlPlane) : Prop :=
  ∀ (i : ℕ) (old new : StreamTask), s.streams[i]? = some old → s'.streams[i]? = some new →
    new.nodeId = old.nodeId

theorem SameIds.of_streams_eq (h : s'.streams = s.streams) : SameIds s s' := by
  intro i old new hold hnew
  rw [h, hold, Option.some.injEq] at hnew
  rw [hnew]

theorem SameIds.of_set {i : ℕ} {old new : StreamTask} (hold : s.streams[i]? = some old)
    (hid : new.nodeId = old.nodeId) (h : s'.streams = s.streams.set i new) : SameIds s s' := by
  intro j before after hbefore hafter
  rw [h] at hafter
  by_cases hij : i = j
  · subst hij
    rw [hold, Option.some.injEq] at hbefore
    rw [getElem?_set_self hold, Option.some.injEq] at hafter
    rw [← hbefore, ← hafter, hid]
  · rw [List.getElem?_set_ne hij, hbefore, Option.some.injEq] at hafter
    rw [hafter]

theorem Follows.liveAt_of_sameIds (h : Follows s s') (hids : SameIds s s') {i : ℕ} {id : String}
    (hlive : s'.LiveAt i id) : s.LiveAt i id := by
  rcases h.liveAt hlive with hlive | ⟨old, hold, hnone⟩
  · exact hlive
  · obtain ⟨new, hnew, hid, -⟩ := hlive
    rw [hids i old new hold hnew, hnone] at hid
    simp at hid

theorem Follows.usedAt_of_sameIds (h : Follows s s') (hids : SameIds s s') {i : ℕ} {id : String}
    (hused : s'.UsedAt i id) : s.UsedAt i id := by
  rcases h.usedAt hused with hused | ⟨old, hold, hnone⟩
  · exact hused
  · obtain ⟨new, hnew, hid, -⟩ := hused
    rw [hids i old new hold hnew, hnone] at hid
    simp at hid

theorem Follows.delivered (h : Follows s s') {i : ℕ} {response : DiscoveryResponse}
    (hdelivered : s.Delivered k i response) : s'.Delivered k i response := by
  obtain ⟨old, hold, hmem⟩ := hdelivered
  obtain ⟨new, hnew, hevolves⟩ := h.evolves i old hold
  exact ⟨new, hnew, hevolves.sent.subset hmem⟩

theorem Follows.known (h : Follows s s') (hknown : s.Known b) : s'.Known b := by
  intro i hi
  obtain ⟨old, id, hold, hid⟩ := hknown i hi
  obtain ⟨new, hnew, hevolves⟩ := h.evolves i old hold
  exact ⟨new, id, hnew, hevolves.nodeId id hid⟩

/-- A stream that was there when a broadcast began is live now only if it was live before. -/
theorem Follows.liveAt_of_present (h : Follows s s') (hknown : s.Known b) {i : ℕ} {id : String}
    (hi : b.Present i) (hlive : s'.LiveAt i id) : s.LiveAt i id := by
  rcases h.liveAt hlive with hlive | ⟨old, hold, hnone⟩
  · exact hlive
  · obtain ⟨stream, id', hstream, hid⟩ := hknown i hi
    rw [hold, Option.some.injEq] at hstream
    rw [← hstream, hnone] at hid
    simp at hid

/-- What was reached stays reached. -/
theorem Follows.reached (h : Follows s s') (hknown : s.Known b)
    (hreached : s.Reached k snapshot b) : s'.Reached k snapshot b := by
  intro i id hi hlive response hresponse
  exact h.delivered (hreached i id hi (h.liveAt_of_present hknown hi hlive) response hresponse)

/-- The invariant of a rebuild that does not move itself, when no stream becomes live under an
id that it holds. -/
theorem Follows.phaseOk {phase : RebuildPhase} (h : Follows s s')
    (hfresh : ∀ i id, phase.Holds id → s'.LiveAt i id → s.LiveAt i id)
    (hok : s.PhaseOk k phase) : s'.PhaseOk k phase := by
  cases phase with
  | iterating snapshot b =>
    have hback : ∀ {i id}, b.Present i → s'.LiveAt i id → s.LiveAt i id :=
      fun hi hlive => h.liveAt_of_present hok.known hi hlive
    constructor
    case known => exact h.known hok.known
    case stale =>
      intro id hid i hlive
      exact hok.stale id hid i (hfresh i id (Or.inl hid) hlive)
    case start => exact fun i id hi hlive => hok.start i id hi (hback hi hlive)
    case current =>
      intro delivery hdelivery i hlive
      refine hok.current delivery hdelivery i (hfresh i _ (Or.inr ?_) hlive)
      rw [hdelivery]
      rfl
    case visited =>
      intro i id hi hlive hvisited response hresponse
      exact (hok.visited i id hi (hback hi hlive) hvisited response hresponse).imp_left h.delivered
  | removing snapshot b =>
    obtain ⟨hknown, hstale, hreached⟩ := hok
    refine ⟨h.known hknown, ?_, h.reached hknown hreached⟩
    intro id hid i hlive
    exact hstale id hid i (hfresh i id hid hlive)
  | finished snapshot b => exact ⟨h.known hok.1, h.reached hok.1 hok.2⟩
  | building config | built snapshot | installed snapshot | failed e | abandoned => trivial

end Follows

/-! ## The invariant of the system -/

/-- Live streams are registered, no id is used by two streams, and rebuilds reach the live ones. -/
structure Registered (s : XdsControlPlane) : Prop where
  live : ∀ i id, s.LiveAt i id → s.registry.lookup id = some i
  unique : ∀ i j id, s.UsedAt i id → s.UsedAt j id → i = j
  rebuilds : ∀ (k : ℕ) (task : RebuildTask), s.rebuilds[k]? = some task → s.PhaseOk k task.phase

section Steps
variable {encode : Message → Except String (List UInt8)} {s s' : XdsControlPlane}

/-- A step with which no stream gets an id and no live stream loses its entry. -/
theorem Registered.of_follows (h : s.Registered) (hfollows : Follows s s') (hids : SameIds s s')
    (hregistry : ∀ i id, s'.LiveAt i id → s'.registry.lookup id = s.registry.lookup id)
    (hrebuilds : ∀ (k : ℕ) (task : RebuildTask), s'.rebuilds[k]? = some task →
      s'.PhaseOk k task.phase) : s'.Registered := by
  refine ⟨?_, ?_, hrebuilds⟩
  · intro i id hlive
    rw [hregistry i id hlive]
    exact h.live i id (hfollows.liveAt_of_sameIds hids hlive)
  · intro i j id hi hj
    exact h.unique i j id (hfollows.usedAt_of_sameIds hids hi) (hfollows.usedAt_of_sameIds hids hj)

theorem Registered.connect (h : s.Registered) :
    Registered { s with streams := s.streams ++ [{}] } := by
  have hfollows : Follows s { s with streams := s.streams ++ [{}] } := by
    constructor
    · intro i old hold
      exact ⟨old, getElem?_concat_of_some hold _, .refl old⟩
    · intro i new hnew
      rcases getElem?_concat_cases hnew with hold | ⟨-, rfl⟩
      · exact Or.inr ⟨new, hold, .refl new⟩
      · exact Or.inl rfl
  have hids : SameIds s { s with streams := s.streams ++ [{}] } := by
    intro i old new hold hnew
    rw [getElem?_concat_of_some hold, Option.some.injEq] at hnew
    rw [hnew]
  refine h.of_follows hfollows hids (fun _ _ _ => rfl) ?_
  intro k task htask
  exact hfollows.phaseOk (fun _ _ _ hlive => hfollows.liveAt_of_sameIds hids hlive)
    (h.rebuilds k task htask)

/-- A stream registers. -/
theorem Registered.register (h : s.Registered) {i : ℕ} {old new : StreamTask} {id : String}
    (hold : s.streams[i]? = some old) (hevolves : old.Evolves new) (hid : new.nodeId = some id)
    (hfree : ∀ stream ∈ s.streams, stream.nodeId = some id → stream.phase = .finished)
    (hholds : ∀ task ∈ s.rebuilds, ¬ task.phase.Holds id) :
    Registered { s with registry := s.registry.insert id i, streams := s.streams.set i new } := by
  have hfollows : Follows s
      { s with registry := s.registry.insert id i, streams := s.streams.set i new } :=
    .of_set hold hevolves rfl
  -- an id in use after the step is the new one at `i`, or another one, or one elsewhere
  have hused : ∀ {j : ℕ} {id' : String},
      UsedAt { s with registry := s.registry.insert id i, streams := s.streams.set i new } j id' →
        (j = i ∧ id' = id) ∨ (j ≠ i ∧ id' ≠ id ∧ s.UsedAt j id') := by
    rintro j id' ⟨stream, hstream, hstreamId, hfinished⟩
    by_cases hij : i = j
    · subst hij
      rw [getElem?_set_self hold, Option.some.injEq] at hstream
      rw [← hstream, hid, Option.some.injEq] at hstreamId
      exact Or.inl ⟨rfl, hstreamId.symm⟩
    · rw [List.getElem?_set_ne hij] at hstream
      refine Or.inr ⟨Ne.symm hij, ?_, stream, hstream, hstreamId, hfinished⟩
      rintro rfl
      exact hfinished (hfree stream (List.mem_of_getElem? hstream) hstreamId)
  have hlive : ∀ {j : ℕ} {id' : String}, j ≠ i →
      LiveAt { s with registry := s.registry.insert id i, streams := s.streams.set i new } j id' →
        s.LiveAt j id' := by
    rintro j id' hne ⟨stream, hstream, hlive⟩
    rw [List.getElem?_set_ne hne.symm] at hstream
    exact ⟨stream, hstream, hlive⟩
  constructor
  case live =>
    intro j id' hnow
    rcases hused hnow.usedAt with ⟨rfl, rfl⟩ | ⟨hne, hother, -⟩
    · exact AList.lookup_insert _
    · exact (AList.lookup_insert_ne hother).trans (h.live j id' (hlive hne hnow))
  case unique =>
    intro j j' id' hj hj'
    rcases hused hj with ⟨rfl, rfl⟩ | ⟨-, hother, hj⟩
    · rcases hused hj' with ⟨rfl, -⟩ | ⟨-, hother, -⟩
      · rfl
      · exact absurd rfl hother
    · rcases hused hj' with ⟨-, rfl⟩ | ⟨-, -, hj'⟩
      · exact absurd rfl hother
      · exact h.unique j j' id' hj hj'
  case rebuilds =>
    intro k task htask
    refine hfollows.phaseOk ?_ (h.rebuilds k task htask)
    intro j id' hphase hnow
    rcases hused hnow.usedAt with ⟨-, rfl⟩ | ⟨hne, -, -⟩
    · exact absurd hphase (hholds task (List.mem_of_getElem? htask))
    · exact hlive hne hnow

/-- A step of a stream, in a run with distinct ids. -/
theorem Registered.streamStep (h : s.Registered) {i : ℕ} {old new : StreamTask}
    {action : StreamAction} {registry : XdsRegistry} (hold : s.streams[i]? = some old)
    (hdistinct : s.DistinctIds (.stream i action))
    (hmove : StreamMove s i old action new registry) :
    Registered { s with registry := registry, streams := s.streams.set i new } := by
  have hevolves := hmove.evolves
  have hfollows : Follows s { s with registry := registry, streams := s.streams.set i new } :=
    .of_set hold hevolves rfl
  cases hmove.registryEffect with
  | keep hid =>
    have hids : SameIds s { s with streams := s.streams.set i new } := .of_set hold hid rfl
    refine h.of_follows hfollows hids (fun _ _ _ => rfl) ?_
    intro k task htask
    exact hfollows.phaseOk (fun _ _ _ hlive => hfollows.liveAt_of_sameIds hids hlive)
      (h.rebuilds k task htask)
  | register message haction hnone hid =>
    subst haction
    have hfirst : s.streams[i]?.bind StreamTask.nodeId = none := by
      rw [hold]
      exact hnone
    obtain ⟨hfree, hholds⟩ := hdistinct hfirst
    exact h.register hold hevolves hid hfree hholds
  | remove id hphase hid hfinished =>
    have hids : SameIds s
        { s with registry := s.registry.erase id, streams := s.streams.set i new } :=
      .of_set hold ((hevolves.nodeId id hid).trans hid.symm) rfl
    refine h.of_follows hfollows hids ?_ ?_
    · intro j id' hlive
      refine AList.lookup_erase_ne ?_
      rintro rfl
      -- the stream that is cleaned up is the only one with its id, and it is not live
      have hused : s.UsedAt i id' := ⟨old, hold, hid, by simp [hphase]⟩
      have hji := h.unique j i id' (hfollows.liveAt_of_sameIds hids hlive).usedAt hused
      subst hji
      obtain ⟨stream, hstream, -, -, hrunning, -⟩ := hlive
      rw [getElem?_set_self hold, Option.some.injEq] at hstream
      exact hrunning (hstream ▸ hfinished)
    · intro k task htask
      exact hfollows.phaseOk (fun _ _ _ hlive => hfollows.liveAt_of_sameIds hids hlive)
        (h.rebuilds k task htask)

/-! ### Steps of a rebuild -/

/-- A step of a rebuild changes no stream but for its channel. -/
theorem RebuildMove.follows {k version : ℕ} {phase phase' : RebuildPhase} {action : RebuildAction}
    (h : RebuildMove encode s k version phase action s' phase') :
    Follows s s' ∧ SameIds s s' := by
  cases h with
  | deliver hcurrent hpending hstream hpush =>
    refine ⟨.of_set hstream (.push hpush) rfl, .of_set hstream ?_ rfl⟩
    rw [StreamTask.push_cases hpush]
    rfl
  | build | fail | install | broadcast | visit | next | disconnect | endIteration | remove
  | finish | abandon => exact ⟨.of_streams_eq rfl, .of_streams_eq rfl⟩

theorem not_liveAt_of_closed {i : ℕ} {stream : StreamTask} {id : String}
    (hstream : s.streams[i]? = some stream) (hclosed : stream.receiverOpen = false) :
    ¬ s.LiveAt i id := by
  rintro ⟨live, hget, -, -, -, hopen⟩
  rw [hstream, Option.some.injEq] at hget
  rw [← hget, hclosed] at hopen
  simp at hopen

section Iteration
variable {k : ℕ} {snapshot : XdsSnapshot} {b : Broadcast} {delivery : Delivery}

/-- With nothing under way, the streams visited before have everything. -/
theorem IterationOk.delivered_of_idle (hok : s.IterationOk k snapshot b) (hidle : b.current = none)
    {i : ℕ} {id : String} (hi : b.Present i) (hlive : s.LiveAt i id) (hvisited : id ∈ b.visited)
    {response : DiscoveryResponse} (hresponse : response ∈ snapshot.orderedResponses) :
    s.Delivered k i response := by
  rcases hok.visited i id hi hlive hvisited response hresponse with hdone | ⟨d, hd, -, -⟩
  · exact hdone
  · rw [hidle] at hd
    simp at hd

/-- A visit takes the registered stream of an id, and so the live one. -/
theorem IterationOk.visit (hok : s.IterationOk k snapshot b) (hreg : s.Registered) {id : String}
    {i : ℕ} (hidle : b.current = none) (hlookup : s.registry.lookup id = some i) :
    s.IterationOk k snapshot
      { b with
        visited := id :: b.visited
        current := some ⟨id, i, snapshot.orderedResponses⟩ } := by
  -- the entry is that of the live stream, if there is one
  have hentry : ∀ {j : ℕ}, s.LiveAt j id → i = j := by
    intro j hlive
    have hj := hreg.live j id hlive
    rwa [hlookup, Option.some.injEq] at hj
  refine ⟨hok.known, hok.stale, hok.start, ?_, ?_⟩
  · intro delivery hdelivery j hlive
    obtain rfl := Option.some.inj hdelivery
    exact (hentry hlive).symm
  · intro j id' hj hlive hvisited response hresponse
    rcases List.mem_cons.mp hvisited with rfl | hvisited
    · exact Or.inr ⟨_, rfl, hentry hlive, hresponse⟩
    · exact Or.inl (hok.delivered_of_idle hidle hj hlive hvisited hresponse)

theorem IterationOk.next (hok : s.IterationOk k snapshot b) (hcurrent : b.current = some delivery)
    (hpending : delivery.pending = []) : s.IterationOk k snapshot { b with current := none } := by
  refine ⟨hok.known, hok.stale, hok.start, by simp, ?_⟩
  intro i id hi hlive hvisited response hresponse
  rcases hok.visited i id hi hlive hvisited response hresponse with hdone | ⟨d, hd, -, hmem⟩
  · exact Or.inl hdone
  · rw [hcurrent, Option.some.injEq] at hd
    rw [← hd, hpending] at hmem
    simp at hmem

/-- A delivery shortens what is pending by what was sent. -/
theorem IterationOk.deliver (hok : s.IterationOk k snapshot b) (hfollows : Follows s s')
    (hids : SameIds s s') (hcurrent : b.current = some delivery) {response : DiscoveryResponse}
    {rest : List DiscoveryResponse} (hpending : delivery.pending = response :: rest)
    (hsent : s'.Delivered k delivery.stream response) :
    s'.IterationOk k snapshot { b with current := some { delivery with pending := rest } } := by
  have hback : ∀ {i id}, s'.LiveAt i id → s.LiveAt i id := hfollows.liveAt_of_sameIds hids
  refine ⟨hfollows.known hok.known, ?_, ?_, ?_, ?_⟩
  · exact fun id hid i hlive => hok.stale id hid i (hback hlive)
  · exact fun i id hi hlive => hok.start i id hi (hback hlive)
  · intro d hd i hlive
    obtain rfl := Option.some.inj hd
    exact hok.current delivery hcurrent i (hback hlive)
  · intro i id hi hlive hvisited response' hresponse'
    rcases hok.visited i id hi (hback hlive) hvisited response' hresponse' with
      hdone | ⟨d, hd, rfl, hmem⟩
    · exact Or.inl (hfollows.delivered hdone)
    · rw [hcurrent, Option.some.injEq] at hd
      subst hd
      rw [hpending] at hmem
      rcases List.mem_cons.mp hmem with rfl | hmem
      · exact Or.inl hsent
      · exact Or.inr ⟨_, rfl, rfl, hmem⟩

/-- A stream without a receiver is not live and may be given up. -/
theorem IterationOk.disconnect (hok : s.IterationOk k snapshot b)
    (hcurrent : b.current = some delivery) {stream : StreamTask}
    (hstream : s.streams[delivery.stream]? = some stream)
    (hclosed : stream.receiverOpen = false) :
    s.IterationOk k snapshot
      { b with current := none, disconnected := b.disconnected ++ [delivery.nodeId] } := by
  refine ⟨hok.known, ?_, hok.start, by simp, ?_⟩
  · intro id hid i hlive
    rcases List.mem_append.mp hid with hid | hid
    · exact hok.stale id hid i hlive
    · rw [List.mem_singleton] at hid
      subst hid
      obtain rfl := hok.current delivery hcurrent i hlive
      exact not_liveAt_of_closed hstream hclosed hlive
  · intro i id hi hlive hvisited response hresponse
    rcases hok.visited i id hi hlive hvisited response hresponse with hdone | ⟨d, hd, rfl, -⟩
    · exact Or.inl hdone
    · rw [hcurrent, Option.some.injEq] at hd
      subst hd
      exact absurd hlive (not_liveAt_of_closed hstream hclosed)

/-- When the iteration is over, every live stream that was there has been reached. -/
theorem IterationOk.reached (hok : s.IterationOk k snapshot b) (hreg : s.Registered)
    (hover : s.IterationOver b) : s.Reached k snapshot b := by
  obtain ⟨hidle, hall⟩ := hover
  intro i id hi hlive response hresponse
  have hstart := hok.start i id hi hlive
  have hkey : id ∈ b.start.keys := AList.lookup_isSome.mp (by rw [hstart]; rfl)
  have hvisited : id ∈ b.visited := by
    refine (hall id hkey).resolve_right ?_
    rw [hstart, hreg.live i id hlive]
    simp
  exact hok.delivered_of_idle hidle hi hlive hvisited hresponse

end Iteration

/-- The invariant of the rebuild that moves. -/
theorem RebuildMove.phaseOk {k version : ℕ} {phase phase' : RebuildPhase} {action : RebuildAction}
    (h : RebuildMove encode s k version phase action s' phase') (hreg : s.Registered)
    (hok : s.PhaseOk k phase) : s'.PhaseOk k phase' := by
  obtain ⟨hfollows, hids⟩ := h.follows
  cases h with
  | build | fail | install | abandon => trivial
  | broadcast =>
    refine ⟨fun i hi => hi, by simp [Stale], ?_, by simp, by simp⟩
    exact fun i id _ hlive => hreg.live i id hlive
  | visit hidle hlookup => exact hok.visit hreg hidle hlookup
  | next hcurrent hpending => exact hok.next hcurrent hpending
  | deliver hcurrent hpending hstream hpush =>
    refine hok.deliver hfollows hids hcurrent hpending ⟨_, getElem?_set_self hstream _, ?_⟩
    rw [StreamTask.push_cases hpush]
    exact List.mem_append_right _ List.mem_cons_self
  | disconnect hcurrent hstream hclosed => exact hok.disconnect hcurrent hstream hclosed
  | endIteration hover => exact ⟨hok.known, hok.stale, hok.reached hreg hover⟩
  | remove hdisconnected =>
    obtain ⟨hknown, hstale, hreached⟩ := hok
    refine ⟨hknown, ?_, hreached⟩
    intro id' hid' i hlive
    exact hstale id' (hdisconnected ▸ List.mem_cons_of_mem _ hid') i hlive
  | finish => exact ⟨hok.1, hok.2.2⟩

/-- A rebuild takes out no entry of a live stream. -/
theorem RebuildMove.lookup {k version : ℕ} {phase phase' : RebuildPhase} {action : RebuildAction}
    (h : RebuildMove encode s k version phase action s' phase') (hok : s.PhaseOk k phase)
    {i : ℕ} {id : String} (hlive : s.LiveAt i id) :
    s'.registry.lookup id = s.registry.lookup id := by
  cases h with
  | @remove snapshot b id' rest hdisconnected =>
    refine AList.lookup_erase_ne ?_
    rintro rfl
    exact hok.2.1 id (hdisconnected ▸ List.mem_cons_self) i hlive
  | build | fail | install | broadcast | visit | next | deliver | disconnect | endIteration
  | finish | abandon => rfl

/-- A step of a rebuild. -/
theorem Registered.rebuildStep (h : s.Registered) {k : ℕ} {task : RebuildTask}
    {action : RebuildAction} {phase : RebuildPhase} (htask : s.rebuilds[k]? = some task)
    (hmove : RebuildMove encode s k task.version task.phase action s' phase) :
    Registered { s' with rebuilds := s'.rebuilds.set k ⟨task.version, phase⟩ } := by
  obtain ⟨hfollows, hids⟩ := hmove.follows
  have hok := h.rebuilds k task htask
  have hphase := hmove.phaseOk h hok
  have hafter : Follows s' { s' with rebuilds := s'.rebuilds.set k ⟨task.version, phase⟩ } :=
    .of_streams_eq rfl
  refine h.of_follows ⟨hfollows.evolves, hfollows.origin⟩ hids ?_ ?_
  · intro i id hlive
    exact hmove.lookup hok (hfollows.liveAt_of_sameIds hids hlive)
  · intro j other hother
    by_cases hjk : k = j
    · subst hjk
      rw [getElem?_set_self (hmove.rebuilds ▸ htask), Option.some.injEq] at hother
      subst hother
      exact hafter.phaseOk (fun _ _ _ hlive => hlive) hphase
    · rw [List.getElem?_set_ne hjk, hmove.rebuilds] at hother
      refine hafter.phaseOk (fun _ _ _ hlive => hlive) (hfollows.phaseOk ?_ ?_)
      · exact fun _ _ _ hlive => hfollows.liveAt_of_sameIds hids hlive
      · exact h.rebuilds j other hother

theorem Registered.draw (h : s.Registered) (version : ℕ) (config : GatewayConfig) :
    Registered
      { s with versions := version, rebuilds := s.rebuilds ++ [⟨version, .building config⟩] } := by
  have hfollows : Follows s
      { s with versions := version, rebuilds := s.rebuilds ++ [⟨version, .building config⟩] } :=
    .of_streams_eq rfl
  refine h.of_follows hfollows (.of_streams_eq rfl) (fun _ _ _ => rfl) ?_
  intro k task htask
  rcases getElem?_concat_cases htask with hold | ⟨-, rfl⟩
  · exact hfollows.phaseOk (fun _ _ _ hlive => hlive) (h.rebuilds k task hold)
  · trivial

/-- Any step of a run with distinct ids. -/
theorem Registered.step (h : s.Registered) {action : XdsAction} (hdistinct : s.DistinctIds action)
    (hstep : s.step encode action = some s') : s'.Registered := by
  cases Move.of_step hstep with
  | connect => exact h.connect
  | stream hold hmove => exact h.streamStep hold hdistinct hmove
  | draw => exact h.draw _ _
  | rebuild htask hmove => exact h.rebuildStep htask hmove

end Steps

theorem registered_init (snapshot : XdsSnapshot) (version : ℕ) :
    Registered { snapshot := snapshot, versions := version } := by
  refine ⟨?_, ?_, ?_⟩
  · rintro i id ⟨stream, hstream, -⟩
    simp at hstream
  · rintro i j id ⟨stream, hstream, -⟩
    simp at hstream
  · intro k task htask
    simp at htask

/-- As long as streams register under ids that are free, every live stream is in the registry
under its id, and each broadcast that began after its first message and is over has sent it all
four responses. -/
theorem live_stream_registered (encode : Message → Except String (List UInt8))
    (config : GatewayConfig) (s₀ s : XdsControlPlane)
    (hnew : XdsControlPlane.new encode config = .ok s₀)
    (hrun : Run (XdsControlPlane.step encode) DistinctIds s₀ s) (i : ℕ) (stream : StreamTask)
    (id : String) (hstream : s.streams[i]? = some stream) (hlive : stream.Live id) :
    s.registry.lookup id = some i ∧
      ∀ (k : ℕ) (version : ℕ) (snapshot : XdsSnapshot) (b : Broadcast),
        s.rebuilds[k]? = some ⟨version, .finished snapshot b⟩ → b.Present i →
          snapshot.orderedResponses.map DiscoveryResponse.typeUrl = typeUrlsInOrder ∧
            ∀ response ∈ snapshot.orderedResponses, ⟨some k, response⟩ ∈ stream.sent := by
  obtain ⟨snapshot₀, -, hs₀⟩ := Lib.Fallible.eq_ok_of_bind hnew
  obtain rfl := Except.ok.inj hs₀
  have hreg : s.Registered :=
    hrun.invariant (registered_init snapshot₀ 1) fun _ _ _ hs hdistinct hstep =>
      hs.step hdistinct hstep
  have hsound : ∀ task ∈ s.rebuilds, task.Sound :=
    hrun.invariant (by simp) fun _ _ _ hs _ hstep => sound_step hs hstep
  refine ⟨hreg.live i id ⟨stream, hstream, hlive⟩, ?_⟩
  intro k version snapshot b htask hpresent
  obtain ⟨hcomplete, -⟩ := hsound _ (List.mem_of_getElem? htask) snapshot rfl
  refine ⟨hcomplete.typeUrl_orderedResponses, ?_⟩
  intro response hresponse
  obtain ⟨-, hreached⟩ := hreg.rebuilds k _ htask
  obtain ⟨found, hfound, hsent⟩ :=
    hreached i id hpresent ⟨stream, hstream, hlive⟩ response hresponse
  rw [hstream, Option.some.injEq] at hfound
  exact hfound ▸ hsent

/-! ### Two streams -/

/-- A first message of a node. -/
def hello (id : String) : DiscoveryRequest := { node := some ⟨id⟩, typeUrl := clusterTypeUrl }

/-- A stream comes and says who it is. -/
def joining (i : ℕ) (id : String) : List XdsAction := [.connect, .stream i (.receive (hello id))]

/-- A rebuild from start to end that visits the given nodes. -/
def rebuilding (k : ℕ) (ids : List String) : List XdsAction :=
  [.draw (Validation.minimalConfig []), .rebuild k .build, .rebuild k .install,
      .rebuild k .broadcast] ++
    (ids.flatMap fun id => .rebuild k (.visit id) :: List.replicate 5 (.rebuild k .deliver)) ++
    [.rebuild k .endIteration, .rebuild k .remove]

theorem live_stream_registered_two :
    ∃ s stream,
      Run (XdsControlPlane.step wireEncode) DistinctIds minimalControlPlane s ∧
        s.streams[0]? = some stream ∧ s.registry.lookup "envoy-1" = some 0 ∧
        ∀ response ∈ (minimalSnapshot 2).orderedResponses, ⟨some 0, response⟩ ∈ stream.sent := by
  have hrun : runAll (XdsControlPlane.step wireEncode) DistinctIds minimalControlPlane
      (joining 0 "envoy-1" ++ joining 1 "envoy-2" ++ rebuilding 0 ["envoy-1", "envoy-2"]) =
        some _ := rfl
  have hreached := run_of_runAll hrun .init
  have hregistered := live_stream_registered wireEncode (Validation.minimalConfig []) _ _ rfl
    hreached 0 _ "envoy-1" rfl (by decide)
  exact ⟨_, _, hreached, rfl, hregistered.1, (hregistered.2 0 2 _ _ rfl ⟨_, _, rfl, rfl⟩).2⟩

/-- Two streams under one id: the first one ends, and its cleanup takes out the entry of the
second one, which is live and gets nothing of the next rebuild. -/
theorem second_stream_unregistered :
    ∃ s stream snapshot b,
      Run (XdsControlPlane.step wireEncode) (fun _ _ => True) minimalControlPlane s ∧
        s.streams[1]? = some stream ∧ stream.Live "envoy-1" ∧
        s.registry.lookup "envoy-1" = none ∧
        s.rebuilds[0]? = some ⟨2, .finished snapshot b⟩ ∧ b.Present 1 ∧ stream.sent = [] := by
  have hrun : runAll (XdsControlPlane.step wireEncode) (fun _ _ => True) minimalControlPlane
      (joining 0 "envoy-1" ++ joining 1 "envoy-1" ++
        [.stream 0 .readSnapshot, .stream 0 .send, .stream 0 .send, .stream 0 .endInbound,
          .stream 0 .cleanup] ++ rebuilding 0 []) = some _ := rfl
  exact ⟨_, _, _, _, run_of_runAll hrun .init, rfl, by decide, by decide, rfl,
    ⟨_, _, rfl, rfl⟩, rfl⟩

end XdsControlPlane

end Xds
end OpenApiGateway
