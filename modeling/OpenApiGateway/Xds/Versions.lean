import OpenApiGateway.Xds.Server

/-!
# Snapshot versions

A rebuild draws its version before it builds and installs its snapshot afterwards, so of two
rebuilds at once the older may install last. A stream's task sends from the snapshot it took
while a broadcast of a newer one puts its responses into the same channel.

`versions_never_decrease` says when versions are in order all the same: a rebuild draws its version
when no earlier one can still install or send anything, and a broadcast sends to a stream only
while its task holds no unsent response of an older snapshot.
-/

namespace OpenApiGateway
namespace Xds

open Lib.TransitionSystem

/-- The version of the first response is at most that of the second one. -/
def NotNewer (first second : DiscoveryResponse) : Prop :=
  ∃ v w : ℕ, first.versionInfo = toString v ∧ second.versionInfo = toString w ∧ v ≤ w

/-- No response in the log is of a later version. -/
def AtMost (sent : List Sent) (version : ℕ) : Prop :=
  ∀ entry ∈ sent, ∃ v ≤ version, entry.response.versionInfo = toString v

theorem AtMost.mono {sent : List Sent} {v w : ℕ} (h : AtMost sent v) (hvw : v ≤ w) :
    AtMost sent w := by
  intro entry hentry
  obtain ⟨u, hu, hinfo⟩ := h entry hentry
  exact ⟨u, hu.trans hvw, hinfo⟩

theorem AtMost.concat {sent : List Sent} {entry : Sent} {v : ℕ} (h : AtMost sent v)
    (hentry : entry.response.versionInfo = toString v) : AtMost (sent ++ [entry]) v := by
  intro other hother
  rcases List.mem_append.mp hother with hother | hother
  · exact h other hother
  · rw [List.mem_singleton] at hother
    exact ⟨v, le_rfl, hother ▸ hentry⟩

/-- A log in order stays so with a response that is at least as new as all of it. -/
theorem AtMost.pairwise_concat {sent : List Sent} {entry : Sent} {v : ℕ} (h : AtMost sent v)
    (hsorted : sent.Pairwise fun a b => NotNewer a.response b.response)
    (hentry : entry.response.versionInfo = toString v) :
    (sent ++ [entry]).Pairwise fun a b => NotNewer a.response b.response := by
  rw [List.pairwise_append]
  refine ⟨hsorted, List.pairwise_singleton _ _, ?_⟩
  intro earlier hearlier last hlast
  rw [List.mem_singleton] at hlast
  obtain ⟨u, hu, hinfo⟩ := h earlier hearlier
  exact ⟨u, v, hinfo, hlast ▸ hentry, hu⟩

/-! ## Streams -/

/-- The task holds unsent responses of a snapshot older than the version. -/
def StreamTask.HoldsOlder (stream : StreamTask) (version : ℕ) : Prop :=
  match stream.phase with
  | .sending snapshot (_ :: _) => snapshot.version < version
  | _ => False

instance (stream : StreamTask) (version : ℕ) : Decidable (stream.HoldsOlder version) := by
  unfold StreamTask.HoldsOlder
  split <;> infer_instance

/-- What was sent on the stream is in order and not newer than what is installed, and what its
task still sends is not older than what was sent. -/
structure StreamTask.InOrder (stream : StreamTask) (installed : ℕ) : Prop where
  sorted : stream.sent.Pairwise fun a b => NotNewer a.response b.response
  atMost : AtMost stream.sent installed
  sending : ∀ snapshot pending, stream.phase = .sending snapshot pending →
    snapshot.version ≤ installed ∧
      (∀ response ∈ pending, response.versionInfo = toString snapshot.version) ∧
      (pending ≠ [] → AtMost stream.sent snapshot.version)

namespace StreamTask
variable {old new : StreamTask} {installed : ℕ}

theorem InOrder.mono {later : ℕ} (h : old.InOrder installed) (hle : installed ≤ later) :
    old.InOrder later := by
  refine ⟨h.sorted, h.atMost.mono hle, ?_⟩
  intro snapshot pending hphase
  obtain ⟨hversion, hrest⟩ := h.sending snapshot pending hphase
  exact ⟨hversion.trans hle, hrest⟩

/-- A step that neither sends nor begins to send. -/
theorem InOrder.of_sent_eq (h : old.InOrder installed) (hsent : new.sent = old.sent)
    (hphase : new.phase = old.phase ∨ ∀ snapshot pending, new.phase ≠ .sending snapshot pending) :
    new.InOrder installed := by
  refine ⟨hsent ▸ h.sorted, hsent ▸ h.atMost, ?_⟩
  intro snapshot pending hsending
  rcases hphase with hsame | hnot
  · rw [hsent]
    exact h.sending snapshot pending (hsame ▸ hsending)
  · exact absurd hsending (hnot snapshot pending)

/-- The next response of the task's own answer. -/
theorem InOrder.send (h : old.InOrder installed) {snapshot : XdsSnapshot}
    {response : DiscoveryResponse} {rest : List DiscoveryResponse}
    (hphase : old.phase = .sending snapshot (response :: rest))
    (hpush : old.push none response = some new) :
    InOrder { new with phase := .sending snapshot rest } installed := by
  obtain ⟨hversion, hpending, hsent⟩ := h.sending snapshot _ hphase
  have hatMost := hsent (List.cons_ne_nil _ _)
  have hresponse := hpending response List.mem_cons_self
  rw [push_cases hpush]
  refine ⟨hatMost.pairwise_concat h.sorted hresponse, (hatMost.concat hresponse).mono hversion, ?_⟩
  intro other pending hother
  obtain ⟨rfl, rfl⟩ := StreamPhase.sending.inj hother
  refine ⟨hversion, ?_, fun _ => hatMost.concat hresponse⟩
  exact fun r hr => hpending r (List.mem_cons_of_mem _ hr)

/-- A response of the installed version that a broadcast sends. -/
theorem InOrder.deliver (h : old.InOrder installed) {rebuild : Option ℕ}
    {response : DiscoveryResponse} (hresponse : response.versionInfo = toString installed)
    (holder : ¬ old.HoldsOlder installed) (hpush : old.push rebuild response = some new) :
    new.InOrder installed := by
  rw [push_cases hpush]
  refine ⟨h.atMost.pairwise_concat h.sorted hresponse, h.atMost.concat hresponse, ?_⟩
  intro snapshot pending hphase
  obtain ⟨hversion, hpending, -⟩ := h.sending snapshot pending hphase
  refine ⟨hversion, hpending, ?_⟩
  intro hne
  -- the task holds unsent responses, so they are not older than the installed version
  obtain ⟨first, rest, rfl⟩ := List.exists_cons_of_ne_nil hne
  have hle : installed ≤ snapshot.version := by
    rw [HoldsOlder, hphase, not_lt] at holder
    exact holder
  exact (h.atMost.concat hresponse).mono hle

end StreamTask

/-! ## Rebuilds -/

/-- The rebuild installs and sends nothing any more. -/
def RebuildPhase.Quiet : RebuildPhase → Prop
  | .removing _ _ | .finished _ _ | .failed _ | .abandoned => True
  | .building _ | .built _ | .installed _ | .iterating _ _ => False

instance (phase : RebuildPhase) : Decidable phase.Quiet := by
  cases phase <;> unfold RebuildPhase.Quiet <;> infer_instance

/-- The stream that a broadcast is sending to. -/
def RebuildPhase.target : RebuildPhase → Option ℕ
  | .iterating _ b => b.current.map Delivery.stream
  | _ => none

/-- A rebuild that is not quiet has drawn the latest version; what it broadcasts is installed. -/
def RebuildTask.Latest (task : RebuildTask) (versions installed : ℕ) : Prop :=
  match task.phase with
  | .building _ | .built _ => task.version = versions
  | .installed _ => task.version = versions ∧ installed = versions
  | .iterating _ b =>
    task.version = versions ∧ installed = versions ∧
      ∀ delivery, b.current = some delivery →
        ∀ response ∈ delivery.pending, response.versionInfo = toString versions
  | .removing _ _ | .finished _ _ | .failed _ | .abandoned => True

theorem RebuildTask.latest_of_quiet {task : RebuildTask} (h : task.phase.Quiet)
    (versions installed : ℕ) : task.Latest versions installed := by
  unfold RebuildTask.Latest
  cases hphase : task.phase <;> simp_all [RebuildPhase.Quiet]

/-- Installing the latest version keeps what every rebuild has. -/
theorem RebuildTask.Latest.install {task : RebuildTask} {versions installed : ℕ}
    (h : task.Latest versions installed) : task.Latest versions versions := by
  unfold RebuildTask.Latest at h ⊢
  cases hphase : task.phase <;> simp_all

namespace XdsControlPlane

/-- A rebuild draws its version when all others are quiet and the counter does not wrap, and a
broadcast sends to a stream only while its task holds nothing older. -/
def Serialized (s : XdsControlPlane) : XdsAction → Prop
  | .draw _ => s.versions + 1 < 2 ^ 64 ∧ ∀ task ∈ s.rebuilds, task.phase.Quiet
  | .rebuild k .deliver =>
    ∀ task ∈ s.rebuilds[k]?, ∀ i ∈ task.phase.target, ∀ stream ∈ s.streams[i]?,
      ¬ stream.HoldsOlder task.version
  | _ => True

instance (s : XdsControlPlane) (action : XdsAction) : Decidable (s.Serialized action) :=
  match action with
  | .draw _ =>
    inferInstanceAs (Decidable (s.versions + 1 < 2 ^ 64 ∧ ∀ task ∈ s.rebuilds, task.phase.Quiet))
  | .rebuild k .deliver =>
    inferInstanceAs (Decidable (∀ task ∈ s.rebuilds[k]?, ∀ i ∈ task.phase.target,
      ∀ stream ∈ s.streams[i]?, ¬ stream.HoldsOlder task.version))
  | .rebuild _ .build | .rebuild _ .install | .rebuild _ .broadcast | .rebuild _ (.visit _)
  | .rebuild _ .endIteration | .rebuild _ .remove | .rebuild _ .abandon | .connect
  | .stream _ _ => isTrue trivial

structure Ordered (s : XdsControlPlane) : Prop where
  installed : s.snapshot.version ≤ s.versions
  sound : ∀ task ∈ s.rebuilds, task.Sound
  rebuilds : ∀ task ∈ s.rebuilds, task.Latest s.versions s.snapshot.version
  streams : ∀ stream ∈ s.streams, stream.InOrder s.snapshot.version

section Steps
variable {encode : Message → Except String (List UInt8)} {s s' : XdsControlPlane}

theorem StreamMove.inOrder {i : ℕ} {old new : StreamTask} {action : StreamAction}
    {registry : XdsRegistry} (h : StreamMove s i old action new registry)
    (hold : old.InOrder s.snapshot.version) : new.InOrder s.snapshot.version := by
  cases h with
  | readSnapshot hphase =>
    refine ⟨hold.sorted, hold.atMost, ?_⟩
    intro snapshot pending hsending
    obtain ⟨rfl, rfl⟩ := StreamPhase.sending.inj hsending
    refine ⟨le_rfl, ?_, fun _ => hold.atMost⟩
    intro response hresponse
    obtain ⟨typeUrl, hfor⟩ := XdsSnapshot.responseFor_of_mem_answer hresponse
    exact XdsSnapshot.versionInfo_of_responseFor hfor
  | send hphase hpush => exact hold.send hphase hpush
  | first | receive | stop | endInbound | cleanup | cleanupUnknown =>
    exact hold.of_sent_eq rfl (Or.inr (by simp))
  | take | close => exact hold.of_sent_eq rfl (Or.inl rfl)

section Rebuild
variable {k version : ℕ} {phase phase' : RebuildPhase} {action : RebuildAction}
  (h : RebuildMove encode s k version phase action s' phase')
  (hsound : RebuildTask.Sound ⟨version, phase⟩)
  (hlatest : RebuildTask.Latest ⟨version, phase⟩ s.versions s.snapshot.version)
include h hsound hlatest

/-- A rebuild changes nothing about versions, or it installs the latest one. -/
theorem RebuildMove.versions :
    s'.versions = s.versions ∧
      (s'.snapshot = s.snapshot ∨ s'.snapshot.version = s.versions) := by
  cases h with
  | install => exact ⟨rfl, Or.inr ((hsound _ rfl).2.trans hlatest)⟩
  | build | fail | broadcast | visit | next | deliver | disconnect | endIteration | remove
  | finish | abandon => exact ⟨rfl, Or.inl rfl⟩

theorem RebuildMove.latest :
    RebuildTask.Latest ⟨version, phase'⟩ s'.versions s'.snapshot.version := by
  cases h with
  | build => exact hlatest
  | install => exact ⟨hlatest, (hsound _ rfl).2.trans hlatest⟩
  | broadcast => exact ⟨hlatest.1, hlatest.2, by simp⟩
  | visit hcurrent hlookup =>
    refine ⟨hlatest.1, hlatest.2.1, ?_⟩
    intro delivery hdelivery response hresponse
    obtain rfl := Option.some.inj hdelivery
    obtain ⟨typeUrl, hfor⟩ := XdsSnapshot.responseFor_of_mem_orderedResponses hresponse
    rw [XdsSnapshot.versionInfo_of_responseFor hfor, (hsound _ rfl).2, hlatest.1]
  | next => exact ⟨hlatest.1, hlatest.2.1, by simp⟩
  | deliver hcurrent hpending hstream hpush =>
    refine ⟨hlatest.1, hlatest.2.1, ?_⟩
    intro delivery hdelivery response hresponse
    obtain rfl := Option.some.inj hdelivery
    exact hlatest.2.2 _ hcurrent response (hpending ▸ List.mem_cons_of_mem _ hresponse)
  | disconnect => exact ⟨hlatest.1, hlatest.2.1, by simp⟩
  | fail | endIteration | remove | finish | abandon => trivial

theorem RebuildMove.inOrder (hinstalled : s.snapshot.version ≤ s.versions)
    (hstreams : ∀ stream ∈ s.streams, stream.InOrder s.snapshot.version)
    (holder : action = .deliver → ∀ i ∈ phase.target, ∀ stream ∈ s.streams[i]?,
      ¬ stream.HoldsOlder version) :
    ∀ stream ∈ s'.streams, stream.InOrder s'.snapshot.version := by
  cases h with
  | @install snapshot =>
    intro stream hstream
    have hversion : snapshot.version = s.versions := (hsound _ rfl).2.trans hlatest
    exact (hstreams stream hstream).mono (hversion ▸ hinstalled)
  | @deliver snapshot b delivery response rest old new hcurrent hpending hstream hpush =>
    obtain ⟨hversion, hcurrently, hresponses⟩ := hlatest
    intro stream hmem
    rcases List.mem_or_eq_of_mem_set hmem with hmem | rfl
    · exact hstreams stream hmem
    · have htarget : delivery.stream ∈ (RebuildPhase.iterating snapshot b).target := by
        simp [RebuildPhase.target, hcurrent]
      have hnot := holder rfl delivery.stream htarget old hstream
      have hresponse := hresponses delivery hcurrent response (hpending ▸ List.mem_cons_self)
      rw [← hcurrently] at hresponse
      refine (hstreams old (List.mem_of_getElem? hstream)).deliver hresponse ?_ hpush
      rw [hcurrently, ← hversion]
      exact hnot
  | build | fail | broadcast | visit | next | disconnect | endIteration | remove | finish
  | abandon => exact hstreams

end Rebuild

theorem Ordered.rebuildStep (h : s.Ordered) {k : ℕ} {task : RebuildTask} {action : RebuildAction}
    {phase : RebuildPhase} (htask : s.rebuilds[k]? = some task)
    (hserialized : s.Serialized (.rebuild k action))
    (hmove : RebuildMove encode s k task.version task.phase action s' phase) :
    Ordered { s' with rebuilds := s'.rebuilds.set k ⟨task.version, phase⟩ } := by
  have hmem := List.mem_of_getElem? htask
  have hsound := h.sound task hmem
  have hlatest := h.rebuilds task hmem
  obtain ⟨hversions, hsnapshot⟩ := hmove.versions hsound hlatest
  constructor
  case installed =>
    rcases hsnapshot with heq | heq
    · exact heq ▸ hversions ▸ h.installed
    · exact hversions ▸ heq.le
  case sound =>
    intro other hother
    rcases List.mem_or_eq_of_mem_set hother with hother | rfl
    · exact h.sound other (hmove.rebuilds ▸ hother)
    · exact hmove.sound hsound
  case rebuilds =>
    intro other hother
    rcases List.mem_or_eq_of_mem_set hother with hother | rfl
    · have hold := h.rebuilds other (hmove.rebuilds ▸ hother)
      rcases hsnapshot with heq | heq
      · exact heq ▸ hversions ▸ hold
      · simp only [hversions, heq]
        exact hold.install
    · exact hmove.latest hsound hlatest
  case streams =>
    refine hmove.inOrder hsound hlatest h.installed h.streams ?_
    rintro rfl i hi stream hstream
    exact hserialized task htask i hi stream hstream

theorem Ordered.draw (h : s.Ordered) (config : GatewayConfig)
    (hserialized : s.Serialized (.draw config)) :
    Ordered
      { s with
        versions := (s.versions + 1) % 2 ^ 64
        rebuilds := s.rebuilds ++ [⟨(s.versions + 1) % 2 ^ 64, .building config⟩] } := by
  obtain ⟨hlt, hquiet⟩ := hserialized
  rw [Nat.mod_eq_of_lt hlt]
  refine ⟨h.installed.trans (Nat.le_succ _), ?_, ?_, h.streams⟩
  · exact List.forall_mem_append.mpr ⟨h.sound, List.forall_mem_singleton.mpr (.building _ _)⟩
  · refine List.forall_mem_append.mpr ⟨?_, List.forall_mem_singleton.mpr rfl⟩
    exact fun task htask => RebuildTask.latest_of_quiet (hquiet task htask) _ _

theorem Ordered.step (h : s.Ordered) {action : XdsAction} (hserialized : s.Serialized action)
    (hstep : s.step encode action = some s') :
    s'.Ordered ∧ s.snapshot.version ≤ s'.snapshot.version := by
  cases Move.of_step hstep with
  | connect =>
    refine ⟨⟨h.installed, h.sound, h.rebuilds, ?_⟩, le_rfl⟩
    refine List.forall_mem_append.mpr ⟨h.streams, List.forall_mem_singleton.mpr ?_⟩
    exact ⟨List.Pairwise.nil, by simp [AtMost], by simp⟩
  | stream hold hmove =>
    refine ⟨⟨h.installed, h.sound, h.rebuilds, ?_⟩, le_rfl⟩
    intro stream hstream
    rcases List.mem_or_eq_of_mem_set hstream with hstream | rfl
    · exact h.streams stream hstream
    · exact hmove.inOrder (h.streams _ (List.mem_of_getElem? hold))
  | draw => exact ⟨h.draw _ hserialized, le_rfl⟩
  | rebuild htask hmove =>
    refine ⟨h.rebuildStep htask hserialized hmove, ?_⟩
    have hmem := List.mem_of_getElem? htask
    rcases (hmove.versions (h.sound _ hmem) (h.rebuilds _ hmem)).2 with heq | heq
    · exact (congrArg XdsSnapshot.version heq).ge
    · exact h.installed.trans heq.ge

end Steps

theorem ordered_init {snapshot : XdsSnapshot} (hversion : snapshot.version = 1) :
    Ordered { snapshot := snapshot, versions := 1 } :=
  ⟨hversion.le, by simp, by simp, by simp⟩

/-- As long as rebuilds draw their versions one after the other and broadcasts wait for older
answers, no step installs an older snapshot, and on every stream the versions of each type are
in order. -/
theorem versions_never_decrease (encode : Message → Except String (List UInt8))
    (config : GatewayConfig) (s₀ s : XdsControlPlane)
    (hnew : XdsControlPlane.new encode config = .ok s₀)
    (hrun : Run (XdsControlPlane.step encode) Serialized s₀ s) :
    (∀ action s', s.Serialized action → s.step encode action = some s' →
        s.snapshot.version ≤ s'.snapshot.version) ∧
      ∀ stream ∈ s.streams, ∀ typeUrl,
        ((stream.sent.map Sent.response).filter (·.typeUrl = typeUrl)).Pairwise NotNewer := by
  obtain ⟨snapshot₀, hbuild, hs₀⟩ := Lib.Fallible.eq_ok_of_bind hnew
  obtain rfl := Except.ok.inj hs₀
  have hordered : s.Ordered :=
    hrun.invariant (ordered_init (XdsSnapshot.version_of_build hbuild))
      fun _ _ _ hs hserialized hstep => (hs.step hserialized hstep).1
  refine ⟨fun action s' hserialized hstep => (hordered.step hserialized hstep).2, ?_⟩
  intro stream hstream typeUrl
  exact (List.pairwise_map.mpr (hordered.streams stream hstream).sorted).filter _

/-! ### A rebuild and a request -/

/-- A stream that asks for the clusters, and whose task has taken a snapshot. -/
def asking : List XdsAction :=
  [.connect, .stream 0 (.receive { typeUrl := clusterTypeUrl }), .stream 0 .readSnapshot]

/-- A rebuild that has installed its snapshot and begins to broadcast it. -/
def broadcasting (k : ℕ) : List XdsAction :=
  [.draw (Validation.minimalConfig []), .rebuild k .build, .rebuild k .install,
    .rebuild k .broadcast, .rebuild k (.visit "unknown")]

/-- The task sends its answer before the broadcast comes to the stream. -/
theorem versions_never_decrease_answer_first :
    ∃ s stream,
      Run (XdsControlPlane.step wireEncode) Serialized minimalControlPlane s ∧
        s.streams = [stream] ∧
        (stream.sent.map fun entry => entry.response.versionInfo) = ["1", "2"] ∧
        ((stream.sent.map Sent.response).filter
          (·.typeUrl = clusterTypeUrl)).Pairwise NotNewer := by
  have hrun : runAll (XdsControlPlane.step wireEncode) Serialized minimalControlPlane
      (asking ++ broadcasting 0 ++ [.stream 0 .send, .rebuild 0 .deliver]) = some _ := rfl
  have hreached := run_of_runAll hrun .init
  have hversions :=
    versions_never_decrease wireEncode (Validation.minimalConfig []) _ _ rfl hreached
  exact ⟨_, _, hreached, rfl, rfl, hversions.2 _ List.mem_cons_self clusterTypeUrl⟩

/-- Of two rebuilds at once the older one installs last; and a task that took the first snapshot
sends its answer after the broadcast of the second one. -/
theorem versions_go_backwards :
    (∃ s s' : XdsControlPlane,
      Run (XdsControlPlane.step wireEncode) (fun _ _ => True) minimalControlPlane s ∧
        s.step wireEncode (.rebuild 0 .install) = some s' ∧
        s.snapshot.version = 3 ∧ s'.snapshot.version = 2) ∧
      ∃ s stream,
        Run (XdsControlPlane.step wireEncode) (fun _ _ => True) minimalControlPlane s ∧
          s.streams = [stream] ∧
          (stream.sent.map fun entry => entry.response.typeUrl) =
            [clusterTypeUrl, clusterTypeUrl] ∧
          (stream.sent.map fun entry => entry.response.versionInfo) = ["2", "1"] := by
  have hrebuilds : runAll (XdsControlPlane.step wireEncode) (fun _ _ => True) minimalControlPlane
      [.draw (Validation.minimalConfig []), .draw (Validation.minimalConfig []), .rebuild 0 .build,
        .rebuild 1 .build, .rebuild 1 .install] = some _ := rfl
  have hanswer : runAll (XdsControlPlane.step wireEncode) (fun _ _ => True) minimalControlPlane
      (asking ++ broadcasting 0 ++ [.rebuild 0 .deliver, .stream 0 .send]) = some _ := rfl
  exact ⟨⟨_, _, run_of_runAll hrebuilds .init, rfl, rfl, rfl⟩,
    _, _, run_of_runAll hanswer .init, rfl, rfl, rfl⟩

end XdsControlPlane

end Xds
end OpenApiGateway
