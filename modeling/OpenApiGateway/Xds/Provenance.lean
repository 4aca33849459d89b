import OpenApiGateway.Xds.PeerStatus
import OpenApiGateway.Xds.Versions

/-!
# Where responses come from

Rebuilds overlap, streams answer from the snapshot they took, and a version is drawn before its
snapshot is built. Whatever the order of all this, a version stands for one config:
`responses_genuine` says that a response of version `n` is what the `n`-th loaded config gives for
its type, on whatever stream it was sent.
-/

namespace OpenApiGateway
namespace Xds

open Lib.TransitionSystem

/-! ## The configs of a run -/

/-- The config that an action starts a rebuild with. -/
def XdsAction.drawn : XdsAction → Option GatewayConfig
  | .draw config => some config
  | _ => none

/-- The configs of the rebuilds of a run, in the order they drew their versions. -/
def drawnConfigs (actions : List XdsAction) : List GatewayConfig :=
  actions.filterMap XdsAction.drawn

theorem drawnConfigs_concat (actions : List XdsAction) (action : XdsAction) :
    drawnConfigs (actions ++ [action]) = drawnConfigs actions ++ action.drawn.toList := by
  rw [drawnConfigs, filterMap_concat]
  rfl

section Genuine
variable (encode : Message → Except String (List UInt8)) (configs : List GatewayConfig)

/-- The snapshot of one of the configs, with the position of the config as its version. Versions
start at 1. -/
def BuiltFrom (snapshot : XdsSnapshot) : Prop :=
  ∃ n config, configs[n]? = some config ∧ XdsSnapshot.build encode config (n + 1) = .ok snapshot

/-- A response from the snapshot of one of the configs. -/
def Genuine (response : DiscoveryResponse) : Prop :=
  ∃ snapshot, BuiltFrom encode configs snapshot ∧
    snapshot.responseFor response.typeUrl = some response

end Genuine

section Genuine
variable {encode : Message → Except String (List UInt8)} {configs : List GatewayConfig}
  {snapshot : XdsSnapshot} {response other : DiscoveryResponse}

theorem BuiltFrom.mono (h : BuiltFrom encode configs snapshot) (more : List GatewayConfig) :
    BuiltFrom encode (configs ++ more) snapshot := by
  obtain ⟨n, config, hconfig, hbuild⟩ := h
  have hlt : n < configs.length := (List.getElem?_eq_some_iff.mp hconfig).1
  exact ⟨n, config, by rw [List.getElem?_append_left hlt, hconfig], hbuild⟩

theorem Genuine.mono (h : Genuine encode configs response) (more : List GatewayConfig) :
    Genuine encode (configs ++ more) response := by
  obtain ⟨snapshot, hbuilt, hresponse⟩ := h
  exact ⟨snapshot, hbuilt.mono more, hresponse⟩

theorem BuiltFrom.genuine (h : BuiltFrom encode configs snapshot) {typeUrl : String}
    (hresponse : snapshot.responseFor typeUrl = some response) :
    Genuine encode configs response := by
  refine ⟨snapshot, h, ?_⟩
  rw [XdsSnapshot.typeUrl_of_responseFor hresponse]
  exact hresponse

/-- Type and version determine a response. -/
theorem Genuine.eq_of_versionInfo (h : Genuine encode configs response)
    (hother : Genuine encode configs other) (htype : response.typeUrl = other.typeUrl)
    (hversion : response.versionInfo = other.versionInfo) : response = other := by
  obtain ⟨snapshot, ⟨n, config, hconfig, hbuild⟩, hresponse⟩ := h
  obtain ⟨snapshot', ⟨n', config', hconfig', hbuild'⟩, hresponse'⟩ := hother
  -- the version is the position of the config
  have hn : n = n' := by
    rw [XdsSnapshot.versionInfo_of_responseFor hresponse,
      XdsSnapshot.versionInfo_of_responseFor hresponse'] at hversion
    have hsame := Lib.Text.toString_nat_injective hversion
    rw [XdsSnapshot.version_of_build hbuild, XdsSnapshot.version_of_build hbuild'] at hsame
    omega
  subst hn
  have hconfigs : config = config' := Option.some.inj (hconfig.symm.trans hconfig')
  subst hconfigs
  have hsnapshots : snapshot = snapshot' := Except.ok.inj (hbuild.symm.trans hbuild')
  subst hsnapshots
  rw [htype] at hresponse
  exact Option.some.inj (hresponse.symm.trans hresponse')

end Genuine

/-! ## Every response is genuine -/

/-- The responses that a rebuild is sending to a stream. -/
def RebuildPhase.delivery : RebuildPhase → Option Delivery
  | .iterating _ b => b.current
  | _ => none

/-- A rebuild works for the config at the position of its version. -/
structure RebuildTask.FromHistory (task : RebuildTask)
    (encode : Message → Except String (List UInt8)) (configs : List GatewayConfig) : Prop where
  building : ∀ config, task.phase = .building config →
    ∃ n, task.version = n + 1 ∧ configs[n]? = some config
  snapshot : ∀ snapshot, task.phase.snapshot = some snapshot → BuiltFrom encode configs snapshot
  pending : ∀ delivery, task.phase.delivery = some delivery →
    ∀ response ∈ delivery.pending, Genuine encode configs response

structure StreamTask.FromHistory (stream : StreamTask)
    (encode : Message → Except String (List UInt8)) (configs : List GatewayConfig) : Prop where
  sending : ∀ snapshot pending, stream.phase = .sending snapshot pending →
    ∀ response ∈ pending, Genuine encode configs response
  sent : ∀ entry ∈ stream.sent, Genuine encode configs entry.response

namespace XdsControlPlane

/-- Everything the control plane holds and has sent is from the configs, and the next version is
that of the next config. -/
structure FromHistory (s : XdsControlPlane) (encode : Message → Except String (List UInt8))
    (configs : List GatewayConfig) : Prop where
  versions : s.versions = configs.length
  installed : BuiltFrom encode configs s.snapshot
  rebuilds : ∀ task ∈ s.rebuilds, task.FromHistory encode configs
  streams : ∀ stream ∈ s.streams, stream.FromHistory encode configs

end XdsControlPlane

section Steps
variable {encode : Message → Except String (List UInt8)} {configs : List GatewayConfig}

theorem RebuildTask.FromHistory.mono {task : RebuildTask} (h : task.FromHistory encode configs)
    (more : List GatewayConfig) : task.FromHistory encode (configs ++ more) := by
  refine ⟨?_, fun snapshot hsnapshot => (h.snapshot snapshot hsnapshot).mono more, ?_⟩
  · intro config hphase
    obtain ⟨n, hversion, hconfig⟩ := h.building config hphase
    have hlt : n < configs.length := (List.getElem?_eq_some_iff.mp hconfig).1
    exact ⟨n, hversion, by rw [List.getElem?_append_left hlt, hconfig]⟩
  · intro delivery hdelivery response hresponse
    exact (h.pending delivery hdelivery response hresponse).mono more

/-- A rebuild that has just drawn its version. -/
theorem RebuildTask.FromHistory.drawn (config : GatewayConfig) :
    RebuildTask.FromHistory ⟨configs.length + 1, .building config⟩
      encode (configs ++ [config]) := by
  refine ⟨?_, by simp [RebuildPhase.snapshot], by simp [RebuildPhase.delivery]⟩
  intro config' hphase
  rw [RebuildPhase.building.injEq] at hphase
  exact ⟨configs.length, rfl, by simp [hphase]⟩

/-- A rebuild that builds and sends nothing any more, or nothing yet. -/
theorem RebuildTask.FromHistory.idle {version : ℕ} {phase : RebuildPhase}
    (hbuilding : ∀ config, phase ≠ .building config) (hdelivery : phase.delivery = none)
    (hsnapshot : ∀ snapshot, phase.snapshot = some snapshot → BuiltFrom encode configs snapshot) :
    RebuildTask.FromHistory ⟨version, phase⟩ encode configs :=
  ⟨fun config hphase => absurd hphase (hbuilding config), hsnapshot, by simp [hdelivery]⟩

namespace StreamTask
variable {old new : StreamTask}

theorem FromHistory.mono (h : old.FromHistory encode configs) (more : List GatewayConfig) :
    old.FromHistory encode (configs ++ more) := by
  refine ⟨?_, fun entry hentry => (h.sent entry hentry).mono more⟩
  intro snapshot pending hphase response hresponse
  exact (h.sending snapshot pending hphase response hresponse).mono more

theorem FromHistory.push (h : old.FromHistory encode configs) {rebuild : Option ℕ}
    {response : DiscoveryResponse} (hresponse : Genuine encode configs response)
    (hpush : old.push rebuild response = some new) : new.FromHistory encode configs := by
  rw [push_cases hpush]
  refine ⟨h.sending, ?_⟩
  exact List.forall_mem_append.mpr ⟨h.sent, List.forall_mem_singleton.mpr hresponse⟩

/-- A step that sends nothing and takes no snapshot. -/
theorem FromHistory.of_sent_eq (h : old.FromHistory encode configs) (hsent : new.sent = old.sent)
    (hphase : new.phase = old.phase ∨ ∀ snapshot pending, new.phase ≠ .sending snapshot pending) :
    new.FromHistory encode configs := by
  refine ⟨?_, hsent ▸ h.sent⟩
  intro snapshot pending hsending
  rcases hphase with hsame | hnot
  · exact h.sending snapshot pending (hsame ▸ hsending)
  · exact absurd hsending (hnot snapshot pending)

end StreamTask

namespace XdsControlPlane
variable {s s' : XdsControlPlane}

theorem StreamMove.fromHistory {i : ℕ} {old new : StreamTask} {action : StreamAction}
    {registry : XdsRegistry} (h : StreamMove s i old action new registry)
    (hinstalled : BuiltFrom encode configs s.snapshot) (hold : old.FromHistory encode configs) :
    new.FromHistory encode configs := by
  cases h with
  | @readSnapshot message hphase =>
    refine ⟨?_, hold.sent⟩
    intro snapshot pending hsending response hresponse
    obtain ⟨rfl, rfl⟩ := StreamPhase.sending.inj hsending
    obtain ⟨typeUrl, hfor⟩ := XdsSnapshot.responseFor_of_mem_answer hresponse
    exact hinstalled.genuine hfor
  | @send snapshot response rest pushed hphase hpush =>
    have hpending := hold.sending snapshot _ hphase
    have hsent := (hold.push (hpending response List.mem_cons_self) hpush).sent
    refine ⟨?_, hsent⟩
    intro snapshot' pending hsending r hr
    obtain ⟨rfl, rfl⟩ := StreamPhase.sending.inj hsending
    exact hpending r (List.mem_cons_of_mem _ hr)
  | first | receive | stop | endInbound | cleanup | cleanupUnknown =>
    exact hold.of_sent_eq rfl (Or.inr (by simp))
  | take | close => exact hold.of_sent_eq rfl (Or.inl rfl)

section Rebuild
variable {k version : ℕ} {phase phase' : RebuildPhase} {action : RebuildAction}
  (h : RebuildMove encode s k version phase action s' phase')
  (htask : RebuildTask.FromHistory ⟨version, phase⟩ encode configs)
include h htask

theorem RebuildMove.fromHistory : RebuildTask.FromHistory ⟨version, phase'⟩ encode configs := by
  cases h with
  | build hbuild =>
    obtain ⟨n, hversion, hconfig⟩ := htask.building _ rfl
    refine .idle (by simp) rfl ?_
    intro snapshot hsnapshot
    rw [← Option.some.inj hsnapshot]
    have hn : version = n + 1 := hversion
    exact ⟨n, _, hconfig, hn ▸ hbuild⟩
  | @visit snapshot b id i hcurrent hlookup =>
    have hbuilt : BuiltFrom encode configs snapshot := htask.snapshot snapshot rfl
    refine ⟨by simp, htask.snapshot, ?_⟩
    intro delivery hdelivery response hresponse
    rw [← Option.some.inj hdelivery] at hresponse
    obtain ⟨typeUrl, hfor⟩ := XdsSnapshot.responseFor_of_mem_orderedResponses hresponse
    exact hbuilt.genuine hfor
  | @deliver snapshot b delivery response rest old new hcurrent hpending hstream hpush =>
    refine ⟨by simp, htask.snapshot, ?_⟩
    intro delivery' hdelivery r hr
    rw [← Option.some.inj hdelivery] at hr
    exact htask.pending delivery hcurrent r (hpending ▸ List.mem_cons_of_mem _ hr)
  | install | broadcast | next | disconnect | endIteration | remove | finish =>
    exact .idle (by simp) rfl htask.snapshot
  | fail | abandon => exact .idle (by simp) rfl (by simp [RebuildPhase.snapshot])

theorem RebuildMove.fromHistory_streams
    (hstreams : ∀ stream ∈ s.streams, stream.FromHistory encode configs) :
    ∀ stream ∈ s'.streams, stream.FromHistory encode configs := by
  cases h with
  | @deliver snapshot b delivery response rest old new hcurrent hpending hstream hpush =>
    intro stream hmem
    rcases List.mem_or_eq_of_mem_set hmem with hmem | rfl
    · exact hstreams stream hmem
    · have hresponse := htask.pending delivery hcurrent response (hpending ▸ List.mem_cons_self)
      exact (hstreams old (List.mem_of_getElem? hstream)).push hresponse hpush
  | build | fail | install | broadcast | visit | next | disconnect | endIteration | remove
  | finish | abandon => exact hstreams

theorem RebuildMove.fromHistory_installed (hinstalled : BuiltFrom encode configs s.snapshot) :
    s'.versions = s.versions ∧ BuiltFrom encode configs s'.snapshot := by
  cases h with
  | install => exact ⟨rfl, htask.snapshot _ rfl⟩
  | build | fail | broadcast | visit | next | deliver | disconnect | endIteration | remove
  | finish | abandon => exact ⟨rfl, hinstalled⟩

end Rebuild

theorem FromHistory.rebuildStep (h : s.FromHistory encode configs) {k : ℕ} {task : RebuildTask}
    {action : RebuildAction} {phase : RebuildPhase} (htask : s.rebuilds[k]? = some task)
    (hmove : RebuildMove encode s k task.version task.phase action s' phase) :
    FromHistory { s' with rebuilds := s'.rebuilds.set k ⟨task.version, phase⟩ } encode configs := by
  have hhistory := h.rebuilds task (List.mem_of_getElem? htask)
  obtain ⟨hversions, hinstalled⟩ := hmove.fromHistory_installed hhistory h.installed
  refine ⟨hversions.trans h.versions, hinstalled, ?_, hmove.fromHistory_streams hhistory h.streams⟩
  intro other hother
  rcases List.mem_or_eq_of_mem_set hother with hother | rfl
  · exact h.rebuilds other (hmove.rebuilds ▸ hother)
  · exact hmove.fromHistory hhistory

/-- Drawing a version is the only step that adds to the history. -/
theorem FromHistory.draw (h : s.FromHistory encode configs) (config : GatewayConfig)
    (hfew : configs.length + 1 < 2 ^ 64) :
    FromHistory
      { s with
        versions := (s.versions + 1) % 2 ^ 64
        rebuilds := s.rebuilds ++ [⟨(s.versions + 1) % 2 ^ 64, .building config⟩] }
      encode (configs ++ [config]) := by
  have hversion : (s.versions + 1) % 2 ^ 64 = configs.length + 1 := by
    rw [h.versions, Nat.mod_eq_of_lt hfew]
  rw [hversion]
  refine ⟨by simp, h.installed.mono _, ?_, fun stream hstream => (h.streams stream hstream).mono _⟩
  refine List.forall_mem_append.mpr ⟨?_, List.forall_mem_singleton.mpr (.drawn config)⟩
  exact fun task htask => (h.rebuilds task htask).mono _

theorem FromHistory.step (h : s.FromHistory encode configs) {action : XdsAction}
    (hfew : (configs ++ action.drawn.toList).length < 2 ^ 64)
    (hstep : s.step encode action = some s') :
    s'.FromHistory encode (configs ++ action.drawn.toList) := by
  cases Move.of_step hstep with
  | connect =>
    simp only [XdsAction.drawn, Option.toList_none, List.append_nil]
    refine ⟨h.versions, h.installed, h.rebuilds, ?_⟩
    refine List.forall_mem_append.mpr ⟨h.streams, List.forall_mem_singleton.mpr ?_⟩
    exact ⟨by simp, by simp⟩
  | stream hold hmove =>
    simp only [XdsAction.drawn, Option.toList_none, List.append_nil]
    refine ⟨h.versions, h.installed, h.rebuilds, ?_⟩
    intro stream hstream
    rcases List.mem_or_eq_of_mem_set hstream with hstream | rfl
    · exact h.streams stream hstream
    · exact hmove.fromHistory h.installed (h.streams _ (List.mem_of_getElem? hold))
  | draw => exact h.draw _ (by simpa [XdsAction.drawn] using hfew)
  | rebuild htask hmove =>
    simp only [XdsAction.drawn, Option.toList_none, List.append_nil]
    exact h.rebuildStep htask hmove

/-- Along a run, with the config of the start as the first one of the history. -/
theorem fromHistory_runAll {config : GatewayConfig} {s₀ : XdsControlPlane}
    (hnew : XdsControlPlane.new encode config = .ok s₀) {actions : List XdsAction}
    (hrun : runAll (XdsControlPlane.step encode) anyStep s₀ actions = some s)
    (hfew : (drawnConfigs actions).length + 1 < 2 ^ 64) :
    s.FromHistory encode (config :: drawnConfigs actions) := by
  obtain ⟨snapshot₀, hbuild, hs₀⟩ := Lib.Fallible.eq_ok_of_bind hnew
  obtain rfl := Except.ok.inj hs₀
  refine runAll_invariant
    (I := fun actions s => (drawnConfigs actions).length + 1 < 2 ^ 64 →
      s.FromHistory encode (config :: drawnConfigs actions)) hrun ?_ ?_ hfew
  · intro _
    exact ⟨rfl, ⟨0, config, rfl, hbuild⟩, by simp, by simp⟩
  · intro actions s action s' _ ih _ hstep hfew
    rw [drawnConfigs_concat] at hfew ⊢
    rw [List.length_append] at hfew
    have hbefore := ih (by omega)
    have hlength : ((config :: drawnConfigs actions) ++ action.drawn.toList).length < 2 ^ 64 := by
      rw [List.length_append, List.length_cons]
      omega
    exact hbefore.step hlength hstep

end XdsControlPlane

end Steps

namespace XdsControlPlane

/-- In every run of fewer than `2 ^ 64 - 1` rebuilds, with any interleaving: a response on a stream
is what the loaded config at the position of its version gives for its type. So two responses with
the same type and version are the same, on whatever streams they were sent. -/
theorem responses_genuine (encode : Message → Except String (List UInt8))
    (config : GatewayConfig) (s₀ s : XdsControlPlane)
    (hnew : XdsControlPlane.new encode config = .ok s₀) (actions : List XdsAction)
    (hrun : runAll (XdsControlPlane.step encode) anyStep s₀ actions = some s)
    (hfew : (drawnConfigs actions).length + 1 < 2 ^ 64) :
    (∀ stream ∈ s.streams, ∀ entry ∈ stream.sent, ∃ n loaded snapshot,
      (config :: drawnConfigs actions)[n]? = some loaded ∧
        XdsSnapshot.build encode loaded (n + 1) = .ok snapshot ∧
        snapshot.responseFor entry.response.typeUrl = some entry.response ∧
        entry.response.versionInfo = toString (n + 1)) ∧
    ∀ stream ∈ s.streams, ∀ entry ∈ stream.sent, ∀ stream' ∈ s.streams, ∀ entry' ∈ stream'.sent,
      entry.response.typeUrl = entry'.response.typeUrl →
      entry.response.versionInfo = entry'.response.versionInfo →
      entry.response = entry'.response := by
  have hhistory := fromHistory_runAll hnew hrun hfew
  refine ⟨?_, ?_⟩
  · intro stream hstream entry hentry
    obtain ⟨snapshot, ⟨n, loaded, hloaded, hbuild⟩, hresponse⟩ :=
      (hhistory.streams stream hstream).sent entry hentry
    refine ⟨n, loaded, snapshot, hloaded, hbuild, hresponse, ?_⟩
    rw [XdsSnapshot.versionInfo_of_responseFor hresponse, XdsSnapshot.version_of_build hbuild]
  · intro stream hstream entry hentry stream' hstream' entry' hentry'
    exact ((hhistory.streams stream hstream).sent entry hentry).eq_of_versionInfo
      ((hhistory.streams stream' hstream').sent entry' hentry')

/-- A stream that answers with the first version after the second one was broadcast to it: the two
are told apart, and each is that of its config. -/
theorem responses_genuine_interleaved :
    ∃ s stream, runAll (XdsControlPlane.step wireEncode) anyStep minimalControlPlane
        (asking ++ broadcasting 0 ++ [.rebuild 0 .deliver, .stream 0 .send]) = some s ∧
      s.streams = [stream] ∧
      (stream.sent.map fun entry => entry.response.versionInfo) = ["2", "1"] ∧
      ∀ entry ∈ stream.sent, ∃ n loaded snapshot,
        [Validation.minimalConfig [], Validation.minimalConfig []][n]? = some loaded ∧
          XdsSnapshot.build wireEncode loaded (n + 1) = .ok snapshot ∧
          snapshot.responseFor entry.response.typeUrl = some entry.response ∧
          entry.response.versionInfo = toString (n + 1) := by
  have hrun : runAll (XdsControlPlane.step wireEncode) anyStep minimalControlPlane
      (asking ++ broadcasting 0 ++ [.rebuild 0 .deliver, .stream 0 .send]) = some _ := rfl
  have hgenuine := responses_genuine wireEncode (Validation.minimalConfig []) _ _ rfl _ hrun
    (by decide)
  exact ⟨_, _, hrun, rfl, rfl, hgenuine.1 _ List.mem_cons_self⟩

end XdsControlPlane

end Xds
end OpenApiGateway
