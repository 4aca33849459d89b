import OpenApiGateway.Xds.Delivery
import OpenApiGateway.Xds.PeerHistory

/-!
# Peers catch up

When the last rebuild has installed its snapshot, older responses may still be on their way: a
stream that took the snapshot before goes on with its answer, and may send it after the new version
was broadcast to it. This lasts until its next message. `peer_catches_up` says that a stream which
has then answered messages that ask for each type leaves its peer with the installed config,
whatever else was sent to it before and in between, and whether the broadcast reached it or not.
-/

namespace OpenApiGateway
namespace Xds

open Lib.TransitionSystem Lib.WireFormat

/-! ## Broadcasts of the installed snapshot -/

/-- A rebuild that has installed its snapshot: what it still broadcasts is this one. -/
def RebuildPhase.Past (snapshot : XdsSnapshot) : RebuildPhase → Prop
  | .building _ | .built _ => False
  | .installed own | .iterating own _ => own = snapshot
  | _ => True

instance (snapshot : XdsSnapshot) : (phase : RebuildPhase) → Decidable (phase.Past snapshot)
  | .building _ | .built _ => inferInstanceAs (Decidable False)
  | .installed own | .iterating own _ => inferInstanceAs (Decidable (own = snapshot))
  | .removing _ _ | .finished _ _ | .failed _ | .abandoned => inferInstanceAs (Decidable True)

/-- What a rebuild sends to a stream has the version of its snapshot. -/
def RebuildPhase.SendsOwn (phase : RebuildPhase) : Prop :=
  ∀ delivery, phase.delivery = some delivery → ∀ snapshot, phase.snapshot = some snapshot →
    ∀ response ∈ delivery.pending, response.versionInfo = toString snapshot.version

namespace XdsControlPlane
variable {encode : Message → Except String (List UInt8)} {s s' : XdsControlPlane}

theorem RebuildMove.sendsOwn {k version : ℕ} {phase phase' : RebuildPhase}
    {action : RebuildAction} (h : RebuildMove encode s k version phase action s' phase')
    (hown : phase.SendsOwn) : phase'.SendsOwn := by
  intro delivery hdelivery snapshot hsnapshot response hresponse
  cases h with
  | @visit own b id i hcurrent hlookup =>
    rw [← Option.some.inj hdelivery] at hresponse
    rw [← Option.some.inj hsnapshot]
    obtain ⟨typeUrl, hfor⟩ := XdsSnapshot.responseFor_of_mem_orderedResponses hresponse
    exact XdsSnapshot.versionInfo_of_responseFor hfor
  | @deliver own b before first rest old new hcurrent hpending hstream hpush =>
    rw [← Option.some.inj hdelivery] at hresponse
    exact hown before hcurrent snapshot hsnapshot response
      (hpending ▸ List.mem_cons_of_mem _ hresponse)
  | build | fail | install | broadcast | next | disconnect | endIteration | remove | finish
  | abandon => simp [RebuildPhase.delivery] at hdelivery

theorem sendsOwn_step {action : XdsAction} (h : ∀ task ∈ s.rebuilds, task.phase.SendsOwn)
    (hstep : s.step encode action = some s') : ∀ task ∈ s'.rebuilds, task.phase.SendsOwn := by
  cases Move.of_step hstep with
  | connect => exact h
  | stream => exact h
  | draw =>
    refine List.forall_mem_append.mpr ⟨h, List.forall_mem_singleton.mpr ?_⟩
    intro delivery hdelivery
    simp [RebuildPhase.delivery] at hdelivery
  | rebuild htask hmove =>
    intro other hother
    rcases List.mem_or_eq_of_mem_set hother with hother | rfl
    · exact h other (hmove.rebuilds ▸ hother)
    · exact hmove.sendsOwn (h _ (List.mem_of_getElem? htask))

/-- A rebuild that has installed stays so and leaves the installed snapshot alone. -/
theorem RebuildMove.past {k version : ℕ} {phase phase' : RebuildPhase} {action : RebuildAction}
    (h : RebuildMove encode s k version phase action s' phase') {snapshot : XdsSnapshot}
    (hpast : phase.Past snapshot) : phase'.Past snapshot ∧ s'.snapshot = s.snapshot := by
  cases h with
  | build | fail | install => exact absurd hpast id
  | broadcast | visit | next | deliver | disconnect => exact ⟨hpast, rfl⟩
  | endIteration | remove | finish | abandon => exact ⟨trivial, rfl⟩

end XdsControlPlane

/-! ## Answers to later messages -/

/-- Once a message was read, the stream has sent, behind what it had sent before, only responses of
the installed version, and among them the answers to these messages, up to what it still holds. -/
structure StreamTask.Fresh (stream : StreamTask) (snapshot : XdsSnapshot)
    (messages : List DiscoveryRequest) (before after : List Sent)
    (answered : List DiscoveryRequest) : Prop where
  sent : stream.sent = before ++ after
  version : ∀ entry ∈ after, entry.response.versionInfo = toString snapshot.version
  unsent : ∀ response ∈ stream.unsent, response.versionInfo = toString snapshot.version
  messages : answered ++ stream.unanswered = messages
  complete : stream.receiverOpen = true →
    (after.filter fun entry => entry.rebuild = none).map Sent.response ++ stream.unsent =
      answered.flatMap snapshot.answer

def StreamTask.CatchesUp (stream : StreamTask) (snapshot : XdsSnapshot)
    (messages : List DiscoveryRequest) : Prop :=
  messages = [] ∨ ∃ before after answered, stream.Fresh snapshot messages before after answered

namespace StreamTask
variable {old new : StreamTask} {snapshot : XdsSnapshot} {messages : List DiscoveryRequest}

theorem CatchesUp.of_eq (h : old.CatchesUp snapshot messages) (hsent : new.sent = old.sent)
    (hunsent : new.unsent = old.unsent) (hunanswered : new.unanswered = old.unanswered)
    (hopen : new.receiverOpen = true → old.receiverOpen = true) :
    new.CatchesUp snapshot messages := by
  rcases h with hnone | ⟨before, after, answered, hfresh⟩
  · exact .inl hnone
  · refine .inr ⟨before, after, answered, hsent ▸ hfresh.sent, hfresh.version,
      hunsent ▸ hfresh.unsent, hunanswered ▸ hfresh.messages, fun hreceiver => ?_⟩
    rw [hunsent]
    exact hfresh.complete (hopen hreceiver)

/-- A message starts a new part of the channel, or belongs to the one that was started. -/
theorem CatchesUp.receive (h : old.CatchesUp snapshot messages) (hphase : old.phase = .reading)
    (message : DiscoveryRequest) (status : Option EnvoyConnectionStatus) :
    CatchesUp { old with phase := .answering message, status := status } snapshot
      (messages ++ [message]) := by
  right
  rcases h with rfl | ⟨before, after, answered, hfresh⟩
  · exact ⟨old.sent, [], [], by simp, by simp, by simp [unsent], by simp [unanswered],
      by simp [unsent]⟩
  · have hmessages := hfresh.messages
    have hcomplete := hfresh.complete
    simp only [unanswered, unsent, hphase, List.append_nil] at hmessages hcomplete
    refine ⟨before, after, answered, hfresh.sent, hfresh.version, by simp [unsent], ?_, ?_⟩
    · rw [hmessages]
      rfl
    · simpa only [unsent, List.append_nil] using hcomplete

theorem CatchesUp.readSnapshot (h : old.CatchesUp snapshot messages) {message : DiscoveryRequest}
    (hphase : old.phase = .answering message) :
    CatchesUp { old with phase := .sending snapshot (snapshot.answer message) } snapshot
      messages := by
  rcases h with hnone | ⟨before, after, answered, hfresh⟩
  · exact .inl hnone
  · have hmessages := hfresh.messages
    have hcomplete := hfresh.complete
    simp only [unanswered, unsent, hphase, List.append_nil] at hmessages hcomplete
    refine .inr ⟨before, after, answered ++ [message], hfresh.sent, hfresh.version, ?_, ?_, ?_⟩
    · intro response hresponse
      obtain ⟨typeUrl, hfor⟩ := XdsSnapshot.responseFor_of_mem_answer hresponse
      exact XdsSnapshot.versionInfo_of_responseFor hfor
    · rw [hmessages]
      exact List.append_nil _
    · intro hopen
      rw [hcomplete hopen, List.flatMap_append, List.flatMap_singleton]
      rfl

/-- One more response of the installed version in the channel, from wherever. -/
theorem Fresh.push {before after : List Sent} {answered : List DiscoveryRequest}
    (h : old.Fresh snapshot messages before after answered) {rebuild : Option ℕ}
    {response : DiscoveryResponse} (hpush : old.push rebuild response = some new)
    (hversion : response.versionInfo = toString snapshot.version) :
    new.sent = before ++ (after ++ [⟨rebuild, response⟩]) ∧
      ∀ entry ∈ after ++ [⟨rebuild, response⟩],
        entry.response.versionInfo = toString snapshot.version := by
  rw [push_cases hpush]
  refine ⟨?_, List.forall_mem_append.mpr ⟨h.version, List.forall_mem_singleton.mpr hversion⟩⟩
  rw [h.sent, List.append_assoc]

theorem CatchesUp.send (h : old.CatchesUp snapshot messages) {own : XdsSnapshot}
    {response : DiscoveryResponse} {rest : List DiscoveryResponse} {pushed : StreamTask}
    (hphase : old.phase = .sending own (response :: rest))
    (hpush : old.push none response = some pushed) :
    CatchesUp { pushed with phase := .sending own rest } snapshot messages := by
  rcases h with hnone | ⟨before, after, answered, hfresh⟩
  · exact .inl hnone
  · have hmessages := hfresh.messages
    have hcomplete := hfresh.complete
    have hunsent := hfresh.unsent
    simp only [unanswered, unsent, hphase, List.forall_mem_cons] at hmessages hcomplete hunsent
    obtain ⟨hsent, hversion⟩ := hfresh.push hpush hunsent.1
    refine .inr ⟨before, _, answered, hsent, hversion, hunsent.2, hmessages, fun hopen => ?_⟩
    have hbefore : old.receiverOpen = true := by
      rw [push_cases hpush] at hopen
      exact hopen
    rw [← hcomplete hbefore]
    simp [unsent, List.filter_append]

theorem CatchesUp.stop (h : old.CatchesUp snapshot messages) {own : XdsSnapshot}
    {pending : List DiscoveryResponse} (hphase : old.phase = .sending own pending)
    (hstop : pending = [] ∨ old.receiverOpen = false) :
    CatchesUp { old with phase := .reading } snapshot messages := by
  rcases h with hnone | ⟨before, after, answered, hfresh⟩
  · exact .inl hnone
  · have hmessages := hfresh.messages
    have hcomplete := hfresh.complete
    simp only [unanswered, unsent, hphase] at hmessages hcomplete
    refine .inr ⟨before, after, answered, hfresh.sent, hfresh.version, by simp [unsent], hmessages,
      fun hopen => ?_⟩
    rcases hstop with rfl | hclosed
    · exact hcomplete hopen
    · rw [show old.receiverOpen = true from hopen] at hclosed
      simp at hclosed

/-- A broadcast of the installed snapshot puts its responses between the answers. -/
theorem CatchesUp.deliver (h : old.CatchesUp snapshot messages) {k : ℕ}
    {response : DiscoveryResponse} (hpush : old.push (some k) response = some new)
    (hversion : response.versionInfo = toString snapshot.version) :
    new.CatchesUp snapshot messages := by
  rcases h with hnone | ⟨before, after, answered, hfresh⟩
  · exact .inl hnone
  · obtain ⟨hsent, hversions⟩ := hfresh.push hpush hversion
    rw [push_cases hpush] at hsent ⊢
    refine .inr ⟨before, _, answered, hsent, hversions, hfresh.unsent, hfresh.messages,
      fun hopen => ?_⟩
    have hcomplete := hfresh.complete hopen
    rw [List.filter_append]
    simpa [unsent] using hcomplete

end StreamTask

namespace XdsControlPlane
variable {encode : Message → Except String (List UInt8)} {s s' : XdsControlPlane}

theorem catchesUp_streamStep {i : ℕ} {old new : StreamTask} {registry : XdsRegistry}
    {action : StreamAction} {messages : List DiscoveryRequest}
    (hold : old.CatchesUp s.snapshot messages)
    (h : s.streamStep i old action = some (new, registry)) :
    new.CatchesUp s.snapshot (messages ++ ((XdsAction.stream i action).messageTo i).toList) := by
  -- only a received message adds to the list
  have hsilent : ∀ action : StreamAction, (∀ message, action ≠ .receive message) →
      messages ++ ((XdsAction.stream i action).messageTo i).toList = messages := by
    intro action haction
    cases action with
    | receive message => exact absurd rfl (haction message)
    | readSnapshot | send | endInbound | cleanup | take | close => exact List.append_nil _
  cases action with
  | receive message =>
    simp only [XdsAction.messageTo, if_true, Option.toList_some]
    cases streamMove_of_streamStep h with
    | first hphase => exact hold.receive hphase message _
    | receive hphase => exact hold.receive hphase message _
  | readSnapshot =>
    rw [hsilent _ (by simp)]
    cases streamMove_of_streamStep h with
    | readSnapshot hphase => exact hold.readSnapshot hphase
  | send =>
    rw [hsilent _ (by simp)]
    obtain ⟨own, response, rest, pushed, -, hphase, hpush, rfl⟩ |
      ⟨own, pending, hphase, hstop, rfl⟩ := send_cases h
    · exact hold.send hphase hpush
    · exact hold.stop hphase hstop
  | endInbound =>
    rw [hsilent _ (by simp)]
    cases streamMove_of_streamStep h with
    | endInbound hphase =>
      exact hold.of_eq rfl (by simp [StreamTask.unsent, hphase])
        (by simp [StreamTask.unanswered, hphase]) id
  | cleanup =>
    rw [hsilent _ (by simp)]
    cases streamMove_of_streamStep h with
    | cleanup hphase =>
      exact hold.of_eq rfl (by simp [StreamTask.unsent, hphase])
        (by simp [StreamTask.unanswered, hphase]) id
    | cleanupUnknown hphase =>
      exact hold.of_eq rfl (by simp [StreamTask.unsent, hphase])
        (by simp [StreamTask.unanswered, hphase]) id
  | take =>
    rw [hsilent _ (by simp)]
    cases streamMove_of_streamStep h
    exact hold.of_eq rfl rfl rfl id
  | close =>
    rw [hsilent _ (by simp)]
    cases streamMove_of_streamStep h
    exact hold.of_eq rfl rfl rfl (by simp)

/-- From the point on where every rebuild has installed, and with no new one: the snapshot stays,
only it is broadcast, and every stream catches up with it. -/
structure Quiet (snapshot : XdsSnapshot) (actions : List XdsAction)
    (s : XdsControlPlane) : Prop where
  installed : s.snapshot = snapshot
  past : ∀ task ∈ s.rebuilds, task.phase.Past snapshot
  own : ∀ task ∈ s.rebuilds, task.phase.SendsOwn
  streams : ∀ (i : ℕ) (stream : StreamTask), s.streams[i]? = some stream →
    stream.CatchesUp snapshot (messagesTo i actions)
  silent : ∀ i : ℕ, s.streams[i]? = none → messagesTo i actions = []

section Quiet
variable {snapshot : XdsSnapshot} {actions : List XdsAction}

theorem Quiet.connect (h : Quiet snapshot actions s) :
    Quiet snapshot (actions ++ [.connect])
      { s with streams := s.streams ++ [({} : StreamTask)] } := by
  have hmessages : ∀ i, messagesTo i (actions ++ [.connect]) = messagesTo i actions := by
    intro i
    rw [messagesTo_concat]
    exact List.append_nil _
  refine ⟨h.installed, h.past, h.own, fun i stream hstream => ?_, fun i hi => ?_⟩
  · rw [hmessages]
    rcases getElem?_concat_cases hstream with hold | ⟨hnone, -⟩
    · exact h.streams i stream hold
    · exact .inl (h.silent i hnone)
  · rw [hmessages]
    apply h.silent i
    rw [List.getElem?_eq_none_iff] at hi ⊢
    rw [List.length_append] at hi
    omega

theorem Quiet.stream (h : Quiet snapshot actions s) {j : ℕ} {old new : StreamTask}
    {registry : XdsRegistry} {action : StreamAction} (hold : s.streams[j]? = some old)
    (hstep : s.streamStep j old action = some (new, registry)) :
    Quiet snapshot (actions ++ [.stream j action])
      { s with registry := registry, streams := s.streams.set j new } := by
  have hother : ∀ i, i ≠ j →
      messagesTo i (actions ++ [.stream j action]) = messagesTo i actions := by
    intro i hi
    rw [messagesTo_concat]
    cases action <;> simp [XdsAction.messageTo, Ne.symm hi]
  refine ⟨h.installed, h.past, h.own, fun i stream hstream => ?_, fun i hi => ?_⟩
  · by_cases hi : i = j
    · subst hi
      rw [getElem?_set_self hold, Option.some.injEq] at hstream
      subst hstream
      have hbefore := h.streams i old hold
      rw [← h.installed] at hbefore ⊢
      rw [messagesTo_concat]
      exact catchesUp_streamStep hbefore hstep
    · rw [List.getElem?_set_ne (Ne.symm hi)] at hstream
      rw [hother i hi]
      exact h.streams i stream hstream
  · rw [List.getElem?_eq_none_iff, List.length_set, ← List.getElem?_eq_none_iff] at hi
    have hne : i ≠ j := by
      intro heq
      rw [heq, hold] at hi
      simp at hi
    rw [hother i hne]
    exact h.silent i hi

/-- A rebuild can only broadcast the installed snapshot. -/
theorem Quiet.streams_rebuild (h : Quiet snapshot actions s) {k : ℕ} {task : RebuildTask}
    {action : RebuildAction} {moved : XdsControlPlane} {phase : RebuildPhase}
    (htask : task ∈ s.rebuilds)
    (hmove : RebuildMove encode s k task.version task.phase action moved phase) (i : ℕ)
    (stream : StreamTask) (hstream : moved.streams[i]? = some stream) :
    stream.CatchesUp snapshot (messagesTo i actions) := by
  have hpast := h.past task htask
  have hown := h.own task htask
  obtain ⟨version, before⟩ := task
  cases hmove with
  | @deliver own b delivery response rest old new hcurrent hpending hold hpush =>
    by_cases hi : delivery.stream = i
    · subst hi
      rw [getElem?_set_self hold, Option.some.injEq] at hstream
      subst hstream
      refine (h.streams _ old hold).deliver hpush ?_
      have hversion := hown delivery hcurrent own rfl response (hpending ▸ List.mem_cons_self)
      rw [show own = snapshot from hpast] at hversion
      exact hversion
    · rw [List.getElem?_set_ne hi] at hstream
      exact h.streams i stream hstream
  | build | fail | install | broadcast | visit | next | disconnect | endIteration | remove | finish
  | abandon => exact h.streams i stream hstream

theorem Quiet.step (h : Quiet snapshot actions s) {action : XdsAction}
    (hdrawn : action.drawn = none) (hstep : s.step encode action = some s') :
    Quiet snapshot (actions ++ [action]) s' := by
  cases action with
  | connect =>
    rw [← Option.some.inj hstep]
    exact h.connect
  | stream j action =>
    obtain ⟨old, new, registry, hold, hmove, rfl⟩ := stream_of_step hstep
    exact h.stream hold hmove
  | draw config => simp [XdsAction.drawn] at hdrawn
  | rebuild k action =>
    have hown := sendsOwn_step h.own hstep
    obtain ⟨task, moved, phase, htask, hmove, rfl⟩ := rebuild_of_step hstep
    have hmove := rebuildMove_of_rebuildStep hmove
    have hmem := List.mem_of_getElem? htask
    obtain ⟨hpast, hsnapshot⟩ := hmove.past (h.past task hmem)
    have hmessages : ∀ i, messagesTo i (actions ++ [.rebuild k action]) = messagesTo i actions := by
      intro i
      rw [messagesTo_concat]
      exact List.append_nil _
    refine ⟨hsnapshot.trans h.installed, fun other hother => ?_, hown, fun i stream hstream => ?_,
      fun i hi => ?_⟩
    · rcases List.mem_or_eq_of_mem_set hother with hother | rfl
      · exact h.past other (hmove.rebuilds ▸ hother)
      · exact hpast
    · rw [hmessages]
      exact h.streams_rebuild hmem hmove i stream hstream
    · rw [hmessages]
      apply h.silent i
      rw [List.getElem?_eq_none_iff] at hi ⊢
      exact hmove.length_streams ▸ hi

end Quiet

/-! ## What the peer knows then -/

/-- Where the later responses all have one version, and one of them is of the type, that version is
the last one of the type. -/
theorem lastVersion_append {typeUrl version : String} {before after : List DiscoveryResponse}
    (hversion : ∀ response ∈ after, response.versionInfo = version)
    (hmem : ∃ response ∈ after, response.typeUrl = typeUrl) :
    lastVersion typeUrl (before ++ after) = some version := by
  obtain ⟨response, hresponse, htype⟩ := hmem
  set matching := after.filter fun response => response.typeUrl = typeUrl with hmatching
  have hne : matching ≠ [] :=
    List.ne_nil_of_mem (List.mem_filter.mpr ⟨hresponse, by simpa using htype⟩)
  rw [lastVersion, List.filter_append, ← hmatching, List.getLast?_append_of_ne_nil _ hne,
    List.getLast?_eq_some_getLast hne, Option.map_some]
  have hlast := List.mem_of_mem_filter (List.getLast_mem hne)
  rw [hversion _ hlast]

/-- A message is answered with a response of the type it asks for, or with all types. -/
theorem exists_mem_answer {snapshot : XdsSnapshot} (hcomplete : snapshot.Complete)
    {message : DiscoveryRequest} {t : String} (ht : t ∈ typeUrlsInOrder)
    (hasks : message.typeUrl = t ∨ message.typeUrl ∉ typeUrlsInOrder) :
    ∃ response ∈ snapshot.answer message, response.typeUrl = t := by
  rcases hasks with rfl | hall
  · obtain ⟨response, hanswer, htype, -⟩ := hcomplete.answer_of_mem ht
    exact ⟨response, by simp [hanswer], htype⟩
  · rw [hcomplete.answer_of_notMem hall]
    obtain ⟨response, hresponse⟩ := hcomplete.responseFor ht
    refine ⟨response, ?_, XdsSnapshot.typeUrl_of_responseFor hresponse⟩
    exact List.mem_filterMap.mpr ⟨t, ht, hresponse⟩

/-- In every run each rebuild broadcasts its own version. -/
theorem sendsOwn_of_run {config : GatewayConfig} {s₀ : XdsControlPlane}
    (hnew : XdsControlPlane.new encode config = .ok s₀)
    {actions : List XdsAction}
    (hrun : runAll (XdsControlPlane.step encode) anyStep s₀ actions = some s) :
    ∀ task ∈ s.rebuilds, task.phase.SendsOwn := by
  obtain ⟨snapshot₀, -, hs₀⟩ := Lib.Fallible.eq_ok_of_bind hnew
  obtain rfl := Except.ok.inj hs₀
  refine runAll_invariant (I := fun _ s => ∀ task ∈ s.rebuilds, task.phase.SendsOwn) hrun
    (by simp) ?_
  intro actions s action s' _ ih _ hstep
  exact sendsOwn_step ih hstep

/-- Along a run without a new rebuild. -/
theorem quiet_of_run {s₁ s₂ : XdsControlPlane}
    (hpast : ∀ task ∈ s₁.rebuilds, task.phase.Past s₁.snapshot)
    (hown : ∀ task ∈ s₁.rebuilds, task.phase.SendsOwn) {later : List XdsAction}
    (hlater : runAll (XdsControlPlane.step encode) anyStep s₁ later = some s₂)
    (hnone : drawnConfigs later = []) : Quiet s₁.snapshot later s₂ := by
  refine runAll_invariant (I := fun later s => drawnConfigs later = [] → Quiet s₁.snapshot later s)
    hlater ?_ ?_ hnone
  · intro _
    exact ⟨rfl, hpast, hown, fun i stream _ => .inl rfl, fun i _ => rfl⟩
  · intro later s action s' _ ih _ hstep hnone
    rw [drawnConfigs_concat, List.append_eq_nil_iff] at hnone
    exact (ih hnone.1).step (Option.toList_eq_nil_iff.mp hnone.2) hstep

/-- A stream that is done with its messages has last sent the installed version of each type that
they ask for. -/
theorem Quiet.lastVersion_eq {snapshot : XdsSnapshot} {later : List XdsAction}
    (h : Quiet snapshot later s) (hcomplete : snapshot.Complete) {i : ℕ} {stream : StreamTask}
    (hstream : s.streams[i]? = some stream) (hreading : stream.phase = .reading)
    (hopen : stream.receiverOpen = true) {t : String} (ht : t ∈ typeUrlsInOrder)
    (hasked : ∃ message ∈ messagesTo i later,
      message.typeUrl = t ∨ message.typeUrl ∉ typeUrlsInOrder) :
    lastVersion t (stream.sent.map Sent.response) = some (toString snapshot.version) := by
  obtain ⟨message, hmessage, hasks⟩ := hasked
  rcases h.streams i stream hstream with hnone | ⟨before, after, answered, hfresh⟩
  · rw [hnone] at hmessage
    simp at hmessage
  · have hmessages := hfresh.messages
    have hanswers := hfresh.complete hopen
    simp only [StreamTask.unanswered, StreamTask.unsent, hreading, List.append_nil]
      at hmessages hanswers
    rw [hmessages] at hanswers
    rw [hfresh.sent, List.map_append]
    refine lastVersion_append ?_ ?_
    · intro response hresponse
      obtain ⟨entry, hentry, rfl⟩ := List.mem_map.mp hresponse
      exact hfresh.version entry hentry
    · obtain ⟨response, hresponse, htype⟩ := exists_mem_answer hcomplete ht hasks
      have hsent : response ∈
          (after.filter fun entry => entry.rebuild = none).map Sent.response := by
        rw [hanswers]
        exact List.mem_flatMap.mpr ⟨message, hmessage, hresponse⟩
      obtain ⟨entry, hentry, rfl⟩ := List.mem_map.mp hsent
      exact ⟨_, List.mem_map_of_mem (List.mem_of_mem_filter hentry), htype⟩

/-- Take any run of fewer than `2 ^ 64 - 1` rebuilds up to a point where each of them has failed,
was given up or has installed, and where only the installed snapshot is still broadcast; and from
there any run without a new one. A stream that waits for its next message, whose receiver is open,
and which has had messages asking for each type in the second part has left its peer with the config
of the installed snapshot, whatever it was sent before and whatever the peer knew. -/
theorem peer_catches_up (config : GatewayConfig) (s₀ s₁ s₂ : XdsControlPlane)
    (hnew : XdsControlPlane.new wireEncode config = .ok s₀) (earlier later : List XdsAction)
    (hearlier : runAll (XdsControlPlane.step wireEncode) anyStep s₀ earlier = some s₁)
    (hpast : ∀ task ∈ s₁.rebuilds, task.phase.Past s₁.snapshot)
    (hlater : runAll (XdsControlPlane.step wireEncode) anyStep s₁ later = some s₂)
    (hnone : drawnConfigs later = []) (hfew : (drawnConfigs earlier).length + 1 < 2 ^ 64)
    (hsized : ∀ loaded ∈ config :: drawnConfigs earlier, Sized loaded) (i : ℕ)
    (stream : StreamTask) (hstream : s₂.streams[i]? = some stream)
    (hreading : stream.phase = .reading) (hopen : stream.receiverOpen = true)
    (hasked : ∀ t ∈ typeUrlsInOrder, ∃ message ∈ messagesTo i later,
      message.typeUrl = t ∨ message.typeUrl ∉ typeUrlsInOrder)
    (hlength : ∀ entry ∈ stream.sent,
      (discoveryResponseCodec.encode entry.response).length < 2 ^ 64) (peer : PeerConfig) :
    ∃ n loaded known, (config :: drawnConfigs earlier)[n]? = some loaded ∧
      s₁.snapshot.version = n + 1 ∧
      (stream.sent.map fun entry => discoveryResponseCodec.encode entry.response).foldlM receive
        peer = some known ∧ known.Describes loaded := by
  have hdrawn : drawnConfigs (earlier ++ later) = drawnConfigs earlier := by
    rw [drawnConfigs, List.filterMap_append, ← drawnConfigs, ← drawnConfigs, hnone, List.append_nil]
  have hrun : runAll (XdsControlPlane.step wireEncode) anyStep s₀ (earlier ++ later) = some s₂ := by
    rw [runAll_append, hearlier]
    exact hlater
  -- since the point, every stream catches up with the installed snapshot
  have hquiet := quiet_of_run hpast (sendsOwn_of_run hnew hearlier) hlater hnone
  have hhistory := fromHistory_runAll hnew hrun (by rw [hdrawn]; exact hfew)
  rw [hdrawn] at hhistory
  obtain ⟨n, loaded, hloaded, hbuild⟩ := (fromHistory_runAll hnew hearlier hfew).installed
  have hversion := XdsSnapshot.version_of_build hbuild
  -- so the last response of each type has its version
  have hlast : ∀ t ∈ typeUrlsInOrder,
      lastVersion t (stream.sent.map Sent.response) = some (toString (n + 1)) := by
    intro t ht
    rw [← hversion]
    exact hquiet.lastVersion_eq (XdsSnapshot.complete_of_build hbuild) hstream hreading hopen ht
      (hasked t ht)
  have hshort : ∀ response ∈ stream.sent.map Sent.response,
      (discoveryResponseCodec.encode response).length < 2 ^ 64 := by
    intro response hresponse
    obtain ⟨entry, hentry, rfl⟩ := List.mem_map.mp hresponse
    exact hlength entry hentry
  obtain ⟨known, hknown, hdescribes⟩ := hhistory.receive_channel hsized
    (List.mem_of_getElem? hstream) List.prefix_rfl hshort peer
  rw [List.map_map] at hknown
  exact ⟨n, loaded, known, hloaded, hversion, hknown, hdescribes n loaded hloaded hlast⟩

/-! ### A stream that is behind -/

/-- A stream takes the first snapshot, and then the second one is broadcast to it. -/
def fallingBehind : List XdsAction :=
  [.connect, .stream 0 (.receive { typeUrl := clusterTypeUrl }), .stream 0 .readSnapshot,
    .draw calledOut, .rebuild 0 .build, .rebuild 0 .install, .rebuild 0 .broadcast,
    .rebuild 0 (.visit "unknown"), .rebuild 0 .deliver, .rebuild 0 .deliver, .rebuild 0 .deliver,
    .rebuild 0 .deliver, .rebuild 0 .deliver, .rebuild 0 .endIteration, .rebuild 0 .remove]

/-- It goes on with its answer, of the first version, and then is asked for everything. -/
def catchingUp : List XdsAction :=
  [.stream 0 .send, .stream 0 .send, .stream 0 (.receive { typeUrl := "" }),
    .stream 0 .readSnapshot, .stream 0 .send, .stream 0 .send, .stream 0 .send, .stream 0 .send,
    .stream 0 .send]

def behind : Option XdsControlPlane :=
  (XdsControlPlane.new wireEncode (Validation.minimalConfig [])).toOption.bind fun s =>
    runAll (XdsControlPlane.step wireEncode) anyStep s fallingBehind

def caughtUp : Option XdsControlPlane :=
  behind.bind fun s => runAll (XdsControlPlane.step wireEncode) anyStep s catchingUp

theorem peer_catches_up_fallingBehind :
    ∃ s₂ stream known, caughtUp = some s₂ ∧ s₂.streams = [stream] ∧
      (stream.sent.map fun entry => entry.response.versionInfo) =
        ["2", "2", "2", "2", "1", "2", "2", "2", "2"] ∧
      (stream.sent.map fun entry => discoveryResponseCodec.encode entry.response).foldlM receive
        {} = some known ∧ known.Describes calledOut := by
  have hsome : caughtUp.isSome = true := by decide +kernel
  obtain ⟨s₂, hs₂⟩ := Option.isSome_iff_exists.mp hsome
  obtain ⟨s₁, hs₁, hlater⟩ := Option.bind_eq_some_iff.mp hs₂
  obtain ⟨s₀, hs₀, hearlier⟩ := Option.bind_eq_some_iff.mp hs₁
  have hnew : XdsControlPlane.new wireEncode (Validation.minimalConfig []) = .ok s₀ := by
    cases h : XdsControlPlane.new wireEncode (Validation.minimalConfig []) with
    | error e => simp [h, Except.toOption] at hs₀
    | ok s =>
      rw [h] at hs₀
      exact congrArg Except.ok (Option.some.inj hs₀)
  -- what is evaluated of the two states
  have hat₁ : ∀ P : XdsControlPlane → Bool, behind.all P = true → P s₁ = true := by
    intro P hP
    rwa [hs₁, Option.all_some] at hP
  have hat₂ : ∀ P : XdsControlPlane → Bool, caughtUp.all P = true → P s₂ = true := by
    intro P hP
    rwa [hs₂, Option.all_some] at hP
  have hpast : ∀ task ∈ s₁.rebuilds, task.phase.Past s₁.snapshot :=
    of_decide_eq_true (hat₁ (fun s => decide (∀ task ∈ s.rebuilds, task.phase.Past s.snapshot))
      (by decide +kernel))
  have hversion : s₁.snapshot.version = 2 :=
    of_decide_eq_true (hat₁ (fun s => decide (s.snapshot.version = 2)) (by decide +kernel))
  have hone : s₂.streams.length = 1 :=
    of_decide_eq_true (hat₂ (fun s => decide (s.streams.length = 1)) (by decide +kernel))
  have hstreams : ∀ stream ∈ s₂.streams, stream.phase = .reading ∧ stream.receiverOpen = true ∧
      (stream.sent.map fun entry => entry.response.versionInfo) =
        ["2", "2", "2", "2", "1", "2", "2", "2", "2"] ∧
      ∀ entry ∈ stream.sent, (discoveryResponseCodec.encode entry.response).length < 2 ^ 64 :=
    of_decide_eq_true (hat₂ (fun s => decide (∀ stream ∈ s.streams, stream.phase = .reading ∧
      stream.receiverOpen = true ∧ (stream.sent.map fun entry => entry.response.versionInfo) =
        ["2", "2", "2", "2", "1", "2", "2", "2", "2"] ∧
      ∀ entry ∈ stream.sent, (discoveryResponseCodec.encode entry.response).length < 2 ^ 64))
      (by decide +kernel))
  obtain ⟨stream, hstream⟩ := List.length_eq_one_iff.mp hone
  obtain ⟨hreading, hopen, hversions, hlength⟩ := hstreams stream (by simp [hstream])
  have hsized : ∀ loaded ∈ [Validation.minimalConfig [], calledOut], Sized loaded := by
    simp only [List.forall_mem_cons]
    exact ⟨by constructor <;> decide, sized_calledOut, by simp⟩
  obtain ⟨n, loaded, known, hloaded, hn, hknown, hdescribes⟩ :=
    peer_catches_up (Validation.minimalConfig []) s₀ s₁ s₂ hnew fallingBehind catchingUp hearlier
      hpast hlater rfl (by decide) hsized 0 stream (by simp [hstream]) hreading hopen
      (fun t _ => ⟨{ typeUrl := "" }, by decide, .inr (by decide)⟩) hlength {}
  have hzero : n = 1 := by omega
  rw [hzero] at hloaded
  have hcalledOut : calledOut = loaded := Option.some.inj hloaded
  exact ⟨s₂, stream, known, hs₂, hstream, hversions, hknown, hcalledOut ▸ hdescribes⟩

end XdsControlPlane

end Xds
end OpenApiGateway
