import OpenApiGateway.Xds.PeerStatus
import OpenApiGateway.Xds.Registration
import OpenApiGateway.Xds.Versions

/-!
# What is sent on a stream

A stream's channel is filled by its own task and by the broadcasts of any number of rebuilds, which
come in between. Whatever the order, two things hold of every run.

* `messages_answered`: what the task sends are the answers to the stream's messages, one after the
  other, each of them from one snapshot that was installed when the answer was made. A task that
  waits for the next message has sent all of it, unless the receiver is gone.
* `broadcasts_in_order`: what a rebuild sends to a stream is in the order clusters, endpoints,
  listener, routes, none of them twice; and once the rebuild is over an open stream was sent all of
  them or none, all of them where the rebuild came to it.
-/

namespace OpenApiGateway
namespace Xds

open Lib.TransitionSystem

namespace StreamTask
variable {old new : StreamTask} {source : Option ℕ}

/-- What was put into the channel by a rebuild, or by the stream's own task. -/
def sentBy (stream : StreamTask) (source : Option ℕ) : List DiscoveryResponse :=
  (stream.sent.filter fun entry => entry.rebuild = source).map Sent.response

theorem sentBy_push_self {response : DiscoveryResponse} (h : old.push source response = some new) :
    new.sentBy source = old.sentBy source ++ [response] := by
  rw [push_cases h]
  simp [sentBy, List.filter_append]

theorem sentBy_push_of_ne {other : Option ℕ} {response : DiscoveryResponse}
    (h : old.push other response = some new) (hne : other ≠ source) :
    new.sentBy source = old.sentBy source := by
  rw [push_cases h]
  simp [sentBy, List.filter_append, hne]

/-- What the task still has to send of its answer. -/
def unsent (stream : StreamTask) : List DiscoveryResponse :=
  match stream.phase with
  | .sending _ pending => pending
  | _ => []

/-- The message that was read and has no answer yet. -/
def unanswered (stream : StreamTask) : List DiscoveryRequest :=
  match stream.phase with
  | .answering message => [message]
  | _ => []

end StreamTask

namespace XdsControlPlane
variable {encode : Message → Except String (List UInt8)} {s s' : XdsControlPlane}

/-! ## The steps behind an action -/

theorem stream_of_step {i : ℕ} {action : StreamAction}
    (h : s.step encode (.stream i action) = some s') :
    ∃ old new registry, s.streams[i]? = some old ∧
      s.streamStep i old action = some (new, registry) ∧
      s' = { s with registry := registry, streams := s.streams.set i new } := by
  simp only [step] at h
  split at h
  · simp at h
  · rename_i old hold
    obtain ⟨⟨new, registry⟩, hmove, rfl⟩ := Option.map_eq_some_iff.mp h
    exact ⟨old, new, registry, hold, hmove, rfl⟩

theorem rebuild_of_step {k : ℕ} {action : RebuildAction}
    (h : s.step encode (.rebuild k action) = some s') :
    ∃ task moved phase, s.rebuilds[k]? = some task ∧
      s.rebuildStep encode k task.version task.phase action = some (moved, phase) ∧
      s' = { moved with rebuilds := moved.rebuilds.set k ⟨task.version, phase⟩ } := by
  simp only [step] at h
  split at h
  · simp at h
  · rename_i task htask
    obtain ⟨⟨moved, phase⟩, hmove, rfl⟩ := Option.map_eq_some_iff.mp h
    exact ⟨task, moved, phase, htask, hmove, rfl⟩

/-- The task sends the next response, or goes back to reading when there is none left or nobody to
send it to. -/
theorem send_cases {i : ℕ} {old new : StreamTask} {registry : XdsRegistry}
    (h : s.streamStep i old .send = some (new, registry)) :
    (∃ snapshot response rest pushed, old.receiverOpen = true ∧
      old.phase = .sending snapshot (response :: rest) ∧ old.push none response = some pushed ∧
      new = { pushed with phase := .sending snapshot rest }) ∨
    ∃ snapshot pending, old.phase = .sending snapshot pending ∧
      (pending = [] ∨ old.receiverOpen = false) ∧ new = { old with phase := .reading } := by
  simp only [streamStep] at h
  split at h
  · rename_i snapshot response rest hphase
    split at h
    · rename_i hopen
      obtain ⟨pushed, hpush, heq⟩ := Option.map_eq_some_iff.mp h
      exact Or.inl ⟨snapshot, response, rest, pushed, hopen, hphase, hpush,
        (Prod.mk.inj heq).1.symm⟩
    · rename_i hclosed
      refine Or.inr ⟨snapshot, _, hphase, Or.inr (Bool.eq_false_iff.mpr hclosed), ?_⟩
      exact (Prod.mk.inj (Option.some.inj h)).1.symm
  · rename_i snapshot hphase
    exact Or.inr ⟨snapshot, [], hphase, Or.inl rfl, (Prod.mk.inj (Option.some.inj h)).1.symm⟩
  · simp at h

/-- A broadcast visits a node id once. -/
theorem notMem_visited_of_visit {k version : ℕ} {snapshot : XdsSnapshot} {b : Broadcast}
    {id : String} {phase : RebuildPhase}
    (h : s.rebuildStep encode k version (.iterating snapshot b) (.visit id) = some (s', phase)) :
    id ∉ b.visited := by
  simp only [rebuildStep] at h
  split at h
  · split at h
    · simp at h
    · rename_i hnot
      exact hnot
  · simp at h

end XdsControlPlane

/-! ## Messages and their answers -/

/-- The answers to a list of messages, each from the snapshot beside it. -/
def answersTo (taken : List (DiscoveryRequest × XdsSnapshot)) : List DiscoveryResponse :=
  taken.flatMap fun exchange => exchange.2.answer exchange.1

/-- The task has answered the messages from the snapshots it took, and what it sent are these
answers, up to the part it still holds. -/
structure StreamTask.Answered (stream : StreamTask) (messages : List DiscoveryRequest)
    (taken : List (DiscoveryRequest × XdsSnapshot)) : Prop where
  messages : taken.map Prod.fst ++ stream.unanswered = messages
  sent : stream.sentBy none <+: answersTo taken
  complete : stream.receiverOpen = true → stream.sentBy none ++ stream.unsent = answersTo taken

namespace StreamTask
variable {old new : StreamTask} {messages : List DiscoveryRequest}
  {taken : List (DiscoveryRequest × XdsSnapshot)}

/-- A step that does not touch the task's own answers. -/
theorem Answered.of_eq (h : old.Answered messages taken) (hsent : new.sentBy none = old.sentBy none)
    (hunsent : new.unsent = old.unsent) (hunanswered : new.unanswered = old.unanswered)
    (hopen : new.receiverOpen = true → old.receiverOpen = true) : new.Answered messages taken := by
  refine ⟨hunanswered ▸ h.messages, hsent ▸ h.sent, ?_⟩
  intro hreceiver
  rw [hsent, hunsent]
  exact h.complete (hopen hreceiver)

theorem Answered.receive (h : old.Answered messages taken) (hphase : old.phase = .reading)
    (message : DiscoveryRequest) (status : Option EnvoyConnectionStatus) :
    Answered { old with phase := .answering message, status := status }
      (messages ++ [message]) taken := by
  have hmessages := h.messages
  have hcomplete := h.complete
  simp only [unanswered, unsent, hphase, List.append_nil] at hmessages hcomplete
  refine ⟨?_, h.sent, ?_⟩
  · simp only [unanswered, hmessages]
  · intro hopen
    simp only [unsent, List.append_nil]
    exact hcomplete hopen

theorem Answered.readSnapshot (h : old.Answered messages taken) {message : DiscoveryRequest}
    (hphase : old.phase = .answering message) (snapshot : XdsSnapshot) :
    Answered { old with phase := .sending snapshot (snapshot.answer message) } messages
      (taken ++ [(message, snapshot)]) := by
  have hmessages := h.messages
  have hcomplete := h.complete
  simp only [unanswered, unsent, hphase, List.append_nil] at hmessages hcomplete
  have hanswers : answersTo (taken ++ [(message, snapshot)]) =
      answersTo taken ++ snapshot.answer message := by
    simp [answersTo]
  refine ⟨by simp [unanswered, hmessages], ?_, ?_⟩
  · rw [hanswers]
    exact h.sent.trans (List.prefix_append _ _)
  · intro hopen
    rw [hanswers, ← hcomplete hopen]
    rfl

theorem Answered.send (h : old.Answered messages taken) {snapshot : XdsSnapshot}
    {response : DiscoveryResponse} {rest : List DiscoveryResponse} {pushed : StreamTask}
    (hopen : old.receiverOpen = true) (hphase : old.phase = .sending snapshot (response :: rest))
    (hpush : old.push none response = some pushed) :
    Answered { pushed with phase := .sending snapshot rest } messages taken := by
  have hown : pushed.sentBy none ++ rest = answersTo taken := by
    have hbefore := h.complete hopen
    rw [sentBy_push_self hpush]
    simpa [unsent, hphase] using hbefore
  refine ⟨?_, ?_, fun _ => hown⟩
  · have hmessages := h.messages
    simpa only [unanswered, hphase] using hmessages
  · show pushed.sentBy none <+: answersTo taken
    exact hown ▸ List.prefix_append _ _

/-- The task goes back to reading. -/
theorem Answered.stop (h : old.Answered messages taken) {snapshot : XdsSnapshot}
    {pending : List DiscoveryResponse} (hphase : old.phase = .sending snapshot pending)
    (hstop : pending = [] ∨ old.receiverOpen = false) :
    Answered { old with phase := .reading } messages taken := by
  have hmessages := h.messages
  refine ⟨by simpa only [unanswered, hphase] using hmessages, h.sent, ?_⟩
  intro hopen
  rcases hstop with rfl | hclosed
  · have hcomplete := h.complete hopen
    simp only [unsent, hphase] at hcomplete
    exact hcomplete
  · exact absurd (hopen : old.receiverOpen = true) (by simp [hclosed])

end StreamTask

namespace XdsControlPlane
variable {encode : Message → Except String (List UInt8)} {s₀ s s' : XdsControlPlane}

/-- The snapshot was the installed one at some point of the run. -/
def InstalledDuring (encode : Message → Except String (List UInt8)) (s₀ : XdsControlPlane)
    (actions : List XdsAction) (snapshot : XdsSnapshot) : Prop :=
  ∃ before s, before <+: actions ∧ runAll (step encode) anyStep s₀ before = some s ∧
    s.snapshot = snapshot

theorem InstalledDuring.mono {actions : List XdsAction} {snapshot : XdsSnapshot}
    (h : InstalledDuring encode s₀ actions snapshot) (action : XdsAction) :
    InstalledDuring encode s₀ (actions ++ [action]) snapshot := by
  obtain ⟨before, s, hbefore, hrun, hsnapshot⟩ := h
  exact ⟨before, s, hbefore.trans (List.prefix_append _ _), hrun, hsnapshot⟩

/-- A step of the stream's own task: it reads a message, takes the installed snapshot for it, or
goes on with its answer. -/
theorem answered_streamStep {i : ℕ} {old new : StreamTask} {registry : XdsRegistry}
    {action : StreamAction} {messages : List DiscoveryRequest}
    {taken : List (DiscoveryRequest × XdsSnapshot)} (hold : old.Answered messages taken)
    (h : s.streamStep i old action = some (new, registry)) :
    ∃ more, new.Answered (messages ++ ((XdsAction.stream i action).messageTo i).toList)
      (taken ++ more) ∧ ∀ exchange ∈ more, exchange.2 = s.snapshot := by
  cases action with
  | receive message =>
    refine ⟨[], ?_, by simp⟩
    simp only [XdsAction.messageTo, if_true, Option.toList_some, List.append_nil]
    cases streamMove_of_streamStep h with
    | first hphase => exact hold.receive hphase message _
    | receive hphase => exact hold.receive hphase message _
  -- this is where the message gets its snapshot
  | readSnapshot =>
    cases streamMove_of_streamStep h with
    | @readSnapshot message hphase =>
      refine ⟨[(message, s.snapshot)], ?_, by simp⟩
      simp only [XdsAction.messageTo, Option.toList_none, List.append_nil]
      exact hold.readSnapshot hphase s.snapshot
  | send =>
    refine ⟨[], ?_, by simp⟩
    simp only [XdsAction.messageTo, Option.toList_none, List.append_nil]
    obtain ⟨snapshot, response, rest, pushed, hopen, hphase, hpush, rfl⟩ |
      ⟨snapshot, pending, hphase, hstop, rfl⟩ := send_cases h
    · exact hold.send hopen hphase hpush
    · exact hold.stop hphase hstop
  | endInbound =>
    refine ⟨[], ?_, by simp⟩
    simp only [XdsAction.messageTo, Option.toList_none, List.append_nil]
    cases streamMove_of_streamStep h with
    | endInbound hphase =>
      exact hold.of_eq rfl (by simp [StreamTask.unsent, hphase])
        (by simp [StreamTask.unanswered, hphase]) fun hopen => hopen
  -- what was sent stays, and nothing more is owed
  | cleanup =>
    refine ⟨[], ?_, by simp⟩
    simp only [XdsAction.messageTo, Option.toList_none, List.append_nil]
    have hended : old.phase = .ended ∧ new.sent = old.sent ∧ new.phase = .finished ∧
        new.receiverOpen = old.receiverOpen := by
      cases streamMove_of_streamStep h with
      | cleanup hphase => exact ⟨hphase, rfl, rfl, rfl⟩
      | cleanupUnknown hphase => exact ⟨hphase, rfl, rfl, rfl⟩
    obtain ⟨hphase, hsent, hphase', hopen⟩ := hended
    exact hold.of_eq (by simp [StreamTask.sentBy, hsent])
      (by simp [StreamTask.unsent, hphase, hphase'])
      (by simp [StreamTask.unanswered, hphase, hphase']) fun h => hopen ▸ h
  | take =>
    refine ⟨[], ?_, by simp⟩
    simp only [XdsAction.messageTo, Option.toList_none, List.append_nil]
    cases streamMove_of_streamStep h
    exact hold.of_eq rfl rfl rfl fun hopen => hopen
  | close =>
    refine ⟨[], ?_, by simp⟩
    simp only [XdsAction.messageTo, Option.toList_none, List.append_nil]
    cases streamMove_of_streamStep h
    exact hold.of_eq rfl rfl rfl (by simp)

/-- Every stream has answered the messages of the run, and a stream to come has none. -/
structure AllAnswered (encode : Message → Except String (List UInt8)) (s₀ : XdsControlPlane)
    (actions : List XdsAction) (s : XdsControlPlane) : Prop where
  streams : ∀ (i : ℕ) (stream : StreamTask), s.streams[i]? = some stream →
    ∃ taken : List (DiscoveryRequest × XdsSnapshot),
      stream.Answered (messagesTo i actions) taken ∧
        ∀ exchange ∈ taken, InstalledDuring encode s₀ actions exchange.2
  silent : ∀ i : ℕ, s.streams[i]? = none → messagesTo i actions = []

theorem messagesTo_concat (i : ℕ) (actions : List XdsAction) (action : XdsAction) :
    messagesTo i (actions ++ [action]) = messagesTo i actions ++ (action.messageTo i).toList := by
  rw [messagesTo, filterMap_concat]
  rfl

/-- An action that brings no message and changes the streams only by what others send. -/
theorem AllAnswered.of_streams {actions : List XdsAction} {action : XdsAction}
    (h : AllAnswered encode s₀ actions s) (hmessage : ∀ i, action.messageTo i = none)
    (hstreams : ∀ (i : ℕ) (new : StreamTask), s'.streams[i]? = some new →
      ∃ old : StreamTask, s.streams[i]? = some old ∧
        ∀ messages taken, old.Answered messages taken → new.Answered messages taken)
    (hnone : ∀ i : ℕ, s'.streams[i]? = none → s.streams[i]? = none) :
    AllAnswered encode s₀ (actions ++ [action]) s' := by
  refine ⟨?_, ?_⟩
  · intro i new hnew
    obtain ⟨old, hold, hkeep⟩ := hstreams i new hnew
    obtain ⟨taken, hanswered, hinstalled⟩ := h.streams i old hold
    rw [messagesTo_concat, hmessage i, Option.toList_none, List.append_nil]
    exact ⟨taken, hkeep _ _ hanswered, fun e he => (hinstalled e he).mono action⟩
  · intro i hi
    rw [messagesTo_concat, hmessage i, Option.toList_none, List.append_nil]
    exact h.silent i (hnone i hi)

theorem AllAnswered.connect {actions : List XdsAction} (h : AllAnswered encode s₀ actions s) :
    AllAnswered encode s₀ (actions ++ [.connect])
      { s with streams := s.streams ++ [({} : StreamTask)] } := by
  have hmessages : ∀ i, messagesTo i (actions ++ [.connect]) = messagesTo i actions := by
    intro i
    rw [messagesTo_concat]
    exact List.append_nil _
  refine ⟨?_, ?_⟩
  · intro i stream hstream
    rw [hmessages]
    rcases getElem?_concat_cases hstream with hold | ⟨hnone, rfl⟩
    · obtain ⟨taken, hanswered, hinstalled⟩ := h.streams i stream hold
      exact ⟨taken, hanswered, fun e he => (hinstalled e he).mono _⟩
    · rw [h.silent i hnone]
      exact ⟨[], ⟨rfl, List.prefix_rfl, fun _ => rfl⟩, by simp⟩
  · intro i hi
    rw [hmessages]
    apply h.silent i
    rw [List.getElem?_eq_none_iff] at hi ⊢
    rw [List.length_append] at hi
    omega

theorem AllAnswered.stream {actions : List XdsAction} (h : AllAnswered encode s₀ actions s)
    (hrun : runAll (step encode) anyStep s₀ actions = some s) {j : ℕ} {old new : StreamTask}
    {registry : XdsRegistry} {action : StreamAction} (hold : s.streams[j]? = some old)
    (hstep : s.streamStep j old action = some (new, registry)) :
    AllAnswered encode s₀ (actions ++ [.stream j action])
      { s with registry := registry, streams := s.streams.set j new } := by
  have hother : ∀ i, i ≠ j → (XdsAction.stream j action).messageTo i = none := by
    intro i hi
    cases action <;> simp [XdsAction.messageTo, Ne.symm hi]
  refine ⟨?_, ?_⟩
  · intro i stream hstream
    rw [messagesTo_concat]
    by_cases hi : i = j
    · subst hi
      obtain ⟨taken, hanswered, hinstalled⟩ := h.streams i old hold
      obtain ⟨more, hmore, hsnapshot⟩ := answered_streamStep hanswered hstep
      rw [getElem?_set_self hold, Option.some.injEq] at hstream
      subst hstream
      refine ⟨taken ++ more, hmore, ?_⟩
      intro exchange hexchange
      rcases List.mem_append.mp hexchange with he | he
      · exact (hinstalled exchange he).mono _
      · exact ⟨actions, s, List.prefix_append _ _, hrun, (hsnapshot exchange he).symm⟩
    · rw [List.getElem?_set_ne (Ne.symm hi)] at hstream
      rw [hother i hi, Option.toList_none, List.append_nil]
      obtain ⟨taken, hanswered, hinstalled⟩ := h.streams i stream hstream
      exact ⟨taken, hanswered, fun e he => (hinstalled e he).mono _⟩
  · intro i hi
    rw [List.getElem?_eq_none_iff, List.length_set, ← List.getElem?_eq_none_iff] at hi
    have hne : i ≠ j := by
      rintro rfl
      rw [hold] at hi
      simp at hi
    rw [messagesTo_concat, hother i hne, Option.toList_none, List.append_nil]
    exact h.silent i hi

/-- A rebuild adds to the channels, and nothing of the tasks' own. -/
theorem RebuildMove.keeps_answers {k version : ℕ} {phase phase' : RebuildPhase}
    {action : RebuildAction} (h : RebuildMove encode s k version phase action s' phase') (i : ℕ)
    (new : StreamTask) (hnew : s'.streams[i]? = some new) :
    ∃ old : StreamTask, s.streams[i]? = some old ∧
      ∀ messages taken, old.Answered messages taken → new.Answered messages taken := by
  cases h with
  | @deliver snapshot b delivery response rest old pushed hcurrent hpending hstream hpush =>
    by_cases hi : delivery.stream = i
    · subst hi
      rw [getElem?_set_self hstream, Option.some.injEq] at hnew
      subst hnew
      refine ⟨old, hstream, fun messages taken hanswered => ?_⟩
      refine hanswered.of_eq (StreamTask.sentBy_push_of_ne hpush (by simp)) ?_ ?_ ?_
      · rw [StreamTask.push_cases hpush]; rfl
      · rw [StreamTask.push_cases hpush]; rfl
      · rw [StreamTask.push_cases hpush]; exact fun hopen => hopen
    · rw [List.getElem?_set_ne hi] at hnew
      exact ⟨new, hnew, fun _ _ hanswered => hanswered⟩
  | build | fail | install | broadcast | visit | next | disconnect | endIteration | remove
  | finish | abandon => exact ⟨new, hnew, fun _ _ hanswered => hanswered⟩

theorem RebuildMove.length_streams {k version : ℕ} {phase phase' : RebuildPhase}
    {action : RebuildAction} (h : RebuildMove encode s k version phase action s' phase') :
    s'.streams.length = s.streams.length := by
  cases h with
  | deliver => exact List.length_set
  | build | fail | install | broadcast | visit | next | disconnect | endIteration | remove
  | finish | abandon => rfl

theorem AllAnswered.step {actions : List XdsAction} (h : AllAnswered encode s₀ actions s)
    (hrun : runAll (XdsControlPlane.step encode) anyStep s₀ actions = some s) {action : XdsAction}
    (hstep : s.step encode action = some s') :
    AllAnswered encode s₀ (actions ++ [action]) s' := by
  cases action with
  | connect =>
    rw [← Option.some.inj hstep]
    exact h.connect
  | stream j action =>
    obtain ⟨old, new, registry, hold, hmove, rfl⟩ := stream_of_step hstep
    exact h.stream hrun hold hmove
  | draw config =>
    rw [← Option.some.inj hstep]
    exact h.of_streams (fun _ => rfl) (fun i new hnew => ⟨new, hnew, fun _ _ h => h⟩) fun _ h => h
  | rebuild k action =>
    obtain ⟨task, moved, phase, htask, hmove, rfl⟩ := rebuild_of_step hstep
    have hmove := rebuildMove_of_rebuildStep hmove
    refine h.of_streams (fun _ => rfl) (fun i new hnew => hmove.keeps_answers i new hnew) ?_
    intro i hi
    rw [List.getElem?_eq_none_iff] at hi ⊢
    exact hmove.length_streams ▸ hi

/-- In every run, with any interleaving, and for every stream: what its task has sent are the
answers to the messages of the stream, in their order, each made from a snapshot that was installed
at that time. A task that waits for the next message has answered all of them, and if the receiver
is open, it has sent every answer to its end. -/
theorem messages_answered (encode : Message → Except String (List UInt8)) (config : GatewayConfig)
    (s₀ s : XdsControlPlane) (hnew : XdsControlPlane.new encode config = .ok s₀)
    (actions : List XdsAction)
    (hrun : runAll (XdsControlPlane.step encode) anyStep s₀ actions = some s) (i : ℕ)
    (stream : StreamTask) (hstream : s.streams[i]? = some stream) :
    ∃ taken : List (DiscoveryRequest × XdsSnapshot),
      (∀ exchange ∈ taken, InstalledDuring encode s₀ actions exchange.2) ∧
      taken.map Prod.fst <+: messagesTo i actions ∧
      stream.sentBy none <+: answersTo taken ∧
      (stream.phase = .reading →
        taken.map Prod.fst = messagesTo i actions ∧
          (stream.receiverOpen = true → stream.sentBy none = answersTo taken)) := by
  obtain ⟨snapshot₀, hbuild, hs₀⟩ := Lib.Fallible.eq_ok_of_bind hnew
  obtain rfl := Except.ok.inj hs₀
  have hall : AllAnswered encode { snapshot := snapshot₀, versions := 1 } actions s := by
    refine runAll_invariant (I := AllAnswered encode _) hrun ⟨by simp, fun _ _ => rfl⟩ ?_
    intro actions s action s' hrun ih _ hstep
    exact ih.step hrun hstep
  obtain ⟨taken, hanswered, hinstalled⟩ := hall.streams i stream hstream
  refine ⟨taken, hinstalled, ?_, hanswered.sent, ?_⟩
  · rw [← hanswered.messages]
    exact List.prefix_append _ _
  · intro hreading
    have hmessages := hanswered.messages
    have hcomplete := hanswered.complete
    simp only [StreamTask.unanswered, StreamTask.unsent, hreading, List.append_nil]
      at hmessages hcomplete
    exact ⟨hmessages, hcomplete⟩

end XdsControlPlane

/-! ## Broadcasts -/

namespace StreamTask

/-- The rebuild sent the stream nothing or everything, or the receiver is gone and it stopped on
the way. -/
def AllOrNothing (stream : StreamTask) (k : ℕ) (snapshot : XdsSnapshot) : Prop :=
  stream.sentBy (some k) = [] ∨ stream.sentBy (some k) = snapshot.orderedResponses ∨
    (stream.receiverOpen = false ∧ stream.sentBy (some k) <+: snapshot.orderedResponses)

/-- What rebuild `k` sent to stream `i` while it goes through the registry. -/
structure Iterated (stream : StreamTask) (k i : ℕ) (snapshot : XdsSnapshot) (b : Broadcast) :
    Prop where
  unvisited : (∀ id, stream.nodeId = some id → id ∉ b.visited) → stream.sentBy (some k) = []
  current : ∀ delivery, b.current = some delivery → delivery.stream = i →
    stream.nodeId = some delivery.nodeId ∧ delivery.nodeId ∈ b.visited ∧
      stream.sentBy (some k) ++ delivery.pending = snapshot.orderedResponses
  others : (∀ delivery, b.current = some delivery → delivery.stream ≠ i) →
    stream.AllOrNothing k snapshot

/-- What rebuild `k` sent to stream `i`, by the phase the rebuild is in. -/
def Pushed (stream : StreamTask) (k i version : ℕ) : RebuildPhase → Prop
  | .building _ | .built _ | .installed _ | .failed _ => stream.sentBy (some k) = []
  | .iterating snapshot b => stream.Iterated k i snapshot b
  | .removing snapshot _ | .finished snapshot _ => stream.AllOrNothing k snapshot
  | .abandoned =>
    (stream.sentBy (some k)).map DiscoveryResponse.typeUrl <+: typeUrlsInOrder ∧
      ∀ response ∈ stream.sentBy (some k), response.versionInfo = toString version

/-- The stream was sent everything, unless its receiver is gone. -/
def Received (stream : StreamTask) (k : ℕ) (snapshot : XdsSnapshot) : Prop :=
  stream.receiverOpen = true → stream.sentBy (some k) = snapshot.orderedResponses

/-- A step in which rebuild `k` sends nothing to the stream. -/
structure Untouched (k : ℕ) (old new : StreamTask) : Prop where
  sentBy : new.sentBy (some k) = old.sentBy (some k)
  nodeId : ∀ id, old.nodeId = some id → new.nodeId = some id
  closed : old.receiverOpen = false → new.receiverOpen = false

section Untouched
variable {k i version : ℕ} {old new : StreamTask} {snapshot : XdsSnapshot} {b : Broadcast}

theorem Untouched.refl (stream : StreamTask) : Untouched k stream stream :=
  ⟨rfl, fun _ h => h, fun h => h⟩

theorem Untouched.allOrNothing (h : Untouched k old new) (hold : old.AllOrNothing k snapshot) :
    new.AllOrNothing k snapshot := by
  unfold AllOrNothing at hold ⊢
  rw [h.sentBy]
  exact hold.imp_right (Or.imp_right (And.imp_left h.closed))

theorem Untouched.received (h : Untouched k old new) (hold : old.Received k snapshot) :
    new.Received k snapshot := by
  intro hopen
  rw [h.sentBy]
  apply hold
  by_contra hclosed
  simp [h.closed (Bool.eq_false_iff.mpr hclosed)] at hopen

theorem Untouched.iterated (h : Untouched k old new) (hold : old.Iterated k i snapshot b) :
    new.Iterated k i snapshot b := by
  refine ⟨?_, ?_, fun hothers => h.allOrNothing (hold.others hothers)⟩
  · intro hunvisited
    rw [h.sentBy]
    exact hold.unvisited fun id hid => hunvisited id (h.nodeId id hid)
  · intro delivery hcurrent hstream
    obtain ⟨hid, hvisited, hpending⟩ := hold.current delivery hcurrent hstream
    rw [h.sentBy]
    exact ⟨h.nodeId _ hid, hvisited, hpending⟩

theorem Untouched.pushed (h : Untouched k old new) {phase : RebuildPhase}
    (hold : old.Pushed k i version phase) : new.Pushed k i version phase := by
  cases phase with
  | iterating snapshot b => exact h.iterated hold
  | removing snapshot b => exact h.allOrNothing hold
  | finished snapshot b => exact h.allOrNothing hold
  | building config => exact h.sentBy.trans hold
  | built snapshot => exact h.sentBy.trans hold
  | installed snapshot => exact h.sentBy.trans hold
  | failed e => exact h.sentBy.trans hold
  | abandoned =>
    unfold Pushed at hold ⊢
    rw [h.sentBy]
    exact hold

end Untouched

section Steps
variable {k i version : ℕ} {stream : StreamTask} {snapshot : XdsSnapshot} {b : Broadcast}

/-- A part of a broadcast is in order and of its version. -/
theorem inOrder_of_prefix (hcomplete : snapshot.Complete)
    (hinitial : stream.sentBy (some k) <+: snapshot.orderedResponses) :
    (stream.sentBy (some k)).map DiscoveryResponse.typeUrl <+: typeUrlsInOrder ∧
      ∀ response ∈ stream.sentBy (some k), response.versionInfo = toString snapshot.version := by
  refine ⟨?_, ?_⟩
  · rw [← hcomplete.typeUrl_orderedResponses]
    exact hinitial.map _
  · intro response hresponse
    obtain ⟨typeUrl, hfor⟩ :=
      XdsSnapshot.responseFor_of_mem_orderedResponses (hinitial.subset hresponse)
    exact XdsSnapshot.versionInfo_of_responseFor hfor

theorem AllOrNothing.isPrefix (h : stream.AllOrNothing k snapshot) :
    stream.sentBy (some k) <+: snapshot.orderedResponses := by
  rcases h with hnone | hall | ⟨-, hinitial⟩
  · rw [hnone]
    exact List.nil_prefix
  · exact hall ▸ List.prefix_rfl
  · exact hinitial

theorem Iterated.isPrefix (h : stream.Iterated k i snapshot b) :
    stream.sentBy (some k) <+: snapshot.orderedResponses := by
  by_cases hcurrent : ∃ delivery, b.current = some delivery ∧ delivery.stream = i
  · obtain ⟨delivery, hdelivery, hstream⟩ := hcurrent
    rw [← (h.current delivery hdelivery hstream).2.2]
    exact List.prefix_append _ _
  · refine (h.others ?_).isPrefix
    intro delivery hdelivery hstream
    exact hcurrent ⟨delivery, hdelivery, hstream⟩

/-- In every phase what was sent is in order and of the version of the rebuild. -/
theorem Pushed.inOrder {phase : RebuildPhase} (hsound : RebuildTask.Sound ⟨version, phase⟩)
    (h : stream.Pushed k i version phase) :
    (stream.sentBy (some k)).map DiscoveryResponse.typeUrl <+: typeUrlsInOrder ∧
      ∀ response ∈ stream.sentBy (some k), response.versionInfo = toString version := by
  -- nothing sent is in order too
  have hnothing : stream.sentBy (some k) = [] →
      (stream.sentBy (some k)).map DiscoveryResponse.typeUrl <+: typeUrlsInOrder ∧
        ∀ response ∈ stream.sentBy (some k), response.versionInfo = toString version := by
    intro hnone
    simp [hnone]
  have hpart : ∀ snapshot, phase.snapshot = some snapshot →
      stream.sentBy (some k) <+: snapshot.orderedResponses →
      (stream.sentBy (some k)).map DiscoveryResponse.typeUrl <+: typeUrlsInOrder ∧
        ∀ response ∈ stream.sentBy (some k), response.versionInfo = toString version := by
    intro snapshot hsnapshot hinitial
    obtain ⟨hcomplete, hversion⟩ := hsound snapshot hsnapshot
    have hversion : snapshot.version = version := hversion
    rw [← hversion]
    exact inOrder_of_prefix hcomplete hinitial
  cases phase with
  | iterating snapshot b => exact hpart snapshot rfl (Iterated.isPrefix h)
  | removing snapshot b => exact hpart snapshot rfl (AllOrNothing.isPrefix h)
  | finished snapshot b => exact hpart snapshot rfl (AllOrNothing.isPrefix h)
  | building config => exact hnothing h
  | built snapshot => exact hnothing h
  | installed snapshot => exact hnothing h
  | failed e => exact hnothing h
  | abandoned => exact h

/-- A stream that was sent nothing, and that the rebuild is not at. -/
theorem Pushed.of_nothing {phase : RebuildPhase} (h : stream.sentBy (some k) = [])
    (htarget : i ∉ phase.target) : stream.Pushed k i version phase := by
  cases phase with
  | iterating snapshot b =>
    refine ⟨fun _ => h, ?_, fun _ => Or.inl h⟩
    intro delivery hcurrent hstream
    refine absurd ?_ htarget
    simp [RebuildPhase.target, hcurrent, hstream]
  | removing snapshot b => exact Or.inl h
  | finished snapshot b => exact Or.inl h
  | building config => exact h
  | built snapshot => exact h
  | installed snapshot => exact h
  | failed e => exact h
  | abandoned => simp [Pushed, h]

/-- A broadcast that has come to nobody yet. -/
theorem Iterated.start (h : stream.sentBy (some k) = []) (registry : XdsRegistry)
    (streams : List StreamTask) :
    stream.Iterated k i snapshot { start := registry, streams := streams } :=
  ⟨fun _ => h, by simp, fun _ => Or.inl h⟩

/-- The broadcast comes to the stream registered under an id it has not visited. -/
theorem Iterated.visit (h : stream.Iterated k i snapshot b) (hidle : b.current = none)
    {id : String} {j : ℕ} (hid : j = i → stream.nodeId = some id) (hnew : id ∉ b.visited) :
    stream.Iterated k i snapshot
      { b with
        visited := id :: b.visited, current := some ⟨id, j, snapshot.orderedResponses⟩ } := by
  refine ⟨?_, ?_, ?_⟩
  · intro hunvisited
    refine h.unvisited fun id' hid' hmem => ?_
    exact hunvisited id' hid' (List.mem_cons_of_mem _ hmem)
  · intro delivery hdelivery hstream
    obtain rfl := Option.some.inj hdelivery
    have hnode := hid hstream
    refine ⟨hnode, List.mem_cons_self, ?_⟩
    have hnothing : stream.sentBy (some k) = [] := by
      apply h.unvisited
      intro id' hid' hmem
      rw [hnode, Option.some.injEq] at hid'
      exact hnew (hid' ▸ hmem)
    rw [hnothing, List.nil_append]
  · intro _
    exact h.others (by simp [hidle])

/-- The broadcast leaves the stream it was at, having sent everything to it. -/
theorem Iterated.next (h : stream.Iterated k i snapshot b) {delivery : Delivery}
    (hcurrent : b.current = some delivery) (hdone : delivery.pending = []) :
    stream.Iterated k i snapshot { b with current := none } := by
  refine ⟨h.unvisited, by simp, fun _ => ?_⟩
  by_cases hstream : delivery.stream = i
  · have hall := (h.current delivery hcurrent hstream).2.2
    rw [hdone, List.append_nil] at hall
    exact Or.inr (Or.inl hall)
  · apply h.others
    intro other hother
    rw [hcurrent, Option.some.injEq] at hother
    exact hother ▸ hstream

/-- The broadcast leaves a stream whose receiver is gone. -/
theorem Iterated.disconnect (h : stream.Iterated k i snapshot b) {delivery : Delivery}
    (hcurrent : b.current = some delivery)
    (hclosed : delivery.stream = i → stream.receiverOpen = false) (disconnected : List String) :
    stream.Iterated k i snapshot { b with current := none, disconnected := disconnected } := by
  refine ⟨h.unvisited, by simp, fun _ => ?_⟩
  by_cases hstream : delivery.stream = i
  · exact Or.inr (Or.inr ⟨hclosed hstream, h.isPrefix⟩)
  · apply h.others
    intro other hother
    rw [hcurrent, Option.some.injEq] at hother
    exact hother ▸ hstream

/-- The next response to the stream the broadcast is at. -/
theorem Iterated.deliver {old new : StreamTask} (h : old.Iterated k i snapshot b)
    {delivery : Delivery} {response : DiscoveryResponse} {rest : List DiscoveryResponse}
    (hcurrent : b.current = some delivery) (hpending : delivery.pending = response :: rest)
    (hstream : delivery.stream = i) (hpush : old.push (some k) response = some new) :
    new.Iterated k i snapshot { b with current := some { delivery with pending := rest } } := by
  obtain ⟨hid, hvisited, hall⟩ := h.current delivery hcurrent hstream
  have hnode : new.nodeId = some delivery.nodeId := by
    rw [push_cases hpush]
    exact hid
  refine ⟨?_, ?_, ?_⟩
  · intro hunvisited
    exact absurd hvisited (hunvisited _ hnode)
  · intro other hother _
    obtain rfl := Option.some.inj hother
    refine ⟨hnode, hvisited, ?_⟩
    rw [sentBy_push_self hpush, List.append_assoc, List.singleton_append, ← hpending]
    exact hall
  · intro hothers
    exact absurd hstream (hothers { delivery with pending := rest } rfl)

/-- The same step for the streams it is not at. -/
theorem Iterated.deliver_of_ne (h : stream.Iterated k i snapshot b) {delivery : Delivery}
    (hcurrent : b.current = some delivery) (hne : delivery.stream ≠ i)
    (pending : List DiscoveryResponse) :
    stream.Iterated k i snapshot
      { b with current := some { delivery with pending := pending } } := by
  refine ⟨h.unvisited, ?_, ?_⟩
  · intro other hother hstream
    obtain rfl := Option.some.inj hother
    exact absurd hstream hne
  · intro _
    apply h.others
    intro other hother
    rw [hcurrent, Option.some.injEq] at hother
    exact hother ▸ hne

end Steps

end StreamTask

/-! ### The streams that were visited -/

/-- Each id that was visited is that of a stream that was sent everything, or that the broadcast is
still at. -/
def Broadcast.Served (b : Broadcast) (streams : List StreamTask) (k : ℕ) (snapshot : XdsSnapshot) :
    Prop :=
  ∀ id ∈ b.visited, ∃ (i : ℕ) (stream : StreamTask), streams[i]? = some stream ∧
    stream.nodeId = some id ∧
      ((∃ delivery, b.current = some delivery ∧ delivery.stream = i) ∨ stream.Received k snapshot)

def RebuildPhase.Served (streams : List StreamTask) (k : ℕ) : RebuildPhase → Prop
  | .building _ | .built _ | .installed _ | .failed _ | .abandoned => True
  | .iterating snapshot b => b.Served streams k snapshot
  | .removing snapshot b | .finished snapshot b => b.current = none ∧ b.Served streams k snapshot

section Served
variable {streams streams' : List StreamTask} {k : ℕ} {snapshot : XdsSnapshot} {b : Broadcast}

theorem Broadcast.Served.mono (h : b.Served streams k snapshot)
    (hmove : ∀ (i : ℕ) (old : StreamTask), streams[i]? = some old →
      ∃ new : StreamTask, streams'[i]? = some new ∧ StreamTask.Untouched k old new) :
    b.Served streams' k snapshot := by
  intro id hid
  obtain ⟨i, old, hold, hnode, hserved⟩ := h id hid
  obtain ⟨new, hnew, huntouched⟩ := hmove i old hold
  exact ⟨i, new, hnew, huntouched.nodeId id hnode, hserved.imp_right huntouched.received⟩

theorem RebuildPhase.Served.mono {phase : RebuildPhase} (h : phase.Served streams k)
    (hmove : ∀ (i : ℕ) (old : StreamTask), streams[i]? = some old →
      ∃ new : StreamTask, streams'[i]? = some new ∧ StreamTask.Untouched k old new) :
    phase.Served streams' k := by
  cases phase with
  | iterating snapshot b => exact Broadcast.Served.mono h hmove
  | removing snapshot b => exact ⟨h.1, h.2.mono hmove⟩
  | finished snapshot b => exact ⟨h.1, h.2.mono hmove⟩
  | building | built | installed | failed | abandoned => trivial

/-- The broadcast comes to a stream. -/
theorem Broadcast.Served.visit (h : b.Served streams k snapshot) (hidle : b.current = none)
    {id : String} {j : ℕ} {stream : StreamTask} (hstream : streams[j]? = some stream)
    (hnode : stream.nodeId = some id) (pending : List DiscoveryResponse) :
    Broadcast.Served { b with visited := id :: b.visited, current := some ⟨id, j, pending⟩ }
      streams k snapshot := by
  refine List.forall_mem_cons.mpr ⟨⟨j, stream, hstream, hnode, Or.inl ⟨_, rfl, rfl⟩⟩, ?_⟩
  intro id' hid'
  obtain ⟨i, other, hother, hnode', hserved⟩ := h id' hid'
  refine ⟨i, other, hother, hnode', hserved.imp_left ?_⟩
  rintro ⟨delivery, hdelivery, -⟩
  simp [hidle] at hdelivery

/-- The broadcast leaves a stream that was sent everything or whose receiver is gone. -/
theorem Broadcast.Served.leave (h : b.Served streams k snapshot) {delivery : Delivery}
    (hcurrent : b.current = some delivery)
    (hleft : ∀ stream : StreamTask, streams[delivery.stream]? = some stream →
      stream.Received k snapshot) (disconnected : List String) :
    Broadcast.Served { b with current := none, disconnected := disconnected } streams k
      snapshot := by
  intro id hid
  obtain ⟨i, stream, hstream, hnode, hserved⟩ := h id hid
  refine ⟨i, stream, hstream, hnode, Or.inr ?_⟩
  rcases hserved with ⟨other, hother, rfl⟩ | hreceived
  · obtain rfl : delivery = other := Option.some.inj (hcurrent.symm.trans hother)
    exact hleft stream hstream
  · exact hreceived

/-- The next response to the stream the broadcast is at. -/
theorem Broadcast.Served.deliver (h : b.Served streams k snapshot) {delivery : Delivery}
    {old new : StreamTask} {response : DiscoveryResponse} {rest : List DiscoveryResponse}
    (hcurrent : b.current = some delivery) (hold : streams[delivery.stream]? = some old)
    (hpush : old.push (some k) response = some new) :
    Broadcast.Served { b with current := some { delivery with pending := rest } }
      (streams.set delivery.stream new) k snapshot := by
  intro id hid
  obtain ⟨i, stream, hstream, hnode, hserved⟩ := h id hid
  by_cases hi : delivery.stream = i
  · subst hi
    rw [hold, Option.some.injEq] at hstream
    subst hstream
    exact ⟨_, new, getElem?_set_self hold new, (StreamTask.Evolves.push hpush).nodeId id hnode,
      Or.inl ⟨_, rfl, rfl⟩⟩
  · refine ⟨i, stream, by rw [List.getElem?_set_ne hi, hstream], hnode, hserved.imp_left ?_⟩
    rintro ⟨other, hother, hother_i⟩
    obtain rfl : delivery = other := Option.some.inj (hcurrent.symm.trans hother)
    exact absurd hother_i hi

end Served

namespace XdsControlPlane
variable {encode : Message → Except String (List UInt8)} {s s' : XdsControlPlane}

/-- The registry names streams by their own ids, and every rebuild has sent to every stream what its
phase says. -/
structure Pushing (s : XdsControlPlane) : Prop where
  names : ∀ (id : String) (i : ℕ), s.registry.lookup id = some i →
    ∃ stream : StreamTask, s.streams[i]? = some stream ∧ stream.nodeId = some id
  sound : ∀ task ∈ s.rebuilds, task.Sound
  target : ∀ task ∈ s.rebuilds, ∀ i ∈ task.phase.target, i < s.streams.length
  unborn : ∀ k : ℕ, s.rebuilds[k]? = none → ∀ stream ∈ s.streams, stream.sentBy (some k) = []
  pushed : ∀ (k : ℕ) (task : RebuildTask), s.rebuilds[k]? = some task →
    ∀ (i : ℕ) (stream : StreamTask), s.streams[i]? = some stream →
      stream.Pushed k i task.version task.phase
  served : ∀ (k : ℕ) (task : RebuildTask), s.rebuilds[k]? = some task →
    task.phase.Served s.streams k

theorem StreamMove.untouched {i k : ℕ} {old new : StreamTask} {action : StreamAction}
    {registry : XdsRegistry} (h : StreamMove s i old action new registry) :
    StreamTask.Untouched k old new := by
  refine ⟨?_, h.evolves.nodeId, ?_⟩
  · cases h with
    | @send _ _ _ pushed _ hpush =>
      show pushed.sentBy (some k) = old.sentBy (some k)
      exact StreamTask.sentBy_push_of_ne hpush (by simp)
    | first | receive | readSnapshot | stop | endInbound | cleanup | cleanupUnknown | take
    | close => rfl
  · intro hclosed
    cases h with
    | send _ hpush =>
      rw [StreamTask.push_cases hpush]
      exact hclosed
    | close => rfl
    | first | receive | readSnapshot | stop | endInbound | cleanup | cleanupUnknown | take =>
      exact hclosed

theorem Pushing.names_set (h : s.Pushing) {i : ℕ} {old new : StreamTask}
    (hold : s.streams[i]? = some old) (hid : ∀ id, old.nodeId = some id → new.nodeId = some id)
    {id : String} {j : ℕ} (hlookup : s.registry.lookup id = some j) :
    ∃ stream : StreamTask, (s.streams.set i new)[j]? = some stream ∧ stream.nodeId = some id := by
  obtain ⟨stream, hstream, hnode⟩ := h.names id j hlookup
  by_cases hij : i = j
  · subst hij
    rw [hold, Option.some.injEq] at hstream
    subst hstream
    exact ⟨new, getElem?_set_self hold new, hid id hnode⟩
  · exact ⟨stream, by rw [List.getElem?_set_ne hij, hstream], hnode⟩

theorem Pushing.stream (h : s.Pushing) {i : ℕ} {old new : StreamTask} {action : StreamAction}
    {registry : XdsRegistry} (hold : s.streams[i]? = some old)
    (hmove : StreamMove s i old action new registry) :
    Pushing { s with registry := registry, streams := s.streams.set i new } := by
  have hids := hmove.evolves.nodeId
  refine ⟨?_, h.sound, by simpa using h.target, ?_, ?_, ?_⟩
  · intro id j hlookup
    cases hmove.registryEffect with
    | keep => exact h.names_set hold hids hlookup
    | register message _ _ hnew =>
      -- the entry is the stream's own, or it was there before
      by_cases hid : id = message.nodeId
      · have hj : i = j := by
          have hself : (s.registry.insert message.nodeId i).lookup id = some i := by
            rw [hid, AList.lookup_insert]
          exact Option.some.inj (hself.symm.trans hlookup)
        subst hj
        exact ⟨new, getElem?_set_self hold new, hid ▸ hnew⟩
      · have hbefore : s.registry.lookup id = some j := by
          rw [← AList.lookup_insert_ne hid]
          exact hlookup
        exact h.names_set hold hids hbefore
    | remove other =>
      have hne : id ≠ other := by
        rintro rfl
        have hgone : (s.registry.erase id).lookup id = none := AList.lookup_erase id s.registry
        rw [hgone] at hlookup
        simp at hlookup
      have hbefore : s.registry.lookup id = some j := by
        rw [← AList.lookup_erase_ne hne]
        exact hlookup
      exact h.names_set hold hids hbefore
  · intro k hk stream hstream
    rcases List.mem_or_eq_of_mem_set hstream with hstream | rfl
    · exact h.unborn k hk stream hstream
    · exact hmove.untouched.sentBy.trans (h.unborn k hk old (List.mem_of_getElem? hold))
  · intro k task htask j stream hstream
    by_cases hij : i = j
    · subst hij
      have hnew : new = stream :=
        Option.some.inj ((getElem?_set_self hold new).symm.trans hstream)
      exact hnew ▸ hmove.untouched.pushed (h.pushed k task htask i old hold)
    · exact h.pushed k task htask j stream (by rwa [← List.getElem?_set_ne hij])
  · intro k task htask
    refine (h.served k task htask).mono fun j stream hstream => ?_
    by_cases hij : i = j
    · subst hij
      rw [hold, Option.some.injEq] at hstream
      exact ⟨new, getElem?_set_self hold new, hstream ▸ hmove.untouched⟩
    · exact ⟨stream, by rw [List.getElem?_set_ne hij, hstream], .refl stream⟩

theorem Pushing.connect (h : s.Pushing) :
    Pushing { s with streams := s.streams ++ [({} : StreamTask)] } := by
  have hnothing : ∀ k, (({} : StreamTask)).sentBy (some k) = [] := fun _ => rfl
  refine ⟨?_, h.sound, ?_, ?_, ?_, ?_⟩
  · intro id i hlookup
    obtain ⟨stream, hstream, hid⟩ := h.names id i hlookup
    exact ⟨stream, getElem?_concat_of_some hstream _, hid⟩
  · intro task htask i hi
    have hlt := h.target task htask i hi
    rw [List.length_append]
    omega
  · intro k hk
    exact List.forall_mem_append.mpr ⟨h.unborn k hk, List.forall_mem_singleton.mpr (hnothing k)⟩
  · intro k task htask i stream hstream
    rcases getElem?_concat_cases hstream with hold | ⟨hnone, rfl⟩
    · exact h.pushed k task htask i stream hold
    · refine StreamTask.Pushed.of_nothing (hnothing k) fun hi => ?_
      -- a broadcast is at a stream that was there before
      have hlt := h.target task (List.mem_of_getElem? htask) i hi
      rw [List.getElem?_eq_none_iff] at hnone
      omega
  · intro k task htask
    refine (h.served k task htask).mono fun i stream hstream => ?_
    exact ⟨stream, getElem?_concat_of_some hstream _, .refl stream⟩

/-- A rebuild that has just drawn its version. -/
theorem Pushing.draw (h : s.Pushing) (version : ℕ) (config : GatewayConfig) :
    Pushing
      { s with
        versions := version, rebuilds := s.rebuilds ++ [⟨version, .building config⟩] } := by
  refine ⟨h.names, ?_, ?_, ?_, ?_, ?_⟩
  · exact List.forall_mem_append.mpr ⟨h.sound, List.forall_mem_singleton.mpr (.building _ _)⟩
  · exact List.forall_mem_append.mpr
      ⟨h.target, List.forall_mem_singleton.mpr (by simp [RebuildPhase.target])⟩
  · intro k hk
    apply h.unborn k
    rw [List.getElem?_eq_none_iff] at hk ⊢
    rw [List.length_append] at hk
    omega
  · intro k task htask i stream hstream
    rcases getElem?_concat_cases htask with hold | ⟨hnone, rfl⟩
    · exact h.pushed k task hold i stream hstream
    · exact h.unborn k hnone stream (List.mem_of_getElem? hstream)
  · intro k task htask
    rcases getElem?_concat_cases htask with hold | ⟨-, rfl⟩
    · exact h.served k task hold
    · trivial

section Rebuild
variable {k version : ℕ} {phase phase' : RebuildPhase} {action : RebuildAction}
  (h : RebuildMove encode s k version phase action s' phase')
include h

/-- What a step of rebuild `k` does to a stream: nothing, or it sends the next response. -/
theorem RebuildMove.stream_cases {i : ℕ} {new : StreamTask} (hnew : s'.streams[i]? = some new) :
    s.streams[i]? = some new ∨
      ∃ old snapshot b delivery response rest, s.streams[i]? = some old ∧
        old.push (some k) response = some new ∧ phase = .iterating snapshot b ∧
        b.current = some delivery ∧ delivery.stream = i ∧ delivery.pending = response :: rest ∧
        phase' =
          .iterating snapshot { b with current := some { delivery with pending := rest } } := by
  cases h with
  | @deliver snapshot b delivery response rest old pushed hcurrent hpending hstream hpush =>
    by_cases hi : delivery.stream = i
    · right
      subst hi
      have hsame : pushed = new :=
        Option.some.inj ((getElem?_set_self hstream pushed).symm.trans hnew)
      exact ⟨old, snapshot, b, delivery, response, rest, hstream, hsame ▸ hpush, rfl, hcurrent, rfl,
        hpending, rfl⟩
    · left
      rwa [List.getElem?_set_ne hi] at hnew
  | build | fail | install | broadcast | visit | next | disconnect | endIteration | remove
  | finish | abandon => exact Or.inl hnew

/-- Another rebuild than `k` sees no difference. -/
theorem RebuildMove.untouched {i other : ℕ} {new : StreamTask} (hother : other ≠ k)
    (hnew : s'.streams[i]? = some new) :
    ∃ old : StreamTask, s.streams[i]? = some old ∧ StreamTask.Untouched other old new := by
  rcases h.stream_cases hnew with hold | ⟨old, _, _, _, _, _, hold, hpush, -⟩
  · exact ⟨new, hold, .refl new⟩
  · refine ⟨old, hold, StreamTask.sentBy_push_of_ne hpush (by simp [Ne.symm hother]), ?_, ?_⟩
    · exact (StreamTask.Evolves.push hpush).nodeId
    · rw [StreamTask.push_cases hpush]
      exact fun hclosed => hclosed

end Rebuild

/-- What a step of the rebuild does to what it has sent. -/
theorem Pushing.own_step (hs : s.Pushing) {k version : ℕ} {action : RebuildAction}
    {phase phase' : RebuildPhase} (htask : s.rebuilds[k]? = some ⟨version, phase⟩)
    (hstep : s.rebuildStep encode k version phase action = some (s', phase')) {i : ℕ}
    {new : StreamTask} (hnew : s'.streams[i]? = some new) : new.Pushed k i version phase' := by
  have hpushed := hs.pushed k ⟨version, phase⟩ htask i
  have hmove := rebuildMove_of_rebuildStep hstep
  cases hmove with
  | build => exact hpushed new hnew
  | fail => exact hpushed new hnew
  | install => exact hpushed new hnew
  | broadcast => exact .start (hpushed new hnew) _ _
  | @visit snapshot b id j hcurrent hlookup =>
    refine StreamTask.Iterated.visit (hpushed new hnew) hcurrent ?_ (notMem_visited_of_visit hstep)
    rintro rfl
    obtain ⟨stream, hstream, hid⟩ := hs.names id j hlookup
    rw [hnew, Option.some.injEq] at hstream
    exact hstream ▸ hid
  | next hcurrent hdone => exact StreamTask.Iterated.next (hpushed new hnew) hcurrent hdone
  | @deliver snapshot b delivery response rest old pushed hcurrent hpending hstream hpush =>
    by_cases hi : delivery.stream = i
    · subst hi
      have hsame : pushed = new :=
        Option.some.inj ((getElem?_set_self hstream pushed).symm.trans hnew)
      exact hsame ▸ (hpushed old hstream).deliver hcurrent hpending rfl hpush
    · have hold : s.streams[i]? = some new := by rwa [← List.getElem?_set_ne hi]
      exact (hpushed new hold).deliver_of_ne hcurrent hi rest
  | @disconnect snapshot b delivery stream hcurrent hstream hclosed =>
    refine StreamTask.Iterated.disconnect (hpushed new hnew) hcurrent ?_ _
    rintro rfl
    rw [hnew, Option.some.injEq] at hstream
    exact hstream ▸ hclosed
  | endIteration hover =>
    exact (hpushed new hnew : StreamTask.Iterated _ _ _ _ _).others (by simp [hover.1])
  | remove => exact hpushed new hnew
  | finish => exact hpushed new hnew
  | abandon => exact (hpushed new hnew).inOrder (hs.sound _ (List.mem_of_getElem? htask))

/-- What a step of the rebuild does to the streams it has visited. -/
theorem Pushing.served_step (hs : s.Pushing) {k version : ℕ} {action : RebuildAction}
    {phase phase' : RebuildPhase} (htask : s.rebuilds[k]? = some ⟨version, phase⟩)
    (hmove : RebuildMove encode s k version phase action s' phase') :
    phase'.Served s'.streams k := by
  have hserved := hs.served k ⟨version, phase⟩ htask
  have hpushed := hs.pushed k ⟨version, phase⟩ htask
  cases hmove with
  | build | fail | install | abandon => trivial
  | broadcast => exact fun id hid => absurd hid (by simp)
  | @visit snapshot b id j hcurrent hlookup =>
    obtain ⟨stream, hstream, hnode⟩ := hs.names id j hlookup
    exact Broadcast.Served.visit hserved hcurrent hstream hnode _
  | @next snapshot b delivery hcurrent hdone =>
    refine Broadcast.Served.leave hserved hcurrent (fun stream hstream _ => ?_) _
    -- nothing is left to send
    have hiterated : stream.Iterated k delivery.stream snapshot b :=
      hpushed delivery.stream stream hstream
    have hall := (hiterated.current delivery hcurrent rfl).2.2
    rwa [hdone, List.append_nil] at hall
  | deliver hcurrent _ hstream hpush =>
    exact Broadcast.Served.deliver hserved hcurrent hstream hpush
  | @disconnect snapshot b delivery stream hcurrent hstream hclosed =>
    refine Broadcast.Served.leave hserved hcurrent (fun other hother hopen => ?_) _
    rw [hstream, Option.some.injEq] at hother
    simp [← hother, hclosed] at hopen
  | endIteration hover => exact ⟨hover.1, hserved⟩
  | remove => exact hserved
  | finish => exact hserved

/-- The stream a broadcast is at after a step is one that is there. -/
theorem Pushing.target_step (hs : s.Pushing) {k version : ℕ} {action : RebuildAction}
    {phase phase' : RebuildPhase} (htask : s.rebuilds[k]? = some ⟨version, phase⟩)
    (hmove : RebuildMove encode s k version phase action s' phase') :
    ∀ i ∈ phase'.target, i < s.streams.length := by
  have htarget := hs.target _ (List.mem_of_getElem? htask)
  cases hmove with
  | @visit snapshot b id j hcurrent hlookup =>
    intro i hi
    obtain ⟨stream, hstream, -⟩ := hs.names id j hlookup
    have hj : j = i := by simpa [RebuildPhase.target] using hi
    exact hj ▸ (List.getElem?_eq_some_iff.mp hstream).1
  | deliver hcurrent =>
    simp only [RebuildPhase.target, hcurrent, Option.map_some] at htarget ⊢
    exact htarget
  | build | fail | install | broadcast | next | disconnect | endIteration | remove | finish
  | abandon => simp [RebuildPhase.target]

theorem RebuildMove.registry_cases {k version : ℕ} {phase phase' : RebuildPhase}
    {action : RebuildAction} (h : RebuildMove encode s k version phase action s' phase')
    {id : String} {i : ℕ} (hlookup : s'.registry.lookup id = some i) :
    s.registry.lookup id = some i := by
  cases h with
  | @remove snapshot b other rest hdisconnected =>
    have hne : id ≠ other := by
      rintro rfl
      have hgone : (s.registry.erase id).lookup id = none := AList.lookup_erase id s.registry
      rw [hgone] at hlookup
      simp at hlookup
    rw [← AList.lookup_erase_ne hne]
    exact hlookup
  | build | fail | install | broadcast | visit | next | deliver | disconnect | endIteration
  | finish | abandon => exact hlookup

theorem Pushing.rebuild (hs : s.Pushing) {k version : ℕ} {action : RebuildAction}
    {phase phase' : RebuildPhase} (htask : s.rebuilds[k]? = some ⟨version, phase⟩)
    (hstep : s.rebuildStep encode k version phase action = some (s', phase')) :
    Pushing { s' with rebuilds := s'.rebuilds.set k ⟨version, phase'⟩ } := by
  have hmove := rebuildMove_of_rebuildStep hstep
  have hrebuilds := hmove.rebuilds
  have hmem := List.mem_of_getElem? htask
  refine ⟨?_, ?_, ?_, ?_, ?_, ?_⟩
  · intro id i hlookup
    -- a rebuild only takes ids out of the registry
    obtain ⟨stream, hstream, hid⟩ := hs.names id i (hmove.registry_cases hlookup)
    obtain ⟨new, hnew, hevolves⟩ := hmove.follows.1.evolves i stream hstream
    exact ⟨new, hnew, hevolves.nodeId id hid⟩
  · intro task hin
    rcases List.mem_or_eq_of_mem_set hin with hin | rfl
    · exact hs.sound task (hrebuilds ▸ hin)
    · exact hmove.sound (hs.sound _ hmem)
  · intro task hin i hi
    rw [hmove.length_streams]
    rcases List.mem_or_eq_of_mem_set hin with hin | rfl
    · exact hs.target task (hrebuilds ▸ hin) i hi
    · exact hs.target_step htask hmove i hi
  · intro other hother stream hstream
    -- one that is not there yet has sent nothing
    rw [hrebuilds, List.getElem?_eq_none_iff, List.length_set] at hother
    have hlt := (List.getElem?_eq_some_iff.mp htask).1
    obtain ⟨i, hi⟩ := List.mem_iff_getElem?.mp hstream
    have hne : other ≠ k := by omega
    obtain ⟨old, hold, huntouched⟩ := hmove.untouched hne hi
    rw [huntouched.sentBy]
    exact hs.unborn other (List.getElem?_eq_none hother) old (List.mem_of_getElem? hold)
  · intro other task hother i stream hstream
    rw [hrebuilds] at hother
    -- the rebuild that moves, and the others, of which no stream is touched
    by_cases hk : k = other
    · subst hk
      rw [getElem?_set_self htask, Option.some.injEq] at hother
      exact hother ▸ hs.own_step htask hstep hstream
    · rw [List.getElem?_set_ne hk] at hother
      obtain ⟨old, hold, huntouched⟩ := hmove.untouched (Ne.symm hk) hstream
      exact huntouched.pushed (hs.pushed other task hother i old hold)
  · intro other task hother
    rw [hrebuilds] at hother
    by_cases hk : k = other
    · subst hk
      rw [getElem?_set_self htask, Option.some.injEq] at hother
      subst hother
      exact @Pushing.served_step _ _ s' hs k version action phase phase' htask hmove
    · rw [List.getElem?_set_ne hk] at hother
      refine (hs.served other task hother).mono fun i old hold => ?_
      obtain ⟨new, hnew, -⟩ := hmove.follows.1.evolves i old hold
      obtain ⟨before, hbefore, huntouched⟩ := hmove.untouched (Ne.symm hk) hnew
      rw [hold, Option.some.injEq] at hbefore
      exact ⟨new, hnew, hbefore ▸ huntouched⟩

theorem Pushing.step (hs : s.Pushing) {action : XdsAction} (h : s.step encode action = some s') :
    s'.Pushing := by
  cases action with
  | connect =>
    rw [← Option.some.inj h]
    exact hs.connect
  | stream i action =>
    obtain ⟨old, new, registry, hold, hmove, rfl⟩ := stream_of_step h
    exact hs.stream hold (streamMove_of_streamStep hmove)
  | draw config =>
    rw [← Option.some.inj h]
    exact hs.draw _ config
  | rebuild k action =>
    obtain ⟨task, moved, phase, htask, hmove, rfl⟩ := rebuild_of_step h
    exact hs.rebuild htask hmove

/-- The task sends its answer, from the first snapshot, between the responses of the broadcast. -/
def answeringBetween : List XdsAction :=
  asking ++ broadcasting 0 ++ [.rebuild 0 .deliver, .stream 0 .send, .rebuild 0 .deliver,
    .stream 0 .send, .rebuild 0 .deliver, .rebuild 0 .deliver, .rebuild 0 .deliver,
    .rebuild 0 .endIteration, .rebuild 0 .remove]

theorem messages_answered_between :
    ∃ s stream, runAll (XdsControlPlane.step wireEncode) anyStep minimalControlPlane
        answeringBetween = some s ∧ s.streams[0]? = some stream ∧ stream.phase = .reading ∧
      (stream.sent.map fun entry => entry.response.versionInfo) = ["2", "1", "2", "2", "2"] ∧
      ∃ taken : List (DiscoveryRequest × XdsSnapshot),
        taken.map Prod.fst = messagesTo 0 answeringBetween ∧
          stream.sentBy none = answersTo taken := by
  have hrun : runAll (XdsControlPlane.step wireEncode) anyStep minimalControlPlane
      answeringBetween = some _ := rfl
  obtain ⟨taken, -, -, -, hreading⟩ :=
    messages_answered wireEncode (Validation.minimalConfig []) _ _ rfl answeringBetween hrun 0 _ rfl
  obtain ⟨hmessages, hsent⟩ := hreading rfl
  exact ⟨_, _, hrun, rfl, rfl, rfl, taken, hmessages, hsent rfl⟩

end XdsControlPlane

end Xds
end OpenApiGateway
