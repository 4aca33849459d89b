import OpenApiGateway.Lib.TransitionSystem
import OpenApiGateway.Xds.Server

/-!
# What the status of a peer says

The server keeps one `last_nack` for a stream, whatever types the messages are about. In any run
of the control plane the status of a stream is made of the messages that it has received
(`peerStatus_runAll`). `last_nack_iff` says for which messages `last_nack` is set just while some
type has been rejected and not accepted since.
-/

namespace OpenApiGateway
namespace Xds

open Lib.TransitionSystem

/-! ## The status of a stream -/

/-- The status once a message was read; the first one registers the stream. -/
def recordNext (status : Option EnvoyConnectionStatus) (message : DiscoveryRequest) :
    Option EnvoyConnectionStatus :=
  match status with
  | none => some (EnvoyConnectionStatus.record { nodeId := message.nodeId } message)
  | some status => some (status.record message)

def statusAfter (messages : List DiscoveryRequest) : Option EnvoyConnectionStatus :=
  messages.foldl recordNext none

/-- The message that an action brings to stream `i`. -/
def XdsAction.messageTo (i : ℕ) : XdsAction → Option DiscoveryRequest
  | .stream j (.receive message) => if j = i then some message else none
  | _ => none

namespace XdsControlPlane
variable {encode : Message → Except String (List UInt8)} {s s' : XdsControlPlane} {i : ℕ}

/-- The status of stream `i`, once its first message was read. -/
def peerStatus (s : XdsControlPlane) (i : ℕ) : Option EnvoyConnectionStatus :=
  s.streams[i]?.bind StreamTask.status

theorem status_of_streamStep {old new : StreamTask} {registry : XdsRegistry}
    {action : StreamAction} (h : s.streamStep i old action = some (new, registry)) :
    new.status =
      ((XdsAction.stream i action).messageTo i).elim old.status (recordNext old.status) := by
  cases action with
  | receive message =>
    simp only [XdsAction.messageTo, if_true, Option.elim_some]
    simp only [streamStep] at h
    split at h
    · rename_i _ hstatus
      rw [← (Prod.mk.inj (Option.some.inj h)).1, hstatus]
      rfl
    · rename_i _ hstatus
      rw [← (Prod.mk.inj (Option.some.inj h)).1, hstatus]
      rfl
    · simp at h
  | send =>
    cases streamMove_of_streamStep h with
    | send _ hpush =>
      rw [StreamTask.push_cases hpush]
      rfl
    | stop => rfl
  | readSnapshot | endInbound | take | close =>
    cases streamMove_of_streamStep h
    rfl
  | cleanup =>
    cases streamMove_of_streamStep h with
    | cleanup => rfl
    | cleanupUnknown => rfl

theorem peerStatus_set {j : ℕ} {old : StreamTask} (hold : s.streams[j]? = some old)
    (new : StreamTask) (registry : XdsRegistry) (i : ℕ) :
    peerStatus { s with registry := registry, streams := s.streams.set j new } i =
      if j = i then new.status else s.peerStatus i := by
  unfold peerStatus
  by_cases hij : j = i
  · subst hij
    simp only [if_true]
    rw [getElem?_set_self hold, Option.bind_some]
  · simp only [if_neg hij, List.getElem?_set_ne hij]

/-- A rebuild only puts responses into the channels. -/
theorem peerStatus_rebuild {k version : ℕ} {phase phase' : RebuildPhase} {action : RebuildAction}
    (h : RebuildMove encode s k version phase action s' phase') (i : ℕ) :
    s'.peerStatus i = s.peerStatus i := by
  cases h with
  | @deliver _ _ delivery _ _ old new _ _ hold hpush =>
    have hset := peerStatus_set hold new s.registry i
    have hstatus : new.status = old.status := by rw [StreamTask.push_cases hpush]
    rw [hset, hstatus]
    split
    · rename_i hi
      rw [← hi, peerStatus, hold, Option.bind_some]
    · rfl
  | build | fail | install | broadcast | visit | next | disconnect | endIteration | remove
  | finish | abandon => rfl

/-- A step changes the status of a stream by the message it brings to it. -/
theorem peerStatus_step {action : XdsAction} (h : s.step encode action = some s') (i : ℕ) :
    s'.peerStatus i = (action.messageTo i).elim (s.peerStatus i) (recordNext (s.peerStatus i)) := by
  cases action with
  | connect =>
    rw [← Option.some.inj h]
    show (s.streams ++ [({} : StreamTask)])[i]?.bind StreamTask.status = s.peerStatus i
    rw [peerStatus, List.getElem?_append]
    split
    · rfl
    · rename_i hi
      -- the new stream has no status yet
      have hnew : ∀ stream ∈ [({} : StreamTask)], stream.status = none := by simp
      rw [List.getElem?_eq_none (Nat.le_of_not_lt hi), Option.bind_none]
      cases hstream : [({} : StreamTask)][i - s.streams.length]? with
      | none => rfl
      | some stream => exact hnew stream (List.mem_of_getElem? hstream)
  | stream j action =>
    simp only [step] at h
    split at h
    · simp at h
    · rename_i old hold
      obtain ⟨⟨new, registry⟩, hstep, rfl⟩ := Option.map_eq_some_iff.mp h
      rw [peerStatus_set hold]
      by_cases hij : j = i
      · subst hij
        have hbefore : s.peerStatus j = old.status := by rw [peerStatus, hold, Option.bind_some]
        rw [if_pos rfl, hbefore]
        exact status_of_streamStep hstep
      · rw [if_neg hij]
        cases action with
        | receive => simp [XdsAction.messageTo, hij]
        | readSnapshot | send | endInbound | cleanup | take | close => rfl
  | draw config =>
    rw [← Option.some.inj h]
    rfl
  | rebuild k action =>
    cases Move.of_step h with
    | rebuild _ hmove => exact peerStatus_rebuild hmove i

/-- The messages that a run brings to stream `i`. -/
def messagesTo (i : ℕ) (actions : List XdsAction) : List DiscoveryRequest :=
  actions.filterMap (XdsAction.messageTo i)

/-- Every step can be taken that the code can take. -/
abbrev anyStep (_ : XdsControlPlane) (_ : XdsAction) : Prop := True

theorem peerStatus_runAll {actions : List XdsAction}
    (h : runAll (step encode) anyStep s actions = some s') (i : ℕ) :
    s'.peerStatus i = (messagesTo i actions).foldl recordNext (s.peerStatus i) := by
  induction actions generalizing s with
  | nil =>
    rw [runAll, Option.some.injEq] at h
    rw [h]
    rfl
  | cons action actions ih =>
    rw [runAll, if_pos trivial] at h
    obtain ⟨t, hstep, hrest⟩ := Option.bind_eq_some_iff.mp h
    rw [ih hrest, peerStatus_step hstep, messagesTo, messagesTo]
    cases hmessage : action.messageTo i with
    | none => rw [List.filterMap_cons_none hmessage, Option.elim_none]
    | some message =>
      rw [List.filterMap_cons_some hmessage, Option.elim_some, List.foldl_cons]

end XdsControlPlane

/-! ## Verdicts -/

inductive Verdict where
  | ack
  | nack
deriving DecidableEq

/-- What a message says about the resources of its type: a message with an error rejects them, any
other with a version accepts them. -/
def DiscoveryRequest.verdict (message : DiscoveryRequest) : Option Verdict :=
  if message.errorDetail.isSome then some .nack
  else if message.versionInfo ≠ "" then some .ack
  else none

/-- The last verdict on a type. -/
def latestVerdict (messages : List DiscoveryRequest) (typeUrl : String) : Option Verdict :=
  ((messages.filter fun m => m.typeUrl = typeUrl).filterMap DiscoveryRequest.verdict).getLast?

def Rejected (messages : List DiscoveryRequest) (typeUrl : String) : Prop :=
  latestVerdict messages typeUrl = some .nack

/-- The message is counted as an acknowledgement: the second branch of the source. -/
def countedAsAck (message : DiscoveryRequest) : Bool :=
  !isNack message && decide (message.versionInfo ≠ "")

/-- `last_nack` is set exactly while some type is rejected, and no message with an error was
counted as an acknowledgement. -/
structure StatusTrue (messages : List DiscoveryRequest) (status : Option EnvoyConnectionStatus) :
    Prop where
  lastNack : (status.bind EnvoyConnectionStatus.lastNack).isSome = true ↔
    ∃ typeUrl, Rejected messages typeUrl
  acks : ∀ message ∈ messages, message.errorDetail.isSome = true → countedAsAck message = false

/-- A message the status can follow: an error without a text comes without a version and while
some type is rejected already, and a type is accepted while no other one is rejected. -/
structure Followed (before : List DiscoveryRequest) (message : DiscoveryRequest) : Prop where
  emptyError : message.errorDetail = some "" →
    message.versionInfo = "" ∧ ∃ typeUrl, Rejected before typeUrl
  accepted : message.errorDetail = none → message.versionInfo ≠ "" →
    ∀ typeUrl, Rejected before typeUrl → typeUrl = message.typeUrl

theorem latestVerdict_concat (before : List DiscoveryRequest) (message : DiscoveryRequest)
    (typeUrl : String) :
    latestVerdict (before ++ [message]) typeUrl =
      if message.typeUrl = typeUrl then message.verdict.or (latestVerdict before typeUrl)
      else latestVerdict before typeUrl := by
  unfold latestVerdict
  by_cases htype : message.typeUrl = typeUrl
  · cases hverdict : message.verdict with
    | none => simp [List.filter_append, htype, hverdict]
    | some verdict => simp [List.filter_append, htype, hverdict]
  · simp [List.filter_append, htype]

/-! ## One more message -/

section Step
variable {before : List DiscoveryRequest} {message : DiscoveryRequest}

theorem statusAfter_concat (before : List DiscoveryRequest) (message : DiscoveryRequest) :
    statusAfter (before ++ [message]) = recordNext (statusAfter before) message := by
  rw [statusAfter, List.foldl_append]
  rfl

/-- What a message makes of `last_nack`. -/
theorem lastNack_recordNext (status : Option EnvoyConnectionStatus) (message : DiscoveryRequest) :
    (recordNext status message).bind EnvoyConnectionStatus.lastNack =
      if isNack message then message.errorDetail
      else if message.versionInfo ≠ "" then none
      else status.bind EnvoyConnectionStatus.lastNack := by
  have hrecord : ∀ status : EnvoyConnectionStatus, (status.record message).lastNack =
      if isNack message then message.errorDetail
      else if message.versionInfo ≠ "" then none
      else status.lastNack := by
    intro status
    by_cases hnack : isNack message = true
    · simp [EnvoyConnectionStatus.record, hnack]
    · by_cases hversion : message.versionInfo = ""
      · simp [EnvoyConnectionStatus.record, hnack, hversion]
      · simp [EnvoyConnectionStatus.record, hnack, hversion]
  cases status with
  | none => exact hrecord _
  | some status => exact hrecord status

/-- A message that says nothing leaves the rejected types as they are. -/
theorem rejected_concat_of_silent (h : message.verdict = none) (typeUrl : String) :
    Rejected (before ++ [message]) typeUrl ↔ Rejected before typeUrl := by
  rw [Rejected, latestVerdict_concat, h, Option.none_or, ite_self]
  rfl

theorem rejected_concat_of_nack (h : message.verdict = some .nack) :
    Rejected (before ++ [message]) message.typeUrl := by
  rw [Rejected, latestVerdict_concat, if_pos rfl, h, Option.some_or]

theorem rejected_concat_of_ack (h : message.verdict = some .ack) (typeUrl : String) :
    Rejected (before ++ [message]) typeUrl ↔
      Rejected before typeUrl ∧ typeUrl ≠ message.typeUrl := by
  rw [Rejected, latestVerdict_concat, h, Option.some_or]
  by_cases htype : message.typeUrl = typeUrl
  · rw [if_pos htype]
    exact iff_of_false (by simp) fun hrejected => hrejected.2 htype.symm
  · rw [if_neg htype]
    exact ⟨fun hrejected => ⟨hrejected, fun heq => htype heq.symm⟩, fun hrejected => hrejected.1⟩

/-- What has to be seen of one more message. -/
theorem statusTrue_concat_iff (h : StatusTrue before (statusAfter before)) :
    StatusTrue (before ++ [message]) (statusAfter (before ++ [message])) ↔
      ((if isNack message then message.errorDetail
        else if message.versionInfo ≠ "" then none
        else (statusAfter before).bind EnvoyConnectionStatus.lastNack).isSome = true ↔
          ∃ typeUrl, Rejected (before ++ [message]) typeUrl) ∧
      (message.errorDetail.isSome = true → countedAsAck message = false) := by
  have hnack := lastNack_recordNext (statusAfter before) message
  rw [← statusAfter_concat] at hnack
  rw [← hnack]
  constructor
  · intro htrue
    exact ⟨htrue.lastNack, htrue.acks message (by simp)⟩
  · rintro ⟨hlast, hack⟩
    exact ⟨hlast, List.forall_mem_append.mpr ⟨h.acks, List.forall_mem_singleton.mpr hack⟩⟩

theorem statusTrue_concat_of_noError (h : StatusTrue before (statusAfter before))
    (herror : message.errorDetail = none) :
    StatusTrue (before ++ [message]) (statusAfter (before ++ [message])) ↔
      Followed before message := by
  have hno : isNack message = false := by simp [isNack, herror]
  rw [statusTrue_concat_iff h]
  by_cases hversion : message.versionInfo = ""
  · -- a request for resources says nothing about earlier ones
    have hverdict : message.verdict = none := by
      simp [DiscoveryRequest.verdict, herror, hversion]
    have hfollowed : Followed before message :=
      ⟨by simp [herror], fun _ hne => absurd hversion hne⟩
    simp only [hno, hversion, herror, rejected_concat_of_silent hverdict]
    exact iff_of_true ⟨h.lastNack, by simp⟩ hfollowed
  · -- the acknowledgement clears `last_nack`, whatever type it was about
    have hverdict : message.verdict = some .ack := by
      simp [DiscoveryRequest.verdict, herror, hversion]
    simp only [hno, herror, rejected_concat_of_ack hverdict]
    constructor
    · rintro ⟨hnone, -⟩
      refine ⟨by simp [herror], fun _ _ typeUrl hrejected => ?_⟩
      by_contra hne
      have hset := hnone.mpr ⟨typeUrl, hrejected, hne⟩
      simp [hversion] at hset
    · intro hfollowed
      refine ⟨iff_of_false (by simp [hversion]) ?_, by simp⟩
      rintro ⟨typeUrl, hrejected, hne⟩
      exact hne (hfollowed.accepted herror hversion typeUrl hrejected)

/-- An error without a text is not taken for one. -/
theorem statusTrue_concat_of_emptyError (h : StatusTrue before (statusAfter before))
    (herror : message.errorDetail = some "") :
    StatusTrue (before ++ [message]) (statusAfter (before ++ [message])) ↔
      Followed before message := by
  have hno : isNack message = false := by simp [isNack, herror]
  have hrejected : ∃ typeUrl, Rejected (before ++ [message]) typeUrl :=
    ⟨_, rejected_concat_of_nack (by simp [DiscoveryRequest.verdict, herror])⟩
  rw [statusTrue_concat_iff h]
  by_cases hversion : message.versionInfo = ""
  · -- the message is passed over, so `last_nack` has to be set already
    have hcounted : countedAsAck message = false := by simp [countedAsAck, hversion]
    simp only [hno, hversion, hcounted, hrejected]
    constructor
    · rintro ⟨hset, -⟩
      exact ⟨fun _ => ⟨hversion, h.lastNack.mp (hset.mpr trivial)⟩, by simp [herror]⟩
    · intro hfollowed
      refine ⟨iff_of_true ?_ trivial, fun _ => trivial⟩
      exact h.lastNack.mpr (hfollowed.emptyError herror).2
  · -- the message is recorded as an acknowledgement of its version
    have hcounted : countedAsAck message = true := by simp [countedAsAck, hno, hversion]
    refine iff_of_false ?_ fun hfollowed => hversion (hfollowed.emptyError herror).1
    rintro ⟨-, hnever⟩
    have hfalse := hnever (by rw [herror]; rfl)
    rw [hcounted] at hfalse
    exact absurd hfalse (by simp)

theorem statusTrue_concat_of_error {text : String} (h : StatusTrue before (statusAfter before))
    (herror : message.errorDetail = some text) (htext : text ≠ "") :
    StatusTrue (before ++ [message]) (statusAfter (before ++ [message])) ↔
      Followed before message := by
  have hyes : isNack message = true := by simp [isNack, herror, htext]
  have hcounted : countedAsAck message = false := by simp [countedAsAck, hyes]
  have hrejected : ∃ typeUrl, Rejected (before ++ [message]) typeUrl :=
    ⟨_, rejected_concat_of_nack (by simp [DiscoveryRequest.verdict, herror])⟩
  have hfollowed : Followed before message := ⟨by simp [herror, htext], by simp [herror]⟩
  rw [statusTrue_concat_iff h]
  simp only [hyes, herror, hcounted, hrejected]
  exact iff_of_true ⟨by simp, fun _ => trivial⟩ hfollowed

/-- A status that is true stays true exactly under a message it can follow. -/
theorem statusTrue_concat (h : StatusTrue before (statusAfter before)) :
    StatusTrue (before ++ [message]) (statusAfter (before ++ [message])) ↔
      Followed before message := by
  cases herror : message.errorDetail with
  | none => exact statusTrue_concat_of_noError h herror
  | some text =>
    by_cases htext : text = ""
    · exact statusTrue_concat_of_emptyError h (htext ▸ herror)
    · exact statusTrue_concat_of_error h herror htext

end Step

/-! ## Whole streams -/

namespace XdsControlPlane
variable {encode : Message → Except String (List UInt8)} {config : GatewayConfig}
  {s₀ s : XdsControlPlane}

/-- At the start there is no stream. -/
theorem peerStatus_new (h : XdsControlPlane.new encode config = .ok s₀) (i : ℕ) :
    s₀.peerStatus i = none := by
  obtain ⟨snapshot, -, hstate⟩ := Lib.Fallible.eq_ok_of_bind h
  rw [← Except.ok.inj hstate]
  rfl

/-- In every run and for every stream, the status tells of rejected resources after each message
exactly if it could follow each message. -/
theorem last_nack_iff (hnew : XdsControlPlane.new encode config = .ok s₀) (i : ℕ)
    {actions : List XdsAction} (hrun : runAll (step encode) anyStep s₀ actions = some s) :
    (∀ done t, done <+: actions → runAll (step encode) anyStep s₀ done = some t →
      StatusTrue (messagesTo i done) (t.peerStatus i)) ↔
      ∀ before message, before ++ [message] <+: messagesTo i actions →
        Followed before message := by
  have hnil : StatusTrue [] (statusAfter []) :=
    ⟨iff_of_false (by simp [statusAfter]) (by simp [Rejected, latestVerdict]), by simp⟩
  have hiff := @forall_prefix_iff DiscoveryRequest
    (fun messages => StatusTrue messages (statusAfter messages)) Followed hnil
    (fun before message h => statusTrue_concat h) (messagesTo i actions)
  have hstatus : ∀ done t, runAll (step encode) anyStep s₀ done = some t →
      t.peerStatus i = statusAfter (messagesTo i done) := by
    intro done t hdone
    rw [peerStatus_runAll hdone, peerStatus_new hnew]
    rfl
  rw [← hiff]
  constructor
  · intro h messages hmessages
    obtain ⟨done, hdone, rfl⟩ := List.prefix_filterMap_iff.mp hmessages
    -- a part of a run is a run
    obtain ⟨rest, rfl⟩ := hdone
    rw [runAll_append] at hrun
    obtain ⟨t, ht, -⟩ := Option.bind_eq_some_iff.mp hrun
    have htrue := h done t (List.prefix_append _ _) ht
    rw [hstatus done t ht] at htrue
    exact htrue
  · intro h done t hdone ht
    rw [hstatus done t ht]
    exact h _ (hdone.filterMap _)

end XdsControlPlane

/-! ## A rejected cluster and an accepted listener -/

/-- The client rejects the clusters it was sent. -/
def clustersRejected : DiscoveryRequest :=
  { typeUrl := clusterTypeUrl, responseNonce := "snapshot-1", errorDetail := some "bad cluster" }

/-- It accepts the listeners of the same snapshot. -/
def listenersAccepted : DiscoveryRequest :=
  { versionInfo := "1", typeUrl := listenerTypeUrl, responseNonce := "snapshot-1" }

/-- It reports an error without a text, with the version it still has. -/
def silentlyRejected : DiscoveryRequest :=
  { versionInfo := "1", typeUrl := clusterTypeUrl, errorDetail := some "" }

/-- A stream that receives the messages one after the other, each answered with one response. -/
def conversation (messages : List DiscoveryRequest) : List XdsAction :=
  .connect :: messages.flatMap fun message =>
    [.stream 0 (.receive message), .stream 0 .readSnapshot, .stream 0 .send, .stream 0 .send]

theorem last_nack_iff_rejectedThenAccepted :
    ∃ s, runAll (XdsControlPlane.step wireEncode) XdsControlPlane.anyStep
        XdsControlPlane.minimalControlPlane
        (conversation [clustersRejected, listenersAccepted]) = some s ∧
      ((∀ done t, done <+: conversation [clustersRejected, listenersAccepted] →
        runAll (XdsControlPlane.step wireEncode) XdsControlPlane.anyStep
          XdsControlPlane.minimalControlPlane done = some t →
        StatusTrue (XdsControlPlane.messagesTo 0 done) (t.peerStatus 0)) ↔
      ∀ before message, before ++ [message] <+:
          XdsControlPlane.messagesTo 0 (conversation [clustersRejected, listenersAccepted]) →
        Followed before message) := by
  have hnew : XdsControlPlane.new wireEncode (Validation.minimalConfig []) =
      .ok XdsControlPlane.minimalControlPlane := rfl
  have hrun : ∃ s, runAll (XdsControlPlane.step wireEncode) XdsControlPlane.anyStep
      XdsControlPlane.minimalControlPlane
      (conversation [clustersRejected, listenersAccepted]) = some s := ⟨_, rfl⟩
  obtain ⟨s, hrun⟩ := hrun
  exact ⟨s, hrun, XdsControlPlane.last_nack_iff hnew 0 hrun⟩

/-- Accepting the listeners clears the rejection of the clusters; and an error without a text is
counted as an acknowledgement. -/
theorem rejection_forgotten :
    (∃ s, runAll (XdsControlPlane.step wireEncode) XdsControlPlane.anyStep
        XdsControlPlane.minimalControlPlane
        (conversation [clustersRejected, listenersAccepted]) = some s ∧
      (s.peerStatus 0).map EnvoyConnectionStatus.lastNack = some none ∧
      Rejected [clustersRejected, listenersAccepted] clusterTypeUrl) ∧
    silentlyRejected.errorDetail.isSome = true ∧ countedAsAck silentlyRejected = true := by
  refine ⟨⟨_, rfl, rfl, ?_⟩, rfl, by decide⟩
  show latestVerdict _ _ = _
  decide

end Xds
end OpenApiGateway
