import Mathlib.Data.List.Induction
import OpenApiGateway.Plugins.Executor

/-!
# The headers a chain of plugins sets

Plugins set headers only through the API of `Plugins.Sdk`, so what a chain leaves behind is a
sequence of API calls, each by one of its plugins. `executeAccess_continue` finds such a
sequence for every chain that ends normally; `lookup_responseHeaders` and
`lookup_upstreamHeaders` say which of its calls decides a header.
-/

namespace OpenApiGateway
namespace Plugins

open Lib.Text

/-- An API call together with the plugin that makes it. -/
abbrev ChainCall := PluginBinding × GatewayCall

/-- The shared state after a sequence of calls, whether they succeed or fail. -/
def stateAfter (request : PluginRequest) (st : RuntimeState) (calls : List ChainCall) :
    RuntimeState :=
  calls.foldl (fun st call => (callGateway request call.1 st call.2).2) st

theorem stateAfter_append (request : PluginRequest) (st : RuntimeState)
    (calls calls' : List ChainCall) :
    stateAfter request st (calls ++ calls') =
      stateAfter request (stateAfter request st calls) calls' := by
  unfold stateAfter
  exact List.foldl_append

theorem stateAfter_cons {request : PluginRequest} {binding : PluginBinding} {st st' : RuntimeState}
    {api : GatewayCall} {result : Except LuaError (Option String)}
    (h : callGateway request binding st api = (result, st')) (calls : List ChainCall) :
    stateAfter request st ((binding, api) :: calls) = stateAfter request st' calls := by
  rw [stateAfter, List.foldl_cons, h]
  rfl

/-! ## A chain is a sequence of calls -/

section Calls
variable {ω ι : Type} {request : PluginRequest}

/-- The state a Lua function leaves is that after the calls it made. -/
theorem LuaProg.run_calls (binding : PluginBinding) (prog : LuaProg ω) (st : RuntimeState) :
    ∃ calls, (prog.run request binding st).runtime = stateAfter request st calls := by
  induction prog generalizing st with
  | done vm => exact ⟨[], rfl⟩
  | raise error vm => exact ⟨[], rfl⟩
  | call vm api next ih =>
    unfold LuaProg.run
    split
    · rename_i reply st' hcall
      obtain ⟨calls, hcalls⟩ := ih reply st'
      exact ⟨(binding, api) :: calls, by rw [hcalls, stateAfter_cons hcall]⟩
    · rename_i error st' hcall
      -- an uncaught error ends the function, but the call has been made
      exact ⟨[(binding, api)], (stateAfter_cons hcall []).symm⟩
  | pcall api next caught ihnext ihcaught =>
    unfold LuaProg.run
    split
    · rename_i reply st' hcall
      obtain ⟨calls, hcalls⟩ := ihnext reply st'
      exact ⟨(binding, api) :: calls, by rw [hcalls, stateAfter_cons hcall]⟩
    · rename_i error st' hcall
      obtain ⟨calls, hcalls⟩ := ihcaught error st'
      exact ⟨(binding, api) :: calls, by rw [hcalls, stateAfter_cons hcall]⟩

theorem runPhase_calls (host : LuaHost ω ι) (vm : ThreadLocalVm ω ι) (binding : PluginBinding)
    (st : RuntimeState) (phase : Phase) :
    ∃ calls, (runPhase host vm binding request st phase).runtime =
      stateAfter request st calls := by
  unfold runPhase
  split
  · exact ⟨[], rfl⟩
  · split
    · exact ⟨[], rfl⟩
    · split
      · exact ⟨[], rfl⟩
      · rename_i function _
        exact function.run_calls binding st

/-- The loop, when it comes to its end, hands on the headers of the calls made in it. -/
theorem runChain_continue {host : LuaHost ω ι} {clock : ChainClock} {limits : PluginLimits}
    {index : ℕ} {bindings : List PluginBinding} {vm : ThreadLocalVm ω ι} {st : RuntimeState}
    {ran : List ℕ} {up down : PluginHeaders} {us : ℕ}
    (h : (runChain host clock limits request index bindings vm st ran).result =
      .continue up down us) :
    ∃ calls, up = (stateAfter request st calls).upstreamHeaders ∧
      down = (stateAfter request st calls).responseHeaders := by
  induction bindings generalizing index vm st ran with
  | nil =>
    simp only [runChain, PluginAccessResult.continue.injEq] at h
    exact ⟨[], h.1.symm, h.2.1.symm⟩
  | cons binding bindings ih =>
    -- past the deadline, at an exit or at an error the loop does not come to its end
    unfold runChain at h
    split at h
    · simp at h
    · simp only at h
      split at h
      · simp at h
      · simp at h
      · obtain ⟨phaseCalls, hphase⟩ := runPhase_calls host vm binding st .access
        obtain ⟨calls, hup, hdown⟩ := ih h
        rw [hphase, ← stateAfter_append] at hup hdown
        exact ⟨phaseCalls ++ calls, hup, hdown⟩

/-- The headers of a chain that ends normally are those of a sequence of API calls. -/
theorem executeAccess_continue {host : LuaHost ω ι} {clock : ChainClock}
    {runtime : PluginRuntime} {slot : Except PluginError (ThreadLocalVm ω ι)}
    {up down : PluginHeaders} {us : ℕ}
    (h : (executeAccess host clock runtime slot request).result = .ok (.continue up down us)) :
    ∃ calls, up = (stateAfter request RuntimeState.new calls).upstreamHeaders ∧
      down = (stateAfter request RuntimeState.new calls).responseHeaders := by
  unfold executeAccess at h
  split at h
  · simp only [Except.ok.injEq, PluginAccessResult.continue.injEq] at h
    exact ⟨[], h.1.symm, h.2.1.symm⟩
  · split at h
    · simp at h
    · split at h
      · simp at h
      · split at h
        · simp at h
        · exact runChain_continue (Except.ok.inj h)

end Calls

/-! ## Which call decides a header -/

/-- The value a call gives to a response header. -/
def responseHeaderOf (name : String) : GatewayCall → Option String
  | .setResponseHeader raw value => if toAsciiLowercase raw = name then some value else none
  | _ => none

/-- The value a call gives to a request header for the upstream service. -/
def serviceHeaderOf (name : String) : GatewayCall → Option String
  | .setServiceHeader raw value =>
    if toAsciiLowercase raw = name ∧ isReserved name = false then some value else none
  | _ => none

/-- The value the last call that sets this response header gives to it. -/
def lastResponseHeader (calls : List ChainCall) (name : String) : Option String :=
  calls.reverse.findSome? fun call => responseHeaderOf name call.2

/-- The value the last successful call that sets this upstream header gives to it. -/
def lastServiceHeader (calls : List ChainCall) (name : String) : Option String :=
  calls.reverse.findSome? fun call => serviceHeaderOf name call.2

theorem callGateway_responseHeaders (request : PluginRequest) (binding : PluginBinding)
    (st : RuntimeState) (call : GatewayCall) (name : String) :
    (callGateway request binding st call).2.responseHeaders.lookup name =
      (responseHeaderOf name call).or (st.responseHeaders.lookup name) := by
  cases call with
  | setResponseHeader raw value =>
    simp only [callGateway, responseHeaderOf]
    by_cases hname : toAsciiLowercase raw = name
    · rw [if_pos hname, hname, AList.lookup_insert]
      rfl
    · rw [if_neg hname, AList.lookup_insert_ne (Ne.symm hname)]
      rfl
  | setServiceHeader raw value =>
    simp only [callGateway]
    split
    · rfl
    · rfl
  | _ => rfl

theorem callGateway_upstreamHeaders (request : PluginRequest) (binding : PluginBinding)
    (st : RuntimeState) (call : GatewayCall) (name : String) :
    (callGateway request binding st call).2.upstreamHeaders.lookup name =
      (serviceHeaderOf name call).or (st.upstreamHeaders.lookup name) := by
  cases call with
  | setServiceHeader raw value =>
    simp only [callGateway, serviceHeaderOf]
    by_cases hname : toAsciiLowercase raw = name
    · subst hname
      -- a reserved name is refused, and the old value stays
      cases hreserved : isReserved (toAsciiLowercase raw) with
      | true => simp
      | false => simp
    · have hother : ¬ (toAsciiLowercase raw = name ∧ isReserved name = false) :=
        fun h => hname h.1
      simp only [if_neg hother]
      split
      · rfl
      · exact AList.lookup_insert_ne (Ne.symm hname)
  | _ => rfl

/-- A field of the state that each call either sets or leaves holds what the last call that
sets it gave. -/
theorem lookup_stateAfter {field : RuntimeState → PluginHeaders} {name : String}
    {setBy : GatewayCall → Option String} (request : PluginRequest)
    (hnew : (field RuntimeState.new).lookup name = none)
    (hstep : ∀ binding st call, (field (callGateway request binding st call).2).lookup name =
      (setBy call).or ((field st).lookup name)) (calls : List ChainCall) :
    (field (stateAfter request RuntimeState.new calls)).lookup name =
      calls.reverse.findSome? fun call => setBy call.2 := by
  induction calls using List.reverseRecOn with
  | nil => exact hnew
  | append_singleton calls call ih =>
    have hlast := hstep call.1 (stateAfter request RuntimeState.new calls) call.2
    rw [ih] at hlast
    rw [stateAfter_append, List.reverse_concat, List.findSome?_cons]
    refine hlast.trans ?_
    cases setBy call.2 with
    | none => rfl
    | some value => rfl

theorem lookup_responseHeaders (request : PluginRequest) (calls : List ChainCall)
    (name : String) :
    (stateAfter request RuntimeState.new calls).responseHeaders.lookup name =
      lastResponseHeader calls name :=
  lookup_stateAfter request rfl
    (fun binding st call => callGateway_responseHeaders request binding st call name) calls

theorem lookup_upstreamHeaders (request : PluginRequest) (calls : List ChainCall)
    (name : String) :
    (stateAfter request RuntimeState.new calls).upstreamHeaders.lookup name =
      lastServiceHeader calls name :=
  lookup_stateAfter request rfl
    (fun binding st call => callGateway_upstreamHeaders request binding st call name) calls

/-- Every response header of a chain has a lower-case name. -/
theorem lowercase_of_lastResponseHeader {calls : List ChainCall} {name text : String}
    (h : lastResponseHeader calls name = some text) : toAsciiLowercase name = name := by
  obtain ⟨call, -, hset⟩ := List.exists_of_findSome?_eq_some h
  cases hcall : call.2 with
  | setResponseHeader raw value =>
    simp only [hcall, responseHeaderOf, Option.ite_none_right_eq_some] at hset
    rw [← hset.1, toAsciiLowercase_idem]
  | _ => simp [hcall, responseHeaderOf] at hset

/-- Every upstream header of a chain has a lower-case name that is not reserved. -/
theorem lowercase_of_lastServiceHeader {calls : List ChainCall} {name text : String}
    (h : lastServiceHeader calls name = some text) :
    toAsciiLowercase name = name ∧ isReserved name = false := by
  obtain ⟨call, -, hset⟩ := List.exists_of_findSome?_eq_some h
  cases hcall : call.2 with
  | setServiceHeader raw value =>
    simp only [hcall, serviceHeaderOf, Option.ite_none_right_eq_some] at hset
    refine ⟨?_, hset.1.2⟩
    rw [← hset.1.1, toAsciiLowercase_idem]
  | _ => simp [hcall, serviceHeaderOf] at hset

end Plugins
end OpenApiGateway
