import OpenApiGateway.Plugins.Sdk

/-!
# Running a plugin chain

`controlplane/src/plugins/executor.rs` and `pool.rs`: the per-thread VM with its cache of
plugin instances, one phase of one plugin, and the access and log phases of a route's chain.
What Lua itself does is `mlua`'s and is collected in `LuaHost`; `ω` is the state of the VM and
`ι` a table in it. `ran` is a ghost record of the positions of the chain whose access function
was called. Time comes from two readings: `elapsedUs i` at the top of the loop for position `i`,
and `totalUs` when the chain returns.

The main result is `exit_never_terminal`: the exit of a plugin is never recognised as one.
-/

namespace OpenApiGateway
namespace Plugins

open Lib.Text

/-! ## The VM -/

/-- The phase of a request in which a plugin runs. -/
inductive Phase where
  | access
  | log (responseStatus : ℕ)
deriving DecidableEq

/-- What the executor uses of Lua. -/
structure LuaHost (ω ι : Type) where
  /-- `lua.load(source).set_name(name).eval()`. -/
  evalPlugin : ω → String → String → Except String ι × ω
  /-- The call of `new`, where the plugin has that function. -/
  construct : ω → ι → JsonValue → Option (Except String ι × ω)
  /-- Creating the `gateway` and context tables. -/
  createTables : ω → Except String ω
  /-- The function of an instance for a phase, where it has one. -/
  phaseFunction : ω → ι → Phase → Option (LuaProg ω)
  resetLimits : ω → PluginLimits → Except String ω
  display : LuaError → String

/-- A VM with the generation it was prepared for and the instances made in it, by binding. -/
structure ThreadLocalVm (ω ι : Type) where
  lua : ω
  generation : ℕ
  instances : AList fun _ : String => ι

section Executor
variable {ω ι : Type} (host : LuaHost ω ι)

def ThreadLocalVm.prepare (vm : ThreadLocalVm ω ι) (generation : ℕ) (limits : PluginLimits) :
    Except PluginError Unit × ThreadLocalVm ω ι :=
  let fresh : ThreadLocalVm ω ι :=
    if vm.generation ≠ generation then { vm with generation := generation, instances := ∅ } else vm
  match host.resetLimits vm.lua limits with
  | .ok lua => (.ok (), { fresh with lua := lua })
  | .error reason => (.error (.load "sandbox" reason), fresh)

/-- The instance of a binding: the cached one, or one made from its source and config. -/
def pluginInstance (vm : ThreadLocalVm ω ι) (binding : PluginBinding) :
    Except PluginError ι × ThreadLocalVm ω ι :=
  match vm.instances.lookup binding.id with
  -- by id only: source and config are not compared
  | some inst => (.ok inst, vm)
  | none =>
    match host.evalPlugin vm.lua binding.name binding.source with
    | (.error reason, lua) => (.error (.load binding.name reason), { vm with lua := lua })
    | (.ok plugin, lua) =>
      match host.construct lua plugin binding.config with
      | some (.error reason, lua) => (.error (.load binding.name reason), { vm with lua := lua })
      | some (.ok inst, lua) =>
        (.ok inst, { vm with lua := lua, instances := vm.instances.insert binding.id inst })
      -- without `new` the plugin table is its own instance
      | none =>
        (.ok plugin, { vm with lua := lua, instances := vm.instances.insert binding.id plugin })

/-! ## One phase of one plugin -/

/-- How a phase ends: the exit it reports, if any, and what it leaves behind. -/
structure PhaseRun (ω ι : Type) where
  result : Except PluginError (Option PluginExit)
  vm : ThreadLocalVm ω ι
  runtime : RuntimeState
  /-- The phase function was called. -/
  called : Bool

/-- What `run_phase` makes of the end of the phase function. -/
def phaseResult (binding : PluginBinding) (run : LuaRun ω) :
    Except PluginError (Option PluginExit) :=
  match run.result with
  | .ok () => .ok run.runtime.shortCircuit
  | .error error =>
    if isExitError error then .ok run.runtime.shortCircuit
    else if binding.failOpen then .ok none
    else .error (.runtime binding.name (host.display error))

def runPhase (vm : ThreadLocalVm ω ι) (binding : PluginBinding) (request : PluginRequest)
    (runtime : RuntimeState) (phase : Phase) : PhaseRun ω ι :=
  match pluginInstance host vm binding with
  | (.error e, vm) => ⟨.error e, vm, runtime, false⟩
  | (.ok inst, vm) =>
    match host.createTables vm.lua with
    | .error reason => ⟨.error (.runtime binding.name reason), vm, runtime, false⟩
    | .ok lua =>
      match host.phaseFunction lua inst phase with
      | none => ⟨.ok none, { vm with lua := lua }, runtime, false⟩
      | some function =>
        let run := function.run request binding runtime
        ⟨phaseResult host binding run, { vm with lua := run.vm }, run.runtime, true⟩

/-! ## The access phase of a chain -/

/-- Whether a text contains another. -/
def containsText (s part : String) : Bool :=
  s.toList.tails.any fun rest => part.toList.isPrefixOf rest

def classifyError : PluginError → PluginErrorType
  | .runtime _ reason =>
    if containsText (toAsciiLowercase reason) "memory" then .memory else .runtime
  | _ => .runtime

/-- The clock readings of one run of a chain, in microseconds since its start. -/
structure ChainClock where
  elapsedUs : ℕ → ℕ
  totalUs : ℕ

/-- How a chain ends. -/
structure ChainRun (ω ι : Type) where
  result : PluginAccessResult
  vm : ThreadLocalVm ω ι
  ran : List ℕ

/-- The loop over the bindings of a chain, from position `index` on. -/
def runChain (clock : ChainClock) (limits : PluginLimits) (request : PluginRequest) :
    ℕ → List PluginBinding → ThreadLocalVm ω ι → RuntimeState → List ℕ → ChainRun ω ι
  | _, [], vm, runtime, ran =>
    ⟨.continue runtime.upstreamHeaders runtime.responseHeaders clock.totalUs, vm, ran⟩
  | index, binding :: bindings, vm, runtime, ran =>
    -- looked at before each plugin, so a slow last one is not noticed
    if limits.chainTimeoutMs < clock.elapsedUs index / 1000 then
      ⟨.error binding.name s!"plugin chain exceeded {limits.chainTimeoutMs} ms" .timeout
        clock.totalUs, vm, ran⟩
    else
      let phase := runPhase host vm binding request runtime .access
      let ran := if phase.called then ran ++ [index] else ran
      match phase.result with
      -- a plugin that fails closed, or one of either kind that has no instance
      | .error e =>
        ⟨.error binding.name e.display (classifyError e) clock.totalUs, phase.vm, ran⟩
      | .ok (some exit) =>
        ⟨.shortCircuit exit.pluginName exit.status exit.body phase.runtime.responseHeaders
          clock.totalUs, phase.vm, ran⟩
      | .ok none => runChain clock limits request (index + 1) bindings phase.vm phase.runtime ran

/-- How an access phase ends, with the VM of its thread. -/
structure AccessRun (ω ι : Type) where
  result : Except PluginError PluginAccessResult
  slot : Except PluginError (ThreadLocalVm ω ι)
  ran : List ℕ

/-- Run the access phase of a request on a runtime, in the VM of the current thread, which
may have failed to start. -/
def executeAccess (clock : ChainClock) (runtime : PluginRuntime)
    (slot : Except PluginError (ThreadLocalVm ω ι)) (request : PluginRequest) :
    AccessRun ω ι :=
  match runtime.chains.lookup request.routeName with
  -- a route without a chain has no plugins
  | none => ⟨.ok (.continue ∅ ∅ 0), slot, []⟩
  | some chain =>
    match slot with
    | .error e => ⟨.error (.load "sandbox" e.display), slot, []⟩
    | .ok vm =>
      match vm.prepare host runtime.generation runtime.limits with
      | (.error e, vm) => ⟨.error e, .ok vm, []⟩
      | (.ok (), vm) =>
        match host.createTables vm.lua with
        | .error reason => ⟨.error (.runtime "ctx" reason), .ok vm, []⟩
        | .ok lua =>
          let run := runChain host clock runtime.limits request 0 chain.bindings
            { vm with lua := lua } RuntimeState.new []
          ⟨.ok run.result, .ok run.vm, run.ran⟩

/-! ## The log phase of a chain -/

/-- The loop of the log phase: how a plugin ends does not matter to the next. -/
def runLog (request : PluginRequest) (responseStatus : ℕ) :
    List PluginBinding → ThreadLocalVm ω ι → RuntimeState → ThreadLocalVm ω ι
  | [], vm, _ => vm
  | binding :: bindings, vm, runtime =>
    let phase := runPhase host vm binding request runtime (.log responseStatus)
    runLog request responseStatus bindings phase.vm phase.runtime

/-- Run the log phase of a request: its chain backwards. -/
def executeLog (runtime : PluginRuntime) (slot : Except PluginError (ThreadLocalVm ω ι))
    (request : PluginRequest) (responseStatus : ℕ) :
    Except PluginError Unit × Except PluginError (ThreadLocalVm ω ι) :=
  match runtime.chains.lookup request.routeName with
  | none => (.ok (), slot)
  | some chain =>
    match slot with
    | .error e => (.error (.load "sandbox" e.display), slot)
    | .ok vm =>
      match vm.prepare host runtime.generation runtime.limits with
      | (.error e, vm) => (.error e, .ok vm)
      | (.ok (), vm) =>
        match host.createTables vm.lua with
        | .error reason => (.error (.runtime "ctx" reason), .ok vm)
        | .ok lua =>
          -- in reverse order, and with headers that nobody reads
          (.ok (), .ok (runLog host request responseStatus chain.bindings.reverse
            { vm with lua := lua } RuntimeState.new))

end Executor

/-! ## What an exit does -/

section Exit
variable {ω ι : Type} {host : LuaHost ω ι} {clock : ChainClock} {limits : PluginLimits}
  {request : PluginRequest}

variable (host clock limits request) in
/-- The state in which the loop comes past the given bindings, each reached in time and
each ended without an error or an exit; `none` if it does not. -/
def passBindings : ℕ → List PluginBinding → ThreadLocalVm ω ι → RuntimeState →
    Option (ThreadLocalVm ω ι × RuntimeState)
  | _, [], vm, runtime => some (vm, runtime)
  | index, binding :: bindings, vm, runtime =>
    if limits.chainTimeoutMs < clock.elapsedUs index / 1000 then none
    else
      let phase := runPhase host vm binding request runtime .access
      match phase.result with
      | .ok none => passBindings (index + 1) bindings phase.vm phase.runtime
      | _ => none

variable (host request) in
/-- The binding's access function, started in this state, calls `exit(status, body)` and does
not catch the error. -/
def AccessExits (binding : PluginBinding) (status : ℕ) (body : Option String)
    (vm : ThreadLocalVm ω ι) (runtime : RuntimeState) : Prop :=
  ∃ inst vm' lua function, pluginInstance host vm binding = (.ok inst, vm') ∧
    host.createTables vm'.lua = .ok lua ∧
    host.phaseFunction lua inst .access = some function ∧
    function.ExitsWith request binding status body runtime

/-- The result reports the exit of the binding at `position`, and nothing after that
position ran or set a header: the headers are those at the exit. -/
def ExitTerminal (run : AccessRun ω ι) (position : ℕ) (binding : PluginBinding) (status : ℕ)
    (body : Option String) (headersAtExit : PluginHeaders) : Prop :=
  (∃ us, run.result = .ok (.shortCircuit binding.name status body headersAtExit us)) ∧
    ∀ i ∈ run.ran, i ≤ position

theorem called_of_exit {vm : ThreadLocalVm ω ι} {binding : PluginBinding}
    {runtime : RuntimeState} {phase : Phase} {exit : PluginExit}
    (h : (runPhase host vm binding request runtime phase).result = .ok (some exit)) :
    (runPhase host vm binding request runtime phase).called = true := by
  unfold runPhase at h ⊢
  split at h
  · simp at h
  · split at h
    · simp at h
    · split at h
      · simp at h
      · rfl

/-- A short circuit reported from position `index` on comes from a plugin that ran there. -/
theorem ran_of_shortCircuit {index : ℕ} {bindings : List PluginBinding}
    {vm : ThreadLocalVm ω ι} {runtime : RuntimeState} {ran : List ℕ} {name : String}
    {status : ℕ} {body : Option String} {headers : PluginHeaders} {us : ℕ}
    (h : (runChain host clock limits request index bindings vm runtime ran).result =
      .shortCircuit name status body headers us) :
    ∃ i ∈ (runChain host clock limits request index bindings vm runtime ran).ran, index ≤ i := by
  induction bindings generalizing index vm runtime ran with
  | nil => simp [runChain] at h
  | cons binding bindings ih =>
    unfold runChain at h ⊢
    split at h
    · simp at h
    · rename_i hintime
      rw [if_neg hintime]
      simp only at h ⊢
      split at h
      · simp at h
      · rename_i exit hexit
        rw [called_of_exit hexit]
        exact ⟨index, by simp, le_refl index⟩
      · rcases ih h with ⟨i, hi, hle⟩
        exact ⟨i, hi, by omega⟩

/-- The loop past bindings that end normally is the loop on the rest. -/
theorem runChain_append {index : ℕ} {before : List PluginBinding} (after : List PluginBinding)
    {vm vm' : ThreadLocalVm ω ι} {runtime runtime' : RuntimeState} (ran : List ℕ)
    (h : passBindings host clock limits request index before vm runtime = some (vm', runtime')) :
    ∃ ran', runChain host clock limits request index (before ++ after) vm runtime ran =
      runChain host clock limits request (index + before.length) after vm' runtime' ran' := by
  induction before generalizing index vm runtime ran with
  | nil =>
    simp only [passBindings, Option.some.injEq, Prod.mk.injEq] at h
    rw [← h.1, ← h.2]
    exact ⟨ran, rfl⟩
  | cons binding before ih =>
    unfold passBindings at h
    split at h
    · simp at h
    · rename_i hintime
      simp only at h
      split at h
      · rename_i hnone
        rw [List.cons_append, runChain, if_neg hintime]
        simp only [hnone]
        rcases ih _ h with ⟨ran', hran⟩
        refine ⟨ran', ?_⟩
        rw [hran, List.length_cons]
        congr 1
        omega
      · simp at h

/-- The access phase in a VM that is prepared is the loop over the chain. -/
theorem executeAccess_of_prepared {runtime : PluginRuntime} {vm prepared : ThreadLocalVm ω ι}
    {lua : ω} {bindings : List PluginBinding}
    (hchain : runtime.chains.lookup request.routeName = some ⟨bindings⟩)
    (hprepare : vm.prepare host runtime.generation runtime.limits = (.ok (), prepared))
    (htables : host.createTables prepared.lua = .ok lua) :
    executeAccess host clock runtime (.ok vm) request =
      let run := runChain host clock runtime.limits request 0 bindings
        { prepared with lua := lua } RuntimeState.new []
      ⟨.ok run.result, .ok run.vm, run.ran⟩ := by
  unfold executeAccess
  rw [hchain]
  simp only [hprepare, htables]

/-- An uncaught exit is taken for a failure: the phase fails, or passes as if nothing had
happened when the plugin fails open. -/
theorem phaseResult_of_exits {vm : ThreadLocalVm ω ι} {binding : PluginBinding} {status : ℕ}
    {body : Option String} {runtime : RuntimeState}
    (h : AccessExits host request binding status body vm runtime) :
    (runPhase host vm binding request runtime .access).result =
      if binding.failOpen then .ok none
      else .error (.runtime binding.name
        (host.display (.callbackError (.runtimeError exitSentinel)))) := by
  rcases h with ⟨inst, vm', lua, function, hinst, htables, hfunction, hexits⟩
  unfold runPhase
  rw [hinst]
  simp only [htables, hfunction]
  unfold phaseResult
  rw [(LuaProg.run_of_exitsWith hexits).1]
  rfl

/-- Whatever the chain, the binding's fail mode and the exit: a plugin that exits after all
plugins before it have ended normally is never answered as its exit with nothing run after. -/
theorem exit_never_terminal (host : LuaHost ω ι) (clock : ChainClock) (runtime : PluginRuntime)
    (vm prepared : ThreadLocalVm ω ι) (lua : ω) (request : PluginRequest)
    (before after : List PluginBinding) (binding : PluginBinding) (status : ℕ)
    (body : Option String) (reached : ThreadLocalVm ω ι) (state : RuntimeState)
    (headersAtExit : PluginHeaders)
    (hchain : runtime.chains.lookup request.routeName = some ⟨before ++ binding :: after⟩)
    (hprepare : vm.prepare host runtime.generation runtime.limits = (.ok (), prepared))
    (htables : host.createTables prepared.lua = .ok lua)
    (hbefore : passBindings host clock runtime.limits request 0 before
      { prepared with lua := lua } RuntimeState.new = some (reached, state))
    (hintime : clock.elapsedUs before.length / 1000 ≤ runtime.limits.chainTimeoutMs)
    (hexits : AccessExits host request binding status body reached state) :
    ¬ ExitTerminal (executeAccess host clock runtime (.ok vm) request) before.length binding
      status body headersAtExit := by
  intro hterminal
  rcases hterminal with ⟨⟨us, hresult⟩, hran⟩
  have haccess := @executeAccess_of_prepared ω ι host clock request runtime vm prepared lua
    (before ++ binding :: after) hchain hprepare htables
  rcases runChain_append (binding :: after) [] hbefore with ⟨ran, hrun⟩
  rw [haccess] at hresult hran
  simp only [hrun, Except.ok.injEq, Nat.zero_add] at hresult hran
  have hphase := phaseResult_of_exits hexits
  unfold runChain at hresult hran
  rw [if_neg (by omega)] at hresult hran
  cases hopen : binding.failOpen with
  | false =>
    -- the exit becomes an error of the chain
    rw [hopen] at hphase
    simp [hphase] at hresult
  | true =>
    -- the loop goes on: a short circuit can only be reported by a later plugin that ran
    rw [hopen, if_pos rfl] at hphase
    simp only [hphase] at hresult hran
    rcases ran_of_shortCircuit hresult with ⟨i, hi, hle⟩
    have hlt := hran i hi
    omega

end Exit

/-- The text of a plugin whose access function has this body. -/
def pluginSource (body : String) : String :=
  pluginText (", access = function(self, ctx) " ++ body ++ " end")

/-- A Lua for plugins without a constructor, each with an access function that does what
`function` says for its name. An error is shown without its traceback. -/
def constantHost (function : String → LuaProg Unit) : LuaHost Unit String where
  evalPlugin := fun lua name _ => (.ok name, lua)
  construct := fun _ _ _ => none
  createTables := fun lua => .ok lua
  phaseFunction := fun _ name _ => some (function name)
  resetLimits := fun lua _ => .ok lua
  display := fun _ => "runtime error: " ++ exitSentinel

/-- Plugins named `waf` exit with 403; all others return. -/
def wafHost : LuaHost Unit String :=
  constantHost fun name =>
    if name = "waf" then .call () (.exit 403 (some "blocked")) fun _ => .done () else .done ()

def wafSource (name : String) : String :=
  if name = "waf" then pluginSource "gateway.response.exit(403, 'blocked')" else pluginSource ""

def wafBinding (name : String) (failOpen : Bool) : PluginBinding :=
  ⟨"r:" ++ name, name, 10, "1.0.0", failOpen, wafSource name, .null⟩

def wafRuntime (bindings : List PluginBinding) : PluginRuntime :=
  ⟨1, {}, AList.insert "r" ⟨bindings⟩ ∅⟩

def wafRequest : PluginRequest := ⟨"r", "host", "GET", "/", []⟩

theorem exit_never_terminal_waf :
    ¬ ExitTerminal (executeAccess wafHost ⟨fun _ => 0, 0⟩ (wafRuntime [wafBinding "waf" false])
      (.ok ⟨(), 0, ∅⟩) wafRequest) 0 (wafBinding "waf" false) 403 (some "blocked") ∅ :=
  exit_never_terminal wafHost ⟨fun _ => 0, 0⟩ (wafRuntime [wafBinding "waf" false]) ⟨(), 0, ∅⟩
    ⟨(), 1, ∅⟩ () wafRequest [] [] (wafBinding "waf" false) 403 (some "blocked") ⟨(), 1, ∅⟩
    RuntimeState.new ∅ rfl rfl rfl rfl (by decide)
    ⟨"waf", ⟨(), 1, AList.insert "r:waf" "waf" ∅⟩, (), _, rfl, rfl, rfl, rfl⟩

/-- An exit with 403 ends as a plugin error when the plugin fails closed, lets the request
continue when it is alone and fails open, and is reported only after the next plugin has run
when one follows. -/
theorem exit_not_terminal_waf :
    (∃ message, (executeAccess wafHost ⟨fun _ => 0, 0⟩ (wafRuntime [wafBinding "waf" false])
      (.ok ⟨(), 0, ∅⟩) wafRequest).result = .ok (.error "waf" message .runtime 0)) ∧
    (executeAccess wafHost ⟨fun _ => 0, 0⟩ (wafRuntime [wafBinding "waf" true])
      (.ok ⟨(), 0, ∅⟩) wafRequest).result = .ok (.continue ∅ ∅ 0) ∧
    (executeAccess wafHost ⟨fun _ => 0, 0⟩
      (wafRuntime [wafBinding "waf" true, wafBinding "audit" false])
      (.ok ⟨(), 0, ∅⟩) wafRequest).ran = [0, 1] := by
  refine ⟨⟨_, rfl⟩, rfl, rfl⟩

end Plugins
end OpenApiGateway
