import OpenApiGateway.Plugins.Executor

/-!
# Plugins that fail open

A binding with `fail_mode: open` is meant not to matter when it fails. `run_phase` looks at the
mode only after the access function was called, and what that function wrote before it failed
stays in the state the chain shares. `fail_open_no_effect_iff` says which failures have no effect,
whatever comes after the binding: those of the access function that leave headers and exit as they
were.

The headers are hash maps, so they are compared by their entries and not as lists.
-/

namespace OpenApiGateway
namespace Plugins

variable {ω ι : Type}

/-! ## The same answer -/

def SameHeaders (headers headers' : PluginHeaders) : Prop :=
  ∀ name, headers.lookup name = headers'.lookup name

structure RuntimeState.Same (state state' : RuntimeState) : Prop where
  upstream : SameHeaders state.upstreamHeaders state'.upstreamHeaders
  response : SameHeaders state.responseHeaders state'.responseHeaders
  exit : state.shortCircuit = state'.shortCircuit

theorem RuntimeState.Same.refl (state : RuntimeState) : state.Same state :=
  ⟨fun _ => rfl, fun _ => rfl, rfl⟩

theorem RuntimeState.Same.symm {state state' : RuntimeState} (h : state.Same state') :
    state'.Same state :=
  ⟨fun name => (h.upstream name).symm, fun name => (h.response name).symm, h.exit.symm⟩

theorem RuntimeState.Same.trans {state state' state'' : RuntimeState} (h : state.Same state')
    (h' : state'.Same state'') : state.Same state'' :=
  ⟨fun name => (h.upstream name).trans (h'.upstream name),
    fun name => (h.response name).trans (h'.response name), h.exit.trans h'.exit⟩

/-- The same result of a chain, durations aside. -/
def SameResult : PluginAccessResult → PluginAccessResult → Prop
  | .continue upstream response _, .continue upstream' response' _ =>
    SameHeaders upstream upstream' ∧ SameHeaders response response'
  | .shortCircuit name status body headers _, .shortCircuit name' status' body' headers' _ =>
    name = name' ∧ status = status' ∧ body = body' ∧ SameHeaders headers headers'
  | .error name message errorType _, .error name' message' errorType' _ =>
    name = name' ∧ message = message' ∧ errorType = errorType'
  | _, _ => False

def SameAnswer :
    Except PluginError PluginAccessResult → Except PluginError PluginAccessResult → Prop
  | .ok result, .ok result' => SameResult result result'
  | .error e, .error e' => e = e'
  | _, _ => False

theorem SameHeaders.insert {headers headers' : PluginHeaders} (h : SameHeaders headers headers')
    (name value : String) :
    SameHeaders (headers.insert name value) (headers'.insert name value) := by
  intro other
  by_cases hname : other = name
  · subst hname
    rw [AList.lookup_insert, AList.lookup_insert]
  · rw [AList.lookup_insert_ne hname, AList.lookup_insert_ne hname, h other]

/-- No function of the API reads what plugins have set. -/
theorem callGateway_same (request : PluginRequest) (binding : PluginBinding)
    {state state' : RuntimeState} (h : state.Same state') (api : GatewayCall) :
    ∃ reply next next', callGateway request binding state api = (reply, next) ∧
      callGateway request binding state' api = (reply, next') ∧ next.Same next' := by
  cases api with
  | setResponseHeader name value =>
    exact ⟨_, _, _, rfl, rfl, h.upstream, h.response.insert _ _, h.exit⟩
  | exit status body => exact ⟨_, _, _, rfl, rfl, h.upstream, h.response, rfl⟩
  | setServiceHeader name value =>
    by_cases hreserved : isReserved (Lib.Text.toAsciiLowercase name) = true
    · exact ⟨_, _, _, if_pos hreserved, if_pos hreserved, h⟩
    · exact ⟨_, _, _, if_neg hreserved, if_neg hreserved, h.upstream.insert _ _, h.response, h.exit⟩
  | _ => exact ⟨_, _, _, rfl, rfl, h⟩

theorem LuaProg.run_same (request : PluginRequest) (binding : PluginBinding) (prog : LuaProg ω)
    {state state' : RuntimeState} (h : state.Same state') :
    (prog.run request binding state).result = (prog.run request binding state').result ∧
      (prog.run request binding state).vm = (prog.run request binding state').vm ∧
      (prog.run request binding state).runtime.Same (prog.run request binding state').runtime := by
  induction prog generalizing state state' with
  | done vm => exact ⟨rfl, rfl, h⟩
  | raise error vm => exact ⟨rfl, rfl, h⟩
  | call vm api next ih =>
    obtain ⟨reply, left, right, hleft, hright, hsame⟩ := callGateway_same request binding h api
    unfold LuaProg.run
    rw [hleft, hright]
    cases reply with
    | ok value => exact ih value hsame
    | error error => exact ⟨rfl, rfl, hsame⟩
  | pcall api next caught ihnext ihcaught =>
    obtain ⟨reply, left, right, hleft, hright, hsame⟩ := callGateway_same request binding h api
    unfold LuaProg.run
    rw [hleft, hright]
    cases reply with
    | ok value => exact ihnext value hsame
    | error error => exact ihcaught error hsame

section Phase
variable {host : LuaHost ω ι} {request : PluginRequest} {binding : PluginBinding}
  {vm : ThreadLocalVm ω ι} {state state' : RuntimeState}

/-- A phase from the same state. -/
theorem runPhase_same (h : state.Same state') (phase : Phase) :
    (runPhase host vm binding request state phase).result =
        (runPhase host vm binding request state' phase).result ∧
      (runPhase host vm binding request state phase).vm =
        (runPhase host vm binding request state' phase).vm ∧
      (runPhase host vm binding request state phase).runtime.Same
        (runPhase host vm binding request state' phase).runtime := by
  unfold runPhase
  split
  · exact ⟨rfl, rfl, h⟩
  · split
    · exact ⟨rfl, rfl, h⟩
    · split
      · exact ⟨rfl, rfl, h⟩
      · rename_i function _
        obtain ⟨hresult, hvm, hruntime⟩ := function.run_same request binding h
        refine ⟨?_, by simp only [hvm], hruntime⟩
        simp only [phaseResult, hresult, hruntime.exit]

end Phase

/-! ## The rest of a chain -/

section Chain
variable (host : LuaHost ω ι) (limits : PluginLimits) (request : PluginRequest)

/-- The chain has run out of time at a position. -/
abbrev Late (clock : ChainClock) (position : ℕ) : Prop :=
  limits.chainTimeoutMs < clock.elapsedUs position / 1000

/-- The bindings do the same in both VMs. -/
def Independent : List PluginBinding → ThreadLocalVm ω ι → ThreadLocalVm ω ι → Prop
  | [], _, _ => True
  | binding :: bindings, vm, vm' => ∀ state,
    let phase := runPhase host vm binding request state .access
    let phase' := runPhase host vm' binding request state .access
    phase.result = phase'.result ∧ phase.runtime.Same phase'.runtime ∧
      Independent bindings phase.vm phase'.vm

variable {host limits request}

/-- Independent bindings, from the same state and with the same ones in time, give the same
result. -/
theorem runChain_same {clock clock' : ChainClock} {bindings : List PluginBinding}
    {index index' : ℕ} {vm vm' : ThreadLocalVm ω ι} {state state' : RuntimeState}
    (h : Independent host request bindings vm vm') (hstate : state.Same state')
    (htime : ∀ i, Late limits clock (index + i) ↔ Late limits clock' (index' + i))
    (ran ran' : List ℕ) :
    SameResult (runChain host clock limits request index bindings vm state ran).result
      (runChain host clock' limits request index' bindings vm' state' ran').result := by
  induction bindings generalizing index index' vm vm' state state' ran ran' with
  | nil => exact ⟨hstate.upstream, hstate.response⟩
  | cons binding bindings ih =>
    unfold runChain
    by_cases hlate : Late limits clock index
    · have hlate' : Late limits clock' index' := (htime 0).mp hlate
      rw [if_pos hlate, if_pos hlate']
      exact ⟨rfl, rfl, rfl⟩
    · have hlate' : ¬ Late limits clock' index' := fun h => hlate ((htime 0).mpr h)
      rw [if_neg hlate, if_neg hlate']
      -- first from one state to the other in the same VM, then from one VM to the other
      obtain ⟨hresult, hvm, hruntime⟩ :=
        @runPhase_same ω ι host request binding vm state state' hstate .access
      obtain ⟨hresult', hruntime', hrest⟩ := h state'
      rw [← hvm] at hrest
      have hresults := hresult.trans hresult'
      have hruntimes := hruntime.trans hruntime'
      simp only
      cases hphase : (runPhase host vm binding request state .access).result with
      | error e =>
        rw [← hresults, hphase]
        exact ⟨rfl, rfl, rfl⟩
      | ok outcome =>
        rw [← hresults, hphase]
        cases outcome with
        | some exit => exact ⟨rfl, rfl, rfl, hruntimes.response⟩
        | none =>
          refine ih hrest hruntimes (fun i => ?_) _ _
          have hnext := htime (1 + i)
          rwa [← Nat.add_assoc, ← Nat.add_assoc] at hnext

/-- Where a chain comes to does not depend on the clock, as long as it comes there in time. -/
theorem passBindings_inTime {clock clock' : ChainClock} {index : ℕ}
    {bindings : List PluginBinding} {vm : ThreadLocalVm ω ι} {state : RuntimeState}
    (h : ∀ i < index + bindings.length, ¬ Late limits clock i)
    (h' : ∀ i < index + bindings.length, ¬ Late limits clock' i) :
    passBindings host clock limits request index bindings vm state =
      passBindings host clock' limits request index bindings vm state := by
  induction bindings generalizing index vm state with
  | nil => rfl
  | cons binding bindings ih =>
    rw [List.length_cons] at h h'
    unfold passBindings
    rw [if_neg (h index (by omega)), if_neg (h' index (by omega))]
    simp only
    split
    · exact ih (fun i hi => h i (by omega)) (fun i hi => h' i (by omega))
    · rfl

end Chain

/-! ## A binding and its place -/

/-- The runtime with this chain for a route. -/
def PluginRuntime.withChain (runtime : PluginRuntime) (routeName : String)
    (bindings : List PluginBinding) : PluginRuntime :=
  { runtime with chains := runtime.chains.insert routeName ⟨bindings⟩ }

/-- A clock that stands still. -/
def stopped : ChainClock := ⟨fun _ => 0, 0⟩

section Place
variable (host : LuaHost ω ι) (runtime : PluginRuntime) (request : PluginRequest)

/-- A chain that starts with the bindings `before` comes past them, to the given VM and state. -/
def Reaches (vm : ThreadLocalVm ω ι) (before : List PluginBinding)
    (reached : ThreadLocalVm ω ι) (state : RuntimeState) : Prop :=
  ∃ prepared lua,
    vm.prepare host runtime.generation runtime.limits = (.ok (), prepared) ∧
    host.createTables prepared.lua = .ok lua ∧
    passBindings host stopped runtime.limits request 0 before { prepared with lua := lua }
      RuntimeState.new = some (reached, state)

/-- The access phase of the binding raises an error that is not taken for an exit: in loading or in
the constructor, in setting up the API, or in the access function. -/
inductive Fails (binding : PluginBinding) (vm : ThreadLocalVm ω ι) (state : RuntimeState) : Prop
  | load {e : PluginError} {vm' : ThreadLocalVm ω ι} :
      pluginInstance host vm binding = (.error e, vm') → Fails binding vm state
  | tables {inst : ι} {vm' : ThreadLocalVm ω ι} {reason : String} :
      pluginInstance host vm binding = (.ok inst, vm') →
      host.createTables vm'.lua = .error reason → Fails binding vm state
  | access {inst : ι} {vm' : ThreadLocalVm ω ι} {lua : ω} {function : LuaProg ω}
      {error : LuaError} : pluginInstance host vm binding = (.ok inst, vm') →
      host.createTables vm'.lua = .ok lua → host.phaseFunction lua inst .access = some function →
      (function.run request binding state).result = .error error → isExitError error = false →
      Fails binding vm state

/-- It is the access function that runs, and it leaves headers and exit as it found them. -/
def LeavesNothing (binding : PluginBinding) (vm : ThreadLocalVm ω ι) (state : RuntimeState) :
    Prop :=
  ∃ inst vm' lua function, pluginInstance host vm binding = (.ok inst, vm') ∧
    host.createTables vm'.lua = .ok lua ∧ host.phaseFunction lua inst .access = some function ∧
    (function.run request binding state).runtime.Same state

/-- Each other binding comes in time with the one at `position` if and only if it does without. -/
def SameTiming (position : ℕ) (clock clock' : ChainClock) : Prop :=
  (∀ i < position, Late runtime.limits clock i ↔ Late runtime.limits clock' i) ∧
    ∀ i, position ≤ i → (Late runtime.limits clock (i + 1) ↔ Late runtime.limits clock' i)

/-- With and without the binding a chain gives the same answer, whatever comes after it, if this
does not depend on the Lua state that the binding leaves. -/
def NoEffect (vm : ThreadLocalVm ω ι) (before : List PluginBinding) (binding : PluginBinding)
    (reached : ThreadLocalVm ω ι) (state : RuntimeState) : Prop :=
  ∀ after clock clock', (∀ i ≤ before.length, ¬ Late runtime.limits clock i) →
    SameTiming runtime before.length clock clock' →
    Independent host request after (runPhase host reached binding request state .access).vm
      reached →
    SameAnswer
      (executeAccess host clock (runtime.withChain request.routeName (before ++ binding :: after))
        (.ok vm) request).result
      (executeAccess host clock' (runtime.withChain request.routeName (before ++ after)) (.ok vm)
        request).result

/-- A plugin that does nothing, in this VM: it reports the exit that is there. -/
def Quiet (binding : PluginBinding) (vm : ThreadLocalVm ω ι) : Prop :=
  ∀ state, (runPhase host vm binding request state .access).result = .ok state.shortCircuit ∧
    (runPhase host vm binding request state .access).runtime.Same state

variable {host runtime request}
variable {vm reached : ThreadLocalVm ω ι} {before : List PluginBinding} {binding : PluginBinding}
  {state : RuntimeState}

/-- The answer of a chain that comes in time to the given place. -/
theorem Reaches.executeAccess (h : Reaches host runtime request vm before reached state)
    {clock : ChainClock} (htime : ∀ i < before.length, ¬ Late runtime.limits clock i)
    (rest : List PluginBinding) :
    ∃ ran, (executeAccess host clock (runtime.withChain request.routeName (before ++ rest)) (.ok vm)
      request).result = .ok (runChain host clock runtime.limits request before.length rest reached
        state ran).result := by
  obtain ⟨prepared, lua, hprepare, htables, hpassed⟩ := h
  have hclock : passBindings host stopped runtime.limits request 0 before
      { prepared with lua := lua } RuntimeState.new = passBindings host clock runtime.limits request
        0 before { prepared with lua := lua } RuntimeState.new :=
    passBindings_inTime (by simp [stopped]) (by simpa using htime)
  obtain ⟨ran, hrun⟩ := runChain_append rest [] (hclock.symm.trans hpassed)
  rw [Nat.zero_add] at hrun
  have haccess := @executeAccess_of_prepared ω ι host clock request
    (runtime.withChain request.routeName (before ++ rest)) vm prepared lua (before ++ rest)
    (AList.lookup_insert _) hprepare htables
  refine ⟨ran, ?_⟩
  rw [haccess]
  exact congrArg (fun run => Except.ok run.result) hrun

/-- Loading and setting up fail whatever the mode; the access function of a binding that fails
open does not. -/
theorem Fails.cases (h : Fails host request binding vm state) (hopen : binding.failOpen = true) :
    ((∃ e, (runPhase host vm binding request state .access).result = .error e) ∧
        ¬ LeavesNothing host request binding vm state) ∨
      ((runPhase host vm binding request state .access).result = .ok none ∧
        (LeavesNothing host request binding vm state ↔
          (runPhase host vm binding request state .access).runtime.Same state)) := by
  cases h with
  | @load e vm' hload =>
    refine Or.inl ⟨⟨e, by rw [runPhase, hload]⟩, ?_⟩
    rintro ⟨inst, vm'', lua, function, hinst, -⟩
    rw [hload] at hinst
    simp at hinst
  | @tables inst vm' reason hinst htables =>
    refine Or.inl ⟨⟨.runtime binding.name reason, ?_⟩, ?_⟩
    · rw [runPhase, hinst]
      simp only [htables]
    · rintro ⟨inst', vm'', lua, function, hinst', htables', -⟩
      obtain ⟨-, rfl⟩ := Prod.mk.inj (hinst.symm.trans hinst')
      rw [htables] at htables'
      simp at htables'
  | @access inst vm' lua function error hinst htables hfunction herror hexit =>
    have hphase : runPhase host vm binding request state .access =
        ⟨phaseResult host binding (function.run request binding state),
          { vm' with lua := (function.run request binding state).vm },
          (function.run request binding state).runtime, true⟩ := by
      rw [runPhase, hinst]
      simp only [htables, hfunction]
    rw [hphase]
    refine Or.inr ⟨?_, ?_⟩
    · simp [phaseResult, herror, hexit, hopen]
    · constructor
      · rintro ⟨inst', vm'', lua', function', hinst', htables', hfunction', hsame⟩
        -- instance, tables and function are the ones the phase ran with
        obtain ⟨hfirst, rfl⟩ := Prod.mk.inj (hinst.symm.trans hinst')
        obtain rfl := Except.ok.inj hfirst
        obtain rfl := Except.ok.inj (htables.symm.trans htables')
        obtain rfl := Option.some.inj (hfunction.symm.trans hfunction')
        exact hsame
      · intro hsame
        exact ⟨inst, vm', lua, function, hinst, htables, hfunction, hsame⟩

/-! ## With and without the binding -/

/-- The loop goes on after a phase that ends without an exit. -/
theorem runChain_of_none {clock : ChainClock} {limits : PluginLimits} {index : ℕ}
    (htime : ¬ Late limits clock index)
    (h : (runPhase host vm binding request state .access).result = .ok none)
    (after : List PluginBinding) (ran : List ℕ) :
    ∃ ran', runChain host clock limits request index (binding :: after) vm state ran =
      runChain host clock limits request (index + 1) after
        (runPhase host vm binding request state .access).vm
        (runPhase host vm binding request state .access).runtime ran' := by
  rw [runChain, if_neg htime]
  simp only [h]
  exact ⟨_, rfl⟩

theorem runChain_of_error {clock : ChainClock} {limits : PluginLimits} {index : ℕ}
    {e : PluginError} (htime : ¬ Late limits clock index)
    (h : (runPhase host vm binding request state .access).result = .error e)
    (after : List PluginBinding) (ran : List ℕ) :
    (runChain host clock limits request index (binding :: after) vm state ran).result =
      .error binding.name e.display (classifyError e) clock.totalUs := by
  rw [runChain, if_neg htime]
  simp only [h]

/-- A quiet plugin at the end reveals the exit it finds. -/
theorem exit_of_quiet {quiet : PluginBinding} {vm' : ThreadLocalVm ω ι} {state' : RuntimeState}
    {clock clock' : ChainClock} {limits : PluginLimits} {index index' : ℕ} {ran ran' : List ℕ}
    (hquiet : Quiet host request quiet vm) (hquiet' : Quiet host request quiet vm')
    (htime : ¬ Late limits clock index) (htime' : ¬ Late limits clock' index')
    (h : SameResult (runChain host clock limits request index [quiet] vm state ran).result
      (runChain host clock' limits request index' [quiet] vm' state' ran').result) :
    state.shortCircuit = state'.shortCircuit := by
  rw [runChain, if_neg htime, runChain, if_neg htime'] at h
  simp only [(hquiet state).1, (hquiet' state').1] at h
  cases hexit : state.shortCircuit with
  | none =>
    cases hexit' : state'.shortCircuit with
    | none => rfl
    | some exit' =>
      rw [hexit, hexit'] at h
      exact absurd h id
  | some exit =>
    cases hexit' : state'.shortCircuit with
    | none =>
      rw [hexit, hexit'] at h
      exact absurd h id
    | some exit' =>
      rw [hexit, hexit'] at h
      obtain ⟨hname, hstatus, hbody, -⟩ := h
      obtain ⟨status, body, name⟩ := exit
      obtain ⟨status', body', name'⟩ := exit'
      simp only at hname hstatus hbody
      rw [hname, hstatus, hbody]

theorem independent_quiet {quiet : PluginBinding} {vm' : ThreadLocalVm ω ι}
    (hquiet : Quiet host request quiet vm) (hquiet' : Quiet host request quiet vm') :
    Independent host request [quiet] vm vm' := by
  intro state
  refine ⟨(hquiet state).1.trans (hquiet' state).1.symm, ?_, trivial⟩
  exact (hquiet state).2.trans (hquiet' state).2.symm

/-- The two answers, from the place of the binding on. -/
theorem Reaches.sameAnswer_iff (h : Reaches host runtime request vm before reached state)
    {clock clock' : ChainClock} (htime : ∀ i ≤ before.length, ¬ Late runtime.limits clock i)
    (hsame : SameTiming runtime before.length clock clock') (binding : PluginBinding)
    (after : List PluginBinding) :
    ∃ ran ran',
      (SameAnswer
        (Plugins.executeAccess host clock
          (runtime.withChain request.routeName (before ++ binding :: after)) (.ok vm)
          request).result
        (Plugins.executeAccess host clock' (runtime.withChain request.routeName (before ++ after))
          (.ok vm) request).result ↔
      SameResult
        (runChain host clock runtime.limits request before.length (binding :: after) reached state
          ran).result
        (runChain host clock' runtime.limits request before.length after reached state
          ran').result) := by
  obtain ⟨ran, hwith⟩ := h.executeAccess (fun i hi => htime i hi.le) (binding :: after)
  obtain ⟨ran', hwithout⟩ := h.executeAccess
    (fun i hi hlate => htime i hi.le ((hsame.1 i hi).mpr hlate)) after
  refine ⟨ran, ran', ?_⟩
  rw [hwith, hwithout]
  exact Iff.rfl

theorem not_late_stopped (limits : PluginLimits) (i : ℕ) : ¬ Late limits stopped i := by
  simp [stopped]

/-- No effect, with the clock stopped. -/
theorem Reaches.same_stopped (h : Reaches host runtime request vm before reached state)
    (heffect : NoEffect host runtime request vm before binding reached state)
    (after : List PluginBinding)
    (hindependent : Independent host request after
      (runPhase host reached binding request state .access).vm reached) :
    ∃ ran ran', SameResult
      (runChain host stopped runtime.limits request before.length (binding :: after) reached state
        ran).result
      (runChain host stopped runtime.limits request before.length after reached state
        ran').result := by
  have htime : ∀ i ≤ before.length, ¬ Late runtime.limits stopped i :=
    fun i _ => not_late_stopped _ i
  have htiming : SameTiming runtime before.length stopped stopped :=
    ⟨fun _ _ => Iff.rfl, fun _ _ => Iff.rfl⟩
  obtain ⟨ran, ran', hanswer⟩ := h.sameAnswer_iff htime htiming binding after
  exact ⟨ran, ran', hanswer.mp (heffect after stopped stopped htime htiming hindependent)⟩

/-- A binding that ends its phase without an error and leaves nothing has no effect. -/
theorem noEffect_of_same (h : Reaches host runtime request vm before reached state)
    (hresult : (runPhase host reached binding request state .access).result = .ok none)
    (hsame : (runPhase host reached binding request state .access).runtime.Same state) :
    NoEffect host runtime request vm before binding reached state := by
  intro after clock clock' htime htiming hindependent
  obtain ⟨ran, ran', hanswer⟩ := h.sameAnswer_iff htime htiming binding after
  rw [hanswer]
  obtain ⟨ran'', hrun⟩ := runChain_of_none (htime before.length (le_refl _)) hresult after ran
  rw [hrun]
  refine runChain_same hindependent hsame (fun i => ?_) ran'' ran'
  have hlate := htiming.2 (before.length + i) (Nat.le_add_right _ _)
  rwa [Nat.add_right_comm] at hlate

/-- One that has no effect leaves nothing: the headers show at the end of the chain, an exit after
a quiet plugin. -/
theorem same_of_noEffect (h : Reaches host runtime request vm before reached state)
    (hresult : (runPhase host reached binding request state .access).result = .ok none)
    {quiet : PluginBinding}
    (hquiet : Quiet host request quiet (runPhase host reached binding request state .access).vm)
    (hquiet' : Quiet host request quiet reached)
    (heffect : NoEffect host runtime request vm before binding reached state) :
    (runPhase host reached binding request state .access).runtime.Same state := by
  have hnext := runChain_of_none (not_late_stopped runtime.limits before.length) hresult
  obtain ⟨ran, ran', hheaders⟩ := h.same_stopped heffect [] trivial
  obtain ⟨_, hrun⟩ := hnext [] ran
  rw [hrun] at hheaders
  obtain ⟨ran₁, ran₁', hexit⟩ := h.same_stopped heffect [quiet] (independent_quiet hquiet hquiet')
  obtain ⟨_, hrun₁⟩ := hnext [quiet] ran₁
  rw [hrun₁] at hexit
  exact ⟨hheaders.1, hheaders.2,
    exit_of_quiet hquiet hquiet' (not_late_stopped _ _) (not_late_stopped _ _) hexit⟩

end Place

/-- A binding that fails open has no effect if it is its access function that fails, having left
headers and exit as they were; and only then, where an empty plugin can run. -/
theorem fail_open_no_effect_iff (host : LuaHost ω ι) (runtime : PluginRuntime)
    (request : PluginRequest) (vm reached : ThreadLocalVm ω ι) (before : List PluginBinding)
    (binding : PluginBinding) (state : RuntimeState) (hopen : binding.failOpen = true)
    (hreaches : Reaches host runtime request vm before reached state)
    (hfails : Fails host request binding reached state) :
    (LeavesNothing host request binding reached state →
      NoEffect host runtime request vm before binding reached state) ∧
    ∀ quiet, Quiet host request quiet reached →
      Quiet host request quiet (runPhase host reached binding request state .access).vm →
      (NoEffect host runtime request vm before binding reached state ↔
        LeavesNothing host request binding reached state) := by
  rcases hfails.cases hopen with ⟨⟨e, herror⟩, hnot⟩ | ⟨hresult, hleaves⟩
  · have heffect : ¬ NoEffect host runtime request vm before binding reached state := by
      intro heffect
      -- the error ends the chain, which would have gone on
      obtain ⟨ran, ran', hsame⟩ := hreaches.same_stopped heffect [] trivial
      rw [runChain_of_error (not_late_stopped _ _) herror] at hsame
      exact hsame
    exact ⟨fun hleaves => absurd hleaves hnot, fun quiet _ _ => iff_of_false heffect hnot⟩
  · rw [hleaves]
    exact ⟨noEffect_of_same hreaches hresult, fun quiet hquiet hquiet' =>
      ⟨same_of_noEffect hreaches hresult hquiet' hquiet, noEffect_of_same hreaches hresult⟩⟩

/-! ## Failing plugins -/

/-- Plugins that fail: the constructor of `broken` does, `crasher` does at once, `tagger` after it
has set a header, `jumper` after an exit that it caught. All others return. -/
def faultyHost : LuaHost Unit String :=
  let crash : LuaProg Unit := .raise (.runtimeError "attempt to index a nil value") ()
  { constantHost fun name =>
      if name = "crasher" then crash
      else if name = "tagger" then .call () (.setResponseHeader "x-tag" "1") fun _ => crash
      else if name = "jumper" then .pcall (.exit 403 none) (fun _ => .done ()) fun _ => crash
      else .done ()
    with construct := fun lua name _ =>
      if name = "broken" then some (.error "no settings", lua) else none }

def faultySource (name : String) : String :=
  if name = "broken" then
    pluginText ", new = function(self, config) error('no settings') end"
  else if name = "crasher" then pluginSource "local t = nil; t.x = 1"
  else if name = "tagger" then
    pluginSource "gateway.response.set_header('x-tag', '1'); local t = nil; t.x = 1"
  else if name = "jumper" then
    pluginSource "pcall(gateway.response.exit, 403); local t = nil; t.x = 1"
  else pluginSource ""

def faulty (name : String) : PluginBinding :=
  ⟨"r:" ++ name, name, 10, "1.0.0", true, faultySource name, .null⟩

/-- A VM at the start of the chain. -/
def startVm : ThreadLocalVm Unit String := ⟨(), 1, ∅⟩

theorem reaches_start : Reaches faultyHost (wafRuntime []) wafRequest ⟨(), 0, ∅⟩ [] startVm
    RuntimeState.new :=
  ⟨startVm, (), rfl, rfl, rfl⟩

/-- A plugin that fails before it has done anything. -/
theorem fail_open_no_effect_iff_crasher :
    NoEffect faultyHost (wafRuntime []) wafRequest ⟨(), 0, ∅⟩ [] (faulty "crasher") startVm
      RuntimeState.new :=
  (fail_open_no_effect_iff faultyHost (wafRuntime []) wafRequest ⟨(), 0, ∅⟩ startVm []
    (faulty "crasher") RuntimeState.new rfl reaches_start
    (.access rfl rfl rfl rfl rfl)).1 ⟨_, _, _, _, rfl, rfl, rfl, .refl _⟩

/-- What the check service gets from a chain of these plugins. -/
def faultyAnswer (names : List String) : Except PluginError PluginAccessResult :=
  (executeAccess faultyHost stopped ((wafRuntime []).withChain "r" (names.map faulty))
    (.ok ⟨(), 0, ∅⟩) wafRequest).result

/-- The three others fail open too, but one ends the request with an error, the second leaves its
header and the third its exit. -/
theorem fail_open_effects :
    (∀ name ∈ ["broken", "tagger", "jumper"], (faulty name).failOpen = true ∧
      Fails faultyHost wafRequest (faulty name) startVm RuntimeState.new ∧
      Independent faultyHost wafRequest [faulty "audit"]
        (runPhase faultyHost startVm (faulty name) wafRequest RuntimeState.new .access).vm
        startVm) ∧
    faultyAnswer ["audit"] = .ok (.continue ∅ ∅ 0) ∧
    (∃ message, faultyAnswer ["broken", "audit"] = .ok (.error "broken" message .runtime 0)) ∧
    faultyAnswer ["tagger", "audit"] = .ok (.continue ∅ (AList.insert "x-tag" "1" ∅) 0) ∧
    faultyAnswer ["jumper", "audit"] = .ok (.shortCircuit "jumper" 403 none ∅ 0) := by
  refine ⟨?_, rfl, ⟨_, rfl⟩, rfl, rfl⟩
  intro name hname
  simp only [List.mem_cons, List.not_mem_nil, or_false] at hname
  rcases hname with rfl | rfl | rfl
  · exact ⟨rfl, .load rfl, fun state => ⟨rfl, .refl _, trivial⟩⟩
  · exact ⟨rfl, .access rfl rfl rfl rfl rfl, fun state => ⟨rfl, .refl _, trivial⟩⟩
  · exact ⟨rfl, .access rfl rfl rfl rfl rfl, fun state => ⟨rfl, .refl _, trivial⟩⟩

end Plugins
end OpenApiGateway
