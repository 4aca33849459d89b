import OpenApiGateway.Admin.State
import OpenApiGateway.Lib.KeyedCache
import OpenApiGateway.Lib.TransitionSystem
import OpenApiGateway.Plugins.Executor

/-!
# The instance a binding runs on

One thread's VM over any sequence of access phases, log phases and reloads, where a request
may still run on a runtime that has been replaced. A `Lib.KeyedCache` is run as a ghost beside
the VM's own cache: it says for which position of which chain each instance was made.
`mirrors_of_run` ties the two together: the VM's instances are made from what the ghost names.

`instances_match_iff` says when every binding runs on its own instance: when the ids of all
bindings of a runtime differ. `push_bindings` joins the route's and the plugin's name for the
id, so a plugin that is configured globally and on the route again gets one id for both.
-/

namespace OpenApiGateway
namespace Plugins

open Lib.KeyedCache Lib.TransitionSystem

/-- A place where a binding runs: a position in the chain of a route, in one runtime. -/
structure InstanceSite where
  generation : ℕ
  route : String
  position : ℕ
  binding : PluginBinding

def InstanceSite.id (site : InstanceSite) : String :=
  site.binding.id

abbrev InstanceCache := Cache InstanceSite String

/-- The binding at a position of the chain that a request runs on. -/
def siteAt (runtime : PluginRuntime) (request : PluginRequest) (position : ℕ)
    (binding : PluginBinding) : InstanceSite :=
  ⟨runtime.generation, request.routeName, position, binding⟩

/-! ## The cache beside the VM -/

section Ghost
variable {ω ι : Type} (host : LuaHost ω ι)

/-- What one call of `run_phase` does to the cache. -/
def phaseCache (vm : ThreadLocalVm ω ι) (site : InstanceSite) (cache : InstanceCache) :
    InstanceCache :=
  cache.use InstanceSite.id site (pluginInstance host vm site.binding).1.isOk

/-- The cache after the loop of `runChain`. -/
def chainCache (clock : ChainClock) (runtime : PluginRuntime) (request : PluginRequest) :
    ℕ → List PluginBinding → ThreadLocalVm ω ι → RuntimeState → InstanceCache → InstanceCache
  | _, [], _, _, cache => cache
  | index, binding :: bindings, vm, state, cache =>
    if runtime.limits.chainTimeoutMs < clock.elapsedUs index / 1000 then cache
    else
      let phase := runPhase host vm binding request state .access
      let used := phaseCache host vm (siteAt runtime request index binding) cache
      match phase.result with
      | .ok none =>
        chainCache clock runtime request (index + 1) bindings phase.vm phase.runtime used
      | _ => used

/-- The cache after the loop of `runLog`, over the bindings with their positions. -/
def logCache (runtime : PluginRuntime) (request : PluginRequest) (responseStatus : ℕ) :
    List (PluginBinding × ℕ) → ThreadLocalVm ω ι → RuntimeState → InstanceCache → InstanceCache
  | [], _, _, cache => cache
  | (binding, position) :: bindings, vm, state, cache =>
    let phase := runPhase host vm binding request state (.log responseStatus)
    logCache runtime request responseStatus bindings phase.vm phase.runtime
      (phaseCache host vm (siteAt runtime request position binding) cache)

/-- The VM after `with_thread_local_vm` has run `body` on the chain of the request. -/
def requestSlot (runtime : PluginRuntime) (slot : Except PluginError (ThreadLocalVm ω ι))
    (request : PluginRequest)
    (body : List PluginBinding → ThreadLocalVm ω ι → ThreadLocalVm ω ι) :
    Except PluginError (ThreadLocalVm ω ι) :=
  match runtime.chains.lookup request.routeName with
  -- without a chain the VM is not even prepared
  | none => slot
  | some chain =>
    match slot with
    | .error e => .error e
    | .ok vm =>
      match vm.prepare host runtime.generation runtime.limits with
      | (.error _, vm) => .ok vm
      | (.ok (), vm) =>
        match host.createTables vm.lua with
        | .error _ => .ok vm
        | .ok lua => .ok (body chain.bindings { vm with lua := lua })

/-- The cache after `with_thread_local_vm` has run `body` on the chain of the request. -/
def requestCache (runtime : PluginRuntime) (slot : Except PluginError (ThreadLocalVm ω ι))
    (request : PluginRequest) (cache : InstanceCache)
    (body : List PluginBinding → ThreadLocalVm ω ι → InstanceCache → InstanceCache) :
    InstanceCache :=
  match runtime.chains.lookup request.routeName with
  | none => cache
  | some chain =>
    match slot with
    | .error _ => cache
    | .ok vm =>
      let entered := cache.enter runtime.generation
      match vm.prepare host runtime.generation runtime.limits with
      | (.error _, _) => entered
      | (.ok (), vm) =>
        match host.createTables vm.lua with
        | .error _ => entered
        | .ok lua => body chain.bindings { vm with lua := lua } entered

def accessCache (clock : ChainClock) (runtime : PluginRuntime)
    (slot : Except PluginError (ThreadLocalVm ω ι)) (request : PluginRequest)
    (cache : InstanceCache) : InstanceCache :=
  requestCache host runtime slot request cache fun bindings vm cache =>
    chainCache host clock runtime request 0 bindings vm RuntimeState.new cache

def logPhaseCache (runtime : PluginRuntime) (slot : Except PluginError (ThreadLocalVm ω ι))
    (request : PluginRequest) (responseStatus : ℕ) (cache : InstanceCache) : InstanceCache :=
  requestCache host runtime slot request cache fun bindings vm cache =>
    logCache host runtime request responseStatus bindings.zipIdx.reverse vm RuntimeState.new cache

end Ghost

/-! ## The thread -/

/-- A thread with its VM, the engine, and every runtime the engine has had. -/
structure PluginThread (ω ι : Type) where
  slot : Except PluginError (ThreadLocalVm ω ι)
  engine : Admin.PluginEngine
  published : List PluginRuntime
  cache : InstanceCache

/-- A reload, or a phase of a request that has taken the runtime published as number `k`. -/
inductive ThreadAction where
  | reload (files : PluginFiles) (config : GatewayConfig)
  | access (k : ℕ) (clock : ChainClock) (request : PluginRequest)
  | log (k : ℕ) (request : PluginRequest) (responseStatus : ℕ)

/-- `ThreadLocalVm::new`, given the sandboxed VM. -/
def ThreadLocalVm.new {ω ι : Type} (sandboxed : Except String ω) :
    Except PluginError (ThreadLocalVm ω ι) :=
  match sandboxed with
  | .error reason => .error (.load "sandbox" reason)
  | .ok lua => .ok ⟨lua, 0, ∅⟩

/-- A thread that has run nothing yet. -/
def PluginThread.start {ω ι : Type} (runtime : PluginRuntime) (sandboxed : Except String ω) :
    PluginThread ω ι where
  slot := ThreadLocalVm.new sandboxed
  engine := ⟨runtime, 2⟩
  published := [runtime]
  cache := ⟨0, ∅, [], []⟩

section Thread
variable {ω ι : Type} (host : LuaHost ω ι) (lib : Admin.ReloadLib)

def threadStep (t : PluginThread ω ι) : ThreadAction → Option (PluginThread ω ι)
  | .reload files config =>
    match t.engine.reloadFromConfig lib files config with
    | (.error _, engine) => some { t with engine := engine }
    | (.ok (), engine) =>
      some { t with engine := engine, published := t.published ++ [engine.runtime] }
  -- a request may have read its runtime before a reload and run after it
  | .access k clock request =>
    t.published[k]?.map fun runtime =>
      { t with
        slot := (executeAccess host clock runtime t.slot request).slot
        cache := accessCache host clock runtime t.slot request t.cache }
  | .log k request responseStatus =>
    t.published[k]?.map fun runtime =>
      { t with
        slot := (executeLog host runtime t.slot request responseStatus).2
        cache := logPhaseCache host runtime t.slot request responseStatus t.cache }

variable {host lib} in
/-- A reload leaves the VM alone and takes a generation; it publishes a runtime of that
generation if one can be built. -/
theorem threadStep_reload {t t' : PluginThread ω ι} {files : PluginFiles} {config : GatewayConfig}
    (h : threadStep host lib t (.reload files config) = some t') :
    t'.slot = t.slot ∧ t'.cache = t.cache ∧
      t'.engine.nextGeneration = t.engine.nextGeneration + 1 ∧
      (t'.published = t.published ∨
        ∃ runtime, buildRuntime lib.registry files config t.engine.nextGeneration = .ok runtime ∧
          t'.published = t.published ++ [runtime]) := by
  unfold threadStep Admin.PluginEngine.reloadFromConfig at h
  simp only at h
  cases hbuild : buildRuntime lib.registry files config t.engine.nextGeneration with
  | error e =>
    simp only [hbuild, Option.some.injEq] at h
    rw [← h]
    exact ⟨rfl, rfl, rfl, Or.inl rfl⟩
  | ok runtime =>
    simp only [hbuild, Option.some.injEq] at h
    rw [← h]
    exact ⟨rfl, rfl, rfl, Or.inr ⟨runtime, rfl, rfl⟩⟩

end Thread

/-- Every binding that ran did so on an instance made from its own source and config, in the
generation of its request, and no two bindings of a runtime ran on one instance. -/
structure InstancesMatch {ω ι : Type} (t : PluginThread ω ι) : Prop where
  own : ∀ site n, (site, n) ∈ t.cache.uses → ∃ maker, t.cache.made[n]? = some maker ∧
    maker.generation = site.generation ∧ maker.binding.source = site.binding.source ∧
    maker.binding.config = site.binding.config
  apart : ∀ site₁ site₂ n, (site₁, n) ∈ t.cache.uses → (site₂, n) ∈ t.cache.uses →
    site₁.generation = site₂.generation → site₁ = site₂

/-- No two plugins that the config enables for its routes get one id. -/
def PluginIdsDistinct (config : GatewayConfig) : Prop :=
  config.plugins.enabled = true → (config.routes.flatMap (routePluginIds config)).Nodup

/-! ## The ghost follows the VM -/

/-- `inst` is what `plugin_instance` makes of the binding's source and config. -/
def PluginBinding.Creates {ω ι : Type} (binding : PluginBinding) (host : LuaHost ω ι) (inst : ι) :
    Prop :=
  ∃ lua evaluated plugin, host.evalPlugin lua binding.name binding.source =
    (.ok plugin, evaluated) ∧
    ((∃ lua', host.construct evaluated plugin binding.config = some (.ok inst, lua')) ∨
      (host.construct evaluated plugin binding.config = none ∧ inst = plugin))

/-- The cache holds an instance for the same ids as the VM, in the same generation, and the VM's
instance is made from the source and config of the binding that the cache names. -/
structure Mirrors {ω ι : Type} (host : LuaHost ω ι) (vm : ThreadLocalVm ω ι)
    (cache : InstanceCache) : Prop where
  generation : cache.generation = vm.generation
  slots : ∀ id, id ∈ cache.slots ↔ id ∈ vm.instances
  created : cache.Filled fun id maker => ∀ inst, vm.instances.lookup id = some inst →
    maker.binding.Creates host inst

section Mirror
variable {ω ι : Type} {host : LuaHost ω ι} {vm : ThreadLocalVm ω ι} {binding : PluginBinding}
  {request : PluginRequest} {state : RuntimeState} {phase : Phase} {cache : InstanceCache}

/-- The instance is found, cannot be made, or is made and kept under the binding's id. -/
theorem pluginInstance_cases (host : LuaHost ω ι) (vm : ThreadLocalVm ω ι)
    (binding : PluginBinding) :
    (∃ inst, vm.instances.lookup binding.id = some inst ∧
      pluginInstance host vm binding = (.ok inst, vm)) ∨
    (vm.instances.lookup binding.id = none ∧ ∃ e lua,
      pluginInstance host vm binding = (.error e, { vm with lua := lua })) ∨
    (vm.instances.lookup binding.id = none ∧ ∃ inst lua, binding.Creates host inst ∧
      pluginInstance host vm binding =
        (.ok inst, { vm with lua := lua, instances := vm.instances.insert binding.id inst })) := by
  unfold pluginInstance
  split
  · rename_i inst hinst
    exact Or.inl ⟨inst, hinst, rfl⟩
  · rename_i hnone
    right
    split
    · exact Or.inl ⟨hnone, _, _, rfl⟩
    · rename_i plugin lua heval
      split
      · exact Or.inl ⟨hnone, _, _, rfl⟩
      · rename_i inst lua' hnew
        exact Or.inr ⟨hnone, _, _, ⟨_, _, _, heval, Or.inl ⟨_, hnew⟩⟩, rfl⟩
      · rename_i hnew
        exact Or.inr ⟨hnone, _, _, ⟨_, _, _, heval, Or.inr ⟨hnew, rfl⟩⟩, rfl⟩

/-- A phase changes the cache of the VM only in `plugin_instance`. -/
theorem vm_runPhase :
    ∃ lua, (runPhase host vm binding request state phase).vm =
      { (pluginInstance host vm binding).2 with lua := lua } := by
  unfold runPhase
  split
  · rename_i e vm' h
    exact ⟨vm'.lua, by rw [h]⟩
  · rename_i inst vm' h
    rw [h]
    split
    · exact ⟨vm'.lua, rfl⟩
    · split
      · exact ⟨_, rfl⟩
      · exact ⟨_, rfl⟩

theorem Mirrors.withLua (h : Mirrors host vm cache) (lua : ω) :
    Mirrors host { vm with lua := lua } cache :=
  ⟨h.generation, h.slots, h.created⟩

/-- Where the VM has no instance, the cache has none. -/
theorem Mirrors.miss (h : Mirrors host vm cache) {id : String}
    (hnone : vm.instances.lookup id = none) : cache.slots.lookup id = none := by
  rw [AList.lookup_eq_none] at hnone ⊢
  exact mt (h.slots id).mp hnone

/-- `plugin_instance` and the cache go through the same cases. -/
theorem Mirrors.pluginInstance (h : Mirrors host vm cache) (site : InstanceSite) :
    Mirrors host (Plugins.pluginInstance host vm site.binding).2
      (phaseCache host vm site cache) := by
  unfold phaseCache
  rcases pluginInstance_cases host vm site.binding with ⟨inst, hfound, heq⟩ |
    ⟨hnone, e, lua, heq⟩ | ⟨hnone, inst, lua, hcreates, heq⟩
  · rw [heq]
    have hmem : site.id ∈ cache.slots :=
      (h.slots site.id).mpr (AList.lookup_isSome.mp (Option.isSome_of_eq_some hfound))
    obtain ⟨n, hn⟩ := Option.isSome_iff_exists.mp (AList.lookup_isSome.mpr hmem)
    rw [Cache.use_of_hit hn]
    exact ⟨h.generation, h.slots, h.created⟩
  · rw [heq, Cache.use_of_miss (h.miss hnone)]
    exact h.withLua lua
  · rw [heq]
    constructor
    · rw [Cache.generation_use]
      exact h.generation
    · intro id
      show id ∈ (cache.use InstanceSite.id site true).slots ↔
        id ∈ vm.instances.insert site.binding.id inst
      rw [Cache.mem_slots_use, AList.mem_insert, h.slots]
      simp [InstanceSite.id, or_comm]
    · refine Cache.Filled.make h.created (h.miss hnone) ?_ ?_
      · intro id maker hid hmaker found hfound
        have hkept : (vm.instances.insert site.id inst).lookup id = vm.instances.lookup id :=
          AList.lookup_insert_ne hid
        exact hmaker found (hkept ▸ hfound)
      · intro found hfound
        rw [InstanceSite.id, AList.lookup_insert, Option.some.injEq] at hfound
        exact hfound ▸ hcreates

theorem Mirrors.runPhase (h : Mirrors host vm cache) (site : InstanceSite) :
    Mirrors host (Plugins.runPhase host vm site.binding request state phase).vm
      (phaseCache host vm site cache) := by
  obtain ⟨lua, hvm⟩ := @vm_runPhase _ _ host vm site.binding request state phase
  rw [hvm]
  exact (h.pluginInstance site).withLua lua

theorem Mirrors.prepare (h : Mirrors host vm cache) (generation : ℕ) (limits : PluginLimits) :
    Mirrors host (vm.prepare host generation limits).2 (cache.enter generation) := by
  have hfresh : Mirrors host (if vm.generation ≠ generation then
      { vm with generation := generation, instances := ∅ } else vm) (cache.enter generation) := by
    unfold Cache.enter
    rw [h.generation]
    split
    · exact ⟨rfl, fun id => by simp [AList.notMem_empty], fun id n hn => by simp at hn⟩
    · exact h
  unfold ThreadLocalVm.prepare
  cases host.resetLimits vm.lua limits with
  | ok lua => exact hfresh.withLua lua
  | error reason => exact hfresh

end Mirror

/-! ## What a request keeps -/

section Request
variable {ω ι : Type} {host : LuaHost ω ι} {clock : ChainClock} {runtime : PluginRuntime}
  {request : PluginRequest} {responseStatus : ℕ} {vm : ThreadLocalVm ω ι}
  {slot : Except PluginError (ThreadLocalVm ω ι)} {cache : InstanceCache}

/-- `P` holds between requests and `Q` within one on this runtime: entering the VM leads from
one to the other, and every phase of a binding of the request's chain keeps `Q`. -/
structure RequestRule (host : LuaHost ω ι) (runtime : PluginRuntime) (request : PluginRequest)
    (P : Except PluginError (ThreadLocalVm ω ι) → InstanceCache → Prop)
    (Q : ThreadLocalVm ω ι → InstanceCache → Prop) : Prop where
  enter : ∀ vm cache, P (.ok vm) cache →
    Q (vm.prepare host runtime.generation runtime.limits).2 (cache.enter runtime.generation)
  tables : ∀ vm lua cache, Q vm cache → Q { vm with lua := lua } cache
  phase : ∀ chain position binding, runtime.chains.lookup request.routeName = some chain →
    chain.bindings[position]? = some binding → ∀ vm state phase cache, Q vm cache →
    Q (runPhase host vm binding request state phase).vm
      (phaseCache host vm (siteAt runtime request position binding) cache)
  leave : ∀ vm cache, Q vm cache → P (.ok vm) cache

variable {P : Except PluginError (ThreadLocalVm ω ι) → InstanceCache → Prop}
  {Q : ThreadLocalVm ω ι → InstanceCache → Prop}

theorem RequestRule.chain (h : RequestRule host runtime request P Q) {chain : PluginChain}
    (hchain : runtime.chains.lookup request.routeName = some chain) {index : ℕ}
    {bindings : List PluginBinding} {state : RuntimeState} {ran : List ℕ}
    (hbindings : chain.bindings.drop index = bindings) (hQ : Q vm cache) :
    Q (runChain host clock runtime.limits request index bindings vm state ran).vm
      (chainCache host clock runtime request index bindings vm state cache) := by
  induction bindings generalizing index vm state ran cache with
  | nil => exact hQ
  | cons binding bindings ih =>
    have hbinding : chain.bindings[index]? = some binding := by
      rw [← List.head?_drop, hbindings, List.head?_cons]
    have hrest : chain.bindings.drop (index + 1) = bindings := by
      rw [← List.tail_drop, hbindings, List.tail_cons]
    have hphase := h.phase chain index binding hchain hbinding vm state .access cache hQ
    unfold runChain chainCache
    split
    · exact hQ
    · simp only
      split
      · rename_i hresult
        simpa only [hresult] using hphase
      · rename_i hresult
        simpa only [hresult] using hphase
      · rename_i hresult
        simp only [hresult]
        exact ih hrest hphase

theorem RequestRule.log (h : RequestRule host runtime request P Q) {chain : PluginChain}
    (hchain : runtime.chains.lookup request.routeName = some chain)
    {bindings : List (PluginBinding × ℕ)} {state : RuntimeState}
    (hbindings : ∀ binding position, (binding, position) ∈ bindings →
      chain.bindings[position]? = some binding) (hQ : Q vm cache) :
    Q (runLog host request responseStatus (bindings.map Prod.fst) vm state)
      (logCache host runtime request responseStatus bindings vm state cache) := by
  induction bindings generalizing vm state cache with
  | nil => exact hQ
  | cons head bindings ih =>
    obtain ⟨binding, position⟩ := head
    have hbinding := hbindings binding position (by simp)
    have hphase := h.phase chain position binding hchain hbinding vm state (.log responseStatus)
      cache hQ
    exact ih (fun b i hmem => hbindings b i (by simp [hmem])) hphase

theorem slot_executeAccess :
    (executeAccess host clock runtime slot request).slot =
      requestSlot host runtime slot request fun bindings vm =>
        (runChain host clock runtime.limits request 0 bindings vm RuntimeState.new []).vm := by
  unfold executeAccess requestSlot
  cases runtime.chains.lookup request.routeName with
  | none => rfl
  | some chain =>
    cases slot with
    | error e => rfl
    | ok vm =>
      simp only
      rcases vm.prepare host runtime.generation runtime.limits with ⟨e | -, prepared⟩
      · rfl
      · simp only
        cases host.createTables prepared.lua with
        | error reason => rfl
        | ok lua => rfl

theorem slot_executeLog :
    (executeLog host runtime slot request responseStatus).2 =
      requestSlot host runtime slot request fun bindings vm =>
        runLog host request responseStatus bindings.reverse vm RuntimeState.new := by
  unfold executeLog requestSlot
  cases runtime.chains.lookup request.routeName with
  | none => rfl
  | some chain =>
    cases slot with
    | error e => rfl
    | ok vm =>
      simp only
      rcases vm.prepare host runtime.generation runtime.limits with ⟨e | -, prepared⟩
      · rfl
      · simp only
        cases host.createTables prepared.lua with
        | error reason => rfl
        | ok lua => rfl

/-- What the loop over the chain keeps, the request keeps. -/
theorem RequestRule.run (h : RequestRule host runtime request P Q)
    {body : List PluginBinding → ThreadLocalVm ω ι → ThreadLocalVm ω ι}
    {cacheBody : List PluginBinding → ThreadLocalVm ω ι → InstanceCache → InstanceCache}
    (hbody : ∀ chain, runtime.chains.lookup request.routeName = some chain →
      ∀ vm cache, Q vm cache → Q (body chain.bindings vm) (cacheBody chain.bindings vm cache))
    (hP : P slot cache) :
    P (requestSlot host runtime slot request body)
      (requestCache host runtime slot request cache cacheBody) := by
  unfold requestSlot requestCache
  cases hchain : runtime.chains.lookup request.routeName with
  | none => exact hP
  | some chain =>
    cases slot with
    | error e => exact hP
    | ok vm =>
      have hentered := h.enter vm cache hP
      simp only
      generalize vm.prepare host runtime.generation runtime.limits = entered at hentered ⊢
      rcases entered with ⟨e | ⟨⟩, prepared⟩
      · exact h.leave _ _ hentered
      · simp only
        cases host.createTables prepared.lua with
        | error reason => exact h.leave _ _ hentered
        | ok lua => exact h.leave _ _ (hbody chain hchain _ _ (h.tables _ lua _ hentered))

theorem RequestRule.access (h : RequestRule host runtime request P Q) (hP : P slot cache) :
    P (executeAccess host clock runtime slot request).slot
      (accessCache host clock runtime slot request cache) := by
  rw [slot_executeAccess]
  exact h.run (fun chain hchain vm cache hQ => h.chain hchain rfl hQ) hP

theorem RequestRule.logPhase (h : RequestRule host runtime request P Q) (hP : P slot cache) :
    P (executeLog host runtime slot request responseStatus).2
      (logPhaseCache host runtime slot request responseStatus cache) := by
  rw [slot_executeLog]
  refine h.run (fun chain hchain vm cache hQ => ?_) hP
  have hmap : chain.bindings.reverse = chain.bindings.zipIdx.reverse.map Prod.fst := by
    rw [List.map_reverse, List.zipIdx_map_fst]
  rw [hmap]
  refine h.log hchain (fun binding position hmem => ?_) hQ
  exact List.mem_zipIdx_iff_getElem?.mp (List.mem_reverse.mp hmem)

/-- A request on any runtime keeps the cache in step with the VM. -/
theorem mirrorRule (host : LuaHost ω ι) (runtime : PluginRuntime) (request : PluginRequest) :
    RequestRule host runtime request (fun slot cache => ∀ vm, slot = .ok vm → Mirrors host vm cache)
      (Mirrors host) where
  enter := fun vm _ h => (h vm rfl).prepare _ _
  tables := fun _ lua _ h => h.withLua lua
  phase := by
    intro chain position binding _ _ vm state phase cache h
    exact h.runPhase (siteAt runtime request position binding)
  leave := by
    intro vm cache h vm' hvm
    exact Except.ok.inj hvm ▸ h

theorem mirrors_new {sandboxed : Except String ω} {vm : ThreadLocalVm ω ι}
    (h : ThreadLocalVm.new sandboxed = .ok vm) : Mirrors host vm ⟨0, ∅, [], []⟩ := by
  cases sandboxed with
  | error reason => simp [ThreadLocalVm.new] at h
  | ok lua =>
    rw [← Except.ok.inj h]
    exact ⟨rfl, fun id => Iff.rfl, fun id n hn => by simp at hn⟩

/-- In every run, whatever the reloads bring, the cache follows the VM. -/
theorem mirrors_of_run {lib : Admin.ReloadLib} {allowed : PluginThread ω ι → ThreadAction → Prop}
    {sandboxed : Except String ω} {t : PluginThread ω ι}
    (h : Run (threadStep host lib) allowed (PluginThread.start runtime sandboxed) t) :
    ∀ vm, t.slot = .ok vm → Mirrors host vm t.cache := by
  refine h.invariant (I := fun t => ∀ vm, t.slot = .ok vm → Mirrors host vm t.cache)
    (fun vm hvm => mirrors_new hvm) ?_
  intro s action s' hs _ hstep
  cases action with
  | reload files config =>
    obtain ⟨hslot, hcache, -, -⟩ := threadStep_reload hstep
    rw [hslot, hcache]
    exact hs
  | access k clock request =>
    obtain ⟨runtime, -, rfl⟩ := Option.map_eq_some_iff.mp hstep
    exact (mirrorRule host runtime request).access hs
  | log k request responseStatus =>
    obtain ⟨runtime, -, rfl⟩ := Option.map_eq_some_iff.mp hstep
    exact (mirrorRule host runtime request).logPhase hs

end Request

/-! ## Sites of a runtime -/

/-- The binding is at this position of this chain of the runtime. -/
def PluginRuntime.HasSite (runtime : PluginRuntime) (site : InstanceSite) : Prop :=
  site.generation = runtime.generation ∧ ∃ chain, runtime.chains.lookup site.route = some chain ∧
    chain.bindings[site.position]? = some site.binding

/-- The ids tell the sites of a runtime apart. -/
def SitesDistinct (runtime : PluginRuntime) : Prop :=
  ∀ site₁ site₂, runtime.HasSite site₁ → runtime.HasSite site₂ → site₁.id = site₂.id →
    site₁ = site₂

section Sites
variable {lib : RegistryLib} {files : PluginFiles} {config : GatewayConfig} {generation : ℕ}
  {runtime : PluginRuntime}

theorem PluginRuntime.HasSite.id_mem {site : InstanceSite} {chain : PluginChain}
    (h : runtime.HasSite site) (hchain : runtime.chains.lookup site.route = some chain) :
    (chain.bindings.map PluginBinding.id)[site.position]? = some site.id := by
  obtain ⟨-, found, hfound, hbinding⟩ := h
  rw [hchain, Option.some.injEq] at hfound
  rw [List.getElem?_map, hfound, hbinding]
  rfl

/-- Sites at one position of one chain are one. -/
theorem PluginRuntime.HasSite.eq {site₁ site₂ : InstanceSite} (h₁ : runtime.HasSite site₁)
    (h₂ : runtime.HasSite site₂) (hroute : site₁.route = site₂.route)
    (hposition : site₁.position = site₂.position) : site₁ = site₂ := by
  obtain ⟨generation₁, route₁, position₁, binding₁⟩ := site₁
  obtain ⟨generation₂, route₂, position₂, binding₂⟩ := site₂
  obtain ⟨hgeneration₁, chain₁, hchain₁, hbinding₁⟩ := h₁
  obtain ⟨hgeneration₂, chain₂, hchain₂, hbinding₂⟩ := h₂
  simp only at hroute hposition hgeneration₁ hgeneration₂ hchain₁ hchain₂ hbinding₁ hbinding₂
  subst hroute hposition
  rw [hchain₁, Option.some.injEq] at hchain₂
  rw [hchain₂, hbinding₂, Option.some.injEq] at hbinding₁
  rw [hgeneration₁, hgeneration₂, hbinding₁]

/-- A binding of a chain is at a site. -/
theorem exists_site {name id : String} {chain : PluginChain} {i : ℕ}
    (hchain : runtime.chains.lookup name = some chain)
    (hid : (chain.bindings.map PluginBinding.id)[i]? = some id) :
    ∃ site, runtime.HasSite site ∧ site.route = name ∧ site.position = i ∧ site.id = id := by
  rw [List.getElem?_map, Option.map_eq_some_iff] at hid
  obtain ⟨binding, hbinding, hid⟩ := hid
  exact ⟨⟨runtime.generation, name, i, binding⟩, ⟨rfl, chain, hchain, hbinding⟩, rfl, rfl, hid⟩

theorem sitesDistinct_of_ids (h : buildRuntime lib files config generation = .ok runtime)
    (hids : PluginIdsDistinct config) : SitesDistinct runtime := by
  intro site₁ site₂ h₁ h₂ hid
  obtain ⟨chain₁, hchain₁, -⟩ := h₁.2
  obtain ⟨chain₂, hchain₂, -⟩ := h₂.2
  obtain ⟨henabled, route₁, hroute₁, hname₁, hperm₁⟩ := route_of_chain h hchain₁
  obtain ⟨-, route₂, hroute₂, hname₂, hperm₂⟩ := route_of_chain h hchain₂
  obtain ⟨hnodup, hdisjoint⟩ := List.nodup_flatMap.mp (hids henabled)
  have hget₁ := h₁.id_mem hchain₁
  have hget₂ := h₂.id_mem hchain₂
  by_cases hroute : route₁ = route₂
  · -- in one chain the ids differ, so the positions are the same
    have hsame : site₁.route = site₂.route := by rw [← hname₁, ← hname₂, hroute]
    have hget := h₁.id_mem (hsame ▸ hchain₂)
    have hchainNodup := hperm₂.nodup_iff.mpr (hnodup route₂ hroute₂)
    have hlt := (List.getElem?_eq_some_iff.mp hget).1
    exact h₁.eq h₂ hsame ((List.getElem?_inj hlt hchainNodup).mp (by rw [hget, hget₂, hid]))
  · -- the ids of two routes have none in common
    have hmem₁ := hperm₁.subset (List.mem_of_getElem? hget₁)
    have hmem₂ := hperm₂.subset (List.mem_of_getElem? hget₂)
    have hsymm : Std.Symm (Function.onFun List.Disjoint (routePluginIds config)) :=
      ⟨fun _ _ h => List.Disjoint.symm h⟩
    exact absurd (hid ▸ hmem₂) (hdisjoint.forall hroute₁ hroute₂ hroute hmem₁)

theorem ids_of_sitesDistinct (h : buildRuntime lib files config generation = .ok runtime)
    (hnames : (config.routes.map RouteConfig.name).Nodup) (hsites : SitesDistinct runtime) :
    PluginIdsDistinct config := by
  intro henabled
  refine List.nodup_flatMap.mpr ⟨?_, ?_⟩
  · intro route hroute
    obtain ⟨chain, hchain, hperm⟩ := chain_of_route h henabled hnames hroute
    rw [← hperm.nodup_iff, List.nodup_iff_getElem?_ne_getElem?]
    intro i j hij hj heq
    -- one id at two positions of the chain
    have hget := List.getElem?_eq_getElem hj
    obtain ⟨site₁, h₁, -, rfl, hid₁⟩ := exists_site hchain (heq.trans hget)
    obtain ⟨site₂, h₂, -, rfl, hid₂⟩ := exists_site hchain hget
    have hsame := hsites site₁ site₂ h₁ h₂ (hid₁.trans hid₂.symm)
    rw [hsame] at hij
    exact lt_irrefl _ hij
  · rw [List.Nodup, List.pairwise_map] at hnames
    refine hnames.imp_of_mem ?_
    intro route₁ route₂ hroute₁ hroute₂ hne id hmem₁ hmem₂
    have hnodup : (config.routes.map RouteConfig.name).Nodup := List.pairwise_map.mpr hnames
    obtain ⟨chain₁, hchain₁, hperm₁⟩ := chain_of_route h henabled hnodup hroute₁
    obtain ⟨chain₂, hchain₂, hperm₂⟩ := chain_of_route h henabled hnodup hroute₂
    obtain ⟨i, hi⟩ := List.mem_iff_getElem?.mp (hperm₁.symm.subset hmem₁)
    obtain ⟨j, hj⟩ := List.mem_iff_getElem?.mp (hperm₂.symm.subset hmem₂)
    obtain ⟨site₁, h₁, hname₁, -, hid₁⟩ := exists_site hchain₁ hi
    obtain ⟨site₂, h₂, hname₂, -, hid₂⟩ := exists_site hchain₂ hj
    have hsame := hsites site₁ site₂ h₁ h₂ (hid₁.trans hid₂.symm)
    rw [hsame, hname₂] at hname₁
    exact hne hname₁.symm

end Sites

/-! ## Distinct ids: every binding on its own instance -/

/-- The site is one of a published runtime. -/
def Known (published : List PluginRuntime) (site : InstanceSite) : Prop :=
  ∃ runtime ∈ published, runtime.HasSite site

/-- What holds of a thread whose runtimes all have distinct ids. -/
structure ThreadInv {ω ι : Type} (t : PluginThread ω ι) : Prop where
  generations : ∀ runtime₁ ∈ t.published, ∀ runtime₂ ∈ t.published,
    runtime₁.generation = runtime₂.generation → runtime₁ = runtime₂
  fresh : ∀ runtime ∈ t.published, runtime.generation < t.engine.nextGeneration
  distinct : ∀ runtime ∈ t.published, SitesDistinct runtime
  sound : t.cache.Sound InstanceSite.id InstanceSite.generation (Known t.published)

/-- A reload brings ids that differ. -/
def ReloadsDistinct {ω ι : Type} (_ : PluginThread ω ι) (action : ThreadAction) : Prop :=
  ∀ files config, action = .reload files config → PluginIdsDistinct config

section Invariant
variable {ω ι : Type} {host : LuaHost ω ι} {lib : Admin.ReloadLib} {t t' : PluginThread ω ι}
  {runtime : PluginRuntime}

/-- Sites of one generation are told apart by their ids, over all runtimes. -/
theorem ThreadInv.site_eq (h : ThreadInv t) {site₁ site₂ : InstanceSite}
    (h₁ : Known t.published site₁) (h₂ : Known t.published site₂)
    (hgeneration : site₁.generation = site₂.generation) (hid : site₁.id = site₂.id) :
    site₁ = site₂ := by
  obtain ⟨runtime₁, hmem₁, hsite₁⟩ := h₁
  obtain ⟨runtime₂, hmem₂, hsite₂⟩ := h₂
  have hsame : runtime₁ = runtime₂ := by
    refine h.generations runtime₁ hmem₁ runtime₂ hmem₂ ?_
    rw [← hsite₁.1, ← hsite₂.1, hgeneration]
  exact h.distinct runtime₁ hmem₁ site₁ site₂ hsite₁ (hsame ▸ hsite₂) hid

/-- A request on a published runtime keeps the cache sound. -/
theorem ThreadInv.requestRule (h : ThreadInv t) (hruntime : runtime ∈ t.published)
    (host : LuaHost ω ι) (request : PluginRequest) :
    RequestRule host runtime request
      (fun _ cache => cache.Sound InstanceSite.id InstanceSite.generation (Known t.published))
      (fun _ cache => cache.generation = runtime.generation ∧
        cache.Sound InstanceSite.id InstanceSite.generation (Known t.published)) where
  enter := fun _ _ hsound => ⟨Cache.generation_enter _ _, hsound.enter _⟩
  tables := fun _ _ _ hQ => hQ
  phase := by
    intro chain position binding hchain hbinding vm state phase cache ⟨hcurrent, hsound⟩
    have hknown : Known t.published (siteAt runtime request position binding) :=
      ⟨runtime, hruntime, rfl, chain, hchain, hbinding⟩
    refine ⟨Cache.generation_use.trans hcurrent, hsound.use hcurrent.symm hknown ?_ _⟩
    intro other hother hgeneration hid
    exact h.site_eq hother hknown hgeneration hid
  leave := fun _ _ hQ => hQ.2

theorem ThreadInv.reload (h : ThreadInv t) {files : PluginFiles} {config : GatewayConfig}
    (hids : PluginIdsDistinct config)
    (hstep : threadStep host lib t (.reload files config) = some t') : ThreadInv t' := by
  obtain ⟨-, hcache, hnext, hsame | ⟨runtime, hbuild, hpublished⟩⟩ := threadStep_reload hstep
  · constructor
    · rw [hsame]
      exact h.generations
    · intro r hr
      have hlt := h.fresh r (hsame ▸ hr)
      omega
    · rw [hsame]
      exact h.distinct
    · rw [hsame, hcache]
      exact h.sound
  · have hgeneration := generation_of_buildRuntime hbuild
    have hcases : ∀ r ∈ t'.published, r ∈ t.published ∨ r = runtime := by
      intro r hr
      rw [hpublished] at hr
      simpa using hr
    -- the runtimes before have smaller generations
    have hnew : ∀ r ∈ t.published, r.generation ≠ runtime.generation := by
      intro r hr heq
      have hlt := h.fresh r hr
      omega
    constructor
    · intro r₁ h₁ r₂ h₂ heq
      rcases hcases r₁ h₁ with hold₁ | rfl <;> rcases hcases r₂ h₂ with hold₂ | rfl
      · exact h.generations r₁ hold₁ r₂ hold₂ heq
      · exact absurd heq (hnew r₁ hold₁)
      · exact absurd heq.symm (hnew r₂ hold₂)
      · rfl
    · intro r hr
      rcases hcases r hr with hold | rfl
      · have hlt := h.fresh r hold
        omega
      · omega
    · intro r hr
      rcases hcases r hr with hold | rfl
      · exact h.distinct r hold
      · exact sitesDistinct_of_ids hbuild hids
    · rw [hcache]
      refine h.sound.mono ?_
      rintro site ⟨r, hr, hsite⟩
      exact ⟨r, by simp [hpublished, hr], hsite⟩

theorem ThreadInv.step (h : ThreadInv t) {action : ThreadAction}
    (hids : ReloadsDistinct t action) (hstep : threadStep host lib t action = some t') :
    ThreadInv t' := by
  cases action with
  | reload files config => exact h.reload (hids files config rfl) hstep
  | access k clock request =>
    obtain ⟨runtime, hruntime, rfl⟩ := Option.map_eq_some_iff.mp hstep
    have hrule := h.requestRule (List.mem_of_getElem? hruntime) host request
    exact ⟨h.generations, h.fresh, h.distinct, hrule.access h.sound⟩
  | log k request responseStatus =>
    obtain ⟨runtime, hruntime, rfl⟩ := Option.map_eq_some_iff.mp hstep
    have hrule := h.requestRule (List.mem_of_getElem? hruntime) host request
    exact ⟨h.generations, h.fresh, h.distinct, hrule.logPhase h.sound⟩

theorem ThreadInv.start {sandboxed : Except String ω} (hgeneration : runtime.generation = 1)
    (hsites : SitesDistinct runtime) :
    ThreadInv (PluginThread.start runtime sandboxed : PluginThread ω ι) where
  generations := by
    intro r₁ h₁ r₂ h₂ _
    rw [List.mem_singleton.mp h₁, List.mem_singleton.mp h₂]
  fresh := by
    intro r hr
    rw [List.mem_singleton.mp hr, hgeneration]
    exact Nat.lt_succ_self 1
  distinct := by
    intro r hr
    rw [List.mem_singleton.mp hr]
    exact hsites
  sound := ⟨fun k n hk => by simp [PluginThread.start] at hk,
    fun site n hmem => by simp [PluginThread.start] at hmem⟩

theorem ThreadInv.instancesMatch (h : ThreadInv t) : InstancesMatch t where
  own := fun site n hmem => ⟨site, h.sound.uses site n hmem, rfl, rfl, rfl⟩
  apart := by
    intro site₁ site₂ n h₁ h₂ _
    have hmade₁ := h.sound.uses site₁ n h₁
    have hmade₂ := h.sound.uses site₂ n h₂
    rw [hmade₁, Option.some.injEq] at hmade₂
    exact hmade₂

end Invariant

/-! ## One id twice: one instance for two bindings -/

/-- A Lua for plugins that load, whose `new` returns a table that keeps the config, and that have
nothing to do in any phase. The table is represented by what it keeps. -/
def configHost : LuaHost Unit JsonValue where
  evalPlugin := fun lua _ _ => (.ok .null, lua)
  construct := fun lua _ config => some (.ok config, lua)
  createTables := fun lua => .ok lua
  phaseFunction := fun _ _ _ => none
  resetLimits := fun lua _ => .ok lua
  display := fun _ => ""

/-- A chain that takes no time. -/
def instantClock : ChainClock := ⟨fun _ => 0, 0⟩

section Shared
variable {runtime : PluginRuntime} {request : PluginRequest} {vm : ThreadLocalVm Unit JsonValue}
  {cache : InstanceCache} {chain : PluginChain} {lib : Admin.ReloadLib}

theorem isOk_pluginInstance_configHost (vm : ThreadLocalVm Unit JsonValue)
    (binding : PluginBinding) :
    (pluginInstance configHost vm binding).1.isOk = true := by
  unfold pluginInstance
  split
  · rfl
  · rfl

theorem result_runPhase_configHost (binding : PluginBinding) (state : RuntimeState)
    (phase : Phase) :
    (runPhase configHost vm binding request state phase).result = .ok none := by
  have hok := isOk_pluginInstance_configHost vm binding
  unfold runPhase
  split
  · rename_i e vm' h
    simp [h, Except.isOk, Except.toBool] at hok
  · rfl

/-- The bindings of a chain from position `index` on, as sites. -/
def chainSites (runtime : PluginRuntime) (request : PluginRequest) (index : ℕ)
    (bindings : List PluginBinding) : List InstanceSite :=
  (bindings.zipIdx index).map fun item => siteAt runtime request item.2 item.1

/-- Such a chain runs to its end. -/
theorem chainCache_configHost (index : ℕ) (bindings : List PluginBinding) (state : RuntimeState) :
    chainCache configHost instantClock runtime request index bindings vm state cache =
      cache.useAll InstanceSite.id (chainSites runtime request index bindings) := by
  induction bindings generalizing index vm state cache with
  | nil => rfl
  | cons binding bindings ih =>
    unfold chainCache
    rw [if_neg (by simp [instantClock])]
    simp only [result_runPhase_configHost]
    rw [ih, phaseCache, siteAt, isOk_pluginInstance_configHost]
    simp only [chainSites, List.zipIdx_cons, List.map_cons]
    rfl

theorem accessCache_configHost
    (hchain : runtime.chains.lookup request.routeName = some chain) :
    accessCache configHost instantClock runtime (.ok vm) request cache =
      (cache.enter runtime.generation).useAll InstanceSite.id
        (chainSites runtime request 0 chain.bindings) := by
  unfold accessCache requestCache
  rw [hchain]
  exact chainCache_configHost 0 chain.bindings RuntimeState.new

/-- A request for the route of a site. -/
def requestFor (site : InstanceSite) : PluginRequest :=
  ⟨site.route, "host", "GET", "/", []⟩

/-- A request for the route of a site uses the site. -/
theorem threadStep_configHost {t : PluginThread Unit JsonValue} {site : InstanceSite}
    (hruntime : t.published[0]? = some runtime) (hslot : t.slot = .ok vm)
    (h : runtime.HasSite site) :
    ∃ after sites, site ∈ sites ∧
      threadStep configHost lib t (.access 0 instantClock (requestFor site)) =
        some { t with
          slot := .ok after
          cache := (t.cache.enter runtime.generation).useAll InstanceSite.id sites } := by
  obtain ⟨hgeneration, chain, hchain, hbinding⟩ := h
  have hcache := @accessCache_configHost runtime (requestFor site) vm t.cache chain hchain
  obtain ⟨after, hafter⟩ : ∃ after, (executeAccess configHost instantClock runtime (.ok vm)
      (requestFor site)).slot = .ok after := by
    rw [slot_executeAccess, requestSlot, requestFor, hchain]
    exact ⟨_, rfl⟩
  refine ⟨after, chainSites runtime (requestFor site) 0 chain.bindings, ?_, ?_⟩
  · refine List.mem_map.mpr ⟨(site.binding, site.position), ?_, ?_⟩
    · exact List.mem_zipIdx_iff_getElem?.mpr hbinding
    · rw [siteAt, ← hgeneration]
      rfl
  · rw [threadStep, hruntime, hslot, Option.map_some, hafter, hcache]

/-- Two sites with one id: after a request for each, both have run on one instance. -/
theorem exists_shared_instance {site₁ site₂ : InstanceSite} (h₁ : runtime.HasSite site₁)
    (h₂ : runtime.HasSite site₂) (hid : site₁.id = site₂.id) :
    ∃ t : PluginThread Unit JsonValue,
      Run (threadStep configHost lib) ReloadsDistinct (PluginThread.start runtime (.ok ())) t ∧
        ∃ n, (site₁, n) ∈ t.cache.uses ∧ (site₂, n) ∈ t.cache.uses := by
  let start : PluginThread Unit JsonValue := PluginThread.start runtime (.ok ())
  obtain ⟨vm₁, sites₁, hmem₁, hfirst⟩ :=
    @threadStep_configHost runtime ⟨(), 0, ∅⟩ lib start site₁ rfl rfl h₁
  let cache₁ := (start.cache.enter runtime.generation).useAll InstanceSite.id sites₁
  obtain ⟨vm₂, sites₂, hmem₂, hsecond⟩ := @threadStep_configHost runtime vm₁ lib
    { start with slot := .ok vm₁, cache := cache₁ } site₂ rfl rfl h₂
  refine ⟨_, .snoc (.snoc .init ?_ hfirst) ?_ hsecond, ?_⟩
  · exact fun _ _ h => nomatch h
  · exact fun _ _ h => nomatch h
  have hheld : (start.cache.enter runtime.generation).Held InstanceSite.id := by
    intro site n hmem
    simp [start, PluginThread.start] at hmem
  have hheld₁ : cache₁.Held InstanceSite.id := Cache.held_useAll hheld sites₁
  -- the second request finds the generation of the first
  have hstay : cache₁.enter runtime.generation = cache₁ := by
    have hgeneration : cache₁.generation = runtime.generation := by simp [cache₁]
    rw [← hgeneration, Cache.enter_self]
  obtain ⟨n₁, hn₁⟩ : ∃ n, (site₁, n) ∈ cache₁.uses := Cache.mem_uses_useAll _ _ hmem₁
  obtain ⟨n₂, hn₂⟩ := Cache.mem_uses_useAll InstanceSite.id cache₁ hmem₂
  have hkeep := Cache.uses_subset_useAll InstanceSite.id cache₁ sites₂ hn₁
  have hsame := (Cache.held_useAll hheld₁ sites₂).shared hkeep hn₂ hid
  simp only [hstay]
  exact ⟨n₂, hsame ▸ hkeep, hn₂⟩

end Shared

/-! ## The result -/

/-- From a startup with a valid config: every run in which all reloads bring ids that differ
has each binding run on its own instance, if the ids of the startup config differ; if they do
not, there is a run in which two bindings share one. -/
theorem instances_match_iff (lib : Admin.ReloadLib) (files : PluginFiles) (config : GatewayConfig)
    (runtime : PluginRuntime) (hvalid : Validation.validate lib.urlOk config = .ok ())
    (hbuild : buildRuntime lib.registry files config 1 = .ok runtime) :
    (∀ (ω ι : Type) (host : LuaHost ω ι) (sandboxed : Except String ω) (t : PluginThread ω ι),
      Run (threadStep host lib) ReloadsDistinct (PluginThread.start runtime sandboxed) t →
        InstancesMatch t) ↔
      PluginIdsDistinct config := by
  constructor
  · intro h
    have hnames := (Validation.validate_ok_iff.mp hvalid).routes_nodup
    refine ids_of_sitesDistinct hbuild hnames ?_
    intro site₁ site₂ h₁ h₂ hid
    obtain ⟨t, hrun, n, hn₁, hn₂⟩ := exists_shared_instance h₁ h₂ hid
    have hmatch := h Unit JsonValue configHost (.ok ()) t hrun
    exact hmatch.apart site₁ site₂ n hn₁ hn₂ (h₁.1.trans h₂.1.symm)
  · intro hids ω ι host sandboxed t hrun
    have hstart := @ThreadInv.start ω ι runtime sandboxed (generation_of_buildRuntime hbuild)
      (sitesDistinct_of_ids hbuild hids)
    have hinv := hrun.invariant hstart fun s a s' h hallowed hstep => h.step hallowed hstep
    exact hinv.instancesMatch

open Admin (SampleFile) in
theorem instances_match_iff_waf :
    buildRuntime SampleFile.lib.registry SampleFile.pluginFiles SampleFile.waf.config 1 =
        .ok (SampleFile.wafRuntime 1) ∧
      ((∀ (ω ι : Type) (host : LuaHost ω ι) (sandboxed : Except String ω) (t : PluginThread ω ι),
        Run (threadStep host SampleFile.lib) ReloadsDistinct
          (PluginThread.start (SampleFile.wafRuntime 1) sandboxed) t → InstancesMatch t) ↔
        PluginIdsDistinct SampleFile.waf.config) :=
  ⟨rfl, instances_match_iff SampleFile.lib SampleFile.pluginFiles SampleFile.waf.config
    (SampleFile.wafRuntime 1) (SampleFile.validate_config .waf) rfl⟩

/-- The plugin `waf` for all routes, and again for the one route with another config. -/
def layeredConfig : GatewayConfig :=
  let route :=
    { Validation.minimalRoute "r" ["*"] "/" with
      plugins := [{ name := "waf", config := .string "block" }] }
  { Validation.minimalConfig [route] with
    plugins :=
      { enabled := true
        directory := "plugins"
        global := [{ name := "waf", config := .string "monitor" }] } }

/-- The binding of `waf` with a config. -/
def layeredBinding (mode : String) : PluginBinding where
  id := "r:waf"
  name := "waf"
  priority := 10
  version := "1.0.0"
  failOpen := false
  source := Admin.SampleFile.wafSource
  config := .string mode

def layeredRuntime : PluginRuntime :=
  ⟨1, {}, AList.insert "r" ⟨[layeredBinding "monitor", layeredBinding "block"]⟩ ∅⟩

/-- One request is enough: the plugin that is to block runs as the instance that monitors. -/
theorem layered_plugin_shares_instance :
    Validation.validate Admin.SampleFile.lib.urlOk layeredConfig = .ok () ∧
      buildRuntime Admin.SampleFile.lib.registry Admin.SampleFile.pluginFiles layeredConfig 1 =
        .ok layeredRuntime ∧
      ∃ t : PluginThread Unit JsonValue,
        Run (threadStep configHost Admin.SampleFile.lib) ReloadsDistinct
            (PluginThread.start layeredRuntime (.ok ())) t ∧
          t.cache.uses = [(⟨1, "r", 0, layeredBinding "monitor"⟩, 0),
            (⟨1, "r", 1, layeredBinding "block"⟩, 0)] ∧
          t.cache.made = [⟨1, "r", 0, layeredBinding "monitor"⟩] ∧
          ¬ InstancesMatch t := by
  obtain ⟨t, hstep, huses, hmade⟩ : ∃ t : PluginThread Unit JsonValue,
      threadStep configHost Admin.SampleFile.lib (PluginThread.start layeredRuntime (.ok ()))
          (.access 0 instantClock ⟨"r", "host", "GET", "/", []⟩) = some t ∧
        t.cache.uses = [(⟨1, "r", 0, layeredBinding "monitor"⟩, 0),
          (⟨1, "r", 1, layeredBinding "block"⟩, 0)] ∧
        t.cache.made = [⟨1, "r", 0, layeredBinding "monitor"⟩] := ⟨_, rfl, rfl, rfl⟩
  refine ⟨by decide, rfl, t, .snoc .init (fun _ _ h => by cases h) hstep, huses, hmade, ?_⟩
  intro h
  obtain ⟨maker, hmaker, -, -, hconfig⟩ :=
    h.own ⟨1, "r", 1, layeredBinding "block"⟩ 0 (by simp [huses])
  rw [hmade, List.getElem?_cons_zero, Option.some.injEq] at hmaker
  rw [← hmaker] at hconfig
  simp [layeredBinding] at hconfig

end Plugins
end OpenApiGateway
