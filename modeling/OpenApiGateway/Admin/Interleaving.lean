import OpenApiGateway.Admin.State
import OpenApiGateway.ExtAuthz.Handler
import OpenApiGateway.Lib.TransitionSystem

/-!
# Reloads and checks side by side

Any number of reloads and check requests on one application state. A reload is cut where it
takes a lock or a counter: taking a generation, building and replacing the plugin runtime,
taking a version and building the snapshot, installing it, writing the config. A check takes
the read lock of the config when it matches its route and keeps it to the end; the plugin
runtime is read in between, under its own lock, unless the check is dropped before that
because its client has gone. A config is written only while no check holds the read lock.

`Step` lists what each action can do; `run_alone` shows that the steps of one reload, taken
one after the other, are `configReload`.
-/

namespace OpenApiGateway
namespace Admin

open Auth Plugins Xds Lib.TransitionSystem

/-! ## Tasks -/

/-- What a reload works from: the bytes it read, the config in them, and the plugin files it
saw when it built its runtime. -/
structure Source where
  raw : List UInt8
  config : GatewayConfig
  files : PluginFiles

/-- How far a reload has come. -/
inductive ReloadTask where
  | loaded (raw : List UInt8) (config : GatewayConfig) (now : ℤ)
  | generated (raw : List UInt8) (config : GatewayConfig) (now : ℤ) (generation : ℕ)
  | built (source : Source) (now : ℤ) (runtime : PluginRuntime)
  /-- The runtime is replaced. -/
  | swapped (source : Source) (now : ℤ)
  | versioned (source : Source) (now : ℤ) (snapshot : XdsSnapshot)
  /-- The snapshot is installed. -/
  | pushed (source : Source) (now : ℤ)
  | failing (now : ℤ) (errorMsg : String)
  | returned (response : Option ReloadResponse)

/-- How far a check has come. The config and the plugin files of a matched check are those it
was matched under. -/
inductive RequestTask where
  | matched (config : GatewayConfig) (files : PluginFiles) (route : RouteConfig)
  | executed (config : GatewayConfig) (files : PluginFiles) (route : RouteConfig)
      (chain : Option PluginChain)
  | returned

/-- The check holds the read lock of the config. -/
def RequestTask.holdsLock : RequestTask → Bool
  | matched .. => true
  | executed .. => true
  | returned => false

/-- The application with its reloads and checks, in the order they came. `files` and
`swappedBy` are ghosts: the plugin files seen by the reload whose config is active, and the
position of the reload that replaced the plugin runtime last. -/
structure System (κ : Type) where
  app : AppState κ
  files : PluginFiles
  swappedBy : Option ℕ
  reloads : List ReloadTask
  requests : List RequestTask

inductive Action where
  | beginReload (now : ℤ) (read : Except String (List UInt8))
  | takeGeneration (i : ℕ)
  | buildRuntime (i : ℕ) (files : PluginFiles)
  | replaceRuntime (i : ℕ)
  | takeVersion (i : ℕ)
  | installSnapshot (i : ℕ)
  | writeConfig (i : ℕ)
  | writeError (i : ℕ)
  | matchRequest (host path method : String)
  | executeChain (r : ℕ)
  | finishRequest (r : ℕ)

variable {κ : Type}

namespace System

def setReload (s : System κ) (i : ℕ) (task : ReloadTask) : System κ :=
  { s with reloads := s.reloads.set i task }

def setRequest (s : System κ) (r : ℕ) (task : RequestTask) : System κ :=
  { s with requests := s.requests.set r task }

def locked (s : System κ) : Bool := s.requests.any RequestTask.holdsLock

end System

/-- `replace_runtime`. -/
def AppState.replaceRuntime (app : AppState κ) (runtime : PluginRuntime) : AppState κ :=
  { app with pluginEngine := app.pluginEngine.map fun engine => { engine with runtime := runtime } }

/-- `*self.snapshot.write().await = snapshot`. -/
def AppState.installSnapshot (app : AppState κ) (snapshot : XdsSnapshot) : AppState κ :=
  { app with xds := app.xds.map fun xds => { xds with snapshot := snapshot } }

/-! ## Steps -/

section Steps
variable (lib : ReloadLib)

/-- The start of a reload: read, parse and validate the file. -/
def beginTask (configPath : String) (now : ℤ) (read : Except String (List UInt8)) : ReloadTask :=
  match read with
  | .error reason => .failing now s!"failed to read {configPath}: {reason}"
  | .ok raw =>
    match lib.load raw with
    | .ok config => .loaded raw config now
    | .error errors => .failing now (ConfigError.displayAll errors)

/-- The start of a check: take the read lock, match the route, look at the method. -/
def matchTask (config : GatewayConfig) (files : PluginFiles) (host path method : String) :
    RequestTask :=
  match ExtAuthz.matchRoute config.routes host path with
  | some route => if ExtAuthz.methodAllowed route method then .matched config files route
      else .returned
  | none => .returned

def takeGeneration (s : System κ) (i : ℕ) (raw : List UInt8) (config : GatewayConfig) (now : ℤ) :
    System κ :=
  match s.app.pluginEngine with
  -- no engine, nothing to replace
  | none => s.setReload i (.swapped ⟨raw, config, s.files⟩ now)
  | some engine =>
    { s.setReload i (.generated raw config now engine.nextGeneration) with
      app := { s.app with
        pluginEngine := some { engine with nextGeneration := engine.nextGeneration + 1 } } }

def buildTask (raw : List UInt8) (config : GatewayConfig) (now : ℤ) (generation : ℕ)
    (files : PluginFiles) : ReloadTask :=
  match buildRuntime lib.registry files config generation with
  | .ok runtime => .built ⟨raw, config, files⟩ now runtime
  | .error e => .failing now e.display

def replaceRuntime (s : System κ) (i : ℕ) (source : Source) (now : ℤ) (runtime : PluginRuntime) :
    System κ :=
  { s.setReload i (.swapped source now) with
    app := s.app.replaceRuntime runtime
    swappedBy := some i }

/-- The reload after it took its version. -/
def versionTask (version : ℕ) (source : Source) (now : ℤ) : ReloadTask :=
  match XdsSnapshot.build lib.encode source.config version with
  | .ok snapshot => .versioned source now snapshot
  | .error e => .failing now e.display

def takeVersion (s : System κ) (i : ℕ) (source : Source) (now : ℤ) : System κ :=
  match s.app.xds with
  | none => s.setReload i (.pushed source now)
  | some xds =>
    { s.setReload i (versionTask lib (xds.version + 1) source now) with
      app := { s.app with xds := some { xds with version := xds.version + 1 } } }

def installSnapshot (s : System κ) (i : ℕ) (source : Source) (now : ℤ) (snapshot : XdsSnapshot) :
    System κ :=
  { s.setReload i (.pushed source now) with app := s.app.installSnapshot snapshot }

def writeConfig (s : System κ) (i : ℕ) (source : Source) (now : ℤ) : System κ :=
  let outcome := activateConfig lib s.app source.raw now source.config []
  { s.setReload i (.returned outcome.response) with
    app := outcome.state
    files := source.files }

def writeError (s : System κ) (i : ℕ) (now : ℤ) (errorMsg : String) : System κ :=
  let outcome := reloadValidationError s.app now errorMsg []
  { s.setReload i (.returned outcome.response) with app := outcome.state }

/-- The chain a check finds in the runtime in place; none means that no plugin runs. -/
def chainFor (app : AppState κ) (route : RouteConfig) : Option PluginChain :=
  app.runtime.bind fun runtime => runtime.chains.lookup route.name

/-- What an action does, where it can be taken. -/
def step (s : System κ) : Action → Option (System κ)
  | .beginReload now read =>
    some { s with reloads := s.reloads ++ [beginTask lib s.app.configPath now read] }
  | .takeGeneration i =>
    match s.reloads[i]? with
    | some (.loaded raw config now) => some (takeGeneration s i raw config now)
    | _ => none
  | .buildRuntime i files =>
    match s.reloads[i]? with
    | some (.generated raw config now generation) =>
      some (s.setReload i (buildTask lib raw config now generation files))
    | _ => none
  | .replaceRuntime i =>
    match s.reloads[i]? with
    | some (.built source now runtime) => some (replaceRuntime s i source now runtime)
    | _ => none
  | .takeVersion i =>
    match s.reloads[i]? with
    | some (.swapped source now) => some (takeVersion lib s i source now)
    | _ => none
  | .installSnapshot i =>
    match s.reloads[i]? with
    | some (.versioned source now snapshot) => some (installSnapshot s i source now snapshot)
    | _ => none
  | .writeConfig i =>
    match s.reloads[i]? with
    -- `write().await` waits for the checks that hold the read lock
    | some (.pushed source now) => if s.locked then none else some (writeConfig lib s i source now)
    | _ => none
  | .writeError i =>
    match s.reloads[i]? with
    | some (.failing now errorMsg) => if s.locked then none else some (writeError s i now errorMsg)
    | _ => none
  | .matchRequest host path method =>
    some { s with
      requests := s.requests ++ [matchTask s.app.configState.config s.files host path method] }
  | .executeChain r =>
    match s.requests[r]? with
    | some (.matched config files route) =>
      some (s.setRequest r (.executed config files route (chainFor s.app route)))
    | _ => none
  | .finishRequest r =>
    match s.requests[r]? with
    | some task => if task.holdsLock then some (s.setRequest r .returned) else none
    | none => none

end Steps

/-- What each action can do, with the state of the task it needs. -/
inductive Step (lib : ReloadLib) (s : System κ) : Action → System κ → Prop
  | beginReload (now : ℤ) (read : Except String (List UInt8)) :
    Step lib s (.beginReload now read)
      { s with reloads := s.reloads ++ [beginTask lib s.app.configPath now read] }
  | takeGeneration {i : ℕ} {raw : List UInt8} {config : GatewayConfig} {now : ℤ}
      (h : s.reloads[i]? = some (.loaded raw config now)) :
    Step lib s (.takeGeneration i) (Admin.takeGeneration s i raw config now)
  | buildRuntime {i : ℕ} {raw : List UInt8} {config : GatewayConfig} {now : ℤ} {generation : ℕ}
      (files : PluginFiles) (h : s.reloads[i]? = some (.generated raw config now generation)) :
    Step lib s (.buildRuntime i files)
      (s.setReload i (buildTask lib raw config now generation files))
  | replaceRuntime {i : ℕ} {source : Source} {now : ℤ} {runtime : PluginRuntime}
      (h : s.reloads[i]? = some (.built source now runtime)) :
    Step lib s (.replaceRuntime i) (Admin.replaceRuntime s i source now runtime)
  | takeVersion {i : ℕ} {source : Source} {now : ℤ}
      (h : s.reloads[i]? = some (.swapped source now)) :
    Step lib s (.takeVersion i) (Admin.takeVersion lib s i source now)
  | installSnapshot {i : ℕ} {source : Source} {now : ℤ} {snapshot : XdsSnapshot}
      (h : s.reloads[i]? = some (.versioned source now snapshot)) :
    Step lib s (.installSnapshot i) (Admin.installSnapshot s i source now snapshot)
  | writeConfig {i : ℕ} {source : Source} {now : ℤ}
      (h : s.reloads[i]? = some (.pushed source now)) (hlock : s.locked = false) :
    Step lib s (.writeConfig i) (Admin.writeConfig lib s i source now)
  | writeError {i : ℕ} {now : ℤ} {errorMsg : String}
      (h : s.reloads[i]? = some (.failing now errorMsg)) (hlock : s.locked = false) :
    Step lib s (.writeError i) (Admin.writeError s i now errorMsg)
  | matchRequest (host path method : String) :
    Step lib s (.matchRequest host path method)
      { s with
        requests := s.requests ++ [matchTask s.app.configState.config s.files host path method] }
  | executeChain {r : ℕ} {config : GatewayConfig} {files : PluginFiles} {route : RouteConfig}
      (h : s.requests[r]? = some (.matched config files route)) :
    Step lib s (.executeChain r)
      (s.setRequest r (.executed config files route (chainFor s.app route)))
  | finishRequest {r : ℕ} {task : RequestTask} (h : s.requests[r]? = some task)
      (hlock : task.holdsLock = true) :
    Step lib s (.finishRequest r) (s.setRequest r .returned)

theorem Step.of_step {lib : ReloadLib} {s s' : System κ} {a : Action}
    (h : step lib s a = some s') : Step lib s a s' := by
  cases a with
  | beginReload now read =>
    rw [← Option.some.inj h]
    exact .beginReload now read
  | matchRequest host path method =>
    rw [← Option.some.inj h]
    exact .matchRequest host path method
  | takeGeneration i =>
    simp only [step] at h
    split at h
    · rename_i htask
      rw [← Option.some.inj h]
      exact .takeGeneration htask
    · simp at h
  | buildRuntime i files =>
    simp only [step] at h
    split at h
    · rename_i htask
      rw [← Option.some.inj h]
      exact .buildRuntime files htask
    · simp at h
  | replaceRuntime i =>
    simp only [step] at h
    split at h
    · rename_i htask
      rw [← Option.some.inj h]
      exact .replaceRuntime htask
    · simp at h
  | takeVersion i =>
    simp only [step] at h
    split at h
    · rename_i htask
      rw [← Option.some.inj h]
      exact .takeVersion htask
    · simp at h
  | installSnapshot i =>
    simp only [step] at h
    split at h
    · rename_i htask
      rw [← Option.some.inj h]
      exact .installSnapshot htask
    · simp at h
  | writeConfig i =>
    simp only [step] at h
    split at h
    · rename_i htask
      split at h
      · simp at h
      · rename_i hlock
        rw [← Option.some.inj h]
        exact .writeConfig htask (Bool.eq_false_iff.mpr hlock)
    · simp at h
  | writeError i =>
    simp only [step] at h
    split at h
    · rename_i htask
      split at h
      · simp at h
      · rename_i hlock
        rw [← Option.some.inj h]
        exact .writeError htask (Bool.eq_false_iff.mpr hlock)
    · simp at h
  | executeChain r =>
    simp only [step] at h
    split at h
    · rename_i htask
      rw [← Option.some.inj h]
      exact .executeChain htask
    · simp at h
  | finishRequest r =>
    simp only [step] at h
    split at h
    · rename_i htask
      split at h
      · rename_i hlock
        rw [← Option.some.inj h]
        exact .finishRequest htask hlock
      · simp at h
    · simp at h

/-! ## Writing the config -/

/-- Writing the config replaces the config state and nothing else of the application. -/
theorem writeConfig_app (lib : ReloadLib) (s : System κ) (i : ℕ) (source : Source) (now : ℤ) :
    (writeConfig lib s i source now).app =
      { s.app with configState := ConfigState.activate lib source.raw now source.config } :=
  activateConfig_configState _ _ _ _ _

/-- A reload that is ready to write its config does so while no check holds the lock. -/
theorem run_writeConfig {lib : ReloadLib} {allowed : System κ → Action → Prop}
    {s₀ s : System κ} (h : Run (step lib) allowed s₀ s) (i : ℕ) {source : Source} {now : ℤ}
    (htask : s.reloads[i]? = some (.pushed source now)) (hlock : s.locked = false)
    (hallowed : allowed s (.writeConfig i)) :
    Run (step lib) allowed s₀ (writeConfig lib s i source now) := by
  refine h.snoc hallowed ?_
  simp only [step, htask, hlock]
  rfl

/-! ## One reload alone -/

section Alone
variable {lib : ReloadLib} {s₀ s : System κ}

/-- The system with one more reload. -/
def System.withReload (s : System κ) (task : ReloadTask) : System κ :=
  { s with reloads := s.reloads ++ [task] }

/-- One more reload, of a file that loads. -/
theorem run_beginReload {allowed : System κ → Action → Prop} {raw : List UInt8}
    {config : GatewayConfig} (h : Run (step lib) allowed s₀ s) (hload : lib.load raw = .ok config)
    (now : ℤ) (hallowed : allowed s (.beginReload now (.ok raw))) :
    Run (step lib) allowed s₀ (s.withReload (.loaded raw config now)) := by
  refine h.snoc hallowed ?_
  simp only [step, beginTask, hload, System.withReload]

@[simp] theorem System.withReload_getElem? (s : System κ) (task : ReloadTask) :
    (s.withReload task).reloads[s.reloads.length]? = some task := by
  simp [System.withReload]

@[simp] theorem System.withReload_setReload (s : System κ) (task task' : ReloadTask) :
    (s.withReload task).setReload s.reloads.length task' = s.withReload task' := by
  simp [System.withReload, System.setReload]

@[simp] theorem System.withReload_locked (s : System κ) (task : ReloadTask) :
    (s.withReload task).locked = s.locked := rfl

/-- The system has come to the end of the reload with this outcome. -/
def EndsAs (lib : ReloadLib) (s₀ s : System κ) (outcome : ReloadOutcome κ) : Prop :=
  ∃ s', Run (step lib) (fun _ _ => True) s₀ s' ∧ s'.app = outcome.state ∧
    s'.reloads = s.reloads ++ [.returned outcome.response] ∧ s'.requests = s.requests

variable (lib) in
/-- Effects apart, the last part of a reload does not depend on what was done before. -/
theorem activateConfig_effects (st : AppState κ) (raw : List UInt8) (now : ℤ)
    (config : GatewayConfig) (effects : List ReloadEffect) :
    (activateConfig lib st raw now config effects).response =
        (activateConfig lib st raw now config []).response ∧
      (activateConfig lib st raw now config effects).state =
        (activateConfig lib st raw now config []).state := by
  unfold activateConfig
  simp only
  split
  · exact ⟨rfl, rfl⟩
  · exact ⟨rfl, rfl⟩

theorem endsAs_failing {now : ℤ} {errorMsg : String}
    (h : Run (step lib) (fun _ _ => True) s₀ (s.withReload (.failing now errorMsg)))
    (hlock : s.locked = false) :
    EndsAs lib s₀ s (reloadValidationError s.app now errorMsg []) := by
  have hstep : step lib (s.withReload (.failing now errorMsg)) (.writeError s.reloads.length) =
      some (writeError (s.withReload (.failing now errorMsg)) s.reloads.length now errorMsg) := by
    simp only [step, System.withReload_getElem?, System.withReload_locked, hlock]
    rfl
  refine ⟨_, h.snoc trivial hstep, rfl, ?_, rfl⟩
  simp [writeError, System.withReload, System.setReload]

theorem endsAs_pushed {source : Source} {now : ℤ} (effects : List ReloadEffect)
    (h : Run (step lib) (fun _ _ => True) s₀ (s.withReload (.pushed source now)))
    (hlock : s.locked = false) :
    EndsAs lib s₀ s (activateConfig lib s.app source.raw now source.config effects) := by
  have hwritten := run_writeConfig h s.reloads.length (System.withReload_getElem? s _) hlock trivial
  -- the steps keep no record of effects
  obtain ⟨hresponse, hstate⟩ :=
    activateConfig_effects lib s.app source.raw now source.config effects
  refine ⟨_, hwritten, hstate.symm, ?_, rfl⟩
  simp [writeConfig, System.withReload, System.setReload, hresponse]

theorem endsAs_swapped {source : Source} {now : ℤ}
    (h : Run (step lib) (fun _ _ => True) s₀ (s.withReload (.swapped source now)))
    (hlock : s.locked = false) :
    EndsAs lib s₀ s (rebuildXds lib s.app source.raw now source.config) := by
  have hstep : step lib (s.withReload (.swapped source now)) (.takeVersion s.reloads.length) =
      some (takeVersion lib (s.withReload (.swapped source now)) s.reloads.length source now) := by
    simp only [step, System.withReload_getElem?]
  have hrun := h.snoc trivial hstep
  have happ : (s.withReload (.swapped source now)).app = s.app := rfl
  unfold takeVersion at hrun
  unfold rebuildXds
  cases hxds : s.app.xds with
  | none =>
    simp only [happ, hxds, System.withReload_setReload] at hrun ⊢
    exact endsAs_pushed [] hrun hlock
  | some xds =>
    -- the state after the version is taken; the build works on this version
    let taken : System κ :=
      { s with app := { s.app with xds := some { xds with version := xds.version + 1 } } }
    simp only [happ, hxds, System.withReload_setReload] at hrun
    unfold versionTask at hrun
    simp only [XdsControlPlane.rebuildFromConfig]
    cases hbuild : XdsSnapshot.build lib.encode source.config (xds.version + 1) with
    | error e =>
      simp only [hbuild] at hrun ⊢
      have hend : EndsAs lib s₀ taken _ := endsAs_failing hrun hlock
      exact hend
    | ok snapshot =>
      simp only [hbuild] at hrun ⊢
      have htaken : Run (step lib) (fun _ _ => True) s₀
          (taken.withReload (.versioned source now snapshot)) := hrun
      -- and after the snapshot is installed
      let installed : System κ := { s with app := taken.app.installSnapshot snapshot }
      have hinstall : step lib (taken.withReload (.versioned source now snapshot))
          (.installSnapshot taken.reloads.length) =
          some (installed.withReload (.pushed source now)) := by
        simp only [step, System.withReload_getElem?, installSnapshot, System.withReload_setReload]
        rfl
      have hend : EndsAs lib s₀ installed _ :=
        endsAs_pushed [.setXdsSnapshotVersion (xds.version + 1), .broadcast snapshot,
          .recordXdsPush] (htaken.snoc trivial hinstall) hlock
      exact hend

theorem endsAs_loaded {raw : List UInt8} {config : GatewayConfig} {now : ℤ}
    (h : Run (step lib) (fun _ _ => True) s₀ (s.withReload (.loaded raw config now)))
    (hlock : s.locked = false) (files : PluginFiles) :
    EndsAs lib s₀ s (applyConfigReload lib files s.app raw now config) := by
  have hstep : step lib (s.withReload (.loaded raw config now))
      (.takeGeneration s.reloads.length) =
      some (takeGeneration (s.withReload (.loaded raw config now)) s.reloads.length raw config
        now) := by
    simp only [step, System.withReload_getElem?]
  have hrun := h.snoc trivial hstep
  have happ : (s.withReload (.loaded raw config now)).app = s.app := rfl
  unfold takeGeneration at hrun
  unfold applyConfigReload
  cases hengine : s.app.pluginEngine with
  | none =>
    simp only [happ, hengine, System.withReload_setReload] at hrun ⊢
    have hend := endsAs_swapped hrun hlock
    exact hend
  | some engine =>
    -- the generation is taken, whether or not the build succeeds
    let taken : System κ :=
      { s with app := { s.app with
          pluginEngine := some { engine with nextGeneration := engine.nextGeneration + 1 } } }
    simp only [happ, hengine, System.withReload_setReload] at hrun
    have htaken : Run (step lib) (fun _ _ => True) s₀
        (taken.withReload (.generated raw config now engine.nextGeneration)) := hrun
    have hbuilt : step lib (taken.withReload (.generated raw config now engine.nextGeneration))
        (.buildRuntime taken.reloads.length files) =
        some (taken.withReload
          (buildTask lib raw config now engine.nextGeneration files)) := by
      simp only [step, System.withReload_getElem?, System.withReload_setReload]
    have hrun := htaken.snoc trivial hbuilt
    unfold buildTask at hrun
    simp only [PluginEngine.reloadFromConfig]
    cases hbuild : buildRuntime lib.registry files config engine.nextGeneration with
    | error e =>
      simp only [hbuild] at hrun ⊢
      have hend : EndsAs lib s₀ taken _ := endsAs_failing hrun hlock
      exact hend
    | ok runtime =>
      simp only [hbuild] at hrun ⊢
      let replaced : System κ :=
        { taken with
          app := taken.app.replaceRuntime runtime
          swappedBy := some taken.reloads.length }
      have hreplace : step lib (taken.withReload (.built ⟨raw, config, files⟩ now runtime))
          (.replaceRuntime taken.reloads.length) =
          some (replaced.withReload (.swapped ⟨raw, config, files⟩ now)) := by
        simp only [step, System.withReload_getElem?, replaceRuntime, System.withReload_setReload]
        rfl
      have hend := endsAs_swapped (hrun.snoc trivial hreplace) hlock
      exact hend

/-- A reload that no other task disturbs, taken step by step, ends as `configReload` does. -/
theorem run_alone (lib : ReloadLib) (s : System κ) (hlock : s.locked = false)
    (files : PluginFiles) (now : ℤ) (read : Except String (List UInt8)) :
    EndsAs lib s s (configReload lib files s.app now read) := by
  have hbegin : Run (step lib) (fun _ _ => True) s
      (s.withReload (beginTask lib s.app.configPath now read)) :=
    Run.init.snoc trivial (a := .beginReload now read) rfl
  unfold beginTask at hbegin
  unfold configReload
  cases read with
  | error reason => exact endsAs_failing hbegin hlock
  | ok raw =>
    cases hload : lib.load raw with
    | error errors =>
      simp only [hload] at hbegin ⊢
      exact endsAs_failing hbegin hlock
    | ok config =>
      simp only [hload] at hbegin ⊢
      exact endsAs_loaded hbegin hlock files

end Alone

end Admin
end OpenApiGateway
