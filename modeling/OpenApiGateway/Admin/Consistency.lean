import OpenApiGateway.Admin.Interleaving

/-!
# What a check sees during reloads

The plugin runtime, the xDS snapshot and the config are replaced one after the other, under
different locks. So a check can run the plugin chains of another config than the one it matched
its route in (`plugins_skipped_in_window`). `request_sees_one_config` says in which runs this
does not happen: those in which no check matches its route, or is about to run its plugins,
while a reload is between replacing the runtime and writing the config.

`Sound` is what holds in every run, with no condition on its steps.
-/

namespace OpenApiGateway
namespace Admin

open Auth Plugins Xds Lib.TransitionSystem

variable {κ : Type} {lib : ReloadLib}

/-! ## Where the parts come from -/

/-- The runtime in place was built from this config, with the plugin files as given. -/
def BuiltFrom (lib : ReloadLib) (config : GatewayConfig) (files : PluginFiles)
    (inPlace : Option PluginRuntime) : Prop :=
  ∃ runtime generation, inPlace = some runtime ∧
    buildRuntime lib.registry files config generation = .ok runtime

/-- The snapshot in place, if there is one, was built from this config. -/
def SnapshotFrom (lib : ReloadLib) (config : GatewayConfig) (inPlace : Option XdsSnapshot) :
    Prop :=
  ∀ snapshot, inPlace = some snapshot →
    ∃ version, XdsSnapshot.build lib.encode config version = .ok snapshot

/-- The reload has replaced the runtime and has not written its config yet. -/
def ReloadTask.window : ReloadTask → Option Source
  | swapped source _ => some source
  | versioned source _ _ => some source
  | pushed source _ => some source
  | _ => none

/-- The files, runtimes and snapshots a reload carries belong together. -/
def TaskSound (lib : ReloadLib) : ReloadTask → Prop
  | .loaded raw config _ => lib.load raw = .ok config
  | .generated raw config _ _ => lib.load raw = .ok config
  | .built source _ runtime => lib.load source.raw = .ok source.config ∧
      ∃ generation, buildRuntime lib.registry source.files source.config generation = .ok runtime
  | .swapped source _ => lib.load source.raw = .ok source.config
  | .versioned source _ snapshot => lib.load source.raw = .ok source.config ∧
      ∃ version, XdsSnapshot.build lib.encode source.config version = .ok snapshot
  | .pushed source _ => lib.load source.raw = .ok source.config
  | _ => True

/-- What holds in every run: the reloads are sound, there is an engine, and the active config
and hash are those of one file. -/
structure Sound (lib : ReloadLib) (s : System κ) : Prop where
  tasks : ∀ task ∈ s.reloads, TaskSound lib task
  engine : s.app.pluginEngine.isSome = true
  hash : ∃ raw, lib.load raw = .ok s.app.configState.config ∧
    s.app.configState.sha256 = lib.sha256Hex raw

theorem Sound.accepted {s : System κ} (h : Sound lib s) :
    Validation.Accepted lib.urlOk s.app.configState.config := by
  obtain ⟨raw, hload, -⟩ := h.hash
  exact Validation.accepted_of_load hload

/-! ## Every run is sound -/

section Sound
variable {s s' : System κ} {a : Action}

theorem taskSound_beginTask (configPath : String) (now : ℤ) (read : Except String (List UInt8)) :
    TaskSound lib (beginTask lib configPath now read) := by
  unfold beginTask
  split
  · trivial
  · split
    · rename_i hload
      exact hload
    · trivial

theorem taskSound_buildTask {raw : List UInt8} {config : GatewayConfig}
    (h : lib.load raw = .ok config) (now : ℤ) (generation : ℕ) (files : PluginFiles) :
    TaskSound lib (buildTask lib raw config now generation files) := by
  unfold buildTask
  split
  · rename_i runtime hbuild
    exact ⟨h, generation, hbuild⟩
  · trivial

theorem taskSound_versionTask {source : Source} (h : lib.load source.raw = .ok source.config)
    (version : ℕ) (now : ℤ) : TaskSound lib (versionTask lib version source now) := by
  unfold versionTask
  split
  · rename_i snapshot hbuild
    exact ⟨h, version, hbuild⟩
  · trivial

/-- Replacing one task by a sound one keeps all of them sound. -/
theorem Sound.tasks_set (h : Sound lib s) (i : ℕ) {task : ReloadTask}
    (htask : TaskSound lib task) : ∀ t ∈ s.reloads.set i task, TaskSound lib t := by
  intro t ht
  rcases List.mem_or_eq_of_mem_set ht with hmem | rfl
  · exact h.tasks t hmem
  · exact htask

theorem Sound.step (h : Sound lib s) (hstep : Step lib s a s') : Sound lib s' := by
  cases hstep with
  | beginReload now read =>
    refine ⟨fun t ht => ?_, h.engine, h.hash⟩
    rcases List.mem_append.mp ht with hmem | hnew
    · exact h.tasks t hmem
    · rw [List.mem_singleton.mp hnew]
      exact taskSound_beginTask _ _ _
  | takeGeneration htask =>
    rename_i i raw config now
    have hload : lib.load raw = .ok config := h.tasks _ (List.mem_of_getElem? htask)
    -- without an engine there is no runtime to build
    unfold Admin.takeGeneration
    split
    · exact ⟨h.tasks_set i hload, h.engine, h.hash⟩
    · exact ⟨h.tasks_set i hload, rfl, h.hash⟩
  | buildRuntime files htask =>
    rename_i i raw config now generation
    have hload : lib.load raw = .ok config := h.tasks _ (List.mem_of_getElem? htask)
    exact ⟨h.tasks_set i (taskSound_buildTask hload now generation files), h.engine, h.hash⟩
  | replaceRuntime htask =>
    rename_i i source now runtime
    have hsound : TaskSound lib (.built source now runtime) :=
      h.tasks _ (List.mem_of_getElem? htask)
    refine ⟨h.tasks_set i hsound.1, ?_, h.hash⟩
    simp only [Admin.replaceRuntime, AppState.replaceRuntime, Option.isSome_map, h.engine]
  | takeVersion htask =>
    rename_i i source now
    have hload : lib.load source.raw = .ok source.config :=
      h.tasks _ (List.mem_of_getElem? htask)
    unfold Admin.takeVersion
    split
    · exact ⟨h.tasks_set i hload, h.engine, h.hash⟩
    · exact ⟨h.tasks_set i (taskSound_versionTask hload _ now), h.engine, h.hash⟩
  | installSnapshot htask =>
    rename_i i source now snapshot
    have hsound : TaskSound lib (.versioned source now snapshot) :=
      h.tasks _ (List.mem_of_getElem? htask)
    exact ⟨h.tasks_set i hsound.1, h.engine, h.hash⟩
  | writeConfig htask hlock =>
    rename_i i source now
    have hload : lib.load source.raw = .ok source.config :=
      h.tasks _ (List.mem_of_getElem? htask)
    refine ⟨h.tasks_set i trivial, ?_, ?_⟩
    · rw [writeConfig_app]
      exact h.engine
    · rw [writeConfig_app]
      exact ⟨source.raw, hload, rfl⟩
  | writeError htask hlock =>
    rename_i i now errorMsg
    exact ⟨h.tasks_set i trivial, h.engine, h.hash⟩
  | matchRequest host path method => exact ⟨h.tasks, h.engine, h.hash⟩
  | executeChain htask => exact ⟨h.tasks, h.engine, h.hash⟩
  | finishRequest htask hlock => exact ⟨h.tasks, h.engine, h.hash⟩

/-- With an encoder that never fails, a version is never taken in vain. -/
theorem takeVersion_cases (hencode : ∀ message, ∃ bytes, lib.encode message = .ok bytes)
    {source : Source} (hload : lib.load source.raw = .ok source.config) (i : ℕ) (now : ℤ) :
    (s.app.xds = none ∧
      Admin.takeVersion lib s i source now = s.setReload i (.pushed source now)) ∨
    ∃ xds snapshot, s.app.xds = some xds ∧
      Admin.takeVersion lib s i source now =
        { s.setReload i (.versioned source now snapshot) with
          app := { s.app with xds := some { xds with version := xds.version + 1 } } } := by
  unfold Admin.takeVersion
  cases hxds : s.app.xds with
  | none => exact Or.inl ⟨rfl, rfl⟩
  | some xds =>
    obtain ⟨snapshot, hsnapshot⟩ := XdsSnapshot.build_ok hencode
      (Validation.accepted_of_load hload) (xds.version + 1)
    refine Or.inr ⟨xds, snapshot, rfl, ?_⟩
    simp only [versionTask, hsnapshot]

end Sound

/-! ## Checks -/

/-- The check is between matching its route and running its plugins. -/
def RequestTask.isMatched : RequestTask → Bool
  | matched .. => true
  | _ => false

/-- No reload is between replacing the runtime and writing its config. -/
def NoWindow (s : System κ) : Prop := ∀ task ∈ s.reloads, task.window = none

/-- A runtime is replaced only while no other reload is in its window and no check is between
matching and running its plugins; a check matches only while no reload is in its window. -/
def Quiet (s : System κ) : Action → Prop
  | .replaceRuntime _ => NoWindow s ∧ ∀ task ∈ s.requests, task.isMatched = false
  | .matchRequest _ _ _ => NoWindow s
  | _ => True

instance (s : System κ) : Decidable (NoWindow s) :=
  inferInstanceAs (Decidable (∀ task ∈ s.reloads, task.window = none))

instance (s : System κ) (a : Action) : Decidable (Quiet s a) :=
  match a with
  | .replaceRuntime _ =>
    inferInstanceAs (Decidable (NoWindow s ∧ ∀ task ∈ s.requests, task.isMatched = false))
  | .matchRequest _ _ _ => inferInstanceAs (Decidable (NoWindow s))
  | .beginReload _ _ => isTrue trivial
  | .takeGeneration _ => isTrue trivial
  | .buildRuntime _ _ => isTrue trivial
  | .takeVersion _ => isTrue trivial
  | .installSnapshot _ => isTrue trivial
  | .writeConfig _ => isTrue trivial
  | .writeError _ => isTrue trivial
  | .executeChain _ => isTrue trivial
  | .finishRequest _ => isTrue trivial

/-- The chain a check runs is the one built from the config it was matched in; if that config
asks for plugins on its route, the chain is there and not empty. -/
def SeesOneConfig (lib : ReloadLib) : RequestTask → Prop
  | .executed config files route chain =>
    (∃ runtime generation, buildRuntime lib.registry files config generation = .ok runtime ∧
      chain = runtime.chains.lookup route.name) ∧
    (HasEnabledPlugins config route → ∃ found, chain = some found ∧ found.bindings ≠ [])
  | _ => True

/-- A matched check can rely on the runtime in place. -/
def ReliesOn (lib : ReloadLib) (inPlace : Option PluginRuntime) : RequestTask → Prop
  | .matched config files route => BuiltFrom lib config files inPlace ∧
      Validation.Accepted lib.urlOk config ∧ route ∈ config.routes
  | _ => True

/-- The invariant of quiet runs. While no reload is in its window, the runtime in place is
that of the active config; a reload in its window has its own in place. -/
structure Consistent (lib : ReloadLib) (s : System κ) : Prop where
  settled : NoWindow s → BuiltFrom lib s.app.configState.config s.files s.app.runtime
  window : ∀ task ∈ s.reloads, ∀ source, task.window = some source →
    BuiltFrom lib source.config source.files s.app.runtime
  relies : ∀ task ∈ s.requests, ReliesOn lib s.app.runtime task
  sees : ∀ task ∈ s.requests, SeesOneConfig lib task

section Checks
variable {s s' : System κ} {a : Action}

/-- A reload that moves on within or outside its window, and leaves runtime, config and checks
as they are, keeps the invariant. -/
theorem Consistent.set_reload (h : Consistent lib s) {i : ℕ} {old : ReloadTask}
    (hold : s.reloads[i]? = some old) (new : ReloadTask) (hwindow : new.window = old.window)
    (hreloads : s'.reloads = s.reloads.set i new)
    (hconfig : s'.app.configState.config = s.app.configState.config) (hfiles : s'.files = s.files)
    (hruntime : s'.app.runtime = s.app.runtime) (hrequests : s'.requests = s.requests) :
    Consistent lib s' := by
  refine ⟨fun hnone => ?_, fun task htask source hsource => ?_, ?_, ?_⟩
  · -- the task is in its window after the step exactly if it was before
    rw [hconfig, hfiles, hruntime]
    apply h.settled
    intro task htask
    rcases eq_or_mem_set hold new htask with rfl | hmem
    · rw [← hwindow]
      exact hnone new (by rw [hreloads]; exact mem_set_self hold new)
    · exact hnone task (by rw [hreloads]; exact hmem)
  · rw [hruntime]
    rw [hreloads] at htask
    rcases List.mem_or_eq_of_mem_set htask with hmem | rfl
    · exact h.window task hmem source hsource
    · exact h.window old (List.mem_of_getElem? hold) source (hwindow ▸ hsource)
  · rw [hruntime, hrequests]
    exact h.relies
  · rw [hrequests]
    exact h.sees

theorem window_beginTask (configPath : String) (now : ℤ) (read : Except String (List UInt8)) :
    (beginTask lib configPath now read).window = none := by
  unfold beginTask
  split
  · rfl
  · split
    · rfl
    · rfl

theorem window_buildTask (raw : List UInt8) (config : GatewayConfig) (now : ℤ) (generation : ℕ)
    (files : PluginFiles) : (buildTask lib raw config now generation files).window = none := by
  unfold buildTask
  split
  · rfl
  · rfl

/-- A runtime in place that was built from a config serves a matched check with the chain of
that config. -/
theorem seesOneConfig_executed {app : AppState κ} {config : GatewayConfig} {files : PluginFiles}
    {route : RouteConfig} (h : ReliesOn lib app.runtime (.matched config files route)) :
    SeesOneConfig lib (.executed config files route (chainFor app route)) := by
  obtain ⟨⟨runtime, generation, hinPlace, hbuild⟩, haccepted, hroute⟩ := h
  have hchain : chainFor app route = runtime.chains.lookup route.name := by
    unfold chainFor
    rw [hinPlace]
    rfl
  refine ⟨⟨runtime, generation, hbuild, hchain⟩, fun hplugins => ?_⟩
  rw [hchain]
  exact chain_of_buildRuntime hbuild haccepted.routes_nodup hroute hplugins

theorem runtime_replaceRuntime {app : AppState κ} (h : app.pluginEngine.isSome = true)
    (runtime : PluginRuntime) : (app.replaceRuntime runtime).runtime = some runtime := by
  obtain ⟨engine, hengine⟩ := Option.isSome_iff_exists.mp h
  simp [AppState.replaceRuntime, AppState.runtime, hengine]

theorem reliesOn_of_not_isMatched {inPlace : Option PluginRuntime} {task : RequestTask}
    (h : task.isMatched = false) : ReliesOn lib inPlace task := by
  cases task with
  | matched config files route => simp [RequestTask.isMatched] at h
  | executed config files route chain => trivial
  | returned => trivial

theorem reliesOn_matchTask {inPlace : Option PluginRuntime} {config : GatewayConfig}
    {files : PluginFiles} (hbuilt : BuiltFrom lib config files inPlace)
    (haccepted : Validation.Accepted lib.urlOk config) (host path method : String) :
    ReliesOn lib inPlace (matchTask config files host path method) := by
  unfold matchTask
  split
  · rename_i route hroute
    split
    · exact ⟨hbuilt, haccepted, ExtAuthz.mem_of_matchRoute hroute⟩
    · trivial
  · trivial

theorem seesOneConfig_matchTask (config : GatewayConfig) (files : PluginFiles)
    (host path method : String) : SeesOneConfig lib (matchTask config files host path method) := by
  unfold matchTask
  split
  · split
    · trivial
    · trivial
  · trivial

/-- A request task that is replaced by one that fits keeps the invariant. -/
theorem Consistent.set_request (h : Consistent lib s) (r : ℕ) {task : RequestTask}
    (hrelies : ReliesOn lib s.app.runtime task) (hsees : SeesOneConfig lib task) :
    Consistent lib (s.setRequest r task) := by
  refine ⟨h.settled, h.window, fun t ht => ?_, fun t ht => ?_⟩
  · rcases List.mem_or_eq_of_mem_set ht with hmem | rfl
    · exact h.relies t hmem
    · exact hrelies
  · rcases List.mem_or_eq_of_mem_set ht with hmem | rfl
    · exact h.sees t hmem
    · exact hsees

theorem Consistent.replaceRuntime (h : Consistent lib s) (hsound : Sound lib s) {i : ℕ}
    {source : Source} {now : ℤ} {runtime : PluginRuntime}
    (htask : s.reloads[i]? = some (.built source now runtime)) (hnone : NoWindow s)
    (hmatched : ∀ task ∈ s.requests, task.isMatched = false) :
    Consistent lib (Admin.replaceRuntime s i source now runtime) := by
  have hbuilt : TaskSound lib (.built source now runtime) :=
    hsound.tasks _ (List.mem_of_getElem? htask)
  obtain ⟨generation, hbuild⟩ := hbuilt.2
  have hinPlace : (Admin.replaceRuntime s i source now runtime).app.runtime = some runtime :=
    runtime_replaceRuntime hsound.engine runtime
  refine ⟨fun hnone' => ?_, fun task ht src hsrc => ?_, fun task ht => ?_, h.sees⟩
  · -- the reload itself is in its window now
    have hself := hnone' _ (mem_set_self htask (.swapped source now))
    simp [ReloadTask.window] at hself
  · rw [hinPlace]
    rcases List.mem_or_eq_of_mem_set ht with hmem | rfl
    · -- no other reload is in its window
      rw [hnone task hmem] at hsrc
      simp at hsrc
    · rw [ReloadTask.window, Option.some.injEq] at hsrc
      rw [← hsrc]
      exact ⟨runtime, generation, rfl, hbuild⟩
  · exact reliesOn_of_not_isMatched (hmatched task ht)

theorem Consistent.writeConfig (h : Consistent lib s) {i : ℕ} {source : Source} {now : ℤ}
    (htask : s.reloads[i]? = some (.pushed source now)) :
    Consistent lib (Admin.writeConfig lib s i source now) := by
  have hruntime : (Admin.writeConfig lib s i source now).app.runtime = s.app.runtime := by
    rw [writeConfig_app]
    rfl
  refine ⟨fun _ => ?_, fun task ht src hsrc => ?_, ?_, h.sees⟩
  · -- the reload was in its window, so the runtime in place is its own
    rw [hruntime, writeConfig_app]
    exact h.window _ (List.mem_of_getElem? htask) source rfl
  · rw [hruntime]
    rcases List.mem_or_eq_of_mem_set ht with hmem | rfl
    · exact h.window task hmem src hsrc
    · simp [ReloadTask.window] at hsrc
  · rw [hruntime]
    exact h.relies

theorem Consistent.step (hencode : ∀ message, ∃ bytes, lib.encode message = .ok bytes)
    (h : Consistent lib s) (hsound : Sound lib s) (hquiet : Quiet s a)
    (hstep : Step lib s a s') : Consistent lib s' := by
  cases hstep with
  | beginReload now read =>
    refine ⟨fun hnone => h.settled fun task ht => hnone task (List.mem_append_left _ ht),
      fun task ht source hsource => ?_, h.relies, h.sees⟩
    rcases List.mem_append.mp ht with hmem | hnew
    · exact h.window task hmem source hsource
    · rw [List.mem_singleton.mp hnew, window_beginTask] at hsource
      simp at hsource
  | takeGeneration htask =>
    obtain ⟨engine, hengine⟩ := Option.isSome_iff_exists.mp hsound.engine
    unfold Admin.takeGeneration
    simp only [hengine]
    refine h.set_reload htask (.generated _ _ _ engine.nextGeneration) rfl rfl rfl rfl ?_ rfl
    simp [AppState.runtime, hengine]
  | buildRuntime files htask =>
    exact h.set_reload htask _ (window_buildTask _ _ _ _ _) rfl rfl rfl rfl rfl
  | replaceRuntime htask => exact h.replaceRuntime hsound htask hquiet.1 hquiet.2
  | takeVersion htask =>
    rename_i i source now
    have hload : lib.load source.raw = .ok source.config :=
      hsound.tasks _ (List.mem_of_getElem? htask)
    -- the build cannot fail, so the reload stays in its window
    rcases takeVersion_cases (s := s) hencode hload i now with
      ⟨-, hnext⟩ | ⟨xds, snapshot, -, hnext⟩
    · rw [hnext]
      exact h.set_reload htask (.pushed source now) rfl rfl rfl rfl rfl rfl
    · rw [hnext]
      exact h.set_reload htask (.versioned source now snapshot) rfl rfl rfl rfl rfl rfl
  | installSnapshot htask =>
    rename_i i source now snapshot
    exact h.set_reload htask (.pushed source now) rfl rfl rfl rfl rfl rfl
  | writeConfig htask hlock => exact h.writeConfig htask
  | writeError htask hlock => exact h.set_reload htask (.returned _) rfl rfl rfl rfl rfl rfl
  | matchRequest host path method =>
    -- no reload is in its window: the runtime in place is that of the config read here
    have hrelies := reliesOn_matchTask (h.settled hquiet) hsound.accepted host path method
    refine ⟨h.settled, h.window, fun task ht => ?_, fun task ht => ?_⟩
    · rcases List.mem_append.mp ht with hmem | hnew
      · exact h.relies task hmem
      · rw [List.mem_singleton.mp hnew]
        exact hrelies
    · rcases List.mem_append.mp ht with hmem | hnew
      · exact h.sees task hmem
      · rw [List.mem_singleton.mp hnew]
        exact seesOneConfig_matchTask _ _ _ _ _
  | executeChain htask =>
    rename_i r config files route
    have hrelies := h.relies _ (List.mem_of_getElem? htask)
    exact h.set_request r trivial (seesOneConfig_executed hrelies)
  | finishRequest htask hlock =>
    rename_i r task
    exact h.set_request r trivial trivial

/-- A system that has just started. -/
def System.started (app : AppState κ) (files : PluginFiles) : System κ where
  app := app
  files := files
  swappedBy := none
  reloads := []
  requests := []

theorem sound_started {source : KeySource κ} {fetchedAt : AuthProvider → ℕ} {files : PluginFiles}
    {now : ℤ} {configPath : String} {envoyConfigPath : Option String} {raw : List UInt8}
    {app : AppState κ}
    (h : startup lib source fetchedAt files now configPath envoyConfigPath raw = some app) :
    Sound lib (System.started app files) := by
  obtain ⟨config, registry, runtime, xds, hload, -, -, -, rfl⟩ := startup_cases h
  exact ⟨fun task htask => absurd htask (List.not_mem_nil), rfl, raw, hload, rfl⟩

theorem consistent_started {source : KeySource κ} {fetchedAt : AuthProvider → ℕ}
    {files : PluginFiles} {now : ℤ} {configPath : String} {envoyConfigPath : Option String}
    {raw : List UInt8} {app : AppState κ}
    (h : startup lib source fetchedAt files now configPath envoyConfigPath raw = some app) :
    Consistent lib (System.started app files) := by
  obtain ⟨config, registry, runtime, xds, -, -, hbuild, -, rfl⟩ := startup_cases h
  refine ⟨fun _ => ⟨runtime, 1, rfl, hbuild⟩, ?_, ?_, ?_⟩
  · exact fun task htask => absurd htask (List.not_mem_nil)
  · exact fun task htask => absurd htask (List.not_mem_nil)
  · exact fun task htask => absurd htask (List.not_mem_nil)

/-- In every quiet run from startup, with any number of reloads and checks, each check that
has run its plugins ran the chain built from the very config its route was matched in; if
that config has enabled plugins for the route, the chain was there and not empty. -/
theorem request_sees_one_config (lib : ReloadLib)
    (hencode : ∀ message, ∃ bytes, lib.encode message = .ok bytes) (source : KeySource κ)
    (fetchedAt : AuthProvider → ℕ) (files : PluginFiles) (now : ℤ) (configPath : String)
    (envoyConfigPath : Option String) (raw : List UInt8) (app : AppState κ) (s : System κ)
    (hstart : startup lib source fetchedAt files now configPath envoyConfigPath raw = some app)
    (hrun : Run (step lib) Quiet (System.started app files) s) :
    ∀ task ∈ s.requests, SeesOneConfig lib task := by
  have hinv : Sound lib s ∧ Consistent lib s := by
    refine hrun.invariant (I := fun s => Sound lib s ∧ Consistent lib s)
      ⟨sound_started hstart, consistent_started hstart⟩ ?_
    intro s a s' h hquiet hstep
    have hstep := Step.of_step hstep
    exact ⟨h.1.step hstep, h.2.step hencode h.1 hquiet hstep⟩
  exact hinv.2.sees

open SampleFile in
/-- A reload that brings a plugin, and a check after it. -/
theorem request_sees_one_config_waf :
    ∃ s, Run (step SampleFile.lib) Quiet
          (System.started (started plain (emptyRuntime 1)) pluginFiles) s ∧
        s.requests = [.executed waf.config pluginFiles openRoute
          ((wafRuntime 2).chains.lookup "open")] ∧
        ∀ task ∈ s.requests, SeesOneConfig SampleFile.lib task := by
  let s₀ := System.started (started plain (emptyRuntime 1)) pluginFiles
  have hbegin : Run (step SampleFile.lib) Quiet s₀
      (s₀.withReload (.loaded waf.bytes waf.config 7)) :=
    run_beginReload .init (load_bytes waf) 7 trivial
  obtain ⟨s, hrest, hrequests⟩ : ∃ s, runAll (step SampleFile.lib) Quiet
      (s₀.withReload (.loaded waf.bytes waf.config 7))
      [.takeGeneration 0, .buildRuntime 0 pluginFiles, .replaceRuntime 0, .takeVersion 0,
        .writeConfig 0, .matchRequest "*" "/" "GET", .executeChain 0] = some s ∧
      s.requests = [.executed waf.config pluginFiles openRoute
        ((wafRuntime 2).chains.lookup "open")] := ⟨_, rfl, rfl⟩
  have hrun := run_of_runAll hrest hbegin
  exact ⟨s, hrun, hrequests, request_sees_one_config SampleFile.lib (fun _ => ⟨_, rfl⟩) keySource
    (fun _ => 0) pluginFiles 0 "configs/gateway.yaml" none plain.bytes _ s
    (startup_started rfl rfl) hrun⟩

open SampleFile in
/-- A reload takes the plugins out of the config. A check that comes after the runtime is
replaced and before the config is written is matched in the old config, which has a plugin
for its route, and runs none. -/
theorem plugins_skipped_in_window :
    startup SampleFile.lib keySource (fun _ => 0) pluginFiles 0 "configs/gateway.yaml" none
        waf.bytes = some (started waf (wafRuntime 1)) ∧
      HasEnabledPlugins waf.config openRoute ∧
      ∃ s, Run (step SampleFile.lib) (fun _ _ => True)
          (System.started (started waf (wafRuntime 1)) pluginFiles) s ∧
        s.requests = [.executed waf.config pluginFiles openRoute none] ∧
        ¬ SeesOneConfig SampleFile.lib (.executed waf.config pluginFiles openRoute none) := by
  have hplugins : HasEnabledPlugins waf.config openRoute :=
    ⟨rfl, { name := "waf" }, List.mem_singleton_self _, rfl⟩
  refine ⟨startup_started rfl rfl, hplugins, ?_⟩
  let s₀ := System.started (started waf (wafRuntime 1)) pluginFiles
  have hbegin : Run (step SampleFile.lib) (fun _ _ => True) s₀
      (s₀.withReload (.loaded plain.bytes plain.config 7)) :=
    run_beginReload .init (load_bytes plain) 7 trivial
  have hrest : runAll (step SampleFile.lib) (fun _ _ => True)
      (s₀.withReload (.loaded plain.bytes plain.config 7))
      [.takeGeneration 0, .buildRuntime 0 pluginFiles, .replaceRuntime 0,
        .matchRequest "*" "/" "GET", .executeChain 0] =
      some { s₀ with
        app := { s₀.app with pluginEngine := some ⟨emptyRuntime 2, 3⟩ }
        swappedBy := some 0
        reloads := [.swapped ⟨plain.bytes, plain.config, pluginFiles⟩ 7]
        requests := [.executed waf.config pluginFiles openRoute none] } := rfl
  refine ⟨_, run_of_runAll hrest hbegin, rfl, fun h => ?_⟩
  obtain ⟨found, hfound, -⟩ := h.2 hplugins
  simp at hfound

end Checks

end Admin
end OpenApiGateway
