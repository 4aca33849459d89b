import OpenApiGateway.Admin.Consistency

/-!
# What concurrent reloads leave behind

Nothing orders two reloads: one can replace the plugin runtime first and write its config last.
`reloads_converge` says which runs end with config, hash, runtime and snapshot of one file: those
in which no reload installs its snapshot or writes its config after the last one to replace the
runtime has done so. `reloads_diverge` is a run of two reloads that ends otherwise.
-/

namespace OpenApiGateway
namespace Admin

open Auth Plugins Xds Lib.TransitionSystem

variable {κ : Type} {lib : ReloadLib}

/-! ## Runs in which no reload is late -/

/-- The reload has installed its snapshot, where xDS is enabled. -/
def ReloadTask.hasInstalled : ReloadTask → Bool
  | pushed .. => true
  | returned _ => true
  | _ => false

def ReloadTask.hasReturned : ReloadTask → Bool
  | returned _ => true
  | _ => false

/-- Another reload has replaced the runtime last and has come this far already. -/
def System.late (s : System κ) (i : ℕ) (far : ReloadTask → Bool) : Bool :=
  match s.swappedBy with
  | none => false
  | some last => last != i && s.reloads[last]?.any far

/-- A reload installs its snapshot only if the last one to replace the runtime is itself or has
not installed its own yet; likewise for writing the config. -/
def NoneLate (s : System κ) : Action → Prop
  | .installSnapshot i => s.late i ReloadTask.hasInstalled = false
  | .writeConfig i => s.late i ReloadTask.hasReturned = false
  | _ => True

instance (s : System κ) (a : Action) : Decidable (NoneLate s a) :=
  match a with
  | .installSnapshot i => inferInstanceAs (Decidable (s.late i ReloadTask.hasInstalled = false))
  | .writeConfig i => inferInstanceAs (Decidable (s.late i ReloadTask.hasReturned = false))
  | .beginReload _ _ => isTrue trivial
  | .takeGeneration _ => isTrue trivial
  | .buildRuntime _ _ => isTrue trivial
  | .replaceRuntime _ => isTrue trivial
  | .takeVersion _ => isTrue trivial
  | .writeError _ => isTrue trivial
  | .matchRequest _ _ _ => isTrue trivial
  | .executeChain _ => isTrue trivial
  | .finishRequest _ => isTrue trivial

theorem far_eq_false_of_not_late {s : System κ} {i last : ℕ} {far : ReloadTask → Bool}
    {task : ReloadTask} (h : s.late i far = false) (hlast : s.swappedBy = some last)
    (hne : last ≠ i) (htask : s.reloads[last]? = some task) : far task = false := by
  unfold System.late at h
  simpa [hlast, hne, htask] using h

/-! ## The last reload to replace the runtime -/

/-- What is in place: the active config with the plugin files seen when it was built, the
runtime and the snapshot. -/
structure Active where
  config : GatewayConfig
  files : PluginFiles
  runtime : Option PluginRuntime
  snapshot : Option XdsSnapshot

def System.active (s : System κ) : Active :=
  ⟨s.app.configState.config, s.files, s.app.runtime, s.app.snapshot⟩

/-- Runtime and snapshot are those of the active config. -/
def Active.Settled (lib : ReloadLib) (active : Active) : Prop :=
  BuiltFrom lib active.config active.files active.runtime ∧
    SnapshotFrom lib active.config active.snapshot

/-- What the last reload to replace the runtime has put in place by now. -/
def Leads (lib : ReloadLib) (active : Active) : ReloadTask → Prop
  | .swapped source _ => BuiltFrom lib source.config source.files active.runtime
  | .versioned source _ _ => BuiltFrom lib source.config source.files active.runtime
  | .pushed source _ => BuiltFrom lib source.config source.files active.runtime ∧
      SnapshotFrom lib source.config active.snapshot
  | .returned _ => active.Settled lib
  | _ => False

/-- The invariant: before any reload has replaced the runtime all is as startup left it; later
the last one to replace it has put its parts in place one by one. -/
structure Ordered (lib : ReloadLib) (s : System κ) : Prop where
  before : s.swappedBy = none → NoWindow s ∧ s.active.Settled lib
  after : ∀ last, s.swappedBy = some last →
    ∃ task, s.reloads[last]? = some task ∧ Leads lib s.active task

theorem snapshot_initXds {config : GatewayConfig} {xds : Option XdsControlPlane}
    (h : initXds lib config = .ok xds) {plane : XdsControlPlane} (hplane : xds = some plane) :
    ∃ version, XdsSnapshot.build lib.encode config version = .ok plane.snapshot := by
  subst hplane
  unfold initXds at h
  split at h
  · split at h
    · simp at h
    · rename_i snapshot hbuild
      have hxds := Except.ok.inj h
      rw [Option.some.injEq] at hxds
      rw [← hxds]
      exact ⟨1, hbuild⟩
  · simp at h

section Steps
variable {s s' : System κ} {a : Action} {i : ℕ} {old : ReloadTask}

/-- A snapshot installed over one that does not count yet. -/
theorem Leads.of_not_hasInstalled {active active' : Active} {task : ReloadTask}
    (h : Leads lib active task) (hfar : task.hasInstalled = false)
    (hruntime : active'.runtime = active.runtime) : Leads lib active' task := by
  cases task with
  | swapped source now =>
    rw [Leads, hruntime]
    exact h
  | versioned source now snapshot =>
    rw [Leads, hruntime]
    exact h
  | pushed source now => simp [ReloadTask.hasInstalled] at hfar
  | returned response => simp [ReloadTask.hasInstalled] at hfar
  | loaded raw config now => exact h
  | generated raw config now generation => exact h
  | built source now runtime => exact h
  | failing now errorMsg => exact h

/-- A config written over one that does not count yet. -/
theorem Leads.of_not_hasReturned {active active' : Active} {task : ReloadTask}
    (h : Leads lib active task) (hfar : task.hasReturned = false)
    (hruntime : active'.runtime = active.runtime)
    (hsnapshot : active'.snapshot = active.snapshot) : Leads lib active' task := by
  cases task with
  | pushed source now =>
    rw [Leads, hruntime, hsnapshot]
    exact h
  | returned response => simp [ReloadTask.hasReturned] at hfar
  | swapped source now => exact h.of_not_hasInstalled rfl hruntime
  | versioned source now snapshot => exact h.of_not_hasInstalled rfl hruntime
  | loaded raw config now => exact h
  | generated raw config now generation => exact h
  | built source now runtime => exact h
  | failing now errorMsg => exact h

/-- One reload moves on. It is the last to have replaced the runtime itself, or another one
is, or none has yet. -/
theorem Ordered.move (h : Ordered lib s) (hold : s.reloads[i]? = some old) (new : ReloadTask)
    (hreloads : s'.reloads = s.reloads.set i new) (hswapped : s'.swappedBy = s.swappedBy)
    (hbefore : old.window = none → s.active.Settled lib →
      new.window = none ∧ s'.active.Settled lib)
    (hself : Leads lib s.active old → Leads lib s'.active new)
    (hother : ∀ last task, s.swappedBy = some last → last ≠ i →
      s.reloads[last]? = some task → Leads lib s.active task → Leads lib s'.active task) :
    Ordered lib s' := by
  refine ⟨fun hnone => ?_, fun last hlast => ?_⟩
  · obtain ⟨hwindow, hsettled⟩ := h.before (hswapped ▸ hnone)
    obtain ⟨hnew, hsettled'⟩ := hbefore (hwindow old (List.mem_of_getElem? hold)) hsettled
    refine ⟨fun task htask => ?_, hsettled'⟩
    rw [hreloads] at htask
    rcases List.mem_or_eq_of_mem_set htask with hmem | rfl
    · exact hwindow task hmem
    · exact hnew
  · rw [hswapped] at hlast
    obtain ⟨task, htask, hleads⟩ := h.after last hlast
    by_cases hne : last = i
    · subst hne
      rw [hold, Option.some.injEq] at htask
      subst htask
      exact ⟨new, by rw [hreloads]; exact getElem?_set_self hold new, hself hleads⟩
    · refine ⟨task, ?_, hother last task hlast hne htask hleads⟩
      rw [hreloads, List.getElem?_set_ne (Ne.symm hne)]
      exact htask

/-- One reload moves on and leaves everything in place as it is. -/
theorem Ordered.move_same (h : Ordered lib s) (hold : s.reloads[i]? = some old) (new : ReloadTask)
    (hreloads : s'.reloads = s.reloads.set i new) (hswapped : s'.swappedBy = s.swappedBy)
    (hactive : s'.active = s.active) (hwindow : old.window = none → new.window = none)
    (hself : Leads lib s.active old → Leads lib s.active new) : Ordered lib s' := by
  apply h.move hold new hreloads hswapped
  · rw [hactive]
    exact fun hnone hsettled => ⟨hwindow hnone, hsettled⟩
  · rw [hactive]
    exact hself
  · rw [hactive]
    exact fun _ _ _ _ _ hleads => hleads

theorem Ordered.replaceRuntime (hsound : Sound lib s) {source : Source} {now : ℤ}
    {runtime : PluginRuntime} (htask : s.reloads[i]? = some (.built source now runtime)) :
    Ordered lib (Admin.replaceRuntime s i source now runtime) := by
  have hbuilt : TaskSound lib (.built source now runtime) :=
    hsound.tasks _ (List.mem_of_getElem? htask)
  obtain ⟨generation, hbuild⟩ := hbuilt.2
  have hinPlace : (Admin.replaceRuntime s i source now runtime).app.runtime = some runtime :=
    runtime_replaceRuntime hsound.engine runtime
  refine ⟨fun hnone => by simp [Admin.replaceRuntime] at hnone, fun last hlast => ?_⟩
  -- whatever was in place before, this reload is now the last to have replaced the runtime
  have hi : i = last := Option.some.inj hlast
  subst hi
  exact ⟨.swapped source now, getElem?_set_self htask _, runtime, generation, hinPlace, hbuild⟩

theorem Ordered.takeVersion (hencode : ∀ message, ∃ bytes, lib.encode message = .ok bytes)
    (h : Ordered lib s) (hsound : Sound lib s) {source : Source} {now : ℤ}
    (htask : s.reloads[i]? = some (.swapped source now)) :
    Ordered lib (Admin.takeVersion lib s i source now) := by
  have hload : lib.load source.raw = .ok source.config :=
    hsound.tasks _ (List.mem_of_getElem? htask)
  rcases takeVersion_cases (s := s) hencode hload i now with
    ⟨hxds, hnext⟩ | ⟨xds, snapshot, hxds, hnext⟩
  · rw [hnext]
    refine h.move_same htask (.pushed source now) rfl rfl rfl (fun hnone => ?_) fun hleads => ?_
    · simp [ReloadTask.window] at hnone
    · -- there is no snapshot to be another config's
      refine ⟨hleads, fun snapshot hsnapshot => ?_⟩
      simp [System.active, AppState.snapshot, hxds] at hsnapshot
  · rw [hnext]
    refine h.move_same htask (.versioned source now snapshot) rfl rfl ?_ (fun hnone => ?_) id
    · simp [System.active, System.setReload, AppState.runtime, AppState.snapshot, hxds]
    · simp [ReloadTask.window] at hnone

theorem Ordered.installSnapshot (h : Ordered lib s) (hsound : Sound lib s) {source : Source}
    {now : ℤ} {snapshot : XdsSnapshot}
    (htask : s.reloads[i]? = some (.versioned source now snapshot))
    (hlate : s.late i ReloadTask.hasInstalled = false) :
    Ordered lib (Admin.installSnapshot s i source now snapshot) := by
  have hversioned : TaskSound lib (.versioned source now snapshot) :=
    hsound.tasks _ (List.mem_of_getElem? htask)
  obtain ⟨version, hbuild⟩ := hversioned.2
  refine h.move htask (.pushed source now) rfl rfl (fun hnone => ?_) (fun hleads => ?_) ?_
  · simp [ReloadTask.window] at hnone
  · -- the reload leads itself: the snapshot in place is now its own
    refine ⟨hleads, fun inPlace hinPlace => ?_⟩
    have hsame : inPlace = snapshot := by
      obtain ⟨xds, hxds, rfl⟩ := Option.map_eq_some_iff.mp hinPlace
      obtain ⟨xds', -, rfl⟩ := Option.map_eq_some_iff.mp hxds
      rfl
    rw [hsame]
    exact ⟨version, hbuild⟩
  · -- another one leads and has not installed yet, so nothing is claimed of the snapshot
    intro last task hlast hne hlastTask hleads
    exact hleads.of_not_hasInstalled (far_eq_false_of_not_late hlate hlast hne hlastTask) rfl

theorem Ordered.writeConfig (h : Ordered lib s) {source : Source} {now : ℤ}
    (htask : s.reloads[i]? = some (.pushed source now))
    (hlate : s.late i ReloadTask.hasReturned = false) :
    Ordered lib (Admin.writeConfig lib s i source now) := by
  have hactive : (Admin.writeConfig lib s i source now).active =
      ⟨source.config, source.files, s.app.runtime, s.app.snapshot⟩ := by
    rw [System.active, writeConfig_app]
    rfl
  refine h.move htask (.returned _) rfl rfl (fun hnone => ?_) (fun hleads => ?_) ?_
  · simp [ReloadTask.window] at hnone
  · rw [hactive]
    exact hleads
  · intro last task hlast hne hlastTask hleads
    -- another one leads and has not returned yet, so nothing is claimed of the config
    have hfar := far_eq_false_of_not_late hlate hlast hne hlastTask
    rw [hactive]
    exact hleads.of_not_hasReturned hfar rfl rfl

theorem Ordered.step (hencode : ∀ message, ∃ bytes, lib.encode message = .ok bytes)
    (h : Ordered lib s) (hsound : Sound lib s) (hlate : NoneLate s a)
    (hstep : Step lib s a s') : Ordered lib s' := by
  cases hstep with
  | beginReload now read =>
    refine ⟨fun hnone => ⟨fun task htask => ?_, (h.before hnone).2⟩, fun last hlast => ?_⟩
    · rcases List.mem_append.mp htask with hmem | hnew
      · exact (h.before hnone).1 task hmem
      · rw [List.mem_singleton.mp hnew]
        exact window_beginTask _ _ _
    · obtain ⟨task, htask, hleads⟩ := h.after last hlast
      refine ⟨task, ?_, hleads⟩
      rw [List.getElem?_append_left (List.getElem?_eq_some_iff.mp htask).1]
      exact htask
  | takeGeneration htask =>
    obtain ⟨engine, hengine⟩ := Option.isSome_iff_exists.mp hsound.engine
    unfold Admin.takeGeneration
    simp only [hengine]
    refine h.move_same htask (.generated _ _ _ engine.nextGeneration) rfl rfl ?_ (fun _ => rfl) id
    simp [System.active, System.setReload, AppState.runtime, AppState.snapshot, hengine]
  | buildRuntime files htask =>
    refine h.move_same htask _ rfl rfl rfl (fun _ => window_buildTask _ _ _ _ _) ?_
    exact fun hleads => hleads.elim
  | replaceRuntime htask => exact Ordered.replaceRuntime hsound htask
  | takeVersion htask => exact h.takeVersion hencode hsound htask
  | installSnapshot htask => exact h.installSnapshot hsound htask hlate
  | writeConfig htask hlock => exact h.writeConfig htask hlate
  | writeError htask hlock =>
    refine h.move_same htask (.returned _) rfl rfl rfl (fun _ => rfl) ?_
    exact fun hleads => hleads.elim
  | matchRequest host path method => exact ⟨h.before, h.after⟩
  | executeChain htask => exact ⟨h.before, h.after⟩
  | finishRequest htask hlock => exact ⟨h.before, h.after⟩

theorem ordered_started {source : KeySource κ} {fetchedAt : AuthProvider → ℕ}
    {files : PluginFiles} {now : ℤ} {configPath : String} {envoyConfigPath : Option String}
    {raw : List UInt8} {app : AppState κ}
    (h : startup lib source fetchedAt files now configPath envoyConfigPath raw = some app) :
    Ordered lib (System.started app files) := by
  obtain ⟨config, registry, runtime, xds, -, -, hbuild, hxds, rfl⟩ := startup_cases h
  refine ⟨fun _ => ⟨fun task htask => absurd htask (List.not_mem_nil), ?_, ?_⟩, ?_⟩
  · exact ⟨runtime, 1, rfl, hbuild⟩
  · intro snapshot hsnapshot
    obtain ⟨plane, hplane, rfl⟩ := Option.map_eq_some_iff.mp hsnapshot
    exact snapshot_initXds hxds hplane
  · intro last hlast
    simp [System.started] at hlast

end Steps

/-! ## Convergence -/

/-- Config, hash, plugin runtime and snapshot are those of one file. -/
def OneConfig (lib : ReloadLib) (app : AppState κ) : Prop :=
  ∃ raw files, lib.load raw = .ok app.configState.config ∧
    app.configState.sha256 = lib.sha256Hex raw ∧
    BuiltFrom lib app.configState.config files app.runtime ∧
    SnapshotFrom lib app.configState.config app.snapshot

/-- Once all reloads have returned, the last one to replace the runtime has put all its parts
in place. -/
theorem Ordered.settled {s : System κ} (h : Ordered lib s)
    (hreturned : ∀ task ∈ s.reloads, task.hasReturned = true) : s.active.Settled lib := by
  cases hswapped : s.swappedBy with
  | none => exact (h.before hswapped).2
  | some last =>
    obtain ⟨task, htask, hleads⟩ := h.after last hswapped
    have hend := hreturned task (List.mem_of_getElem? htask)
    -- `Leads` speaks of everything in place only for a reload that has returned
    cases task with
    | returned response => exact hleads
    | _ => simp [ReloadTask.hasReturned] at hend

/-- In every run from startup in which no reload is late, with any number of reloads, each of
its own file: once all of them have returned, config, hash, plugin runtime and xDS snapshot are
those of one file. -/
theorem reloads_converge (lib : ReloadLib)
    (hencode : ∀ message, ∃ bytes, lib.encode message = .ok bytes) (source : KeySource κ)
    (fetchedAt : AuthProvider → ℕ) (files : PluginFiles) (now : ℤ) (configPath : String)
    (envoyConfigPath : Option String) (raw : List UInt8) (app : AppState κ) (s : System κ)
    (hstart : startup lib source fetchedAt files now configPath envoyConfigPath raw = some app)
    (hrun : Run (step lib) NoneLate (System.started app files) s)
    (hreturned : ∀ task ∈ s.reloads, task.hasReturned = true) : OneConfig lib s.app := by
  have hinv : Sound lib s ∧ Ordered lib s := by
    refine hrun.invariant (I := fun s => Sound lib s ∧ Ordered lib s)
      ⟨sound_started hstart, ordered_started hstart⟩ ?_
    intro s a s' h hlate hstep
    have hstep := Step.of_step hstep
    exact ⟨h.1.step hstep, h.2.step hencode h.1 hlate hstep⟩
  obtain ⟨activeRaw, hload, hhash⟩ := hinv.1.hash
  obtain ⟨hbuilt, hsnapshot⟩ := hinv.2.settled hreturned
  exact ⟨activeRaw, s.files, hload, hhash, hbuilt, hsnapshot⟩

section Samples
open SampleFile

/-- Two reloads of the state after a start with the plain file are about to write their
configs; the second has replaced the runtime last. -/
def bothPushed (first second : SampleFile) (runtime : PluginRuntime) : System String :=
  { System.started (started plain (emptyRuntime 1)) pluginFiles with
    app := { started plain (emptyRuntime 1) with pluginEngine := some ⟨runtime, 4⟩ }
    swappedBy := some 1
    reloads := [.pushed ⟨first.bytes, first.config, pluginFiles⟩ 7,
      .pushed ⟨second.bytes, second.config, pluginFiles⟩ 8] }

/-- The two reloads step by step, the second always right after the first. -/
theorem run_bothPushed (first second : SampleFile) (runtime : PluginRuntime)
    (h : runAll (step SampleFile.lib) NoneLate
      (((System.started (started plain (emptyRuntime 1)) pluginFiles).withReload
        (.loaded first.bytes first.config 7)).withReload (.loaded second.bytes second.config 8))
      [.takeGeneration 0, .takeGeneration 1, .buildRuntime 0 pluginFiles,
        .buildRuntime 1 pluginFiles, .replaceRuntime 0, .replaceRuntime 1, .takeVersion 0,
        .takeVersion 1] = some (bothPushed first second runtime)) :
    Run (step SampleFile.lib) NoneLate
      (System.started (started plain (emptyRuntime 1)) pluginFiles)
      (bothPushed first second runtime) := by
  refine run_of_runAll h ?_
  exact run_beginReload (run_beginReload .init (load_bytes first) 7 trivial) (load_bytes second) 8
    trivial

/-- Two reloads side by side; each step of the first comes before that of the second. -/
theorem reloads_converge_two :
    ∃ s, Run (step SampleFile.lib) NoneLate
        (System.started (started plain (emptyRuntime 1)) pluginFiles) s ∧
      s.app.configState.config = slow.config ∧ s.reloads.length = 2 ∧
      OneConfig SampleFile.lib s.app := by
  have hpushed := run_bothPushed waf slow ⟨3, slow.config.plugins.limits, ∅⟩ rfl
  have hfirst := run_writeConfig hpushed 0 rfl rfl rfl
  have hrun := run_writeConfig hfirst 1 rfl rfl rfl
  refine ⟨_, hrun, ?_, rfl, reloads_converge SampleFile.lib (fun _ => ⟨_, rfl⟩) keySource
    (fun _ => 0) pluginFiles 0 "configs/gateway.yaml" none plain.bytes _ _
    (startup_started rfl rfl) hrun ?_⟩
  · rw [writeConfig_app]
    rfl
  · simp [writeConfig, System.setReload, bothPushed, ReloadTask.hasReturned]

/-- Two reloads side by side: the second replaces the runtime last, the first writes its config
last. Then the config allows a chain 60 ms, the runtime 50. -/
theorem reloads_diverge :
    startup SampleFile.lib keySource (fun _ => 0) pluginFiles 0 "configs/gateway.yaml" none
        plain.bytes = some (started plain (emptyRuntime 1)) ∧
      ∃ s, Run (step SampleFile.lib) (fun _ _ => True)
          (System.started (started plain (emptyRuntime 1)) pluginFiles) s ∧
        (∀ task ∈ s.reloads, task.hasReturned = true) ∧ s.reloads.length = 2 ∧
        s.app.configState.config = slow.config ∧ s.app.runtime = some (emptyRuntime 3) ∧
        ¬ OneConfig SampleFile.lib s.app := by
  have hpushed : Run (step SampleFile.lib) (fun _ _ => True) _
      (bothPushed slow plain (emptyRuntime 3)) :=
    (run_bothPushed slow plain (emptyRuntime 3) rfl).mono fun _ _ _ => trivial
  have hsecond := run_writeConfig hpushed 1 rfl rfl trivial
  have hrun := run_writeConfig hsecond 0 rfl rfl trivial
  refine ⟨startup_started rfl rfl, _, hrun, ?_, rfl, ?_, ?_, ?_⟩
  · simp [writeConfig, System.setReload, bothPushed, ReloadTask.hasReturned]
  · rw [writeConfig_app]
    rfl
  · rw [writeConfig_app, writeConfig_app]
    rfl
  · rw [writeConfig_app, writeConfig_app]
    rintro ⟨raw, files, -, -, ⟨runtime, generation, hinPlace, hbuild⟩, -⟩
    have hruntime : emptyRuntime 3 = runtime := Option.some.inj hinPlace
    have hlimits : runtime.limits = slow.config.plugins.limits := limits_of_buildRuntime hbuild
    rw [← hruntime] at hlimits
    exact absurd hlimits (by decide)

end Samples

end Admin
end OpenApiGateway
