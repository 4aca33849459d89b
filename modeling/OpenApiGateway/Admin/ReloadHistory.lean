import OpenApiGateway.Admin.State

/-!
# What the admin endpoints tell of the reloads

`readyz` and `config_status` of `admin/handlers.rs`, after any sequence of reloads, one after the
other. Whether an attempt loads is a question about the file and the plugin directory it finds
(`ReloadAttempt.loads`), not about the state (`configReload_wrote`). The active config and its hash
are those of the last load, and `config_status` tells the last attempt. Both endpoints read the
same time, which a failed attempt also writes: `reload_history_iff` says after which sequences
`readyz` has the time of the last load.
-/

namespace OpenApiGateway
namespace Admin

open Auth Plugins Xds

/-! ## The endpoints -/

/-- Response for `GET /readyz`. -/
structure ReadyResponse where
  ok : Bool
  configLoaded : Bool
  redisOk : Bool
  jwksOk : Bool
  lastConfigReloadUnix : ℤ
deriving DecidableEq

/-- Response for `GET /config/status`. -/
structure ConfigStatusResponse where
  activeConfigVersion : ℕ
  activeConfigSha256 : String
  lastReloadResult : String
  lastReloadError : Option String
  lastReloadUnix : ℤ
deriving DecidableEq

section Endpoints
variable {κ : Type}

/-- All provider caches are within their stale threshold. -/
def allHealthy (caches : JwksCacheRegistry κ) (now : ℕ) : Bool :=
  caches.entries.all fun entry => !entry.2.isStale now

/-- `GET /readyz`, with the limiter's answer to a ping: the status and the response. -/
def readyz (st : AppState κ) (redisOk : Bool) (now : ℕ) : ℕ × ReadyResponse :=
  let jwksOk := allHealthy st.jwksRegistry now
  let ok := redisOk && jwksOk
  (if ok then 200 else 503,
    { ok := ok
      configLoaded := true
      redisOk := redisOk
      jwksOk := jwksOk
      lastConfigReloadUnix := st.configState.lastReloadUnix })

/-- `GET /config/status` -- current config metadata. -/
def configStatus (st : AppState κ) : ConfigStatusResponse where
  activeConfigVersion := st.configState.config.version
  activeConfigSha256 := st.configState.sha256
  lastReloadResult := st.configState.lastReloadResult.asStr
  lastReloadError := st.configState.lastReloadError
  lastReloadUnix := st.configState.lastReloadUnix

end Endpoints

/-! ## Attempts -/

/-- A reload: its time, and what it finds in the plugin directory and the config file. -/
structure ReloadAttempt where
  now : ℤ
  files : PluginFiles
  read : Except String (List UInt8)

section Attempts
variable {κ : Type} (lib : ReloadLib)

/-- The plugin runtime of the config can be built. -/
def pluginsBuild (files : PluginFiles) (config : GatewayConfig) : Bool :=
  (buildRuntime lib.registry files config 0).isOk

/-- The xDS snapshot of the config can be built, where xDS is enabled. -/
def xdsBuilds (xdsEnabled : Bool) (config : GatewayConfig) : Bool :=
  !xdsEnabled || (XdsSnapshot.build lib.encode config 0).isOk

/-- What an attempt loads: a file that can be read and is accepted, and of whose config the
plugin runtime and the snapshot can be built. -/
def ReloadAttempt.loads (xdsEnabled : Bool) (attempt : ReloadAttempt) :
    Option (List UInt8 × GatewayConfig) :=
  match attempt.read with
  | .error _ => none
  | .ok raw =>
    match lib.load raw with
    | .error _ => none
    | .ok config =>
      if pluginsBuild lib attempt.files config && xdsBuilds lib xdsEnabled config then
        some (raw, config)
      else none

def ReloadAttempt.run (st : AppState κ) (attempt : ReloadAttempt) : ReloadOutcome κ :=
  configReload lib attempt.files st attempt.now attempt.read

/-- The state after the attempts, one after the other. -/
def afterReloads (st : AppState κ) (attempts : List ReloadAttempt) : AppState κ :=
  attempts.foldl (fun st attempt => (attempt.run lib st).state) st

/-- What a reload leaves in the config state: what it has loaded, or the error it answers. -/
def Wrote (st : AppState κ) (now : ℤ) (load : Option (List UInt8 × GatewayConfig))
    (out : ReloadOutcome κ) : Prop :=
  match load with
  | some (raw, config) => out.state.configState = ConfigState.activate lib raw now config
  | none => ∃ e, out.response = some (errorResponse now e) ∧
      out.state.configState = st.configState.recordError now e

end Attempts

/-- The same components are there. -/
structure SameComponents {κ : Type} (st st' : AppState κ) : Prop where
  pluginEngine : st'.pluginEngine.isSome = st.pluginEngine.isSome
  xds : st'.xds.isSome = st.xds.isSome

section Outcomes
variable {κ : Type} {lib : ReloadLib}

/-- Whether a snapshot can be built does not depend on its version. -/
theorem isOk_build (encode : Message → Except String (List UInt8)) (config : GatewayConfig)
    (version : ℕ) :
    (XdsSnapshot.build encode config version).isOk =
      (XdsSnapshot.build encode config 0).isOk := by
  unfold XdsSnapshot.build
  cases buildClusters encode config with
  | error e => rfl
  | ok clusters =>
    cases buildEndpoints encode config with
    | error e => rfl
    | ok endpoints =>
      cases buildListener encode config with
      | error e => rfl
      | ok listener =>
        cases buildRouteConfig encode config with
        | error e => rfl
        | ok routes => rfl

/-- Nor does the runtime on its generation. -/
theorem isOk_buildRuntime (files : PluginFiles) (config : GatewayConfig) (generation : ℕ) :
    (buildRuntime lib.registry files config generation).isOk = pluginsBuild lib files config := by
  unfold pluginsBuild buildRuntime
  split
  · split
    · split
      · rfl
      · split
        · rfl
        · rfl
    · rfl
  · rfl

theorem rebuildXds_wrote (st : AppState κ) (raw : List UInt8) (now : ℤ) (config : GatewayConfig) :
    Wrote lib st now (if xdsBuilds lib st.xds.isSome config then some (raw, config) else none)
      (rebuildXds lib st raw now config) ∧
    SameComponents st (rebuildXds lib st raw now config).state := by
  unfold rebuildXds
  cases hxds : st.xds with
  | none =>
    have hbuilds : xdsBuilds lib (Option.isSome (none : Option XdsControlPlane)) config = true :=
      rfl
    simp only [hbuilds, if_true, Wrote, activateConfig_configState]
    exact ⟨trivial, ⟨rfl, by simp [hxds]⟩⟩
  | some xds =>
    have hok := isOk_build lib.encode config (xds.version + 1)
    have hbuilds : xdsBuilds lib (Option.isSome (some xds)) config =
        (XdsSnapshot.build lib.encode config (xds.version + 1)).isOk := hok.symm
    rw [hbuilds]
    -- a snapshot that fails is answered like an invalid config, and the config is not written
    simp only [XdsControlPlane.rebuildFromConfig]
    cases XdsSnapshot.build lib.encode config (xds.version + 1) with
    | error e =>
      exact ⟨⟨e.display, rfl, rfl⟩, ⟨rfl, by simp [reloadValidationError, hxds]⟩⟩
    | ok snapshot =>
      simp only [Except.isOk, Except.toBool, if_true, Wrote, activateConfig_configState]
      exact ⟨trivial, ⟨rfl, by simp [hxds]⟩⟩

theorem applyConfigReload_wrote {st : AppState κ} (hengine : st.pluginEngine.isSome = true)
    (files : PluginFiles) (raw : List UInt8) (now : ℤ) (config : GatewayConfig) :
    Wrote lib st now
      (if pluginsBuild lib files config && xdsBuilds lib st.xds.isSome config then
        some (raw, config) else none)
      (applyConfigReload lib files st raw now config) ∧
    SameComponents st (applyConfigReload lib files st raw now config).state := by
  obtain ⟨engine, hsome⟩ := Option.isSome_iff_exists.mp hengine
  unfold applyConfigReload
  rw [hsome]
  simp only [PluginEngine.reloadFromConfig]
  rw [← isOk_buildRuntime files config engine.nextGeneration]
  cases buildRuntime lib.registry files config engine.nextGeneration with
  | error e => exact ⟨⟨e.display, rfl, rfl⟩, ⟨by simp [reloadValidationError, hsome], rfl⟩⟩
  | ok runtime =>
    -- the rest works on a state with the new runtime
    have hrest := @rebuildXds_wrote κ lib
      { st with pluginEngine := some ⟨runtime, engine.nextGeneration + 1⟩ } raw now config
    exact ⟨hrest.1, ⟨hrest.2.pluginEngine.trans (by simp [hsome]), hrest.2.xds⟩⟩

/-- A reload writes down what it loads, or the error that it answers. -/
theorem configReload_wrote {st : AppState κ} (hengine : st.pluginEngine.isSome = true)
    (attempt : ReloadAttempt) :
    Wrote lib st attempt.now (attempt.loads lib st.xds.isSome) (attempt.run lib st) ∧
      SameComponents st (attempt.run lib st).state := by
  unfold ReloadAttempt.run ReloadAttempt.loads configReload
  cases attempt.read with
  | error reason => exact ⟨⟨_, rfl, rfl⟩, ⟨rfl, rfl⟩⟩
  | ok raw =>
    cases hload : lib.load raw with
    | error errors =>
      simp only [hload]
      exact ⟨⟨_, rfl, rfl⟩, ⟨rfl, rfl⟩⟩
    | ok config =>
      simp only [hload]
      exact applyConfigReload_wrote hengine attempt.files raw attempt.now config

end Outcomes

/-! ## Histories -/

/-- A config that was loaded, from which bytes and when. -/
structure Load where
  raw : List UInt8
  config : GatewayConfig
  time : ℤ

section Histories
variable {κ : Type} (lib : ReloadLib) (xdsEnabled : Bool)

def ReloadAttempt.load (attempt : ReloadAttempt) : Option Load :=
  (attempt.loads lib xdsEnabled).map fun (raw, config) => ⟨raw, config, attempt.now⟩

/-- The last load: that of the last attempt that loads, or else the first one. -/
def lastLoad (first : Load) (attempts : List ReloadAttempt) : Load :=
  (attempts.filterMap (ReloadAttempt.load lib xdsEnabled)).getLast?.getD first

/-- The state tells of the attempts since the first load: what is active, and how the last attempt
went. -/
structure Tells (first : Load) (started : AppState κ) (attempts : List ReloadAttempt)
    (status : ConfigStatusResponse) : Prop where
  version : status.activeConfigVersion = (lastLoad lib xdsEnabled first attempts).config.version
  sha256 : status.activeConfigSha256 = lib.sha256Hex (lastLoad lib xdsEnabled first attempts).raw
  start : attempts = [] → status.lastReloadUnix = first.time ∧
    status.lastReloadResult = "success" ∧ status.lastReloadError = none
  time : ∀ before last, attempts = before ++ [last] → status.lastReloadUnix = last.now
  result : ∀ before last, attempts = before ++ [last] → status.lastReloadResult =
    if (last.loads lib xdsEnabled).isSome then "success" else "validation_error"
  noError : ∀ before last, attempts = before ++ [last] →
    (status.lastReloadError = none ↔ (last.loads lib xdsEnabled).isSome = true)
  /-- The error is the one the attempt was answered with. -/
  error : ∀ before last e, attempts = before ++ [last] → status.lastReloadError = some e →
    (last.run lib (afterReloads lib started before)).response = some (errorResponse last.now e)

end Histories

section Run
variable {κ : Type} {lib : ReloadLib} {xdsEnabled : Bool} {first : Load} {started : AppState κ}

theorem lastLoad_concat (attempts : List ReloadAttempt) (last : ReloadAttempt) :
    lastLoad lib xdsEnabled first (attempts ++ [last]) =
      (last.load lib xdsEnabled).getD (lastLoad lib xdsEnabled first attempts) := by
  unfold lastLoad
  rw [List.filterMap_append]
  cases hload : last.load lib xdsEnabled with
  | none => simp [hload]
  | some load => simp [hload]

theorem afterReloads_concat (attempts : List ReloadAttempt) (last : ReloadAttempt) :
    afterReloads lib started (attempts ++ [last]) =
      (last.run lib (afterReloads lib started attempts)).state := by
  rw [afterReloads, List.foldl_append]
  rfl

/-- No reload adds or removes a component. -/
theorem sameComponents_afterReloads (hengine : started.pluginEngine.isSome = true)
    (attempts : List ReloadAttempt) :
    SameComponents started (afterReloads lib started attempts) := by
  induction attempts using List.reverseRecOn with
  | nil => exact ⟨rfl, rfl⟩
  | append_singleton attempts last ih =>
    have hstep := @configReload_wrote κ lib (afterReloads lib started attempts)
      (ih.pluginEngine.trans hengine) last
    rw [afterReloads_concat]
    exact ⟨hstep.2.pluginEngine.trans ih.pluginEngine, hstep.2.xds.trans ih.xds⟩

/-- What the last attempt wrote down. -/
theorem wrote_afterReloads (hengine : started.pluginEngine.isSome = true)
    (attempts : List ReloadAttempt) (last : ReloadAttempt) :
    Wrote lib (afterReloads lib started attempts) last.now (last.loads lib started.xds.isSome)
      (last.run lib (afterReloads lib started attempts)) := by
  have hsame := @sameComponents_afterReloads κ lib started hengine attempts
  have hwrote := @configReload_wrote κ lib (afterReloads lib started attempts)
    (hsame.pluginEngine.trans hengine) last
  rw [hsame.xds] at hwrote
  exact hwrote.1

/-- The active config is that of the last load. -/
theorem active_afterReloads (hengine : started.pluginEngine.isSome = true)
    (hconfig : started.configState.config = first.config)
    (hsha : started.configState.sha256 = lib.sha256Hex first.raw) (attempts : List ReloadAttempt) :
    (afterReloads lib started attempts).configState.config =
        (lastLoad lib started.xds.isSome first attempts).config ∧
      (afterReloads lib started attempts).configState.sha256 =
        lib.sha256Hex (lastLoad lib started.xds.isSome first attempts).raw := by
  induction attempts using List.reverseRecOn with
  | nil => exact ⟨hconfig, hsha⟩
  | append_singleton attempts last ih =>
    have hwrote := @wrote_afterReloads κ lib started hengine attempts last
    rw [afterReloads_concat, lastLoad_concat, ReloadAttempt.load]
    cases hloads : last.loads lib started.xds.isSome with
    | none =>
      rw [hloads] at hwrote
      obtain ⟨e, -, hstate⟩ := hwrote
      rw [hstate]
      exact ih
    | some loaded =>
      rw [hloads] at hwrote
      have hstate : (last.run lib (afterReloads lib started attempts)).state.configState =
        ConfigState.activate lib loaded.1 last.now loaded.2 := hwrote
      rw [hstate]
      exact ⟨rfl, rfl⟩

/-- How the last attempt is written down. -/
structure WroteLast (lib : ReloadLib) (xdsEnabled : Bool) (last : ReloadAttempt)
    (out : ReloadOutcome κ) : Prop where
  time : out.state.configState.lastReloadUnix = last.now
  result : out.state.configState.lastReloadResult.asStr =
    if (last.loads lib xdsEnabled).isSome then "success" else "validation_error"
  noError : out.state.configState.lastReloadError = none ↔
    (last.loads lib xdsEnabled).isSome = true
  error : ∀ e, out.state.configState.lastReloadError = some e →
    out.response = some (errorResponse last.now e)

theorem Wrote.last {st : AppState κ} {last : ReloadAttempt} {out : ReloadOutcome κ}
    (h : Wrote lib st last.now (last.loads lib xdsEnabled) out) :
    WroteLast lib xdsEnabled last out := by
  cases hloads : last.loads lib xdsEnabled with
  | none =>
    rw [hloads] at h
    obtain ⟨e, hresponse, hstate⟩ := h
    refine ⟨by rw [hstate]; rfl, by rw [hstate, hloads]; rfl, ?_, ?_⟩
    · rw [hstate, hloads]
      exact iff_of_false (by simp [ConfigState.recordError]) (by simp)
    · intro e' herror
      rw [hstate] at herror
      rw [hresponse, Option.some.inj herror]
  | some loaded =>
    rw [hloads] at h
    have hstate : out.state.configState = ConfigState.activate lib loaded.1 last.now loaded.2 := h
    refine ⟨by rw [hstate]; rfl, by rw [hstate, hloads]; rfl, ?_, ?_⟩
    · rw [hstate, hloads]
      exact iff_of_true rfl rfl
    · intro e' herror
      rw [hstate] at herror
      simp [ConfigState.activate] at herror

theorem tells_afterReloads (hengine : started.pluginEngine.isSome = true)
    (hfirst : started.configState = ConfigState.activate lib first.raw first.time first.config)
    (attempts : List ReloadAttempt) :
    Tells lib started.xds.isSome first started attempts
      (configStatus (afterReloads lib started attempts)) := by
  have hactive := @active_afterReloads κ lib first started hengine (by rw [hfirst]; rfl)
    (by rw [hfirst]; rfl) attempts
  have hlast : ∀ before last, attempts = before ++ [last] →
      WroteLast lib started.xds.isSome last (last.run lib (afterReloads lib started before)) ∧
      afterReloads lib started attempts =
        (last.run lib (afterReloads lib started before)).state := by
    rintro before last rfl
    exact ⟨(wrote_afterReloads hengine before last).last, afterReloads_concat before last⟩
  refine ⟨congrArg GatewayConfig.version hactive.1, hactive.2, ?_, ?_, ?_, ?_, ?_⟩
  · rintro rfl
    have hstate : (afterReloads lib started []).configState = _ := hfirst
    refine ⟨?_, ?_, ?_⟩
    · rw [configStatus, hstate]
      rfl
    · rw [configStatus, hstate]
      rfl
    · rw [configStatus, hstate]
      rfl
  · intro before last hattempts
    obtain ⟨hwrote, hstate⟩ := hlast before last hattempts
    rw [hstate]
    exact hwrote.time
  · intro before last hattempts
    obtain ⟨hwrote, hstate⟩ := hlast before last hattempts
    rw [hstate]
    exact hwrote.result
  · intro before last hattempts
    obtain ⟨hwrote, hstate⟩ := hlast before last hattempts
    rw [hstate]
    exact hwrote.noError
  · intro before last e hattempts herror
    obtain ⟨hwrote, hstate⟩ := hlast before last hattempts
    rw [hstate] at herror
    exact hwrote.error e herror

end Run

/-! ## The result -/

/-- After any attempts `config_status` tells what is active and how the last attempt went. The time
of `readyz` is that of the last load exactly if the last attempt loaded, or failed at that very
time. -/
theorem reload_history_iff {κ : Type} {lib : ReloadLib} {source : KeySource κ}
    {fetchedAt : AuthProvider → ℕ} {files : PluginFiles} {now : ℤ} {configPath : String}
    {envoyConfigPath : Option String} {raw : List UInt8} {started : AppState κ}
    (hstart : startup lib source fetchedAt files now configPath envoyConfigPath raw = some started)
    (attempts : List ReloadAttempt) (redisOk : Bool) (clock : ℕ) :
    let first : Load := ⟨raw, started.configState.config, now⟩
    Tells lib started.xds.isSome first started attempts
        (configStatus (afterReloads lib started attempts)) ∧
      ((readyz (afterReloads lib started attempts) redisOk clock).2.lastConfigReloadUnix =
          (lastLoad lib started.xds.isSome first attempts).time ↔
        ∀ last, attempts.getLast? = some last → last.loads lib started.xds.isSome = none →
          last.now = (lastLoad lib started.xds.isSome first attempts).time) := by
  intro first
  obtain ⟨config, registry, runtime, xds, -, -, -, -, hstarted⟩ := startup_cases hstart
  have hengine : started.pluginEngine.isSome = true := by rw [hstarted]; rfl
  have hfirst : started.configState =
      ConfigState.activate lib first.raw first.time first.config := by
    show started.configState = ConfigState.activate lib raw now started.configState.config
    rw [hstarted]
    rfl
  have htells := tells_afterReloads hengine hfirst attempts
  refine ⟨htells, ?_⟩
  -- both endpoints read the same time
  show (configStatus (afterReloads lib started attempts)).lastReloadUnix = _ ↔ _
  induction attempts using List.reverseRecOn with
  | nil => exact iff_of_true (htells.start rfl).1 (by simp)
  | append_singleton before last _ =>
    rw [htells.time before last rfl, lastLoad_concat, List.getLast?_concat]
    simp only [Option.some.injEq, forall_eq', ReloadAttempt.load]
    cases last.loads lib started.xds.isSome with
    | none => simp
    | some loaded => simp

/-- An attempt that cannot read the file. -/
def unreadable : ReloadAttempt :=
  ⟨7, SampleFile.noPluginFiles, .error "No such file or directory"⟩

open SampleFile in
theorem startup_plain :
    startup SampleFile.lib keySource (fun _ => 0) noPluginFiles 0 "configs/gateway.yaml" none
      plain.bytes = some (started plain (emptyRuntime 1)) :=
  startup_started rfl rfl

open SampleFile in
theorem reload_history_iff_unreadable :
    let first : Load := ⟨plain.bytes, plain.config, 0⟩
    let st := started plain (emptyRuntime 1)
    Tells SampleFile.lib false first st [unreadable]
        (configStatus (afterReloads SampleFile.lib st [unreadable])) ∧
      ((readyz (afterReloads SampleFile.lib st [unreadable]) true 0).2.lastConfigReloadUnix =
          (lastLoad SampleFile.lib false first [unreadable]).time ↔
        ∀ last, [unreadable].getLast? = some last → last.loads SampleFile.lib false = none →
          last.now = (lastLoad SampleFile.lib false first [unreadable]).time) :=
  reload_history_iff startup_plain [unreadable] true 0

open SampleFile in
/-- A reload that fails seven seconds after the start moves the time of the last successful one. -/
theorem failed_reload_moves_readyz :
    let first : Load := ⟨plain.bytes, plain.config, 0⟩
    startup SampleFile.lib keySource (fun _ => 0) noPluginFiles 0 "configs/gateway.yaml" none
        plain.bytes = some (started plain (emptyRuntime 1)) ∧
      unreadable.loads SampleFile.lib false = none ∧
      (lastLoad SampleFile.lib false first [unreadable]).time = 0 ∧
      (readyz (afterReloads SampleFile.lib (started plain (emptyRuntime 1)) [unreadable]) true
        0).2.lastConfigReloadUnix = 7 :=
  ⟨startup_plain, rfl, rfl, rfl⟩

end Admin
end OpenApiGateway
