import Mathlib.Data.List.Sort
import OpenApiGateway.Config.Validation
import OpenApiGateway.Lib.Fallible
import OpenApiGateway.Lib.KeyedLoop
import OpenApiGateway.Plugins.Types

/-!
# Building the plugin runtime

`controlplane/src/plugins/registry.rs`: finding the plugin files, checking each configured
plugin against its schema, and ordering the chain of every route. The plugin directory is
read anew on every build and is the argument `PluginFiles`; Lua, serde and `jsonschema` are
collected in `RegistryLib`.

`chain_of_buildRuntime` says which chain a built runtime has for a route.
-/

namespace OpenApiGateway
namespace Plugins

/-! ## What is outside -/

/-- A file of the plugin directory. -/
structure PluginFile where
  path : String
  extension : Option String
  /-- The file name without its extension, where it is UTF-8. -/
  stem : Option String
  contents : Except String String

/-- The file system, as one build sees it. -/
structure PluginFiles where
  pathExists : String → Bool
  readDir : String → Except String (List (Except String PluginFile))

/-- The fields of the table a plugin file evaluates to. -/
structure PluginTable where
  version : Except String String
  priority : Except String ℤ
  schema : Option JsonValue

structure RegistryLib where
  /-- A new sandboxed VM, and in it `lua.load(source).set_name(name).eval()`. -/
  evalPlugin : PluginLimits → String → String → Except String PluginTable
  /-- `serde_json::to_value`. -/
  toValue : Yaml → Option JsonValue
  /-- The errors of a value against a schema, unless the schema does not compile. -/
  schemaErrors : JsonValue → JsonValue → Except String (List String)

/-! ## Discovery -/

section Registry
variable (lib : RegistryLib)

def extractMeta (name source : String) (limits : PluginLimits) : Except PluginError PluginMeta :=
  match lib.evalPlugin limits name source with
  | .error reason => .error (.load name reason)
  | .ok plugin =>
    match plugin.version with
    | .error reason => .error (.load name s!"missing VERSION: {reason}")
    | .ok version =>
      match plugin.priority with
      | .error reason => .error (.load name s!"missing PRIORITY: {reason}")
      | .ok priority => .ok ⟨name, priority, version, source, plugin.schema⟩

/-- The metadata of one directory entry; `none` for a file that is no plugin. -/
def entryMeta (directory : String) (limits : PluginLimits) :
    Except String PluginFile → Except PluginError (Option PluginMeta)
  | .error reason => .error (.load directory reason)
  | .ok file =>
    if file.extension ≠ some "lua" then .ok none
    else
      match file.contents with
      | .error reason => .error (.load file.path reason)
      | .ok source =>
        match file.stem with
        | none => .error (.load file.path "invalid UTF-8 file name")
        | some name => (extractMeta lib name source limits).map some

/-- The loop over the directory; a later file of the same name replaces an earlier one. -/
def discoverEntries (directory : String) (limits : PluginLimits) :
    List (Except String PluginFile) → (AList fun _ : String => PluginMeta) →
      Except PluginError (AList fun _ : String => PluginMeta)
  | [], plugins => .ok plugins
  | entry :: entries, plugins =>
    match entryMeta lib directory limits entry with
    | .error e => .error e
    | .ok none => discoverEntries directory limits entries plugins
    | .ok (some found) =>
      discoverEntries directory limits entries (plugins.insert found.name found)

def discoverPlugins (files : PluginFiles) (directory : String) (limits : PluginLimits) :
    Except PluginError (AList fun _ : String => PluginMeta) :=
  match files.readDir directory with
  | .error reason => .error (.load directory reason)
  | .ok entries => discoverEntries lib directory limits entries ∅

/-! ## Chains -/

def validateSchema (found : PluginMeta) (inst : PluginInstance) : Except PluginError Unit :=
  match found.schema with
  | none => .ok ()
  | some schema =>
    match lib.schemaErrors schema ((lib.toValue inst.config).getD .null) with
    | .error reason => .error (.schemaValidation found.name reason)
    | .ok [] => .ok ()
    | .ok errors => .error (.schemaValidation found.name ("; ".intercalate errors))

/-- The binding of one enabled plugin of a route. -/
def bindInstance (routeName : String) (registry : AList fun _ : String => PluginMeta)
    (inst : PluginInstance) : Except PluginError PluginBinding :=
  match registry.lookup inst.name with
  | none => .error (.missingPlugin inst.name)
  | some found =>
    match validateSchema lib found inst with
    | .error e => .error e
    | .ok () => .ok
        -- the id does not say from which of the two lists the instance is
        { id := s!"{routeName}:{inst.name}"
          name := found.name
          priority := found.priority
          version := found.version
          failOpen := inst.failMode == "open"
          source := found.source
          config := (lib.toValue inst.config).getD .null }

/-- Append the bindings of the enabled plugins, up to the first that fails. -/
def pushBindings (routeName : String) (registry : AList fun _ : String => PluginMeta) :
    List PluginBinding → List PluginInstance → Except PluginError (List PluginBinding)
  | bindings, [] => .ok bindings
  | bindings, inst :: configured =>
    if inst.enabled then
      match bindInstance lib routeName registry inst with
      | .error e => .error e
      | .ok binding => pushBindings routeName registry (bindings ++ [binding]) configured
    else pushBindings routeName registry bindings configured

/-- Lower priority first, then by name. -/
def bindingLe (left right : PluginBinding) : Prop :=
  left.priority < right.priority ∨ left.priority = right.priority ∧ left.name ≤ right.name

instance : DecidableRel bindingLe := fun left right =>
  inferInstanceAs (Decidable (left.priority < right.priority ∨
    left.priority = right.priority ∧ left.name ≤ right.name))

/-- The bindings of a route, the global plugins' before its own, in the order they run. -/
def routeBindings (config : GatewayConfig) (registry : AList fun _ : String => PluginMeta)
    (route : RouteConfig) : Except PluginError (List PluginBinding) :=
  match pushBindings lib route.name registry [] config.plugins.global with
  | .error e => .error e
  | .ok globals =>
    match pushBindings lib route.name registry globals route.plugins with
    | .error e => .error e
    | .ok bindings => .ok (bindings.insertionSort bindingLe)

/-- The chains of all routes; a route replaces an earlier one of the same name. -/
def buildChains (config : GatewayConfig) (registry : AList fun _ : String => PluginMeta) :
    Except PluginError (AList fun _ : String => PluginChain) :=
  Lib.KeyedLoop.insertEach RouteConfig.name
    (fun route => (routeBindings lib config registry route).map PluginChain.mk) config.routes ∅

def buildRuntime (files : PluginFiles) (config : GatewayConfig) (generation : ℕ) :
    Except PluginError PluginRuntime :=
  if config.plugins.enabled then
    if files.pathExists config.plugins.directory then
      match discoverPlugins lib files config.plugins.directory config.plugins.limits with
      | .error e => .error e
      | .ok registry =>
        match buildChains lib config registry with
        | .error e => .error e
        | .ok chains => .ok ⟨generation, config.plugins.limits, chains⟩
    else .error (.missingDirectory config.plugins.directory)
  else .ok ⟨generation, config.plugins.limits, ∅⟩

end Registry

/-! ## The chain of a route -/

/-- The config asks for at least one plugin on the route. -/
def HasEnabledPlugins (config : GatewayConfig) (route : RouteConfig) : Prop :=
  config.plugins.enabled = true ∧
    ∃ inst ∈ config.plugins.global ++ route.plugins, inst.enabled = true

section Chains
variable {lib : RegistryLib} {config : GatewayConfig}
  {registry : AList fun _ : String => PluginMeta}

theorem id_of_bindInstance {routeName : String} {inst : PluginInstance} {binding : PluginBinding}
    (h : bindInstance lib routeName registry inst = .ok binding) :
    binding.id = s!"{routeName}:{inst.name}" := by
  unfold bindInstance at h
  split at h
  · simp at h
  · split at h
    · simp at h
    · rw [← Except.ok.inj h]

/-- The bindings of the enabled plugins of a list, unless one of them fails. -/
def enabledBindings (lib : RegistryLib) (routeName : String)
    (registry : AList fun _ : String => PluginMeta) (configured : List PluginInstance) :
    Except PluginError (List PluginBinding) :=
  (configured.filter PluginInstance.enabled).mapM (bindInstance lib routeName registry)

theorem pushBindings_eq (routeName : String) (bindings : List PluginBinding)
    (configured : List PluginInstance) :
    pushBindings lib routeName registry bindings configured =
      (enabledBindings lib routeName registry configured).map (bindings ++ ·) := by
  induction configured generalizing bindings with
  | nil => simp [pushBindings, enabledBindings, pure, Except.pure, Except.map]
  | cons inst configured ih =>
    rw [pushBindings, enabledBindings]
    by_cases henabled : inst.enabled = true
    · rw [if_pos henabled, List.filter_cons_of_pos henabled, List.mapM_cons]
      cases bindInstance lib routeName registry inst with
      | error e => rfl
      | ok binding =>
        simp only [ih, enabledBindings]
        cases (configured.filter PluginInstance.enabled).mapM
            (bindInstance lib routeName registry) with
        | error e => rfl
        | ok rest => exact congrArg Except.ok (List.append_assoc bindings [binding] rest)
    · rw [if_neg henabled, List.filter_cons_of_neg henabled]
      exact ih bindings

/-- Every enabled plugin gets its binding. -/
theorem map_id_enabledBindings {routeName : String} {configured : List PluginInstance}
    {bindings : List PluginBinding}
    (h : enabledBindings lib routeName registry configured = .ok bindings) :
    bindings.map PluginBinding.id =
      (configured.filter PluginInstance.enabled).map fun inst => s!"{routeName}:{inst.name}" :=
  Lib.Fallible.map_of_mapM_ok (fun _ _ => id_of_bindInstance) h

theorem routeBindings_eq_ok_iff {route : RouteConfig} {bindings : List PluginBinding} :
    routeBindings lib config registry route = .ok bindings ↔
      ∃ globals own, enabledBindings lib route.name registry config.plugins.global = .ok globals ∧
        enabledBindings lib route.name registry route.plugins = .ok own ∧
        bindings = (globals ++ own).insertionSort bindingLe := by
  rw [routeBindings, pushBindings_eq]
  cases enabledBindings lib route.name registry config.plugins.global with
  | error e => exact iff_of_false (fun h => by simp [Except.map] at h) fun h => by simp at h
  | ok globals =>
    simp only [Except.map, List.nil_append, pushBindings_eq]
    cases enabledBindings lib route.name registry route.plugins with
    | error e => exact iff_of_false (fun h => by simp at h) fun h => by simp at h
    | ok own =>
      constructor
      · intro h
        exact ⟨globals, own, rfl, rfl, (Except.ok.inj h).symm⟩
      · intro h
        obtain ⟨globals', own', hglobals, hown, rfl⟩ := h
        rw [← Except.ok.inj hglobals, ← Except.ok.inj hown]

/-- The ids of the bindings of a route, in the order of the config. -/
def routePluginIds (config : GatewayConfig) (route : RouteConfig) : List String :=
  ((config.plugins.global ++ route.plugins).filter PluginInstance.enabled).map fun inst =>
    s!"{route.name}:{inst.name}"

/-- Sorting only moves the bindings. -/
theorem perm_routeBindings {route : RouteConfig} {bindings : List PluginBinding}
    (h : routeBindings lib config registry route = .ok bindings) :
    (bindings.map PluginBinding.id).Perm (routePluginIds config route) := by
  obtain ⟨globals, own, hglobals, hown, rfl⟩ := routeBindings_eq_ok_iff.mp h
  have hids : (globals ++ own).map PluginBinding.id = routePluginIds config route := by
    rw [List.map_append, map_id_enabledBindings hglobals, map_id_enabledBindings hown,
      ← List.map_append, ← List.filter_append, routePluginIds]
  rw [← hids]
  exact (List.perm_insertionSort bindingLe (globals ++ own)).map _

section Built
variable {files : PluginFiles} {generation : ℕ} {runtime : PluginRuntime}

/-- What a build that succeeds has made. -/
theorem buildRuntime_cases (h : buildRuntime lib files config generation = .ok runtime) :
    ∃ chains, runtime = ⟨generation, config.plugins.limits, chains⟩ ∧
      ((config.plugins.enabled = true ∧ ∃ registry, buildChains lib config registry = .ok chains) ∨
        (config.plugins.enabled = false ∧ chains = ∅)) := by
  unfold buildRuntime at h
  split at h
  · rename_i henabled
    split at h
    · split at h
      · simp at h
      · rename_i registry _
        split at h
        · simp at h
        · rename_i chains hchains
          exact ⟨chains, (Except.ok.inj h).symm, Or.inl ⟨henabled, registry, hchains⟩⟩
    · simp at h
  · rename_i hdisabled
    exact ⟨∅, (Except.ok.inj h).symm, Or.inr ⟨by simpa using hdisabled, rfl⟩⟩

/-- A runtime works under the limits of its config. -/
theorem limits_of_buildRuntime (h : buildRuntime lib files config generation = .ok runtime) :
    runtime.limits = config.plugins.limits := by
  obtain ⟨chains, rfl, -⟩ := buildRuntime_cases h
  rfl

theorem generation_of_buildRuntime (h : buildRuntime lib files config generation = .ok runtime) :
    runtime.generation = generation := by
  obtain ⟨chains, rfl, -⟩ := buildRuntime_cases h
  rfl

/-- Every route has a chain, with the bindings of its plugins. -/
theorem chain_of_route (h : buildRuntime lib files config generation = .ok runtime)
    (henabled : config.plugins.enabled = true)
    (hnodup : (config.routes.map RouteConfig.name).Nodup) {route : RouteConfig}
    (hroute : route ∈ config.routes) :
    ∃ chain, runtime.chains.lookup route.name = some chain ∧
      (chain.bindings.map PluginBinding.id).Perm (routePluginIds config route) := by
  obtain ⟨chains, rfl, ⟨-, registry, hchains⟩ | ⟨hdisabled, -⟩⟩ := buildRuntime_cases h
  · obtain ⟨chain, hchain, hlookup⟩ := Lib.KeyedLoop.lookup_insertEach hchains hnodup hroute
    obtain ⟨bindings, hbindings, rfl⟩ := Lib.Fallible.map_eq_ok hchain
    exact ⟨_, hlookup, perm_routeBindings hbindings⟩
  · simp [henabled] at hdisabled

/-- Every chain is that of a route. -/
theorem route_of_chain (h : buildRuntime lib files config generation = .ok runtime)
    {name : String} {chain : PluginChain} (hchain : runtime.chains.lookup name = some chain) :
    config.plugins.enabled = true ∧ ∃ route ∈ config.routes, route.name = name ∧
      (chain.bindings.map PluginBinding.id).Perm (routePluginIds config route) := by
  obtain ⟨chains, rfl, ⟨henabled, registry, hchains⟩ | ⟨-, rfl⟩⟩ := buildRuntime_cases h
  · rcases Lib.KeyedLoop.mem_or_of_lookup_insertEach hchains hchain with
      hempty | ⟨route, hroute, hname, hmake⟩
    · simp at hempty
    · obtain ⟨bindings, hbindings, rfl⟩ := Lib.Fallible.map_eq_ok hmake
      exact ⟨henabled, route, hroute, hname, perm_routeBindings hbindings⟩
  · simp at hchain

/-- A runtime built from a config has, for a route that asks for plugins, a chain with a
binding for each of them. -/
theorem chain_of_buildRuntime (h : buildRuntime lib files config generation = .ok runtime)
    (hnodup : (config.routes.map RouteConfig.name).Nodup) {route : RouteConfig}
    (hroute : route ∈ config.routes) (hplugins : HasEnabledPlugins config route) :
    ∃ chain, runtime.chains.lookup route.name = some chain ∧ chain.bindings ≠ [] := by
  obtain ⟨henabled, inst, hinst, hon⟩ := hplugins
  obtain ⟨chain, hlookup, hperm⟩ := chain_of_route h henabled hnodup hroute
  refine ⟨chain, hlookup, ?_⟩
  -- one enabled plugin is enough for the chain not to be empty
  have hpos := List.length_pos_of_mem (List.mem_filter.mpr ⟨hinst, hon⟩)
  have hlength := hperm.length_eq
  rw [routePluginIds, List.length_map, List.length_map] at hlength
  rw [← List.length_pos_iff]
  omega

end Built

end Chains

/-! ## Files with a `pluginText` -/

def settingsSchema : JsonValue := .object [("title", .string "settings")]

/-- The libraries on files that hold a `pluginText`, on configs that are left out or are a string,
and on the schema of these plugins, which has no conditions. -/
def textPlugins : RegistryLib where
  evalPlugin _ _ _ := .ok ⟨.ok "1.0.0", .ok 10, some settingsSchema⟩
  toValue
    | .null => some .null
    | .string s => some (.string s)
    | _ => none
  schemaErrors
    | .object [("title", .string "settings")], _ => .ok []
    | _, _ => .error "null is not of types \"boolean\", \"object\""

end Plugins
end OpenApiGateway
