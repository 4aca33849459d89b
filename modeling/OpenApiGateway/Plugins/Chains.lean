import OpenApiGateway.Lib.StableSort
import OpenApiGateway.Plugins.Registry

/-!
# Canonical plugin chains

What `build_runtime` of `controlplane/src/plugins/registry.rs` makes of the plugins that the config
asks for: when a build succeeds, what the chain of a route is, and that it does not depend on the
order of the plugin lists. Global plugins are looked up for each route, so a config without routes
is built whatever they are; `plugin_chains_canonical` says the rest.
-/

namespace OpenApiGateway
namespace Plugins

open Lib.KeyedLoop Lib.Fallible Lib.StableSort

section Chains
variable {lib : RegistryLib} {registry : AList fun _ : String => PluginMeta}

/-! ## One plugin -/

/-- The plugin is registered, and its schema, if it has one, compiles and accepts the config. -/
def Loadable (lib : RegistryLib) (registry : AList fun _ : String => PluginMeta)
    (inst : PluginInstance) : Prop :=
  ∃ found, registry.lookup inst.name = some found ∧
    ∀ schema, found.schema = some schema →
      lib.schemaErrors schema ((lib.toValue inst.config).getD .null) = .ok []

/-- A config passes if the plugin has no schema, or one that compiles and accepts it. -/
theorem validateSchema_eq_ok_iff {found : PluginMeta} {inst : PluginInstance} :
    validateSchema lib found inst = .ok () ↔
      ∀ schema, found.schema = some schema →
        lib.schemaErrors schema ((lib.toValue inst.config).getD .null) = .ok [] := by
  unfold validateSchema
  cases found.schema with
  | none => simp
  | some schema =>
    simp only [Option.some.injEq, forall_eq']
    rcases lib.schemaErrors schema ((lib.toValue inst.config).getD .null) with reason | errors
    · simp
    · cases errors with
      | nil => simp
      | cons error errors => simp

/-- An instance can be bound if it is loadable. -/
theorem bindInstance_isOk_iff {routeName : String} {inst : PluginInstance} :
    (∃ binding, bindInstance lib routeName registry inst = .ok binding) ↔
      Loadable lib registry inst := by
  unfold bindInstance Loadable
  cases registry.lookup inst.name with
  | none => simp
  | some found =>
    simp only [Option.some.injEq, exists_eq_left', ← validateSchema_eq_ok_iff]
    cases validateSchema lib found inst with
    | error e => simp
    | ok _ => simp

/-- Only the enabled ones have to be. -/
theorem enabledBindings_isOk_iff {routeName : String} {configured : List PluginInstance} :
    (∃ bindings, enabledBindings lib routeName registry configured = .ok bindings) ↔
      ∀ inst ∈ configured, inst.enabled = true → Loadable lib registry inst := by
  constructor
  · intro h inst hinst henabled
    obtain ⟨bindings, hbindings⟩ := h
    exact bindInstance_isOk_iff.mp
      (ok_of_mapM_ok hbindings inst (List.mem_filter.mpr ⟨hinst, henabled⟩))
  · intro h
    apply mapM_ok
    intro inst hinst
    obtain ⟨hmem, henabled⟩ := List.mem_filter.mp hinst
    exact bindInstance_isOk_iff.mpr (h inst hmem henabled)

/-! ## Names -/

/-- Every plugin is registered under its own name. -/
def RegisteredByName (registry : AList fun _ : String => PluginMeta) : Prop :=
  ∀ name found, registry.lookup name = some found → found.name = name

theorem registeredByName_insert (h : RegisteredByName registry) (found : PluginMeta) :
    RegisteredByName (registry.insert found.name found) := by
  intro name other hlookup
  by_cases hname : name = found.name
  · rw [hname, AList.lookup_insert, Option.some.injEq] at hlookup
    rw [← hlookup, hname]
  · rw [AList.lookup_insert_ne hname] at hlookup
    exact h name other hlookup

theorem registeredByName_discoverEntries {directory : String} {limits : PluginLimits}
    {entries : List (Except String PluginFile)} {plugins : AList fun _ : String => PluginMeta}
    (hplugins : RegisteredByName plugins)
    (h : discoverEntries lib directory limits entries plugins = .ok registry) :
    RegisteredByName registry := by
  induction entries generalizing plugins with
  | nil =>
    rw [discoverEntries, Except.ok.injEq] at h
    rw [← h]
    exact hplugins
  | cons entry entries ih =>
    rw [discoverEntries] at h
    split at h
    · simp at h
    · exact ih hplugins h
    · exact ih (registeredByName_insert hplugins _) h

/-- The registry keeps each plugin under its own name. -/
theorem registeredByName_discoverPlugins {files : PluginFiles} {directory : String}
    {limits : PluginLimits} (h : discoverPlugins lib files directory limits = .ok registry) :
    RegisteredByName registry := by
  unfold discoverPlugins at h
  split at h
  · simp at h
  · refine registeredByName_discoverEntries ?_ h
    intro name found hlookup
    exact absurd hlookup (by simp)

/-- So a binding has the name of its instance. -/
theorem name_of_bindInstance (hregistry : RegisteredByName registry) {routeName : String}
    {inst : PluginInstance} {binding : PluginBinding}
    (h : bindInstance lib routeName registry inst = .ok binding) : binding.name = inst.name := by
  unfold bindInstance at h
  split at h
  · simp at h
  · rename_i found hfound
    split at h
    · simp at h
    · rw [← Except.ok.inj h]
      exact hregistry inst.name found hfound

/-- Distinct plugins of a list have bindings with distinct names. -/
theorem nodup_names_of_enabledBindings (hregistry : RegisteredByName registry)
    {routeName : String} {configured : List PluginInstance} {bindings : List PluginBinding}
    (hnodup : (configured.map PluginInstance.name).Nodup)
    (h : enabledBindings lib routeName registry configured = .ok bindings) :
    (bindings.map PluginBinding.name).Nodup := by
  have hnames : bindings.map PluginBinding.name =
      (configured.filter PluginInstance.enabled).map PluginInstance.name :=
    map_of_mapM_ok (fun _ _ => name_of_bindInstance hregistry) h
  rw [hnames]
  exact hnodup.sublist (List.filter_sublist.map _)

/-! ## The order of a chain -/

/-- What the chain is sorted by. -/
def sortKey (binding : PluginBinding) : ℤ ×ₗ String := toLex (binding.priority, binding.name)

/-- Of two bindings, each with whether it is the route's own, the first may run before the second:
by priority, then by name, then the global plugin before the route's own. -/
def RunsBefore (a b : Bool × PluginBinding) : Prop :=
  a.2.priority < b.2.priority ∨ a.2.priority = b.2.priority ∧
    (a.2.name < b.2.name ∨ a.2.name = b.2.name ∧ a.1 ≤ b.1)

/-- The source compares bindings by their sort keys. -/
theorem bindingLe_iff (a b : PluginBinding) : bindingLe a b ↔ sortKey a ≤ sortKey b := by
  rw [sortKey, sortKey, Prod.Lex.toLex_le_toLex, bindingLe]

theorem runsBefore_iff (a b : Bool × PluginBinding) :
    RunsBefore a b ↔ batchKey sortKey a ≤ batchKey sortKey b := by
  rw [batchKey, batchKey, sortKey, sortKey, Prod.Lex.toLex_le_toLex, Prod.Lex.toLex_lt_toLex,
    RunsBefore]
  simp only [EmbeddingLike.apply_eq_iff_eq, Prod.mk.injEq]
  tauto

/-- The stable sort of the source is the sort by keys. -/
theorem insertionSort_bindingLe (bindings : List PluginBinding) :
    bindings.insertionSort bindingLe = sortBy sortKey bindings :=
  insertionSort_congr (List.pairwise_of_forall bindingLe_iff)

/-- The chain has the bindings of the enabled global plugins and of the route's own, and runs them
in that order. -/
def CanonicalChain (lib : RegistryLib) (registry : AList fun _ : String => PluginMeta)
    (config : GatewayConfig) (route : RouteConfig) (chain : PluginChain) : Prop :=
  ∃ globals own, enabledBindings lib route.name registry config.plugins.global = .ok globals ∧
    enabledBindings lib route.name registry route.plugins = .ok own ∧
    ∃ placed : List (Bool × PluginBinding), placed.Perm (batches globals own) ∧
      placed.Pairwise RunsBefore ∧ chain.bindings = placed.map Prod.snd

/-- The bindings of a route make a canonical chain. -/
theorem canonicalChain_of_routeBindings {config : GatewayConfig} {route : RouteConfig}
    {bindings : List PluginBinding}
    (h : routeBindings lib config registry route = .ok bindings) :
    CanonicalChain lib registry config route ⟨bindings⟩ := by
  obtain ⟨globals, own, hglobals, hown, rfl⟩ := routeBindings_eq_ok_iff.mp h
  refine ⟨globals, own, hglobals, hown, sortBy (batchKey sortKey) (batches globals own),
    perm_sortBy, ?_, ?_⟩
  · exact pairwise_sortBy.imp fun {a b} hle => (runsBefore_iff a b).mpr hle
  · exact (insertionSort_bindingLe _).trans (sortBy_append sortKey globals own)

/-! ## Other orders of the plugin lists -/

/-- No list of the config has two plugins of one name. -/
structure DistinctPlugins (config : GatewayConfig) : Prop where
  global : (config.plugins.global.map PluginInstance.name).Nodup
  routes : ∀ route ∈ config.routes, (route.plugins.map PluginInstance.name).Nodup

/-- Validation sees to it that no list names a plugin twice. -/
theorem distinctPlugins_of_validate {urlOk : String → Bool} {config : GatewayConfig}
    (h : Validation.validate urlOk config = .ok ()) : DistinctPlugins config := by
  have haccepted := Validation.validate_ok_iff.mp h
  exact ⟨haccepted.globalPlugins.nodup,
    fun route hroute => (haccepted.routes route hroute).plugins.nodup⟩

/-- Within each batch no two bindings have the same place. -/
theorem eq_of_batchKey_eq {globals own : List PluginBinding}
    (hglobals : (globals.map PluginBinding.name).Nodup)
    (hown : (own.map PluginBinding.name).Nodup) {a b : Bool × PluginBinding}
    (ha : a ∈ batches globals own) (hb : b ∈ batches globals own)
    (hkey : batchKey sortKey a = batchKey sortKey b) : a = b := by
  have hbatch : a.1 = b.1 := congrArg (fun key => (ofLex key).2) hkey
  have hname : a.2.name = b.2.name := congrArg (fun key => (ofLex (ofLex key).1).2) hkey
  rw [batches, List.mem_append, List.mem_map, List.mem_map] at ha hb
  -- the key tells the batches apart, and within a batch the name is enough
  rcases ha with ⟨x, hx, rfl⟩ | ⟨x, hx, rfl⟩
  · rcases hb with ⟨y, hy, rfl⟩ | ⟨y, hy, rfl⟩
    · rw [List.inj_on_of_nodup_map hglobals hx hy hname]
    · exact absurd hbatch (by simp)
  · rcases hb with ⟨y, hy, rfl⟩ | ⟨y, hy, rfl⟩
    · exact absurd hbatch (by simp)
    · rw [List.inj_on_of_nodup_map hown hx hy hname]

/-- The enabled plugins of a list in another order. -/
theorem enabledBindings_of_perm {routeName : String} {configured configured' : List PluginInstance}
    (hperm : configured.Perm configured') {bindings : List PluginBinding}
    (h : enabledBindings lib routeName registry configured = .ok bindings) :
    ∃ bindings', enabledBindings lib routeName registry configured' = .ok bindings' ∧
      bindings.Perm bindings' :=
  perm_mapM_ok (hperm.filter _) h

/-- The routes differ at most in the order of their plugins. -/
def SameRoute (route route' : RouteConfig) : Prop :=
  ∃ plugins, route' = { route with plugins := plugins } ∧ route.plugins.Perm plugins

/-- The two configs differ at most in the order of their plugin lists. -/
def Reordered (config config' : GatewayConfig) : Prop :=
  ∃ global routes,
    config' = { config with
      plugins := { config.plugins with global := global }, routes := routes } ∧
    config.plugins.global.Perm global ∧ List.Forall₂ SameRoute config.routes routes

theorem SameRoute.symm {route route' : RouteConfig} (h : SameRoute route route') :
    SameRoute route' route := by
  obtain ⟨plugins, rfl, hperm⟩ := h
  exact ⟨route.plugins, rfl, hperm.symm⟩

theorem Reordered.symm {config config' : GatewayConfig} (h : Reordered config config') :
    Reordered config' config := by
  obtain ⟨global, routes, rfl, hglobal, hroutes⟩ := h
  refine ⟨config.plugins.global, config.routes, rfl, hglobal.symm, List.Forall₂.flip ?_⟩
  exact hroutes.imp fun _ _ => SameRoute.symm

/-- The other plugin settings are the same. -/
theorem Reordered.settings {config config' : GatewayConfig} (h : Reordered config config') :
    config'.plugins = { config.plugins with global := config'.plugins.global } := by
  obtain ⟨global, routes, rfl, -, -⟩ := h
  rfl

theorem Reordered.distinctPlugins {config config' : GatewayConfig} (h : Reordered config config')
    (hdistinct : DistinctPlugins config) : DistinctPlugins config' := by
  obtain ⟨global, routes, rfl, hglobal, hroutes⟩ := h
  have hpairs : List.Forall₂ (fun route' route : RouteConfig =>
      (route'.plugins.map PluginInstance.name).Nodup ∧ SameRoute route route')
      routes config.routes := by
    apply List.Forall₂.flip
    refine List.Forall₂.imp ?_ ((List.forall₂_and_left config.routes routes).mpr
      ⟨hdistinct.routes, hroutes⟩)
    intro route route' hpair
    obtain ⟨hnodup, plugins, rfl, hperm⟩ := hpair
    exact ⟨(hperm.map _).nodup_iff.mp hnodup, plugins, rfl, hperm⟩
  exact ⟨(hglobal.map _).nodup_iff.mp hdistinct.global,
    ((List.forall₂_and_left routes config.routes).mp hpairs).1⟩

/-- With distinct names the order of the lists does not matter. -/
theorem routeBindings_of_reordered (hregistry : RegisteredByName registry)
    {config config' : GatewayConfig} (hglobal : config.plugins.global.Perm config'.plugins.global)
    (hnodup : (config.plugins.global.map PluginInstance.name).Nodup) {route : RouteConfig}
    {plugins : List PluginInstance} (hplugins : route.plugins.Perm plugins)
    (hroute : (route.plugins.map PluginInstance.name).Nodup) {bindings : List PluginBinding}
    (h : routeBindings lib config registry route = .ok bindings) :
    routeBindings lib config' registry { route with plugins := plugins } = .ok bindings := by
  obtain ⟨globals, own, hglobals, hown, rfl⟩ := routeBindings_eq_ok_iff.mp h
  obtain ⟨globals', hglobals', hsame⟩ := enabledBindings_of_perm hglobal hglobals
  obtain ⟨own', hown', hsame'⟩ := enabledBindings_of_perm hplugins hown
  refine routeBindings_eq_ok_iff.mpr ⟨globals', own', hglobals', hown', ?_⟩
  rw [insertionSort_bindingLe, insertionSort_bindingLe, sortBy_append, sortBy_append]
  -- sorted by priority, name and batch, no two bindings are tied
  have hsorted := sortBy_eq_of_perm (perm_batches hsame hsame') fun a ha b hb hkey =>
    eq_of_batchKey_eq (nodup_names_of_enabledBindings hregistry hnodup hglobals)
      (nodup_names_of_enabledBindings hregistry hroute hown) ha hb hkey
  rw [hsorted]

/-- So the chains of all routes stay the same. -/
theorem buildChains_of_reordered (hregistry : RegisteredByName registry)
    {config config' : GatewayConfig} (hreordered : Reordered config config')
    (hdistinct : DistinctPlugins config) {chains : AList fun _ : String => PluginChain}
    (h : buildChains lib config registry = .ok chains) :
    buildChains lib config' registry = .ok chains := by
  obtain ⟨global, routes, rfl, hglobal, hroutes⟩ := hreordered
  -- both configs list the same routes in the same order, so the loops run side by side
  refine insertEach_of_forall₂ ?_ h
  have hmem := (List.forall₂_and_left config.routes routes).mpr
    ⟨fun route (hroute : route ∈ config.routes) => hroute, hroutes⟩
  refine hmem.imp ?_
  intro route route' hpair
  obtain ⟨hroute, plugins, rfl, hplugins⟩ := hpair
  refine ⟨rfl, fun chain hchain => ?_⟩
  obtain ⟨bindings, hbindings, rfl⟩ := map_eq_ok hchain
  have hsame := @routeBindings_of_reordered lib registry hregistry config
    { config with plugins := { config.plugins with global := global }, routes := routes }
    hglobal hdistinct.global route plugins hplugins (hdistinct.routes route hroute) bindings
    hbindings
  rw [hsame]
  rfl

/-! ## The runtime -/

section Runtime
variable {files : PluginFiles} {config : GatewayConfig} {generation : ℕ}

/-- The build from the plugins that were found. -/
theorem buildRuntime_of_registry (henabled : config.plugins.enabled = true)
    (hdirectory : files.pathExists config.plugins.directory = true)
    (hregistry : discoverPlugins lib files config.plugins.directory config.plugins.limits =
      .ok registry) :
    buildRuntime lib files config generation =
      (buildChains lib config registry).map fun chains =>
        ⟨generation, config.plugins.limits, chains⟩ := by
  rw [buildRuntime, if_pos henabled, if_pos hdirectory, hregistry]
  simp only
  cases buildChains lib config registry with
  | error e => rfl
  | ok chains => rfl

/-- The chains can be built if every enabled instance is loadable. -/
theorem buildChains_isOk_iff :
    (∃ chains, buildChains lib config registry = .ok chains) ↔
      ∀ route ∈ config.routes, ∀ inst ∈ config.plugins.global ++ route.plugins,
        inst.enabled = true → Loadable lib registry inst := by
  rw [buildChains, insertEach_isOk_iff]
  refine forall₂_congr fun route _ => ?_
  rw [List.forall_mem_append, ← @enabledBindings_isOk_iff lib registry route.name,
    ← @enabledBindings_isOk_iff lib registry route.name]
  constructor
  · intro h
    obtain ⟨chain, hchain⟩ := h
    obtain ⟨bindings, hbindings, -⟩ := map_eq_ok hchain
    obtain ⟨globals, own, hglobals, hown, -⟩ := routeBindings_eq_ok_iff.mp hbindings
    exact ⟨⟨globals, hglobals⟩, ⟨own, hown⟩⟩
  · intro h
    obtain ⟨⟨globals, hglobals⟩, ⟨own, hown⟩⟩ := h
    rw [routeBindings_eq_ok_iff.mpr ⟨globals, own, hglobals, hown, rfl⟩]
    exact ⟨_, rfl⟩

/-- What the plugins found make of a config that asks for plugins. -/
structure ChainsCanonical (lib : RegistryLib) (files : PluginFiles)
    (registry : AList fun _ : String => PluginMeta) (config : GatewayConfig) (generation : ℕ) :
    Prop where
  /-- A build fails only on a plugin that some route would run. -/
  builds_iff : (∃ runtime, buildRuntime lib files config generation = .ok runtime) ↔
    ∀ route ∈ config.routes, ∀ inst ∈ config.plugins.global ++ route.plugins,
      inst.enabled = true → Loadable lib registry inst
  /-- Every route has its chain, unless a later route has its name. -/
  chain : ∀ runtime, buildRuntime lib files config generation = .ok runtime →
    ∀ before route after, config.routes = before ++ route :: after →
      route.name ∉ after.map RouteConfig.name →
        ∃ chain, runtime.chains.lookup route.name = some chain ∧
          CanonicalChain lib registry config route chain
  /-- The order of the plugin lists does not matter. -/
  reordered : ∀ urlOk, Validation.validate urlOk config = .ok () →
    ∀ config', Reordered config config' → ∀ runtime,
      buildRuntime lib files config' generation = .ok runtime ↔
        buildRuntime lib files config generation = .ok runtime

end Runtime

end Chains

theorem plugin_chains_canonical {lib : RegistryLib} {files : PluginFiles} {config : GatewayConfig}
    {registry : AList fun _ : String => PluginMeta} (generation : ℕ)
    (henabled : config.plugins.enabled = true)
    (hdirectory : files.pathExists config.plugins.directory = true)
    (hregistry : discoverPlugins lib files config.plugins.directory config.plugins.limits =
      .ok registry) :
    ChainsCanonical lib files registry config generation := by
  have hbuild := @buildRuntime_of_registry lib registry files config generation henabled
    hdirectory hregistry
  refine ⟨?_, ?_, ?_⟩
  · rw [← buildChains_isOk_iff, hbuild, map_isOk_iff]
  · intro runtime hruntime before route after hroutes hlast
    rw [hbuild] at hruntime
    obtain ⟨chains, hchains, rfl⟩ := map_eq_ok hruntime
    rw [buildChains, hroutes] at hchains
    obtain ⟨chain, hchain, hlookup⟩ := lookup_insertEach_last hchains hlast
    obtain ⟨bindings, hbindings, rfl⟩ := map_eq_ok hchain
    exact ⟨_, hlookup, canonicalChain_of_routeBindings hbindings⟩
  · intro urlOk hvalid config' hreordered runtime
    have hnames := registeredByName_discoverPlugins hregistry
    have hdistinct := distinctPlugins_of_validate hvalid
    have hdistinct' := hreordered.distinctPlugins hdistinct
    -- the two builds succeed together, and with the same chains
    have hsame : ∀ chains, buildChains lib config' registry = .ok chains ↔
        buildChains lib config registry = .ok chains := fun chains =>
      ⟨buildChains_of_reordered hnames hreordered.symm hdistinct',
        buildChains_of_reordered hnames hreordered hdistinct⟩
    -- the registry is that of the directory, which the order does not change
    have hbuild' : buildRuntime lib files config' generation =
        (buildChains lib config' registry).map fun chains =>
          ⟨generation, config.plugins.limits, chains⟩ := by
      have hsettings := hreordered.settings
      have hlimits : config'.plugins.limits = config.plugins.limits := by rw [hsettings]
      rw [← hlimits]
      apply buildRuntime_of_registry
      · rw [hsettings]
        exact henabled
      · rw [hsettings]
        exact hdirectory
      · rw [hsettings]
        exact hregistry
    rw [hbuild, hbuild', map_eq_ok_iff, map_eq_ok_iff]
    simp only [hsame]

/-- A plugin directory with one file of each name. -/
def pluginDirectory (names : List String) : PluginFiles where
  pathExists _ := true
  readDir _ := .ok (names.map fun name =>
    .ok ⟨s!"plugins/{name}.lua", some "lua", some name, .ok (pluginText "")⟩)

/-- A route with two plugins, one of which is configured globally as well. -/
def twicePlugged : GatewayConfig :=
  { Validation.minimalConfig
      [{ Validation.minimalRoute "r" ["*"] "/" with plugins := [⟨"waf", true, "open", .null⟩,
        ⟨"audit", true, "closed", .null⟩] }] with
    plugins := ⟨true, "plugins", {}, [⟨"waf", true, "closed", .null⟩]⟩ }

def auditAndWaf : AList fun _ : String => PluginMeta :=
  (AList.insert "waf" ⟨"waf", 10, "1.0.0", pluginText "", some settingsSchema⟩
    (AList.insert "audit" ⟨"audit", 10, "1.0.0", pluginText "", some settingsSchema⟩ ∅))

theorem plugin_chains_canonical_twicePlugged :
    twicePlugged.plugins.enabled = true ∧
    (pluginDirectory ["audit", "waf"]).pathExists twicePlugged.plugins.directory = true ∧
    discoverPlugins textPlugins (pluginDirectory ["audit", "waf"]) twicePlugged.plugins.directory
      twicePlugged.plugins.limits = .ok auditAndWaf ∧
    ChainsCanonical textPlugins (pluginDirectory ["audit", "waf"]) auditAndWaf twicePlugged 1 :=
  ⟨rfl, rfl, rfl, plugin_chains_canonical 1 rfl rfl rfl⟩

/-- A config without routes, with a global plugin that is not there. -/
def unrouted : GatewayConfig :=
  { Validation.minimalConfig [] with
    plugins := ⟨true, "plugins", {}, [⟨"missing", true, "closed", .null⟩]⟩ }

/-- A route with one plugin, before a route of the same name without plugins. -/
def pluggedRoute : RouteConfig :=
  { Validation.minimalRoute "r" ["*"] "/a" with plugins := [⟨"audit", true, "closed", .null⟩] }

def sameNames : GatewayConfig :=
  { Validation.minimalConfig [pluggedRoute, Validation.minimalRoute "r" ["*"] "/b"] with
    plugins := ⟨true, "plugins", {}, []⟩ }

def auditOnly : AList fun _ : String => PluginMeta :=
  AList.insert "audit" ⟨"audit", 10, "1.0.0", pluginText "", some settingsSchema⟩ ∅

theorem not_canonicalChain_nil :
    ¬ CanonicalChain textPlugins auditOnly sameNames pluggedRoute ⟨[]⟩ := by
  rintro ⟨globals, own, -, hown, placed, hperm, -, hbindings⟩
  have hplaced : placed = [] := List.map_eq_nil_iff.mp hbindings.symm
  rw [hplaced] at hperm
  -- the route's own plugin would have to be in the chain
  have hempty : globals = [] ∧ own = [] := by simpa [batches] using hperm.nil_eq.symm
  rw [hempty.2] at hown
  exact absurd (Except.ok.inj hown) (by simp)

/-- Without routes nothing is looked up, so that a missing global plugin is not noticed; and a
route whose name is used again loses its chain to the later one. -/
theorem plugins_unseen_or_replaced :
    (Validation.validate (fun _ => true) unrouted = .ok () ∧
      discoverPlugins textPlugins (pluginDirectory []) unrouted.plugins.directory
        unrouted.plugins.limits = .ok ∅ ∧
      ¬ ((∃ runtime, buildRuntime textPlugins (pluginDirectory []) unrouted 1 = .ok runtime) ↔
        ∀ inst ∈ unrouted.plugins.global ++ unrouted.routes.flatMap RouteConfig.plugins,
          inst.enabled = true → Loadable textPlugins ∅ inst)) ∧
    discoverPlugins textPlugins (pluginDirectory ["audit"]) sameNames.plugins.directory
      sameNames.plugins.limits = .ok auditOnly ∧
    pluggedRoute ∈ sameNames.routes ∧
    ∃ runtime, buildRuntime textPlugins (pluginDirectory ["audit"]) sameNames 1 = .ok runtime ∧
      runtime.chains.lookup pluggedRoute.name = some ⟨[]⟩ ∧
      ¬ CanonicalChain textPlugins auditOnly sameNames pluggedRoute ⟨[]⟩ := by
  refine ⟨⟨by decide, rfl, fun h => ?_⟩, rfl, List.mem_cons_self, _, rfl, rfl,
    not_canonicalChain_nil⟩
  obtain ⟨found, hfound, -⟩ := h.mp ⟨_, rfl⟩ _ List.mem_cons_self rfl
  exact absurd hfound (by simp)

end Plugins
end OpenApiGateway
