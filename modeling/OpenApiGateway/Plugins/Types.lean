import Mathlib.Data.List.AList
import OpenApiGateway.Config.Types

/-!
# Plugin types

The types of `controlplane/src/plugins/types.rs`: the runtime the engine swaps on reload,
and what the engine exchanges with the check service.
-/

namespace OpenApiGateway
namespace Plugins

/-- A JSON value, the form in which a plugin gets its config. -/
inductive JsonValue where
  | null
  | bool (b : Bool)
  | number (n : F64)
  | string (s : String)
  | array (items : List JsonValue)
  | object (fields : List (String × JsonValue))

/-- One configured plugin bound to a route. -/
structure PluginBinding where
  id : String
  name : String
  priority : ℤ
  version : String
  failOpen : Bool
  source : String
  config : JsonValue

/-- Ordered plugin chain for one route. -/
structure PluginChain where
  bindings : List PluginBinding := []

/-- Shared engine state swapped atomically on reload. -/
structure PluginRuntime where
  generation : ℕ
  limits : PluginLimits
  chains : AList fun _ : String => PluginChain

/-- Metadata discovered from a Lua plugin file. -/
structure PluginMeta where
  name : String
  priority : ℤ
  version : String
  source : String
  schema : Option JsonValue

/-- The text of a plugin with a version, a priority, a schema that every config meets, and these
further members. -/
def pluginText (members : String) : String :=
  "return \x7b VERSION = '1.0.0', PRIORITY = 10, SCHEMA = \x7b title = 'settings' \x7d" ++
    members ++ " \x7d"

/-- Headers set by plugins: a hash map from lower-case names. -/
abbrev PluginHeaders := AList fun _ : String => String

/-- Request view exposed to the plugin engine. -/
structure PluginRequest where
  routeName : String
  host : String
  method : String
  path : String
  headers : List (String × String)
deriving DecidableEq

/-- Short-circuit response requested by a plugin. -/
structure PluginExit where
  status : ℕ
  body : Option String
  pluginName : String
deriving DecidableEq

/-- Classified plugin runtime failures. -/
inductive PluginErrorType where
  | runtime
  | memory
  | timeout
deriving DecidableEq

def PluginErrorType.asStr : PluginErrorType → String
  | runtime => "runtime"
  | memory => "memory"
  | timeout => "timeout"

/-- Errors during engine load or execution. -/
inductive PluginError where
  | missingDirectory (directory : String)
  | missingPlugin (name : String)
  | schemaValidation (name reason : String)
  | load (name reason : String)
  | runtime (name reason : String)
deriving DecidableEq

def PluginError.display : PluginError → String
  | missingDirectory directory => s!"plugin directory '{directory}' does not exist"
  | missingPlugin name => s!"plugin '{name}' is configured but no Lua file was found"
  | schemaValidation name reason => s!"plugin '{name}' failed schema validation: {reason}"
  | load name reason => s!"plugin '{name}' failed to load: {reason}"
  | runtime name reason => s!"plugin '{name}' runtime error: {reason}"

/-- Result of the access phase. -/
inductive PluginAccessResult where
  | continue (upstreamHeaders responseHeaders : PluginHeaders) (chainDurationUs : ℕ)
  | shortCircuit (pluginName : String) (status : ℕ) (body : Option String)
      (headers : PluginHeaders) (chainDurationUs : ℕ)
  | error (pluginName message : String) (errorType : PluginErrorType) (chainDurationUs : ℕ)
deriving DecidableEq

end Plugins
end OpenApiGateway
