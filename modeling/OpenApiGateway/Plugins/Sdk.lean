import OpenApiGateway.Lib.Text
import OpenApiGateway.Plugins.Types

/-!
# The gateway API inside Lua

`controlplane/src/plugins/sdk.rs`: the functions a plugin can call, and the state they
write to, which one chain of plugins shares.

A Lua function is seen here only through its calls of this API: `LuaProg` is the tree of
calls it can make, each with what it does on every reply. A call that fails raises a Lua
error, which ends the function unless the call is under `pcall`. Of `mlua` we use that an
error returned by a Rust callback and not caught in Lua comes out of `Function::call` as a
`CallbackError` around it.
-/

namespace OpenApiGateway
namespace Plugins

open Lib.Text

/-! ## Lua functions -/

/-- An `mlua` error, as far as the executor looks at it. -/
inductive LuaError where
  | runtimeError (message : String)
  | callbackError (cause : LuaError)
  | other (message : String)
deriving DecidableEq

/-- A call of a function of the `gateway` table. -/
inductive GatewayCall where
  | getHeader (name : String)
  | getMethod
  | getPath
  | getHost
  | setResponseHeader (name value : String)
  | exit (status : ℕ) (body : Option String)
  | setServiceHeader (name value : String)
  | log (level message : String)
  | getRouteName
  | getPluginName
  | getPluginVersion
deriving DecidableEq

/-- A Lua function as a tree of its calls; `ω` is the state of the Lua VM. -/
inductive LuaProg (ω : Type) where
  | done (vm : ω)
  | raise (error : LuaError) (vm : ω)
  | call (vm : ω) (api : GatewayCall) (next : Option String → LuaProg ω)
  | pcall (api : GatewayCall) (next : Option String → LuaProg ω) (caught : LuaError → LuaProg ω)

/-! ## The API -/

def exitSentinel : String := "__gateway_plugin_exit__"

def reservedHeaderPrefixes : List String := ["x-auth-", "x-ratelimit-", "x-envoy-"]

/-- What one chain of plugins has set so far. -/
structure RuntimeState where
  upstreamHeaders : PluginHeaders
  responseHeaders : PluginHeaders
  shortCircuit : Option PluginExit

def RuntimeState.new : RuntimeState := ⟨∅, ∅, none⟩

def isExitError : LuaError → Bool
  | .runtimeError message => message == exitSentinel
  | _ => false

/-- The name starts with one of the prefixes plugins may not set. -/
def isReserved (name : String) : Bool :=
  reservedHeaderPrefixes.any fun start => startsWith name start

/-- Run one API function: its reply or error, and the state it leaves. -/
def callGateway (request : PluginRequest) (binding : PluginBinding) (st : RuntimeState) :
    GatewayCall → Except LuaError (Option String) × RuntimeState
  | .getHeader name =>
    (.ok ((request.headers.find? fun h => eqIgnoreAsciiCase h.1 name).map Prod.snd), st)
  | .getMethod => (.ok (some request.method), st)
  | .getPath => (.ok (some request.path), st)
  | .getHost => (.ok (some request.host), st)
  | .setResponseHeader name value =>
    -- no check on the name here, unlike for upstream headers
    (.ok none,
      { st with responseHeaders := st.responseHeaders.insert (toAsciiLowercase name) value })
  | .exit status body =>
    -- a Lua error, which the plugin may catch; the exit stays recorded
    (.error (.runtimeError exitSentinel),
      { st with shortCircuit := some ⟨status, body, binding.name⟩ })
  | .setServiceHeader name value =>
    let lower := toAsciiLowercase name
    if isReserved lower then
      (.error (.runtimeError s!"header '{name}' is reserved and cannot be set by plugins"), st)
    else (.ok none, { st with upstreamHeaders := st.upstreamHeaders.insert lower value })
  | .log _ _ => (.ok none, st)
  | .getRouteName => (.ok (some request.routeName), st)
  | .getPluginName => (.ok (some binding.name), st)
  | .getPluginVersion => (.ok (some binding.version), st)

/-! ## Running a function -/

/-- How a call of a Lua function from Rust ends. -/
structure LuaRun (ω : Type) where
  result : Except LuaError Unit
  runtime : RuntimeState
  vm : ω

/-- `function.call(..)`: follow the tree, with the replies of the API. -/
def LuaProg.run {ω : Type} (request : PluginRequest) (binding : PluginBinding) :
    LuaProg ω → RuntimeState → LuaRun ω
  | .done vm, st => ⟨.ok (), st, vm⟩
  | .raise error vm, st => ⟨.error error, st, vm⟩
  | .call vm api next, st =>
    match callGateway request binding st api with
    | (.ok reply, st') => (next reply).run request binding st'
    | (.error error, st') => ⟨.error (.callbackError error), st', vm⟩
  | .pcall api next caught, st =>
    match callGateway request binding st api with
    | (.ok reply, st') => (next reply).run request binding st'
    | (.error error, st') => (caught error).run request binding st'

/-- The function ends in a call `exit(status, body)` that it does not catch. -/
def LuaProg.ExitsWith {ω : Type} (request : PluginRequest) (binding : PluginBinding)
    (status : ℕ) (body : Option String) : LuaProg ω → RuntimeState → Prop
  | .done _, _ => False
  | .raise _ _, _ => False
  | .call _ api next, st =>
    match callGateway request binding st api with
    | (.ok reply, st') => (next reply).ExitsWith request binding status body st'
    | (.error _, _) => api = .exit status body
  | .pcall api next caught, st =>
    match callGateway request binding st api with
    | (.ok reply, st') => (next reply).ExitsWith request binding status body st'
    | (.error error, st') => (caught error).ExitsWith request binding status body st'

/-- A function that ends in an uncaught exit leaves the exit in the shared state and comes
back as a callback error, which is not the sentinel itself. -/
theorem LuaProg.run_of_exitsWith {ω : Type} {request : PluginRequest} {binding : PluginBinding}
    {status : ℕ} {body : Option String} {prog : LuaProg ω} {st : RuntimeState}
    (h : prog.ExitsWith request binding status body st) :
    (prog.run request binding st).result =
        .error (.callbackError (.runtimeError exitSentinel)) ∧
      (prog.run request binding st).runtime.shortCircuit = some ⟨status, body, binding.name⟩ := by
  induction prog generalizing st with
  | done vm => exact absurd h id
  | raise error vm => exact absurd h id
  | call vm api next ih =>
    unfold LuaProg.ExitsWith at h
    unfold LuaProg.run
    split at h
    · rename_i reply _ _
      exact ih reply h
    · rename_i error st' hcall
      -- the failed call is the exit itself
      subst h
      simp only [callGateway, Prod.mk.injEq, Except.error.injEq] at hcall
      rw [← hcall.1, ← hcall.2]
      exact ⟨rfl, rfl⟩
  | pcall api next caught ihnext ihcaught =>
    unfold LuaProg.ExitsWith at h
    unfold LuaProg.run
    split at h
    · rename_i reply _ _
      exact ihnext reply h
    · rename_i error _ _
      exact ihcaught error h

end Plugins
end OpenApiGateway
