import PageBridge.Installation.Request
import PageBridge.Script.Loaded
import PageBridge.Script.Template

/-!
# Plans of installations

A plan is a request with all its scripts loaded.  A request fails when it is not valid or when a
script that the bridge needs cannot be loaded; user scripts never make it fail.
-/

namespace PageBridge.Installation

open PageBridge.Script (Loader Loaded)

/-- All that an installation puts into an engine. -/
structure Plan where
  nspace : String
  allowedOrigins : List String
  invokeKey : String
  channelSource : Option String
  pageBootstrap : String
  bridgeBootstrap : String
  userScripts : List Loaded
deriving DecidableEq, Repr

/-- Loads the script at a path, if there is one. -/
def loadOptional (loader : Loader) : Option String → Except Error (Option String)
  | none => .ok none
  | some path => (loader path).map some

/-- Makes the plan of a request. -/
def Plan.resolve (loader : Loader) (request : Request) : Except Error Plan := do
  request.validate
  let pageTemplate ← loader Script.pageBootstrapPath
  let bridgeTemplate ← loader Script.bridgeBootstrapPath
  let channelSource ← loadOptional loader request.channelPath?
  return {
    nspace := request.nspace
    allowedOrigins := request.allowedOrigins
    invokeKey := request.invokeKey
    channelSource
    pageBootstrap := Script.fill pageTemplate request.nspace request.invokeKey
    bridgeBootstrap := Script.fill bridgeTemplate request.nspace request.invokeKey
    userScripts := Script.loadAll loader request.userScripts }

end PageBridge.Installation
