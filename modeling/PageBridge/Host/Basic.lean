import PageBridge.Host.Pending
import PageBridge.Script.Loaded

/-!
# Hosts

A host gives numbers to views, keeps their configurations and callbacks, and queues commands to
them until it is pumped.  It has no engine of its own: a platform is there or not, and the platform
of this host refuses every command, so no view ever gets a bridge.
-/

namespace PageBridge

open PageBridge.Host (Options ViewId Command Callbacks Pending)

namespace Host

/-- The greatest number of 32 bits, at which a host stops to number views. -/
def maxId : ViewId := 4294967295

/-- The namespace of a view that is created without one. -/
def defaultNspace : String := "qt"

/-- What a view makes the requests for its bridge with. -/
structure Config where
  store : Script.Store
  nspace : String
  userScripts : List Script.Descriptor
deriving DecidableEq, Repr

/-- The configuration of a new view. -/
def Config.ofOptions (options : Options) : Config where
  store := { Script.Store.bootstrap with root := options.resourceRoot }
  nspace := options.nspace.getD defaultNspace
  userScripts := (options.userScripts.map Script.Descriptor.ofEntries).getD []

/-- Why a host refuses to do something. -/
inductive Error where
  | unsupportedPlatform
  | notReady
  | idsExhausted
  | noView (id : ViewId)
  | badMessage (reason : String)
  | blockedUrl
  | noEngine
deriving DecidableEq, Repr

/-- The words for an error. -/
def Error.message : Error → String
  | unsupportedPlatform => "Unsupported platform. Only macOS is supported."
  | notReady => "Native webview system not initialized. Call init() first."
  | idsExhausted => "View ID space exhausted (u32 overflow)"
  | noView id => "View " ++ toString id ++ " not found"
  | badMessage reason => "Invalid channel message: " ++ reason
  | blockedUrl =>
    "Blocked: only http:, https: and file: URLs are allowed in loadUrl(). " ++
      "Use loadHtml() for HTML content."
  | noEngine => "No webview engine on this platform"

/-- What the machine offers to views. -/
structure Runtime where
  available : Bool
  isolatedWorlds : Bool
  platform : String
deriving DecidableEq, Repr

/-- This machine, which has no engine. -/
def runtime : Runtime := ⟨false, false, "unsupported"⟩

/-- What can be seen of the bridge of a view. -/
structure ViewState where
  installed : Bool
  loading : Bool
  loaded : Bool
  url : String
deriving DecidableEq, Repr

/-- The state of a view that has no bridge. -/
def ViewState.bare : ViewState := ⟨false, false, false, ""⟩

/-- The state of a view with its bridge. -/
def ViewState.ofBridge (b : Bridge) : ViewState where
  installed := b.installation.session.installed
  loading := b.navigation.isLoading
  loaded := b.navigation.isLoaded
  url := b.navigation.url

end Host

/-- A host of views. -/
structure Host where
  nextId : ViewId
  commands : Array (ViewId × Command)
  callbacks : Keyed ViewId Callbacks
  configs : Keyed ViewId Host.Config
  ready : Bool
  hasPlatform : Bool
  pending : Pending

namespace Host

/-- A host at the start of a program. -/
def fresh : Host := ⟨1, #[], [], [], false, false, .empty⟩

/-- Queues a command to a view. -/
def push (h : Host) (id : ViewId) (command : Command) : Host :=
  { h with commands := h.commands.push (id, command) }

/-- The configuration of a view. -/
def config (h : Host) (id : ViewId) : Except Error Config :=
  match h.configs.get? id with
  | some config => .ok config
  | none => .error (.noView id)

/-- Forgets a view. -/
def remove (h : Host) (id : ViewId) : Host :=
  { h with callbacks := h.callbacks.erase id, configs := h.configs.erase id }

end Host

end PageBridge
