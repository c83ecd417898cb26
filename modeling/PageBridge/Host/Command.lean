import PageBridge.Bridge.Basic
import PageBridge.Host.Options

/-!
# Commands to views

Actions on a view are queued as commands, which the next pump carries out.
-/

namespace PageBridge.Host

/-- The number of a view. -/
abbrev ViewId := Nat

/-- A rectangle of the screen. -/
structure Area where
  x : Json.Double
  y : Json.Double
  width : Json.Double
  height : Json.Double
deriving DecidableEq, Repr

/-- A command to one view.  A bridge is installed with a plan, or torn down without one. -/
inductive Command where
  | create (options : Options)
  | loadUrl (url : String)
  | loadHtml (html : String) (baseUrl : Option String)
  | reload
  | place (area : Area)
  | setVisible (visible : Bool)
  | close
  | install (plan : Option Installation.Plan)
  | post (json : String)
  | send (message : Json.Value)
  | run (script : String)
  | updateOrigins (origins : List String)
  | setScripts (scripts : List Script.Loaded)
  | removeScripts
deriving Repr

namespace Command

/-- Whether a command closes its view. -/
def isClose : Command → Bool
  | close => true
  | _ => false

/-- What a command asks of the bridge of its view. -/
def bridgeAction? : Command → Option Bridge.Action
  | install (some plan) => some (.manage (.apply plan))
  | install none => some (.manage .uninstall)
  | post json => some (.manage (.post json))
  | send message => some (.send message)
  | run script => some (.run script)
  | updateOrigins origins => some (.manage (.updateOrigins origins))
  | setScripts scripts => some (.manage (.replaceScripts scripts))
  | removeScripts => some (.manage .removeScripts)
  | _ => none

end Command

end PageBridge.Host
