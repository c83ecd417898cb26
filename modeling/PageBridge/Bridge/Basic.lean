import PageBridge.Bridge.Effect
import PageBridge.Engine.Event
import PageBridge.Installation.Basic
import PageBridge.Json.Render

/-!
# Bridges

A bridge joins the installation in the engine of one view with the navigation of its page and the
channel of its application.  Every action gives the bridge after it and its effects, in their order.
-/

namespace PageBridge

/-- The bridge of one view. -/
structure Bridge where
  installation : Installation
  navigation : Navigation
  hasChannel : Bool
deriving DecidableEq, Repr

namespace Bridge

/-- The bridge of a new view. -/
def fresh (home : World) : Bridge := ⟨.vacant home, .idle, false⟩

/-! ## Engine events -/

/-- The bridge after an engine event. -/
def afterEvent (b : Bridge) : EngineEvent → Bridge
  | .navigated step => { b with navigation := b.navigation.after step }
  | _ => b

/-- The effects of a message that is let in: the channel has it before the owner. -/
def messageEffects (b : Bridge) (message : Message) : List Effect :=
  (if b.hasChannel then [.channel message] else []) ++ [.received message]

/-- Whether a posting reaches the application. -/
def takes (b : Bridge) (posting : Posting) : Bool :=
  (b.installation.accept? posting).isSome

/-- The effects of an engine event. -/
def eventEffects (b : Bridge) : EngineEvent → List Effect
  | .posted posting =>
    match b.installation.accept? posting with
    | some message => b.messageEffects message
    | none => []
  | .navigated step => (b.navigation.changes step).map .changed
  | .evaluated completion outcome => [completion.run outcome]

/-! ## Actions -/

/-- What can be done with a bridge. -/
inductive Action where
  | manage (action : Installation.Action)
  | setChannel
  | send (message : Json.Value)
  | run (script : String)
  | handle (event : EngineEvent)

/-- What an action does with the installation. -/
def Action.managed? : Action → Option Installation.Action
  | manage action => some action
  | send message => some (.post message.render)
  | run script => some (.evaluate script (some .report))
  | setChannel => none
  | handle _ => none

/-- The bridge after an action. -/
def after (b : Bridge) (action : Action) : Bridge :=
  match action with
  | .setChannel => { b with hasChannel := true }
  | .handle event => b.afterEvent event
  | action =>
    match action.managed? with
    | some managed => { b with installation := b.installation.after managed }
    | none => b

/-- The effects of an action. -/
def effects (b : Bridge) (action : Action) : List Effect :=
  match action with
  | .handle event => b.eventEffects event
  | action =>
    match action.managed? with
    | some managed => (b.installation.calls managed).map .call
    | none => []

/-- The bridge after actions, and their effects. -/
def run (b : Bridge) : List Action → Bridge × List Effect
  | [] => (b, [])
  | action :: actions =>
    let (last, effects) := (b.after action).run actions
    (last, b.effects action ++ effects)

end Bridge

end PageBridge
