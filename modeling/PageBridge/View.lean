import PageBridge.Bridge.Basic
import PageBridge.Engine.EventQueue

/-!
# Views

A view is a bridge at work: with the engine that carries out its calls and the queue in which the
events of the engine wait.  Evaluations finish in the order in which they were asked for, and a view
that is closed still tells their outcomes.
-/

namespace PageBridge

/-- A view, which has a bridge until it is closed. -/
structure View where
  bridge : Option Bridge
  engine : Engine
  queue : EventQueue Unit

namespace View

/-- What happens to a view. -/
inductive Action where
  | act (action : Bridge.Action)
  | finish (outcome : Outcome)
  | defer (event : EngineEvent)
  | deferFinish (outcome : Outcome)
  | drain
  | close

/-- A new view on an engine in which nothing lives. -/
def fresh (home : World) (capacity : Nat) : View :=
  ⟨some (.fresh home), .empty, .empty capacity⟩

/-- The view after its bridge changed with some effects. -/
def settle (v : View) (bridge : Option Bridge) (effects : List Effect) : View × List Effect :=
  ({ v with bridge, engine := v.engine.replay (effects.filterMap Effect.call?) }, effects)

/-- The bridge after events, and their effects. -/
def handleAll (bridge : Option Bridge) (events : List EngineEvent) : Option Bridge × List Effect :=
  match bridge with
  | some b =>
    let (b, effects) := b.run (events.map .handle)
    (some b, effects)
  | none => (none, events.filterMap EngineEvent.orphanEffect?)

/-- The view with an event at the end of its queue, if the queue takes it. -/
def enqueue (v : View) (event : EngineEvent) : View :=
  { v with queue := v.queue.push () event }

/-- The view after an action, and its effects. -/
def step (v : View) : Action → View × List Effect
  | .act action =>
    match v.bridge with
    | some b => v.settle (some (b.after action)) (b.effects action)
    | none => (v, [])
  | .finish outcome =>
    match v.engine.finish? with
    | some (completion, engine) => ({ v with engine }, [completion.run outcome])
    | none => (v, [])
  | .defer event => (v.enqueue event, [])
  | .deferFinish outcome =>
    match v.engine.finish? with
    | some (completion, engine) =>
      ({ v with engine }.enqueue (.evaluated completion outcome), [])
    | none => (v, [])
  | .drain =>
    let (bridge, effects) := handleAll v.bridge (v.queue.toList.map (·.2))
    { v with queue := v.queue.drained }.settle bridge effects
  | .close =>
    match v.bridge with
    | some b => v.settle none (b.effects (.manage .uninstall))
    | none => (v, [])

/-- The view after actions, and their effects in order. -/
def run (v : View) : List Action → View × List Effect
  | [] => (v, [])
  | action :: actions =>
    let (last, effects) := (v.step action).1.run actions
    (last, (v.step action).2 ++ effects)

end View

end PageBridge
