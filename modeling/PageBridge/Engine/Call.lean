import PageBridge.Engine.Completion
import PageBridge.Engine.World

/-!
# Calls into an engine

A bridge acts on an engine by calls.  `Engine` is what lives in an engine, and `Engine.replay` finds
it from the calls that were made.
-/

namespace PageBridge

/-- A script that an engine runs at the start of every document. -/
structure UserScript where
  source : String
  mainFrameOnly : Bool
  world : World
deriving DecidableEq, Repr

/-- A call into an engine. -/
inductive Call where
  | addHandler (name : String) (world : World)
  | removeHandler (name : String) (world : World)
  | addScript (script : UserScript)
  | removeAllScripts
  | evaluate (source : String) (world : World) (completion : Option Completion)
deriving DecidableEq, Repr

/-- What lives in an engine: message handlers, user scripts, and the completions of evaluations that
are not finished, oldest first. -/
structure Engine where
  handlers : List (String × World)
  scripts : List UserScript
  pending : List Completion
deriving DecidableEq, Repr

namespace Engine

/-- The engine in which nothing lives. -/
def empty : Engine := ⟨[], [], []⟩

/-- The engine after a call. -/
def perform (engine : Engine) : Call → Engine
  | .addHandler name world => { engine with handlers := engine.handlers ++ [(name, world)] }
  | .removeHandler name world =>
    { engine with handlers := engine.handlers.filter (· ≠ (name, world)) }
  | .addScript script => { engine with scripts := engine.scripts ++ [script] }
  | .removeAllScripts => { engine with scripts := [] }
  | .evaluate _ _ completion => { engine with pending := engine.pending ++ completion.toList }

/-- The oldest evaluation that is not finished, and the engine without it. -/
def finish? (engine : Engine) : Option (Completion × Engine) :=
  match engine.pending with
  | [] => none
  | completion :: pending => some (completion, { engine with pending })

/-- The engine after calls. -/
def replay (engine : Engine) (calls : List Call) : Engine :=
  calls.foldl perform engine

/-! ## Laws -/

@[simp]
theorem replay_nil (engine : Engine) : engine.replay [] = engine := rfl

/-- Calls are carried out in their order. -/
@[simp]
theorem replay_cons (engine : Engine) (call : Call) (calls : List Call) :
    engine.replay (call :: calls) = (engine.perform call).replay calls := rfl

/-- What follows other calls is carried out on what they leave. -/
@[simp]
theorem replay_append (engine : Engine) (calls more : List Call) :
    engine.replay (calls ++ more) = (engine.replay calls).replay more :=
  List.foldl_append

end Engine

end PageBridge
