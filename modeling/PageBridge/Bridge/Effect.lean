import PageBridge.Engine.Call
import PageBridge.Engine.Event

/-!
# Effects of a bridge

A bridge acts on its engine, hands messages to its channel and tells its owner what happens.
-/

namespace PageBridge

/-- Something that a bridge does to what is around it. -/
inductive Effect where
  | call (call : Call)
  | channel (message : Message)
  | received (message : Message)
  | result (result error : String)
  | changed (change : Navigation.Change)
  | completed (label : String) (outcome : Outcome)
deriving DecidableEq, Repr

namespace Effect

/-- The call that an effect is. -/
def call? : Effect → Option Call
  | call c => some c
  | _ => none

/-- The message that an effect hands to the channel. -/
def channel? : Effect → Option Message
  | channel message => some message
  | _ => none

/-- The message that an effect tells the owner of. -/
def received? : Effect → Option Message
  | received message => some message
  | _ => none

end Effect

/-- The report of an outcome to the owner, with an empty text for what there is not. -/
def Outcome.report : Outcome → Effect
  | value result => .result result ""
  | failure error => .result "" error

/-- Tells an outcome to whoever asked for it. -/
def Completion.run (outcome : Outcome) : Completion → Effect
  | report => outcome.report
  | caller label => .completed label outcome

/-- What is left of an event when its view has no bridge: the outcome of an evaluation still goes to
whoever asked for it. -/
def EngineEvent.orphanEffect? : EngineEvent → Option Effect
  | evaluated completion outcome => some (completion.run outcome)
  | _ => none

end PageBridge
