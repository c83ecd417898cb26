import PageBridge.Engine.Completion
import PageBridge.Message.Posting
import PageBridge.Navigation

/-!
# Engine events

What an engine tells about a view.  Events arrive while the host is busy, so they wait in a queue
until they are handled.
-/

namespace PageBridge

/-- Something that an engine reports about one view. -/
inductive EngineEvent where
  | posted (posting : Posting)
  | navigated (step : Navigation.Step)
  | evaluated (completion : Completion) (outcome : Outcome)
deriving Repr

/-- Whether an event may be dropped; the outcome of an evaluation is owed to whoever asked. -/
def EngineEvent.isDroppable : EngineEvent → Bool
  | evaluated _ _ => false
  | _ => true

end PageBridge
