/-!
# Outcomes of evaluations

An engine evaluates a script and later tells the outcome to whoever asked.
-/

namespace PageBridge

/-- How an evaluation ends: with the text of its result, or with an error. -/
inductive Outcome where
  | value (result : String)
  | failure (error : String)
deriving DecidableEq, Repr

/-- Who is told the outcome of an evaluation: the owner of the bridge, by an event, or a caller who
gave a label. -/
inductive Completion where
  | report
  | caller (label : String)
deriving DecidableEq, Repr

end PageBridge
