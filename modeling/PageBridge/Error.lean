/-!
# Errors of a bridge

What makes an operation on a bridge fail.  A message that is refused is no error: it is dropped,
for one of the reasons of `Rejection`.
-/

namespace PageBridge

/-- Why an operation on a bridge fails. -/
inductive Error where
  | configuration (reason : String)
  | scriptLoad (path reason : String)
  | scriptRun (message : String)
deriving DecidableEq, Repr

/-- The words for an error. -/
def Error.message : Error → String
  | configuration reason => "Invalid bridge configuration: " ++ reason
  | scriptLoad path reason => "Failed to load script " ++ path ++ ": " ++ reason
  | scriptRun message => "Script execution failed: " ++ message

end PageBridge
