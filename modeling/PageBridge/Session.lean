/-!
# Sessions

A session is what one installation of a bridge agreed on with its page.
-/

namespace PageBridge

/-- The state that messages are checked against. -/
structure Session where
  installed : Bool
  nspace : String
  invokeKey : String
  allowedOrigins : List String
deriving DecidableEq, Repr

/-- The session while no bridge is installed. -/
def Session.none : Session := ⟨false, "", "", []⟩

end PageBridge
