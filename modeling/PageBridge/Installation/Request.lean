import PageBridge.Error
import PageBridge.Script.Descriptor
import PageBridge.Text.Quoted

/-!
# Requests for an installation

The namespace of a bridge becomes the name of a global variable of the page, so it must be an
identifier, and its invoke key must not be blank.
-/

namespace PageBridge.Installation

open PageBridge.Text

/-- What to install a bridge with. -/
structure Request where
  nspace : String
  allowedOrigins : List String
  invokeKey : String
  channelPath : Option String
  userScripts : List Script.Descriptor
deriving DecidableEq, Repr

/-- Whether an identifier may start with a character. -/
def startsIdentifier (c : Char) : Bool :=
  c.isAlpha || c == '_' || c == '$'

/-- Whether an identifier may go on with a character. -/
def continuesIdentifier (c : Char) : Bool :=
  c.isAlphanum || c == '_' || c == '$'

/-- Whether a text is an identifier of ASCII characters. -/
def isIdentifier (s : String) : Bool :=
  match s.toList with
  | [] => false
  | c :: cs => startsIdentifier c && cs.all continuesIdentifier

namespace Request

/-- Checks the namespace and then the invoke key. -/
def validate (request : Request) : Except Error Unit :=
  if !isIdentifier request.nspace then
    .error (.configuration
      ("namespace " ++ Quoted.quote request.nspace ++ " is not a valid JavaScript identifier"))
  else if blank request.invokeKey then .error (.configuration "invoke key must not be empty")
  else .ok ()

/-- The path of the channel script, if there is one that is not blank. -/
def channelPath? (request : Request) : Option String :=
  request.channelPath.filter (!blank ·)

end Request

end PageBridge.Installation
