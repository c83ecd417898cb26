import PageBridge.Json.Value
import PageBridge.Text.Hex

/-!
# Writing JSON values

The compact text of a value: no blanks, members in the order of their keys, and in strings only
the quote, the backslash and the control characters below the space escaped.
-/

namespace PageBridge.Json

open PageBridge.Text (hexChar)

/-- How one character is written in a string. -/
def escapeChar (c : Char) : List Char :=
  if c = '"' then ['\\', '"']
  else if c = '\\' then ['\\', '\\']
  else if c = '\x08' then ['\\', 'b']
  else if c = '\x0c' then ['\\', 'f']
  else if c = '\n' then ['\\', 'n']
  else if c = '\r' then ['\\', 'r']
  else if c = '\t' then ['\\', 't']
  else if c < ' ' then ['\\', 'u', '0', '0', hexChar (c.toNat / 16), hexChar (c.toNat % 16)]
  else [c]

/-- A string between its quotes. -/
def quoteChars (cs : List Char) : List Char :=
  '"' :: (cs.flatMap escapeChar ++ ['"'])

/-- A string between its quotes. -/
def quote (s : String) : String :=
  String.ofList (quoteChars s.toList)

/-- The text of a number. -/
def Number.render : Number → String
  | .int n => toString n
  | .double x => x.render

namespace Value

mutual

/-- Appends the text of a value. -/
def write (acc : String) : Value → String
  | .null => acc ++ "null"
  | .bool true => acc ++ "true"
  | .bool false => acc ++ "false"
  | .number n => acc ++ n.render
  | .string s => acc ++ quote s
  | .array [] => acc ++ "[]"
  | .array (v :: vs) => (writeItems (write (acc.push '[') v) vs).push ']'
  | .object [] => acc ++ "\x7b\x7d"
  | .object ((k, v) :: ms) =>
    (writeMembers (write ((acc.push '{' ++ quote k).push ':') v) ms).push '}'

/-- Appends the texts of values, a comma before each. -/
def writeItems (acc : String) : List Value → String
  | [] => acc
  | v :: vs => writeItems (write (acc.push ',') v) vs

/-- Appends the texts of members, a comma before each. -/
def writeMembers (acc : String) : List (String × Value) → String
  | [] => acc
  | (k, v) :: ms => writeMembers (write ((acc.push ',' ++ quote k).push ':') v) ms

end

/-- The compact text of a value. -/
def render (v : Value) : String :=
  write "" v

end Value

end PageBridge.Json
