import PageBridge.Json.Parse
import PageBridge.Json.Render
import PageBridge.Json.Skip

/-!
# Envelopes

The inner half of a bridge posts its messages in envelopes: JSON objects with the members
`invokeKey`, `ns`, which may be missing or null, and `data`.  The array of these three is an
envelope, too.  Members of other names are skipped.
-/

namespace PageBridge

open PageBridge.Json

/-- A message with the marks of the session that it was posted in. -/
structure Envelope where
  invokeKey : String
  nspace : Option String
  data : Value
deriving Repr

namespace Envelope

/-- The members of an envelope that are read. -/
structure Fields where
  invokeKey : Option String
  nspace : Option (Option String)
  data : Option Value

/-- A reader that fails without a reason. -/
abbrev Scan (α : Type) := Option (α × List Char)

/-- How deep the data of an envelope may be nested. -/
def dataDepth : Nat := depthLimit - 1

/-- Reads a string value. -/
def readText (cs : List Char) : Scan String :=
  match skipSpace cs with
  | '"' :: cs => (readString [] cs).toOption.map fun (text, cs) => (String.ofList text, cs)
  | _ => none

/-- Reads a namespace or null. -/
def readNspace (cs : List Char) : Scan (Option String) :=
  match skipSpace cs with
  | 'n' :: cs => (readWord none ['u', 'l', 'l'] cs).toOption
  | cs => (readText cs).map fun (text, cs) => (some text, cs)

/-- Reads the data. -/
def readData (steps : Nat) (cs : List Char) : Scan Value :=
  (readValue steps dataDepth cs).toOption

/-! ## Objects -/

/-- Reads the value of a member; a member that is read twice is refused. -/
def readField (steps : Nat) (key : String) (fields : Fields) (cs : List Char) : Scan Fields :=
  if key = "invokeKey" then
    if fields.invokeKey.isSome then none
    else (readText cs).map fun (v, cs) => ({ fields with invokeKey := some v }, cs)
  else if key = "ns" then
    if fields.nspace.isSome then none
    else (readNspace cs).map fun (v, cs) => ({ fields with nspace := some v }, cs)
  else if key = "data" then
    if fields.data.isSome then none
    else (readData steps cs).map fun (v, cs) => ({ fields with data := some v }, cs)
  else (skipValue cs).map fun cs => (fields, cs)

/-- Reads a member, which starts with its key. -/
def readMember (steps : Nat) (fields : Fields) (cs : List Char) : Scan Fields :=
  (readText cs).bind fun (key, cs) =>
    match readColon cs with
    | .ok ((), cs) => readField steps key fields cs
    | .error _ => none

/-- Reads the members from the second one on. -/
def moreMembers (steps : Nat) : Nat → Fields → List Char → Scan Fields
  | 0, _, _ => none
  | left + 1, fields, cs =>
    match skipSpace cs with
    | '}' :: cs => some (fields, cs)
    | ',' :: cs =>
      match readMember steps fields cs with
      | some (fields, cs) => moreMembers steps left fields cs
      | none => none
    | _ => none

/-- Reads the members of an object after its opening brace. -/
def readMembers (steps : Nat) (cs : List Char) : Scan Fields :=
  match skipSpace cs with
  | '}' :: cs => some (⟨none, none, none⟩, cs)
  | cs =>
    match readMember steps ⟨none, none, none⟩ cs with
    | some (fields, cs) => moreMembers steps steps fields cs
    | none => none

/-- The envelope of the members, if none is missing that has to be there. -/
def ofFields? (fields : Fields) : Option Envelope := do
  return ⟨← fields.invokeKey, fields.nspace.getD none, ← fields.data⟩

/-! ## Arrays -/

/-- Reads a comma. -/
def readComma (cs : List Char) : Option (List Char) :=
  match skipSpace cs with
  | ',' :: cs => some cs
  | _ => none

/-- Reads the items of an array after its opening bracket, the closing one included. -/
def readItems (steps : Nat) (cs : List Char) : Option (Envelope × List Char) := do
  let (invokeKey, cs) ← readText cs
  let cs ← readComma cs
  let (nspace, cs) ← readNspace cs
  let cs ← readComma cs
  let (data, cs) ← readData steps cs
  match skipSpace cs with
  | ']' :: cs => some (⟨invokeKey, nspace, data⟩, cs)
  | _ => none

/-! ## Envelopes -/

/-- Reads an envelope from the start of a text. -/
def read (steps : Nat) (cs : List Char) : Scan Envelope :=
  match skipSpace cs with
  | '{' :: cs =>
    (readMembers steps cs).bind fun (fields, cs) => (ofFields? fields).map (·, cs)
  | '[' :: cs => readItems steps cs
  | _ => none

/-- Reads a whole text as an envelope. -/
def parse? (text : String) : Option Envelope :=
  match read text.length text.toList with
  | some (envelope, cs) => if (skipSpace cs).isEmpty then some envelope else none
  | none => none

/-- The text that the inner half of a bridge posts for a message of the page. -/
def written (invokeKey nspace message : String) : String :=
  "\x7b\"invokeKey\":" ++ quote invokeKey ++ ",\"ns\":" ++ quote nspace ++ ",\"data\":" ++
    quote message ++ "\x7d"

/-- The payload of an envelope: a text, or else the compact text of the data. -/
def payload (envelope : Envelope) : String :=
  envelope.data.text?.getD envelope.data.render

end Envelope

end PageBridge
