import PageBridge.Json.Shortest

/-!
# JSON values

The values that a JSON text denotes.  An object holds its members in the order of their keys, each
key once; `Value.ofMembers` brings the members of a text into that form.
-/

namespace PageBridge.Json

/-- A number is an integer as long as 64 bits hold it, and a double otherwise. -/
inductive Number where
  | int (value : Int)
  | double (value : Double)
deriving DecidableEq, Repr

/-- A JSON value. -/
inductive Value where
  | null
  | bool (value : Bool)
  | number (value : Number)
  | string (value : String)
  | array (items : List Value)
  | object (members : List (String × Value))
deriving Repr

instance : Inhabited Value := ⟨.null⟩

namespace Value

/-- Keeps of each run of members with one key the last one. -/
def keepLast : List (String × Value) → List (String × Value) → List (String × Value)
  | kept, [] => kept.reverse
  | [], m :: rest => keepLast [m] rest
  | k :: kept, m :: rest =>
    if k.1 = m.1 then keepLast (m :: kept) rest else keepLast (m :: k :: kept) rest

/-- The members of an object text, sorted by key; of two members with one key the later wins. -/
def ofMembers (members : List (String × Value)) : Value :=
  .object (keepLast [] (members.mergeSort fun a b => a.1 ≤ b.1))

/-- The member of an object with a given key. -/
def get? (key : String) : Value → Option Value
  | .object members => (members.find? (·.1 = key)).map (·.2)
  | _ => none

/-- The text of a string value. -/
def text? : Value → Option String
  | .string s => some s
  | _ => none

end Value

end PageBridge.Json
