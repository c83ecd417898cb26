import PageBridge.Json.Scan

/-!
# Reading JSON texts

`parse` reads a whole text as one value.  Arrays and objects may be nested at most 127 deep; the
depth that is left is what the reader of a value recurses on, and the loops over the items of one
array or object recurse on the length of the text, which they cannot exceed.
-/

namespace PageBridge.Json

/-- A reader of values. -/
abbrev Reader := List Char → Read Value

/-- How deep arrays and objects may be nested. -/
def depthLimit : Nat := 127

/-! ## Arrays and objects -/

/-- Reads the items of an array from the second one on; `acc` holds those read, last one first. -/
def moreItems (read : Reader) : Nat → List Value → List Char → Read (List Value)
  | 0, _, cs => .error (.here .endInList cs)
  | steps + 1, acc, cs =>
    match skipSpace cs with
    | [] => .error (.next .endInList [])
    | c :: cs =>
      if c = ']' then .ok (acc.reverse, cs)
      else if c = ',' then
        match skipSpace cs with
        | [] => .error (.next .endInValue [])
        | c :: cs =>
          if c = ']' then .error (.next .trailingComma (c :: cs))
          else
            match read (c :: cs) with
            | .ok (v, cs) => moreItems read steps (v :: acc) cs
            | .error fault => .error fault
      else .error (.next .expectedListSeparator (c :: cs))

/-- Reads the items of an array after its opening bracket. -/
def readItems (read : Reader) (steps : Nat) (cs : List Char) : Read (List Value) :=
  match skipSpace cs with
  | [] => .error (.next .endInList [])
  | c :: cs =>
    if c = ']' then .ok ([], cs)
    else
      match read (c :: cs) with
      | .ok (v, cs) => moreItems read steps [v] cs
      | .error fault => .error fault

/-- Reads the colon after a key. -/
def readColon (cs : List Char) : Read Unit :=
  match skipSpace cs with
  | [] => .error (.next .endInObject [])
  | c :: cs => if c = ':' then .ok ((), cs) else .error (.next .expectedColon (c :: cs))

/-- Reads a member after the opening quote of its key. -/
def readMember (read : Reader) (cs : List Char) : Read (String × Value) :=
  (readString [] cs).bind fun (key, cs) =>
    (readColon cs).bind fun ((), cs) =>
      (read cs).map fun (v, cs) => ((String.ofList key, v), cs)

/-- Reads the members of an object from the second one on; `acc` holds those read, last one
first. -/
def moreMembers (read : Reader) :
    Nat → List (String × Value) → List Char → Read (List (String × Value))
  | 0, _, cs => .error (.here .endInObject cs)
  | steps + 1, acc, cs =>
    match skipSpace cs with
    | [] => .error (.next .endInObject [])
    | c :: cs =>
      if c = '}' then .ok (acc.reverse, cs)
      else if c = ',' then
        match skipSpace cs with
        | [] => .error (.next .endInValue [])
        | c :: cs =>
          if c = '"' then
            match readMember read cs with
            | .ok (m, cs) => moreMembers read steps (m :: acc) cs
            | .error fault => .error fault
          else if c = '}' then .error (.next .trailingComma (c :: cs))
          else .error (.next .keyNotString (c :: cs))
      else .error (.next .expectedObjectSeparator (c :: cs))

/-- Reads the members of an object after its opening brace. -/
def readMembers (read : Reader) (steps : Nat) (cs : List Char) : Read (List (String × Value)) :=
  match skipSpace cs with
  | [] => .error (.next .endInObject [])
  | c :: cs =>
    if c = '}' then .ok ([], cs)
    else if c = '"' then
      match readMember read cs with
      | .ok (m, cs) => moreMembers read steps [m] cs
      | .error fault => .error fault
    else .error (.next .keyNotString (c :: cs))

/-! ## Values -/

/-- Reads a value whose arrays and objects hold what `inner` reads, or which must have none. -/
def readWith (steps : Nat) (inner : Option Reader) : Reader := fun cs =>
  match skipSpace cs with
  | [] => .error (.next .endInValue [])
  | c :: cs =>
    if c = 'n' then readWord .null ['u', 'l', 'l'] cs
    else if c = 't' then readWord (.bool true) ['r', 'u', 'e'] cs
    else if c = 'f' then readWord (.bool false) ['a', 'l', 's', 'e'] cs
    else if c = '-' then (readNumber true cs).map fun (n, cs) => (.number n, cs)
    else if c.isDigit then (readNumber false (c :: cs)).map fun (n, cs) => (.number n, cs)
    else if c = '"' then (readString [] cs).map fun (s, cs) => (.string (String.ofList s), cs)
    else if c = '[' then
      match inner with
      | none => .error (.next .tooDeep (c :: cs))
      | some read => (readItems read steps cs).map fun (items, cs) => (.array items, cs)
    else if c = '{' then
      match inner with
      | none => .error (.next .tooDeep (c :: cs))
      | some read => (readMembers read steps cs).map fun (ms, cs) => (.ofMembers ms, cs)
    else .error (.next .expectedValue (c :: cs))

/-- Reads a value nested at most `depth` deep, with at most `steps` items to an array or object. -/
def readValue (steps : Nat) : Nat → Reader
  | 0 => readWith steps none
  | depth + 1 => readWith steps (some (readValue steps depth))

/-- Accepts a text of which only blanks are left. -/
def finish {α : Type} (result : α) (cs : List Char) : Except Fault α :=
  match skipSpace cs with
  | [] => .ok result
  | cs => .error (.next .trailingCharacters cs)

/-- Reads a whole text as one value. -/
def parseChars (cs : List Char) : Except Fault Value :=
  (readValue cs.length depthLimit cs).bind fun (v, rest) => finish v rest

/-- Reads a whole text as one value. -/
def parse (text : String) : Except Fault Value :=
  parseChars text.toList

/-- Whether a text is JSON. -/
def isJson (text : String) : Bool :=
  (parse text).isOk

end PageBridge.Json
