import PageBridge.Json.Scan

/-!
# Skipping JSON values

A member that nobody asks for is skipped and not read: its shape is checked, but it may be nested
to any depth, its numbers may be of any size and its strings may hold unpaired surrogates.
-/

namespace PageBridge.Json

/-- What encloses the place of a reader. -/
inductive Enclosure where
  | array
  | object
deriving DecidableEq, Repr

/-- Skips a key and its colon. -/
def skipKey (cs : List Char) : Option (List Char) :=
  match skipSpace cs with
  | '"' :: cs =>
    match (skipString cs).map skipSpace with
    | some (':' :: cs) => some cs
    | _ => none
  | _ => none

/-- Skips the start of a value: a whole value without parts, or an opening bracket or brace. -/
def skipOpening (cs : List Char) : Option (Option Enclosure × List Char) :=
  match skipSpace cs with
  | [] => none
  | c :: cs =>
    if c = 'n' then (readWord none ['u', 'l', 'l'] cs).toOption
    else if c = 't' then (readWord none ['r', 'u', 'e'] cs).toOption
    else if c = 'f' then (readWord none ['a', 'l', 's', 'e'] cs).toOption
    else if c = '-' then (skipNumber cs).map (none, ·)
    else if c.isDigit then (skipNumber (c :: cs)).map (none, ·)
    else if c = '"' then (skipString cs).map (none, ·)
    else if c = '[' then some (some .array, cs)
    else if c = '{' then some (some .object, cs)
    else none

/-- Skips what follows a value inside the enclosures that are open, innermost first: those that
close, and then a comma and what comes before the next value. -/
def settle : List Enclosure → List Char → Option (List Enclosure × List Char)
  | [], cs => some ([], cs)
  | e :: open_, cs =>
    match e, skipSpace cs with
    | .array, ']' :: cs => settle open_ cs
    | .object, '}' :: cs => settle open_ cs
    | .array, ',' :: cs => some (e :: open_, cs)
    | .object, ',' :: cs => (skipKey cs).map (e :: open_, ·)
    | _, _ => none

/-- Skips what follows an opening bracket or brace: its end, or what comes before its first
value. -/
def enter (e : Enclosure) (open_ : List Enclosure) (cs : List Char) :
    Option (List Enclosure × List Char) :=
  match e, skipSpace cs with
  | .array, ']' :: cs => settle open_ cs
  | .object, '}' :: cs => settle open_ cs
  | .array, cs => some (e :: open_, cs)
  | .object, cs => (skipKey cs).map (e :: open_, ·)

/-- Skips a value and all that is open around it; `steps` bounds the values on the way. -/
def skipFrom : Nat → List Enclosure → List Char → Option (List Char)
  | 0, _, _ => none
  | steps + 1, open_, cs =>
    let next :=
      match skipOpening cs with
      | some (none, cs) => settle open_ cs
      | some (some e, cs) => enter e open_ cs
      | none => none
    match next with
    | some ([], cs) => some cs
    | some (open_, cs) => skipFrom steps open_ cs
    | none => none

/-- Skips one value.  Every value on the way takes at least one character. -/
def skipValue (cs : List Char) : Option (List Char) :=
  skipFrom (cs.length + 1) [] cs

end PageBridge.Json
