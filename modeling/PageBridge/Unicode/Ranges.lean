import PageBridge.Text.Hex

/-!
# Tables over code points

A table is a sorted array of disjoint ranges of code points, each with a value.  Its text writes a
range as `first-last=value`, numbers in hexadecimal, with `-last` left out where the range has one
code point and `=value` where there is no value.
-/

namespace PageBridge.Unicode

open PageBridge.Text

/-- A value for each range of code points, the ranges disjoint and in ascending order. -/
structure RangeMap (α : Type) where
  entries : Array (Nat × Nat × α)

namespace RangeMap

variable {α : Type}

/-- The index of the last entry between `lo` and `hi` that starts at or before `x`, plus one. -/
def upperIndex (t : RangeMap α) (x : Nat) (lo hi : Nat) : Nat :=
  if lo < hi then
    let mid := (lo + hi) / 2
    match t.entries[mid]? with
    | some (first, _, _) =>
      if first ≤ x then upperIndex t x (mid + 1) hi else upperIndex t x lo mid
    | none => lo
  else lo
termination_by hi - lo

/-- The range that holds a character: the distance of the character from its start, and its
value. -/
def find? (t : RangeMap α) (c : Char) : Option (Nat × α) :=
  match t.entries[t.upperIndex c.toNat 0 t.entries.size - 1]? with
  | some (first, last, v) =>
    if first ≤ c.toNat ∧ c.toNat ≤ last then some (c.toNat - first, v) else none
  | none => none

/-- Whether a character is in one of the ranges. -/
def contains (t : RangeMap α) (c : Char) : Bool :=
  (t.find? c).isSome

/-- Splits a text at its spaces and line ends. -/
def words (cs : List Char) : List (List Char) :=
  let (word, rest) := cs.foldr
    (fun c (word, rest) => if c = ' ' ∨ c = '\n' then ([], word :: rest) else (c :: word, rest))
    ([], [])
  (word :: rest).filter (!·.isEmpty)

/-- Reads one entry of a table. -/
def readEntry (readValue : List Char → α) (word : List Char) : Nat × Nat × α :=
  let range := word.takeWhile (· ≠ '=')
  let first := range.takeWhile (· ≠ '-')
  let last := (range.dropWhile (· ≠ '-')).drop 1
  (readHex first, readHex (if last.isEmpty then first else last),
    readValue ((word.dropWhile (· ≠ '=')).drop 1))

/-- The table that a text writes. -/
def ofText (readValue : List Char → α) (text : String) : RangeMap α :=
  ⟨((words text.toList).map (readEntry readValue)).toArray⟩

end RangeMap

/-- A set of code points. -/
abbrev Ranges := RangeMap Unit

/-- The set that a text writes. -/
def Ranges.ofText (text : String) : Ranges :=
  RangeMap.ofText (fun _ => ()) text

/-- Characters written as code points with points between them. -/
def readChars (cs : List Char) : List Char :=
  let (code, rest) := cs.foldr
    (fun c (code, rest) => if c = '.' then ([], code :: rest) else (c :: code, rest)) ([], [])
  (code :: rest).map fun code => Char.ofNat (readHex code)

end PageBridge.Unicode
