/-!
# Cutting texts

Cutting a text at every occurrence, at the first or at the last occurrence of a character, and
taking a given start off it.
-/

namespace PageBridge.Text

/-- The parts of a text between the characters for which `p` holds; there is always one more part
than such characters. -/
def splitOn (p : Char → Bool) (cs : List Char) : List (List Char) :=
  let (part, parts) := cs.foldr
    (fun c (part, parts) => if p c then ([], part :: parts) else (c :: part, parts)) ([], [])
  part :: parts

/-- The parts, joined with a character between them. -/
def joinWith (c : Char) : List (List Char) → List Char
  | [] => []
  | part :: parts => part ++ parts.flatMap (c :: ·)

/-- What comes before and after the first occurrence of a character. -/
def cutFirst? (c : Char) (cs : List Char) : Option (List Char × List Char) :=
  match cs.span (· ≠ c) with
  | (_, []) => none
  | (before, _ :: after) => some (before, after)

/-- What comes before and after the last occurrence of a character. -/
def cutLast? (c : Char) (cs : List Char) : Option (List Char × List Char) :=
  (cutFirst? c cs.reverse).map fun (after, before) => (before.reverse, after.reverse)

/-- What follows a given start. -/
def dropStart? : List Char → List Char → Option (List Char)
  | [], cs => some cs
  | _ :: _, [] => none
  | s :: start, c :: cs => if s = c then dropStart? start cs else none

/-- What comes before and after the first occurrence of a given text; `before` is what was passed
over already, last character first. -/
def cutAtFrom (mark before : List Char) : List Char → Option (List Char × List Char)
  | [] => if mark.isEmpty then some (before.reverse, []) else none
  | c :: cs =>
    match dropStart? mark (c :: cs) with
    | some after => some (before.reverse, after)
    | none => cutAtFrom mark (c :: before) cs

/-- What comes before and after the first occurrence of a given text. -/
def cutAt? (mark cs : List Char) : Option (List Char × List Char) :=
  cutAtFrom mark [] cs

/-- Puts `new` in the place of `mark`; `done` is what is finished, last character first, and `skip`
counts the characters of an occurrence that are still to be passed over. -/
def replaceFrom (mark new done : List Char) (skip : Nat) : List Char → List Char
  | [] => done.reverse
  | c :: cs =>
    match skip with
    | skip + 1 => replaceFrom mark new done skip cs
    | 0 =>
      if (dropStart? mark (c :: cs)).isSome then
        replaceFrom mark new (new.reverse ++ done) (mark.length - 1) cs
      else replaceFrom mark new (c :: done) 0 cs

/-- Puts `new` in the place of every occurrence of a text that is not empty, from the left and
without overlaps. -/
def replaceAll (mark new cs : List Char) : List Char :=
  replaceFrom mark new [] 0 cs

end PageBridge.Text
