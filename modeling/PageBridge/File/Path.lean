/-!
# File paths

A file path is a string of bytes; slashes separate its parts.  `components` tells what each part
asks for when a path is followed from a directory, and `isPlain` holds of the paths that can only
lead into that directory.
-/

namespace PageBridge.File

/-- The path of a file. -/
abbrev Path := List UInt8

namespace Path

/-- The byte that separates the parts of a path. -/
def slash : UInt8 := 0x2F

/-- The byte of a point. -/
def point : UInt8 := 0x2E

/-- The path that a text writes. -/
def ofText (s : String) : Path :=
  s.toUTF8.toList

/-- Whether a path starts at the root of the file system. -/
def isAbsolute (p : Path) : Bool :=
  p.head? == some slash

/-- The path that leads where `p` leads when it is followed from `base`. -/
def join (base p : Path) : Path :=
  if p.isAbsolute then p
  else if base.isEmpty || base.getLast? == some slash then base ++ p
  else base ++ slash :: p

/-- The parts of a path between its slashes. -/
def parts (p : Path) : List (List UInt8) :=
  let (part, parts) := p.foldr
    (fun b (part, parts) => if b = slash then ([], part :: parts) else (b :: part, parts)) ([], [])
  part :: parts

/-- What a part of a path asks for. -/
inductive Component where
  | root
  | here
  | up
  | name (bytes : List UInt8)
deriving DecidableEq, Repr

/-- What a part asks for, if it does not keep to the place where the path is. -/
def component? (part : List UInt8) : Option Component :=
  if part = [] ∨ part = [point] then none
  else if part = [point, point] then some .up
  else some (.name part)

/-- What a path asks for, step by step.  Empty parts count for nothing, and a single point counts
at the start of a relative path only. -/
def components (p : Path) : List Component :=
  let start :=
    if p.isAbsolute then [.root]
    else if p.parts.head? = some [point] then [.here]
    else []
  start ++ p.parts.filterMap component?

/-- Whether a component is a name. -/
def Component.isName : Component → Bool
  | .name _ => true
  | _ => false

/-- Whether a path asks for nothing but names. -/
def isPlain (p : Path) : Bool :=
  p.components.all Component.isName

end Path

end PageBridge.File
