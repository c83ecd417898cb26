import PageBridge.File.Path

/-!
# Reading files

A file system as a value: a tree of directories and files, and the directory that relative paths
start from.  `Disk.size` and `Disk.readText` follow a path through the tree and fail for the
reasons that an operating system gives.
-/

namespace PageBridge.File

/-- A file with its bytes, or a directory with its entries. -/
inductive Tree where
  | file (bytes : ByteArray)
  | directory (entries : List (List UInt8 × Tree))

/-- Why a file cannot be read. -/
inductive Error where
  | notFound
  | notDirectory
  | isDirectory
  | nameTooLong
  | nulByte
  | notUtf8
deriving DecidableEq, Repr

/-- The words for an error. -/
def Error.message : Error → String
  | notFound => "No such file or directory (os error 2)"
  | notDirectory => "Not a directory (os error 20)"
  | isDirectory => "Is a directory (os error 21)"
  | nameTooLong => "File name too long (os error 36)"
  | nulByte => "file name contained an unexpected NUL byte"
  | notUtf8 => "stream did not contain valid UTF-8"

/-- The bytes of the longest name. -/
def maxName : Nat := 255

/-- The bytes of the longest path. -/
def maxPath : Nat := 4095

namespace Tree

/-- The entry of a directory. -/
def child? (name : List UInt8) (entries : List (List UInt8 × Tree)) : Option Tree :=
  (entries.find? (·.1 = name)).map (·.2)

/-- Follows the parts of a path from a place; `above` holds the directories above it, nearest
first. -/
def walk (above : List Tree) (place : Tree) : List (List UInt8) → Except Error Tree
  | [] => .ok place
  | part :: parts =>
    match place with
    | .file _ => .error .notDirectory
    | .directory entries =>
      if part = [] ∨ part = [Path.point] then walk above place parts
      else if part = [Path.point, Path.point] then
        match above with
        | [] => walk [] place parts
        | up :: above => walk above up parts
      else if maxName < part.length then .error .nameTooLong
      else
        match child? part entries with
        | some next => walk (place :: above) next parts
        | none => .error .notFound

/-- The directory with a file or directory put under a name, in the place of an older one. -/
def put (name : List UInt8) (t : Tree) (entries : List (List UInt8 × Tree)) :
    List (List UInt8 × Tree) :=
  (name, t) :: entries.filter (·.1 ≠ name)

/-- Puts a tree at the end of a path of names and makes the directories that are missing.  A
directory that is there already is kept. -/
def insert (leaf : Tree) : List (List UInt8) → Tree → Tree
  | [], old =>
    match leaf, old with
    | .directory [], .directory entries => .directory entries
    | leaf, _ => leaf
  | name :: names, .directory entries =>
    .directory (put name (insert leaf names ((child? name entries).getD (.directory []))) entries)
  | name :: names, .file _ => .directory [(name, insert leaf names (.directory []))]

end Tree

/-- A file system. -/
structure Disk where
  root : Tree
  workingDirectory : Path

namespace Disk

/-- The file system with nothing in it. -/
def empty : Disk := ⟨.directory [], [Path.slash]⟩

instance : Inhabited Disk := ⟨empty⟩

/-- What a path leads to. -/
def find (disk : Disk) (p : Path) : Except Error Tree :=
  if p.contains 0 then .error .nulByte
  else if p.isEmpty then .error .notFound
  else if maxPath < p.length then .error .nameTooLong
  else Tree.walk [] disk.root (disk.workingDirectory.join p).parts

/-- The number of bytes of a file; a directory has none of its own. -/
def size (disk : Disk) (p : Path) : Except Error Nat :=
  (disk.find p).map fun
    | .file bytes => bytes.size
    | .directory _ => 0

/-- The text of a file. -/
def readText (disk : Disk) (p : Path) : Except Error String :=
  match disk.find p with
  | .error e => .error e
  | .ok (.directory _) => .error .isDirectory
  | .ok (.file bytes) =>
    match String.fromUTF8? bytes with
    | some text => .ok text
    | none => .error .notUtf8

/-- The file system with a file or directory at a path of names from its root. -/
def insert (disk : Disk) (names : List (List UInt8)) (leaf : Tree) : Disk :=
  { disk with root := Tree.insert leaf names disk.root }

end Disk

end PageBridge.File
