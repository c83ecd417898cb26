import PageBridge.Error
import PageBridge.File.Disk
import PageBridge.Keyed
import PageBridge.Script.Bundled
import PageBridge.Text.Split
import PageBridge.Url.FilePath

/-!
# Stores of scripts

A script has a logical path.  `:/…` or `qrc:…` names a resource, which is bundled with the program
or lies under the resource root; a `file:` URL or any other path names a file.  Bundled resources
come first, whatever their path looks like.
-/

namespace PageBridge.Script

open PageBridge.Text

/-- Gives the text of a script for its path. -/
abbrev Loader := String → Except Error String

/-- What the paths of resources start with. -/
def resourceMark : List Char := [':', '/']

/-- The normal form of a script path: without blanks around it, and with `:/` in place of `qrc:`
and the slashes that follow it. -/
def normalizePath (path : String) : String :=
  let path := trim path
  match dropStart? ['q', 'r', 'c', ':'] path.toList with
  | some rest => String.ofList (resourceMark ++ rest.dropWhile (· == '/'))
  | none => path

/-- Why a script cannot be loaded. -/
inductive Fault where
  | emptyPath
  | noResourceRoot
  | outsideResourceRoot
  | url (error : Url.Error)
  | notLocalFile
  | tooLarge
  | file (error : File.Error)
deriving DecidableEq, Repr

/-- The bytes of the longest script that is read from a file. -/
def maxSize : Nat := 5 * 1024 * 1024

/-- The words for a fault. -/
def Fault.message : Fault → String
  | emptyPath => "empty script path"
  | noResourceRoot => "not a bundled resource and no resource root is set"
  | outsideResourceRoot => "resource path escapes the resource root"
  | url e => e.message
  | notLocalFile => "not a local file URL"
  | tooLarge => "script is larger than " ++ toString maxSize ++ " bytes"
  | file e => e.message

/-- Bundled resources under their paths in normal form, and the directory that other resources lie
in. -/
structure Store where
  bundled : Keyed String String
  root : Option String
deriving DecidableEq, Repr

namespace Store

/-- The store without resources. -/
def empty : Store := ⟨[], none⟩

/-- Bundles a resource. -/
def insert (path source : String) (store : Store) : Store :=
  { store with bundled := store.bundled.set (normalizePath path) source }

/-- The store with the bootstrap templates. -/
def bootstrap : Store :=
  (empty.insert pageBootstrapPath pageTemplate).insert bridgeBootstrapPath bridgeTemplate

/-- The store with a resource root. -/
def withRoot (root : String) (store : Store) : Store :=
  { store with root := some root }

/-- Whether a resource is bundled. -/
def contains (path : String) (store : Store) : Bool :=
  store.bundled.has (normalizePath path)

/-- The file that a path in normal form names. -/
def locate (store : Store) (path : String) : Except Fault File.Path :=
  match dropStart? resourceMark path.toList with
  | some rest =>
    match store.root with
    | none => .error .noResourceRoot
    | some root =>
      let relative := File.Path.ofText (String.ofList rest)
      if relative.isPlain then .ok ((File.Path.ofText root).join relative)
      else .error .outsideResourceRoot
  | none =>
    if (dropStart? ['f', 'i', 'l', 'e', ':'] path.toList).isSome then
      match Url.parse path with
      | .error e => .error (.url e)
      | .ok url =>
        match url.filePath? with
        | some p => .ok p
        | none => .error .notLocalFile
    else
      let p := File.Path.ofText path
      match store.root with
      | some root => .ok ((File.Path.ofText root).join p)
      | none => .ok p

/-- The text of a file, if the file is not too large. -/
def read (disk : File.Disk) (p : File.Path) : Except Fault String :=
  match disk.size p with
  | .error e => .error (.file e)
  | .ok n => if maxSize < n then .error .tooLarge else (disk.readText p).mapError .file

/-- The text of the script with a path in normal form. -/
def fetch (disk : File.Disk) (store : Store) (path : String) : Except Fault String :=
  if path.isEmpty then .error .emptyPath
  else
    match store.bundled.get? path with
    | some source => .ok source
    | none => (store.locate path).bind (read disk)

/-- Loads a script. -/
def load (disk : File.Disk) (store : Store) : Loader := fun path =>
  let path := normalizePath path
  (store.fetch disk path).mapError fun fault => .scriptLoad path fault.message

end Store

end PageBridge.Script
