import PageBridge.Json.Value
import PageBridge.Text.Blank

/-!
# Descriptors of user scripts

A user script is named by its path, and runs in the main frame only unless its descriptor says
otherwise.  Descriptors are read from lists of JSON values.
-/

namespace PageBridge.Script

open PageBridge.Json PageBridge.Text

/-- A user script to inject when a document starts. -/
structure Descriptor where
  path : String
  subFrames : Bool
deriving DecidableEq, Repr

namespace Descriptor

/-- The value of a flag that may be missing or of another kind. -/
def flag : Option Value → Bool
  | some (.bool b) => b
  | _ => false

/-- The descriptor that an entry stands for, a path or an object with a path, blank or not. -/
def read? : Value → Option Descriptor
  | .string path => some ⟨trim path, false⟩
  | .object members =>
    match Value.get? "path" (.object members) with
    | some (.string path) =>
      some ⟨trim path, flag (Value.get? "runOnSubFrames" (.object members))⟩
    | _ => none
  | _ => none

/-- The descriptor of an entry, if it names a path. -/
def ofValue? (entry : Value) : Option Descriptor :=
  (read? entry).filter (!·.path.isEmpty)

/-- The descriptors of a list of entries, in their order; other entries are skipped. -/
def ofEntries (entries : List Value) : List Descriptor :=
  entries.filterMap ofValue?

end Descriptor

end PageBridge.Script
