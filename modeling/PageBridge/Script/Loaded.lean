import PageBridge.Script.Descriptor
import PageBridge.Script.Store

/-!
# Loaded user scripts

User scripts are loaded in the order of their descriptors, and those that cannot be loaded are left
out.
-/

namespace PageBridge.Script

/-- A user script with its text. -/
structure Loaded extends Descriptor where
  source : String
deriving DecidableEq, Repr

/-- Loads the script of a descriptor. -/
def Descriptor.load? (loader : Loader) (descriptor : Descriptor) : Option Loaded :=
  match loader descriptor.path with
  | .ok source => some ⟨descriptor, source⟩
  | .error _ => none

/-- Loads the scripts of descriptors and leaves out those that fail. -/
def loadAll (loader : Loader) (descriptors : List Descriptor) : List Loaded :=
  descriptors.filterMap (Descriptor.load? loader)

end PageBridge.Script
