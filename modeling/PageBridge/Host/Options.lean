import PageBridge.Json.Value

/-!
# Options of views
-/

namespace PageBridge.Host

/-- What a view is created with; every option may be missing. -/
structure Options where
  title : Option String
  width : Option Json.Double
  height : Option Json.Double
  x : Option Json.Double
  y : Option Json.Double
  visible : Option Bool
  devtools : Option Bool
  nspace : Option String
  userScripts : Option (List Json.Value)
  resourceRoot : Option String
deriving Repr

/-- No options at all. -/
def Options.none : Options :=
  ⟨.none, .none, .none, .none, .none, .none, .none, .none, .none, .none⟩

end PageBridge.Host
