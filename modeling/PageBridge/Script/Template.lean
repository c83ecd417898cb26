import PageBridge.Text.Literal
import PageBridge.Text.Split

/-!
# Bootstrap templates

A bootstrap script is a template whose two placeholders stand inside single-quoted literals.  They
are replaced one after the other by the namespace and the invoke key of an installation.
-/

namespace PageBridge.Script

open PageBridge.Text

/-- The placeholder of the namespace. -/
def namespaceMark : String := "%NS%"

/-- The placeholder of the invoke key. -/
def invokeKeyMark : String := "%INVOKE_KEY%"

/-- Replaces a placeholder by the body of the literal that denotes a text. -/
def fillMark (mark value : String) (template : List Char) : List Char :=
  replaceAll mark.toList (Literal.escape value.toList) template

/-- The bootstrap script of a template. -/
def fill (template nspace key : String) : String :=
  String.ofList (fillMark invokeKeyMark key (fillMark namespaceMark nspace template.toList))

end PageBridge.Script
