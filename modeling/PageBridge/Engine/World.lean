import PageBridge.Text.Literal

/-!
# Script worlds

Scripts of one page run in the page world, which the page shares, or in an isolated world of their
own.  A bridge keeps its inner half in one world, its home, and `World.delivery` is the script that
carries a message into the page from there.
-/

namespace PageBridge

open PageBridge.Text

/-- A world that scripts run in. -/
inductive World where
  | page
  | isolated (name : String)
deriving DecidableEq, Repr

namespace World

/-- The name of the isolated world of a bridge. -/
def bridgeName : String := "WebViewBridge"

/-- The home of a bridge: a world of its own, if the engine has isolated worlds. -/
def home (isolates : Bool) : World :=
  if isolates then .isolated bridgeName else .page

/-- Whether a world is apart from the page. -/
def isIsolated : World → Bool
  | page => false
  | isolated _ => true

/-- The world for a script of a bridge: its home, or the page world when that is asked for. -/
def target (home : World) (forcePage : Bool) : World :=
  if forcePage then .page else home

/-- The script that hands a message to the inner half of a bridge, `json` being the body of a
literal already: a call in a world apart, an event in the page world. -/
def delivery (home : World) (json nspace key : String) : String :=
  match home with
  | isolated _ =>
    "window.__wvbDeliver&&window.__wvbDeliver(" ++ Literal.quote nspace ++ "," ++
      Literal.quote key ++ ",'" ++ json ++ "');"
  | page =>
    "document.dispatchEvent(new CustomEvent('__wvb_deliver__',\x7bdetail:\x7bns:" ++
      Literal.quote nspace ++ ",invokeKey:" ++ Literal.quote key ++ ",data:'" ++ json ++
      "'\x7d\x7d));"

/-! ## Laws -/

/-- The home of a bridge is apart from the page when the engine allows it. -/
@[simp]
theorem isIsolated_home (isolates : Bool) : (home isolates).isIsolated = isolates := by
  cases isolates <;> rfl

end World

end PageBridge
