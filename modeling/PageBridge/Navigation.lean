/-!
# Navigation

A page is idle, loading or loaded and has a URL.  Every step of a navigation reports the properties
that it changes, each once: `Navigation.after` is the navigation after a step and
`Navigation.changes` are its reports.
-/

namespace PageBridge

/-- How far a page has come. -/
inductive LoadState where
  | idle
  | loading
  | loaded
deriving DecidableEq, Repr

/-- The load state and the URL of a page. -/
structure Navigation where
  state : LoadState
  url : String
deriving DecidableEq, Repr

namespace Navigation

/-- The navigation of a new view. -/
def idle : Navigation := ⟨.idle, ""⟩

/-- A property with its new value. -/
inductive Change where
  | loading (on : Bool)
  | loaded (on : Bool)
  | url (url : String)
deriving DecidableEq, Repr

/-- What an engine reports about the navigation of a page. -/
inductive Step where
  | started (url : String)
  | redirected (url : String)
  | finished (url : String)
  | failed
deriving DecidableEq, Repr

/-- Whether the page is loading. -/
def isLoading (n : Navigation) : Bool := n.state == .loading

/-- Whether the page is loaded. -/
def isLoaded (n : Navigation) : Bool := n.state == .loaded

/-- Whether a URL replaces the one that is known. -/
def moves (n : Navigation) (url : String) : Bool :=
  !url.isEmpty && url != n.url

/-- The URL after a report of one. -/
def urlAfter (n : Navigation) (url : String) : String :=
  if n.moves url then url else n.url

/-- The reports of a new URL. -/
def urlChanges (n : Navigation) (url : String) : List Change :=
  if n.moves url then [.url url] else []

/-- The reports of a page that starts to load. -/
def startChanges : LoadState → List Change
  | .idle => [.loading true]
  | .loading => []
  | .loaded => [.loaded false, .loading true]

/-- The navigation after a step.  A page that was not loading does not finish or fail. -/
def after (n : Navigation) : Step → Navigation
  | .started url => ⟨.loading, n.urlAfter url⟩
  | .redirected url => { n with url := n.urlAfter url }
  | .finished url => ⟨if n.isLoading then .loaded else n.state, n.urlAfter url⟩
  | .failed => if n.isLoading then { n with state := .idle } else n

/-- The reports of a step. -/
def changes (n : Navigation) : Step → List Change
  | .started url => n.urlChanges url ++ startChanges n.state
  | .redirected url => n.urlChanges url
  | .finished url =>
    n.urlChanges url ++ if n.isLoading then [.loading false, .loaded true] else []
  | .failed => if n.isLoading then [.loading false] else []

end Navigation

end PageBridge
