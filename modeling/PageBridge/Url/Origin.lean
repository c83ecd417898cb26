import PageBridge.Url.Basic

/-!
# The origin of a URL

A URL with an authority has the origin of its scheme, host and port.  A `blob:` URL has the origin
of the URL inside it, and every other URL has an opaque origin, for which there is no text.
-/

namespace PageBridge.Url

open PageBridge.Text

/-- The text of an origin; the default port of the scheme is left out. -/
def originText (scheme : List Char) (host : Host) (port : Option Nat) : List Char :=
  scheme ++ [':', '/', '/'] ++ host.render ++
    match port with
    | some p => ':' :: (toString p).toList
    | none => []

/-- The text of a path. -/
def Path.render : Path → List Char
  | whole text => text
  | segments parts => parts.flatMap ('/' :: ·)

/-- The scheme of the URLs that hold another URL. -/
def blobScheme : List Char := ['b', 'l', 'o', 'b']

/-- The origin of a URL that is nested at most `depth` deep in `blob:` URLs. -/
def originWithin : Nat → Url → Option (List Char)
  | depth, url =>
    if url.scheme = blobScheme then
      match depth with
      | 0 => none
      | depth + 1 =>
        match parseChars url.path.render with
        | .ok inner => originWithin depth inner
        | .error _ => none
    else if hasAuthority url.scheme then url.host.map (originText url.scheme · url.port)
    else none

/-- The text of the origin of a URL text, if the URL has one that is not opaque.  A nested URL is
shorter than the one around it. -/
def extractOrigin (text : String) : Option String :=
  let cs := dropEnds isBlank text.toList
  match parseChars cs with
  | .ok url => (originWithin cs.length url).map String.ofList
  | .error _ => none

end PageBridge.Url
