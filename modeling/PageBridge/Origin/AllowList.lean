import PageBridge.Origin.Pattern

/-!
# Allow-lists of origins

An allow-list is a list of patterns, and an origin is allowed when one of them admits it.  Both
the origin and the patterns that name one origin are normalized before they are compared, so that
two spellings of one origin are the same.
-/

namespace PageBridge.Origin

open PageBridge.Text

/-- The normal form of an origin text: that of its URL, or else the text in lower case, without
surrounding blanks and slashes at its end. -/
def normalize (text : String) : String :=
  (Url.extractOrigin text).getD
    (lowerAscii (String.ofList (dropRight (· == '/') (trim text).toList)))

/-- Whether a pattern admits every origin. -/
def isUniversal (pattern : String) : Bool :=
  trim pattern == "*"

/-- Whether a pattern that is not universal admits an origin in normal form. -/
def admits (origin : String) (parts : Option Parts) (pattern : String) : Bool :=
  let pattern := lowerAscii (trim pattern)
  if pattern.isEmpty then false
  else
    match Wildcard.parse? pattern.toList with
    | some w => parts.any w.fits
    | none => normalize pattern == origin

/-- Whether an allow-list admits an origin. -/
def isAllowed (origin : String) (patterns : List String) : Bool :=
  if patterns.isEmpty then false
  else if patterns.any isUniversal then true
  else
    let origin := normalize origin
    let parts := Parts.parse? origin.toList
    patterns.any (admits origin parts)

end PageBridge.Origin
