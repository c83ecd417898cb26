import PageBridge.Url.Origin

/-!
# Patterns of origins

An entry of an allow-list is one origin, or a wildcard pattern `[scheme://]*.domain[:port]` for a
domain and all domains under it.
-/

namespace PageBridge.Origin

open PageBridge.Text

/-- A domain with all domains under it, under one scheme and port if these are given. -/
structure Wildcard where
  scheme : Option (List Char)
  domain : List Char
  port : Option Nat
deriving DecidableEq, Repr

/-- The parts of an origin that a wildcard pattern looks at. -/
structure Parts where
  scheme : List Char
  host : List Char
  port : Option Nat
deriving DecidableEq, Repr

/-- The parts of an origin text, if it is a URL with a host. -/
def Parts.parse? (origin : List Char) : Option Parts :=
  match Url.parseChars origin with
  | .ok url => url.host.map fun host =>
    ⟨url.scheme, host.render.map Char.toLower, url.knownPort⟩
  | .error _ => none

/-- A port: decimal digits, at most 65535, perhaps after a plus sign. -/
def readPort? (cs : List Char) : Option Nat :=
  let digits := (dropStart? ['+'] cs).getD cs
  if digits.isEmpty || !digits.all Char.isDigit then none
  else
    let n := digits.foldl (fun n c => min 65536 (n * 10 + (c.toNat - '0'.toNat))) 0
    if n ≤ 65535 then some n else none

namespace Wildcard

/-- Reads a domain and its port. -/
def readDomain? (scheme : Option (List Char)) (cs : List Char) : Option Wildcard := do
  let (domain, port) ← match cutLast? ':' cs with
    | some (domain, port) => (readPort? port).map fun p => (domain, some p)
    | none => some (cs, none)
  if domain.isEmpty then none else some ⟨scheme, domain, port⟩

/-- Reads a pattern, if it is a wildcard pattern. -/
def parse? (pattern : List Char) : Option Wildcard :=
  let (scheme, rest) := match cutAt? [':', '/', '/'] pattern with
    | some (scheme, rest) => (some scheme, rest)
    | none => (none, pattern)
  (dropStart? ['*', '.'] rest).bind fun rest => readDomain? scheme (dropRight (· == '/') rest)

/-- Whether a host is the domain or under it. -/
def covers (domain host : List Char) : Bool :=
  host == domain || (('.' :: domain).isSuffixOf host)

/-- Whether the parts of an origin fit a pattern. -/
def fits (w : Wildcard) (parts : Parts) : Bool :=
  w.scheme.all (· == parts.scheme) && w.port.all (parts.port == some ·)
    && covers w.domain parts.host

end Wildcard

end PageBridge.Origin
