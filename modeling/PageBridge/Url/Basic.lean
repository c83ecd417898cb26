import PageBridge.Text.Blank
import PageBridge.Url.Host

/-!
# URLs

The parts of a URL that an origin or a file name is made of, and `Url.parse`, which reads them.
The reader takes a text apart from the left: scheme, authority, path.  It leaves out user names,
queries and fragments once it knows where they end.
-/

namespace PageBridge

open PageBridge.Text

/-- The path of a URL: one text, or segments between slashes. -/
inductive Url.Path where
  | whole (text : List Char)
  | segments (segments : List (List Char))
deriving DecidableEq, Repr

/-- A URL without its user name, query and fragment.  A port that is the default of the scheme is
left out. -/
structure Url where
  scheme : List Char
  host : Option Url.Host
  port : Option Nat
  path : Url.Path
deriving DecidableEq, Repr

namespace Url

/-! ## Characters that do not count -/

/-- The control characters and the space, which do not count at the ends of a URL. -/
def isEndNoise (c : Char) : Bool :=
  c ≤ ' '

/-- The tabs and line ends, which do not count in a URL. -/
def isNoise (c : Char) : Bool :=
  c == '\t' || c == '\n' || c == '\r'

/-- A text without its tabs and line ends. -/
def withoutNoise (cs : List Char) : List Char :=
  cs.filter (!isNoise ·)

/-! ## Schemes -/

/-- The port of a scheme that has one of its own. -/
def defaultPort? (scheme : String) : Option Nat :=
  if scheme = "http" ∨ scheme = "ws" then some 80
  else if scheme = "https" ∨ scheme = "wss" then some 443
  else if scheme = "ftp" then some 21
  else none

/-- The schemes whose URLs have an authority, apart from `file`. -/
def hasAuthority (scheme : List Char) : Bool :=
  (defaultPort? (String.ofList scheme)).isSome

/-- The scheme of the URLs of files. -/
def fileScheme : List Char := ['f', 'i', 'l', 'e']

/-- The characters of a scheme after its first letter. -/
def isSchemeChar (c : Char) : Bool :=
  c.isAlphanum || c == '+' || c == '-' || c == '.'

/-- The scheme of a text, in lower case, and what follows its colon. -/
def cutScheme? (cs : List Char) : Option (List Char × List Char) :=
  match cutFirst? ':' cs with
  | some (name, rest) =>
    let scheme := withoutNoise name
    if scheme.head?.any Char.isAlpha && scheme.all isSchemeChar then
      some (scheme.map Char.toLower, rest)
    else none
  | none => none

/-! ## Authorities -/

/-- Where an authority or a path segment ends; a backslash does so in special URLs only. -/
def isSlash (special : Bool) (c : Char) : Bool :=
  c == '/' || (special && c == '\\')

/-- Where a path ends. -/
def isPathEnd (c : Char) : Bool :=
  c == '?' || c == '#'

/-- Cuts an authority from what follows it. -/
def cutAuthority (special : Bool) (cs : List Char) : List Char × List Char :=
  cs.span fun c => !(isSlash special c || isPathEnd c)

/-- Cuts the host at the start of an authority from what follows it: it ends at a colon outside
brackets.  `done` is what was read of it, last character first. -/
def cutHost (bracketed : Bool) (done : List Char) : List Char → List Char × List Char
  | [] => (done.reverse, [])
  | c :: cs =>
    if c = ':' ∧ !bracketed then (done.reverse, c :: cs)
    else cutHost (if c = '[' then true else if c = ']' then false else bracketed) (c :: done) cs

/-- Reads the port after its colon: digits up to the end or to a slash of either kind. -/
def readPort (cs : List Char) : Except Error (Option Nat) :=
  let (digits, rest) := cs.span Char.isDigit
  let value := digits.foldl (fun n c => min 65536 (n * 10 + (c.toNat - '0'.toNat))) 0
  if 65535 < value then .error .invalidPort
  else if !rest.isEmpty ∧ rest.head? ≠ some '\\' then .error .invalidPort
  else .ok (if digits.isEmpty then none else some value)

/-- A host and a port, either of which may be missing. -/
structure Authority where
  host : Option Host
  port : Option Nat

/-- Reads the host and the port of an authority.  `named` tells that a user name or a password
stands before them, which asks for a host. -/
def readHostPort (special named : Bool) (cs : List Char) : Except Error Authority := do
  let (name, rest) := cutHost false [] cs
  if name.isEmpty then
    if special || named || !rest.isEmpty then throw .emptyHost
    else return ⟨none, none⟩
  else
    let host ← if special then Host.parse name else Host.parseOpaque name
    let port ← match rest with
      | [] => pure none
      | _ :: digits => readPort digits
    return ⟨some host, port⟩

/-- Reads an authority; `more` tells that a path, query or fragment follows it. -/
def readAuthority (special more : Bool) (cs : List Char) : Except Error Authority :=
  match cutLast? '@' cs with
  | none => readHostPort special false cs
  | some (user, rest) =>
    if user.isEmpty && rest.isEmpty && more then .error .emptyHost
    else readHostPort special (!user.isEmpty && user != [':']) rest

/-! ## Paths -/

/-- The ways to write a segment that stands for the segment before it. -/
def isUp (segment : List Char) : Bool :=
  let s := segment.map Char.toLower
  s == ['.', '.'] || s == ['.', '%', '2', 'e'] || s == ['%', '2', 'e', '.']
    || s == ['%', '2', 'e', '%', '2', 'e']

/-- The ways to write a segment that stands for nothing. -/
def isHere (segment : List Char) : Bool :=
  let s := segment.map Char.toLower
  s == ['.'] || s == ['%', '2', 'e']

/-- A letter and a colon or bar, which name a drive. -/
def isDrive : List Char → Bool
  | [c, d] => c.isAlpha && (d == ':' || d == '|')
  | _ => false

/-- Cuts a drive with a colon from what comes after a tab or line end behind it. -/
def cutDrive? (cs : List Char) : Option (List Char × List Char) :=
  match cutFirst? ':' cs with
  | some (name, rest) =>
    let drive := withoutNoise name ++ [':']
    let segment := withoutNoise rest
    if isDrive drive && rest.head?.any isNoise && !segment.isEmpty then some (drive, segment)
    else none
  | none => none

/-- What the first segment of a file path stands for, last part first: a drive is written with a
colon and ends at a tab or line end behind it. -/
def firstSegment (cs : List Char) : List (List Char) :=
  let segment := withoutNoise cs
  match cutDrive? cs with
  | some (drive, rest) => [rest, drive]
  | none => if isDrive segment then [[segment.head?.getD 'c', ':']] else [segment]

/-- The segments that stay when a path goes up by one; a file path never leaves a drive. -/
def goUp (file : Bool) : List (List Char) → List (List Char)
  | [] => []
  | segment :: before => if file && isDrive segment then segment :: before else before

/-- Appends a segment to those before it, which are given last one first. -/
def pushSegment (file last : Bool) (done : List (List Char)) (cs : List Char) :
    List (List Char) :=
  let segment := withoutNoise cs
  if isUp segment then
    if last then [] :: goUp file done else goUp file done
  else if isHere segment then
    if last then [] :: done else done
  else if file && done.isEmpty then firstSegment cs
  else segment :: done

/-- The segments of a path, dots resolved. -/
def resolveSegments (file : Bool) (done : List (List Char)) :
    List (List Char) → List (List Char)
  | [] => done.reverse
  | [segment] => (pushSegment file true done segment).reverse
  | segment :: more => resolveSegments file (pushSegment file false done segment) more

/-- Reads a path without its first slash. -/
def readSegments (special file : Bool) (cs : List Char) : List (List Char) :=
  (resolveSegments file [] (splitOn (isSlash special) (cs.takeWhile (!isPathEnd ·)))).map
    (Percent.encode Percent.pathSet)

/-- Reads a path that follows an authority. -/
def readPath (special : Bool) (cs : List Char) : Path :=
  match cs with
  | [] => .segments (if special then [[]] else [])
  | c :: rest =>
    if isSlash special c then .segments (readSegments special false rest)
    else if special then .segments [[]]
    else if isPathEnd c then .segments []
    else .segments (readSegments special false cs)

/-! ## File URLs -/

/-- What follows a slash at the start of a text, tabs and line ends before it apart. -/
def afterSlash? (cs : List Char) : Option (List Char) :=
  match cs.dropWhile isNoise with
  | c :: rest => if isSlash true c then some rest else none
  | [] => none

/-- The path of a file: empty segments at its start are left out. -/
def filePath (segments : List (List Char)) : Path :=
  let kept := segments.dropWhile List.isEmpty
  .segments (if kept.isEmpty then [[]] else kept)

/-- The URL of the file of this machine at a path, which is given after its first slash. -/
def localFile (cs : List Char) : Url :=
  ⟨fileScheme, none, none, filePath (readSegments true true cs)⟩

/-- Reads the host of a file URL; this machine has none. -/
def readFileHost (name : List Char) : Except Error (Option Host) :=
  if name.isEmpty then .ok none
  else
    (Host.parse name).map fun host =>
      if host = .domain "localhost".toList then none else some host

/-- The URL of a file of a host.  A path that starts at a drive is one of this machine, whatever
host stands before it. -/
def hostedFile (host : Host) (tail : List Char) : Url :=
  let path := withoutNoise tail
  let segments := readSegments true true ((afterSlash? path).getD path)
  ⟨fileScheme, if segments.head?.any isDrive then none else some host, none, filePath segments⟩

/-- Reads a file URL after its colon.  A drive in the place of the host belongs to the path, and so
does the slash after a host that is this machine. -/
def parseFile (cs : List Char) : Except Error Url :=
  match afterSlash? cs with
  | none => .ok (localFile cs)
  | some path =>
    match afterSlash? path with
    | none => .ok (localFile path)
    | some rest =>
      let (name, tail) := cutAuthority true rest
      if isDrive (withoutNoise name) then .ok (localFile rest)
      else
        (readFileHost (withoutNoise name)).map fun
          | none => localFile tail
          | some host => hostedFile host tail

/-! ## Whole URLs -/

/-- Reads a URL after the slashes that start its authority. -/
def parseHierarchical (scheme : List Char) (special : Bool) (cs : List Char) :
    Except Error Url := do
  let (authority, tail) := cutAuthority special cs
  let ⟨host, port⟩ ← readAuthority special (!tail.isEmpty) authority
  let port := if port = defaultPort? (String.ofList scheme) then none else port
  return ⟨scheme, host, port, readPath special tail⟩

/-- Reads a URL. -/
def parseChars (cs : List Char) : Except Error Url :=
  match cutScheme? (dropEnds isEndNoise cs) with
  | none => .error .relativeWithoutBase
  | some (scheme, rest) =>
    if scheme = fileScheme then parseFile rest
    else if hasAuthority scheme then
      parseHierarchical scheme true ((withoutNoise rest).dropWhile (isSlash true))
    else
      match withoutNoise rest with
      | '/' :: '/' :: rest => parseHierarchical scheme false rest
      | '/' :: rest => .ok ⟨scheme, none, none, .segments (readSegments false false rest)⟩
      | rest =>
        .ok ⟨scheme, none, none,
          .whole (Percent.encode Percent.controls (rest.takeWhile (!isPathEnd ·)))⟩

/-- Reads a URL. -/
def parse (text : String) : Except Error Url :=
  parseChars text.toList

/-- The port of a URL: its own, or else the default one of its scheme. -/
def knownPort (url : Url) : Option Nat :=
  url.port.or (defaultPort? (String.ofList url.scheme))

end Url

end PageBridge
