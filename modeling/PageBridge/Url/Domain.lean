import PageBridge.Text.Split
import PageBridge.Unicode.Bidi
import PageBridge.Unicode.Compose
import PageBridge.Unicode.DomainMapping
import PageBridge.Unicode.Joining
import PageBridge.Unicode.Mark
import PageBridge.Url.Punycode

/-!
# Domains

`toAscii` gives the ASCII form of a domain: its characters are mapped and composed, each label is
checked, and a label that is not ASCII is encoded after `xn--`.  A domain of ASCII characters
without encoded labels is only lower-cased and checked for forbidden characters.
-/

namespace PageBridge.Url.Domain

open PageBridge.Text PageBridge.Unicode

/-- The ASCII characters that a domain must not hold. -/
def isForbidden (c : Char) : Bool :=
  c ≤ ' ' || c == '#' || c == '%' || c == '/' || c == ':' || c == '<' || c == '>' || c == '?'
    || c == '@' || c == '[' || c == '\\' || c == ']' || c == '^' || c == '|' || c == '\x7f'

/-- Whether a character is ASCII. -/
def isAscii (c : Char) : Bool :=
  c.toNat < 128

/-- What an encoded label starts with. -/
def encodedMark : List Char := ['x', 'n', '-', '-']

/-- Whether a label is an encoded one, in either letter case. -/
def isEncoded (label : List Char) : Bool :=
  (dropStart? encodedMark (label.map Char.toLower)).isSome

/-- The labels of a domain. -/
def labels (domain : List Char) : List (List Char) :=
  splitOn (· == '.') domain

/-! ## Mapping -/

/-- The characters of a domain, mapped and composed. -/
def normalize (domain : List Char) : Option (List Char) :=
  (domain.mapM mapDomainChar).map fun parts => compose parts.flatten

/-! ## Checks of a label -/

/-- The last character of a syllable that joins the next one has this combining class. -/
def viramaClass : Nat := 9

/-- Whether the nearest character of a text that is not transparent joins in the needed way. -/
def joins (needed : Joining) (cs : List Char) : Bool :=
  match (cs.map joining?).dropWhile (· == some .transparent) with
  | some j :: _ => j == needed || j == .dual
  | _ => false

/-- Whether every zero-width joiner of a label stands after a virama, and every non-joiner there
or between characters that join towards it.  `before` is what comes before the rest, last character
first. -/
def joinersFit (before : List Char) : List Char → Bool
  | [] => true
  | c :: cs =>
    let afterVirama := (before.head?.map combiningClass) == some viramaClass
    (if c = '\u200D' then afterVirama
     else if c = '\u200C' then afterVirama || (joins .left before && joins .right cs)
     else true) && joinersFit (c :: before) cs

/-- Whether a label of mapped characters may stand in a domain. -/
def labelFits (label : List Char) : Bool :=
  !label.any isForbidden && !(label.head?.any isMark) && joinersFit [] label

/-! ## Direction -/

/-- The classes that make a domain bidirectional. -/
def isRightToLeft (b : Bidi) : Bool :=
  b == .rightToLeft || b == .arabicLetter || b == .arabicNumber

/-- The classes that a label of either direction may hold. -/
def isNeutral (b : Bidi) : Bool :=
  b == .europeanSeparator || b == .commonSeparator || b == .europeanTerminator
    || b == .otherNeutral || b == .boundaryNeutral || b == .nonspacingMark

/-- Whether a label of a bidirectional domain has one direction. -/
def directionFits (label : List Char) : Bool :=
  let classes := label.map bidi
  let last := (classes.reverse.dropWhile (· == .nonspacingMark)).head?
  match classes with
  | [] => true
  | .leftToRight :: _ =>
    classes.all (fun b => b == .leftToRight || b == .europeanNumber || isNeutral b)
      && (last == some .leftToRight || last == some .europeanNumber)
  | first :: _ =>
    (first == .rightToLeft || first == .arabicLetter)
      && classes.all (fun b => isRightToLeft b || b == .europeanNumber || isNeutral b)
      && last.any (fun b => isRightToLeft b || b == .europeanNumber)
      && !(classes.contains .europeanNumber && classes.contains .arabicNumber)

/-! ## The ASCII form -/

/-- The longest encoded text that is decoded. -/
def maxEncoded : Nat := 2000

/-- The longest plain form of a label that is not ASCII. -/
def maxLabel : Nat := 1000

/-- A label in its two forms. -/
structure Label where
  plain : List Char
  ascii : List Char

/-- Reads a mapped label.  An encoded label has to decode to a label that is not ASCII and that
mapping leaves as it is. -/
def readLabel (label : List Char) : Option Label :=
  match dropStart? encodedMark label with
  | some code =>
    if maxEncoded < code.length || !code.all isAscii then none
    else
      (Punycode.decode code).bind fun plain =>
        if maxLabel < plain.length || plain.all isAscii || plain.contains '.'
          || normalize plain != some plain || !labelFits plain
        then none
        else some ⟨plain, label⟩
  | none =>
    if !labelFits label then none
    else if label.all isAscii then some ⟨label, label⟩
    else if maxLabel < label.length then none
    else some ⟨label, encodedMark ++ Punycode.encode label⟩

/-- The ASCII form of a domain that is not ASCII or has encoded labels. -/
def toAsciiMapped (domain : List Char) : Option (List Char) := do
  let mapped ← normalize domain
  let labels ← (labels mapped).mapM readLabel
  let bidirectional := labels.any fun l => l.plain.any fun c => isRightToLeft (bidi c)
  if bidirectional && !labels.all (fun l => directionFits l.plain) then none
  else some (joinWith '.' (labels.map (·.ascii)))

/-- The ASCII form of a domain, if it has one. -/
def toAscii (domain : List Char) : Option (List Char) :=
  if domain.all isAscii && !(labels domain).any isEncoded then
    if domain.any isForbidden then none else some (domain.map Char.toLower)
  else toAsciiMapped domain

end PageBridge.Url.Domain
