import PageBridge.Unicode.Canonical

/-!
# Canonical composition

`compose` brings a text into its composed normal form: composites are taken apart, marks are put
into canonical order, and each starter is then composed with the marks that are not blocked from
it.  It knows the composites that may stand in a domain; a character that only decomposes is
replaced before, by the mapping of domain characters.
-/

namespace PageBridge.Unicode

/-! ## Hangul syllables -/

/-- The first Hangul syllable. -/
def hangulBase : Nat := 0xAC00

/-- The code points before the first leading, vowel and trailing letters. -/
def leadingBase : Nat := 0x1100

/-- The first vowel letter. -/
def vowelBase : Nat := 0x1161

/-- The code point before the first trailing letter. -/
def trailingBase : Nat := 0x11A7

/-- How many leading letters there are. -/
def leadingCount : Nat := 19

/-- How many vowel letters there are. -/
def vowelCount : Nat := 21

/-- How many trailing letters there are, one more for none. -/
def trailingCount : Nat := 28

/-- The letters of a Hangul syllable. -/
def splitHangul (n : Nat) : List Char :=
  let i := n - hangulBase
  let leading := Char.ofNat (leadingBase + i / (vowelCount * trailingCount))
  let vowel := Char.ofNat (vowelBase + i % (vowelCount * trailingCount) / trailingCount)
  if i % trailingCount = 0 then [leading, vowel]
  else [leading, vowel, Char.ofNat (trailingBase + i % trailingCount)]

/-- Whether a code point is a Hangul syllable. -/
def isHangul (n : Nat) : Bool :=
  hangulBase ≤ n && n < hangulBase + leadingCount * vowelCount * trailingCount

/-- The Hangul syllable of two letters, or of a syllable without a trailing letter and one. -/
def joinHangul (a b : Nat) : Option Char :=
  if leadingBase ≤ a ∧ a < leadingBase + leadingCount ∧ vowelBase ≤ b ∧ b < vowelBase + vowelCount
  then some (Char.ofNat (hangulBase
    + ((a - leadingBase) * vowelCount + (b - vowelBase)) * trailingCount))
  else if isHangul a ∧ (a - hangulBase) % trailingCount = 0 ∧ trailingBase < b
    ∧ b < trailingBase + trailingCount
  then some (Char.ofNat (a + (b - trailingBase)))
  else none

/-! ## Decomposition -/

/-- No composite is nested deeper than this. -/
def compositeDepth : Nat := 4

/-- The characters that a composite is made of, in the order of the text. -/
def splitComposite : Nat → Char → List Char
  | 0, c => [c]
  | depth + 1, c =>
    match composites.find? c with
    | some (_, [first, second]) => splitComposite depth first ++ [second]
    | _ => [c]

/-- A character taken apart. -/
def decomposeChar (c : Char) : List Char :=
  if isHangul c.toNat then splitHangul c.toNat else splitComposite compositeDepth c

/-- Puts a mark before the marks that do not come before it in canonical order. -/
def insertMark (c : Char) : List Char → List Char
  | [] => [c]
  | d :: ds =>
    let k := combiningClass d
    if 0 < k ∧ k < combiningClass c then d :: insertMark c ds else c :: d :: ds

/-- A text taken apart, its marks in canonical order. -/
def decompose (cs : List Char) : List Char :=
  (cs.flatMap decomposeChar).foldr insertMark []

/-! ## Composition -/

/-- The composite of two characters. -/
def composite? (a b : Char) : Option Char :=
  match joinHangul a.toNat b.toNat with
  | some c => some c
  | none => (composites.entries.find? fun e => e.2.2 == [a, b]).map fun e => Char.ofNat e.1

/-- Composes an ordered text.  `done` is what is finished, last character first, `starter` the
last starter, `marks` the marks that stay behind it, last one first, and `last` the class of the
last of them. -/
def composeFrom (done : List Char) (starter : Char) (marks : List Char) (last : Nat) :
    List Char → List Char
  | [] => (marks ++ starter :: done).reverse
  | c :: cs =>
    let k := combiningClass c
    match if marks.isEmpty ∨ last < k then composite? starter c else none with
    | some composed => composeFrom done composed marks last cs
    | none =>
      if k = 0 then composeFrom (marks ++ starter :: done) c [] 0 cs
      else composeFrom done starter (c :: marks) k cs

/-- Composes an ordered text: marks before the first starter stay as they are. -/
def composeOrdered : List Char → List Char
  | [] => []
  | c :: cs => if combiningClass c = 0 then composeFrom [] c [] 0 cs else c :: composeOrdered cs

/-- The composed normal form of a text. -/
def compose (cs : List Char) : List Char :=
  composeOrdered (decompose cs)

end PageBridge.Unicode
