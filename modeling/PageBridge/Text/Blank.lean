/-!
# Blank characters

The characters that carry the `White_Space` property, and the trimming of texts by them.  Script
paths, invoke keys, origins, allow-list patterns and page addresses are all trimmed with the one
rule of this module, so two of them that differ only in surrounding blanks are the same.
-/

namespace PageBridge.Text

/-- The 25 characters of the `White_Space` property. -/
def isBlank (c : Char) : Bool :=
  c == ' ' || ('\t' ≤ c && c ≤ '\r') || c == '\x85' || c == '\u00A0' || c == '\u1680' ||
    ('\u2000' ≤ c && c ≤ '\u200A') || c == '\u2028' || c == '\u2029' || c == '\u202F' ||
    c == '\u205F' || c == '\u3000'

/-- Drops the characters at the end for which `p` holds. -/
def dropRight (p : Char → Bool) (cs : List Char) : List Char :=
  (cs.reverse.dropWhile p).reverse

/-- Drops the characters at both ends for which `p` holds. -/
def dropEnds (p : Char → Bool) (cs : List Char) : List Char :=
  dropRight p (cs.dropWhile p)

/-- The text without the blanks at its two ends. -/
def trim (s : String) : String :=
  String.ofList (dropEnds isBlank s.toList)

/-- A text is blank when it has no character but blanks. -/
def blank (s : String) : Bool :=
  s.toList.all isBlank

/-- Lower-cases the letters `A` to `Z` and keeps every other character. -/
def lowerAscii (s : String) : String :=
  String.ofList (s.toList.map Char.toLower)

/-! ## Laws -/

/-- Bringing a text into lower case works character by character. -/
theorem toList_lowerAscii (s : String) : (lowerAscii s).toList = s.toList.map Char.toLower := by
  simp [lowerAscii]

/-- Lower case does not change the length, so it makes no text empty. -/
theorem isEmpty_lowerAscii (s : String) : (lowerAscii s).isEmpty = s.isEmpty := by
  rw [Bool.eq_iff_iff, String.isEmpty_iff, String.isEmpty_iff, ← String.toList_eq_nil_iff,
    ← String.toList_eq_nil_iff, toList_lowerAscii, List.map_eq_nil_iff]

end PageBridge.Text
