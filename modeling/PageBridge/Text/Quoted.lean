import PageBridge.Unicode.GraphemeExtend
import PageBridge.Unicode.Printable
import PageBridge.Text.Hex

/-!
# Texts quoted for messages

A text inside a message stands between double quotes, and whatever would not show as one visible
character is escaped.
-/

namespace PageBridge.Text.Quoted

open PageBridge.Unicode

/-- The escape that names a character by its number. -/
def byNumber (c : Char) : List Char :=
  ['\\', 'u', '{'] ++ hexDigits c.toNat ++ ['}']

/-- The Hangul fillers, which are letters without a shape. -/
def isFiller (c : Char) : Bool :=
  c == '\u115F' || c == '\u1160' || c == '\u3164' || c == '\uFFA0'

/-- The halfwidth voicing marks, which extend the kana before them and still take a place of their
own. -/
def isHalfwidthVoicing (c : Char) : Bool :=
  c == '\uFF9E' || c == '\uFF9F'

/-- Whether a character would not show as a character of its own. -/
def isHidden (c : Char) : Bool :=
  (isGraphemeExtend c && !isHalfwidthVoicing c) || isFiller c || !isPrintable c

/-- How one character is written. -/
def quoteChar (c : Char) : List Char :=
  if c = '\x00' then ['\\', '0']
  else if c = '\t' then ['\\', 't']
  else if c = '\r' then ['\\', 'r']
  else if c = '\n' then ['\\', 'n']
  else if c = '"' then ['\\', '"']
  else if c = '\\' then ['\\', '\\']
  else if ' ' ≤ c ∧ c ≤ '~' then [c]
  else if isHidden c then byNumber c
  else [c]

/-- A text between double quotes. -/
def quote (s : String) : String :=
  String.ofList ('"' :: s.toList.flatMap quoteChar ++ ['"'])

end PageBridge.Text.Quoted
