/-!
# Single-quoted script literals

Texts are carried into a page inside single-quoted string literals of its script language.
`escape` writes the body of such a literal and `readBody` reads one back the way a script engine
does.
-/

namespace PageBridge.Text.Literal

/-- What one character becomes inside a single-quoted literal: the quote, the backslash and the
two line ends are written with a backslash, every other character stands for itself. -/
def escapeChar (c : Char) : List Char :=
  if c = '\\' then ['\\', '\\']
  else if c = '\'' then ['\\', '\'']
  else if c = '\n' then ['\\', 'n']
  else if c = '\r' then ['\\', 'r']
  else [c]

/-- The body of the single-quoted literal that denotes a text. -/
def escape (cs : List Char) : List Char :=
  cs.flatMap escapeChar

/-- The body of the single-quoted literal that denotes a text. -/
def escapeText (s : String) : String :=
  String.ofList (escape s.toList)

/-- A text as a complete literal, its quotes included. -/
def quote (s : String) : String :=
  "'" ++ escapeText s ++ "'"

/-- Whether a backslash before `c` starts a numeric escape, or joins two lines of a script. -/
def isLongEscape (c : Char) : Bool :=
  c.isDigit || c = 'x' || c = 'u' || c = '\n' || c = '\r' || c = '\u2028' || c = '\u2029'

/-- The character that a backslash followed by `c` denotes, where these two are the whole escape. -/
def unescapeChar? (c : Char) : Option Char :=
  if isLongEscape c then none
  else if c = 'n' then some '\n'
  else if c = 'r' then some '\r'
  else if c = 't' then some '\t'
  else if c = 'b' then some '\x08'
  else if c = 'f' then some '\x0c'
  else if c = 'v' then some '\x0b'
  else some c

/-- Reads what follows the opening quote of a literal: the text it denotes and what stands after
the closing quote.  A bare line end and a missing closing quote are errors; an escape of more than
one character is not read at all. -/
def readBody : List Char → Option (List Char × List Char)
  | [] => none
  | '\'' :: rest => some ([], rest)
  | ['\\'] => none
  | '\\' :: c :: rest =>
    match unescapeChar? c with
    | none => none
    | some c => (readBody rest).map fun (text, rest) => (c :: text, rest)
  | c :: rest =>
    if c = '\n' ∨ c = '\r' then none
    else (readBody rest).map fun (text, rest) => (c :: text, rest)

/-- Reads one complete literal from the start of a script. -/
def read : List Char → Option (List Char × List Char)
  | '\'' :: rest => readBody rest
  | _ => none

/-! ## Laws -/

/-- Escaping works character by character, and looks at no neighbours. -/
theorem escape_cons (c : Char) (cs : List Char) : escape (c :: cs) = escapeChar c ++ escape cs :=
  rfl

/-- An escaped text is the text of its escaped characters. -/
theorem toList_escapeText (s : String) : (escapeText s).toList = escape s.toList := by
  simp [escapeText]

end PageBridge.Text.Literal
