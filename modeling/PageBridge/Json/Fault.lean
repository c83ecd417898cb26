/-!
# Where and why the reading of a JSON text stops

A fault is a cause and the part of the text that was not yet read.  `Fault.message` names the
place by the number of its line and the bytes before it on that line.
-/

namespace PageBridge.Json

/-- Why a JSON text is refused. -/
inductive Cause where
  | endInList
  | endInObject
  | endInString
  | endInValue
  | expectedColon
  | expectedListSeparator
  | expectedObjectSeparator
  | expectedIdent
  | expectedValue
  | invalidEscape
  | invalidNumber
  | numberOutOfRange
  | controlCharacter
  | keyNotString
  | loneSurrogate
  | trailingComma
  | trailingCharacters
  | unfinishedSurrogatePair
  | tooDeep
deriving DecidableEq, Repr

/-- The words for a cause. -/
def Cause.message : Cause → String
  | endInList => "EOF while parsing a list"
  | endInObject => "EOF while parsing an object"
  | endInString => "EOF while parsing a string"
  | endInValue => "EOF while parsing a value"
  | expectedColon => "expected `:`"
  | expectedListSeparator => "expected `,` or `]`"
  | expectedObjectSeparator => "expected `,` or `\x7d`"
  | expectedIdent => "expected ident"
  | expectedValue => "expected value"
  | invalidEscape => "invalid escape"
  | invalidNumber => "invalid number"
  | numberOutOfRange => "number out of range"
  | controlCharacter => "control character (\\u0000-\\u001F) found while parsing a string"
  | keyNotString => "key must be a string"
  | loneSurrogate => "lone leading surrogate in hex escape"
  | trailingComma => "trailing comma"
  | trailingCharacters => "trailing characters"
  | unfinishedSurrogatePair => "unexpected end of hex escape"
  | tooDeep => "recursion limit exceeded"

/-- A cause and the place where reading stopped: the characters after it, and how many bytes of
the first of them were read already. -/
structure Fault where
  cause : Cause
  unread : List Char
  into : Nat
deriving DecidableEq, Repr

namespace Fault

/-- A fault found after the last character read. -/
def here (cause : Cause) (unread : List Char) : Fault := ⟨cause, unread, 0⟩

/-- A fault found after `n` more bytes. -/
def after (cause : Cause) : Nat → List Char → Fault
  | _, [] => ⟨cause, [], 0⟩
  | n, c :: cs => if c.utf8Size ≤ n then after cause (n - c.utf8Size) cs else ⟨cause, c :: cs, n⟩

/-- A fault of the next character: its place is after the first byte of that character. -/
def next (cause : Cause) (unread : List Char) : Fault := after cause 1 unread

/-- The line of the place after `cs` and the bytes before it on that line. -/
def place (cs : List Char) : Nat × Nat :=
  cs.foldl (fun (line, column) c => if c = '\n' then (line + 1, 0) else (line, column + c.utf8Size))
    (1, 0)

/-- The words for a fault found in `text`. -/
def message (text : List Char) (fault : Fault) : String :=
  let (line, column) := place (text.take (text.length - fault.unread.length))
  fault.cause.message ++ " at line " ++ toString line ++ " column "
    ++ toString (column + fault.into)

end Fault

end PageBridge.Json
