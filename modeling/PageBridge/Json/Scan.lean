import PageBridge.Json.Fault
import PageBridge.Json.Value
import PageBridge.Text.Hex

/-!
# Blanks, words, strings and numbers of a JSON text

The readers of the parts of a JSON text that hold no values.  A reader takes the characters that
are left of the text and answers with what it read and what is left after it.  `readString` and
`readNumber` build the values; `skipString` and `skipNumber` accept the same shapes but neither
pair up surrogates nor look at the size of a number.
-/

namespace PageBridge.Json

open PageBridge.Text (hexDigit?)

/-- What a reader answers: a result and the rest of the text, or a fault. -/
abbrev Read (α : Type) := Except Fault (α × List Char)

/-- The four blanks of JSON. -/
def isSpace (c : Char) : Bool :=
  c == ' ' || c == '\n' || c == '\t' || c == '\r'

/-- The text from its first character that is no blank. -/
def skipSpace (cs : List Char) : List Char :=
  cs.dropWhile isSpace

/-- Reads the given letters. -/
def readWord {α : Type} (result : α) : List Char → List Char → Read α
  | [], cs => .ok (result, cs)
  | _ :: _, [] => .error (.here .endInValue [])
  | w :: ws, c :: cs =>
    if w = c then readWord result ws cs else .error (.after .expectedIdent 1 (c :: cs))

/-! ## Strings -/

/-- The value of four hexadecimal digits. -/
def hex4? (a b c d : Char) : Option Nat := do
  let a ← hexDigit? a
  let b ← hexDigit? b
  let c ← hexDigit? c
  let d ← hexDigit? d
  return ((a * 16 + b) * 16 + c) * 16 + d

/-- The character that a backslash and one letter denote. -/
def escaped? (c : Char) : Option Char :=
  if c = '"' then some '"'
  else if c = '\\' then some '\\'
  else if c = '/' then some '/'
  else if c = 'b' then some '\x08'
  else if c = 'f' then some '\x0c'
  else if c = 'n' then some '\n'
  else if c = 'r' then some '\r'
  else if c = 't' then some '\t'
  else none

/-- The first half of a surrogate pair. -/
def isLeading (n : Nat) : Bool := 0xD800 ≤ n && n ≤ 0xDBFF

/-- The second half of a surrogate pair. -/
def isTrailing (n : Nat) : Bool := 0xDC00 ≤ n && n ≤ 0xDFFF

/-- The character of a surrogate pair. -/
def pair (lead trail : Nat) : Char :=
  Char.ofNat (0x10000 + (lead - 0xD800) * 0x400 + (trail - 0xDC00))

/-- The fault of four bytes that should be hexadecimal digits, `cs` being what follows the `u`. -/
def hexFault (cs : List Char) : Fault :=
  if 4 ≤ (cs.take 4).foldl (fun n c => n + c.utf8Size) 0 then .after .invalidEscape 4 cs
  else .here .endInString []

/-- The fault of a leading surrogate that is not followed by a trailing one. -/
def pairFault : List Char → Fault
  | [] => .here .endInString []
  | '\\' :: [] => .here .endInString []
  | '\\' :: 'u' :: cs =>
    match cs with
    | a :: b :: c :: d :: cs' =>
      if (hex4? a b c d).isSome then .here .loneSurrogate cs' else hexFault cs
    | _ => hexFault cs
  | '\\' :: cs => .next .unfinishedSurrogatePair cs
  | cs => .next .unfinishedSurrogatePair cs

/-- Reads a string after its opening quote; `acc` holds the characters read, last one first. -/
def readString (acc : List Char) : List Char → Read (List Char)
  | [] => .error (.here .endInString [])
  | c :: cs =>
    if c = '"' then .ok (acc.reverse, cs)
    else if c = '\\' then
      match cs with
      | [] => .error (.here .endInString [])
      | e :: cs =>
        if e = 'u' then
          match cs with
          | h₁ :: h₂ :: h₃ :: h₄ :: rest =>
            match hex4? h₁ h₂ h₃ h₄ with
            | none => .error (hexFault cs)
            | some n =>
              if isTrailing n then .error (.here .loneSurrogate rest)
              else if isLeading n then
                match rest with
                | '\\' :: 'u' :: k₁ :: k₂ :: k₃ :: k₄ :: rest' =>
                  match hex4? k₁ k₂ k₃ k₄ with
                  | some m =>
                    if isTrailing m then readString (pair n m :: acc) rest'
                    else .error (pairFault rest)
                  | none => .error (pairFault rest)
                | _ => .error (pairFault rest)
              else readString (Char.ofNat n :: acc) rest
          | _ => .error (hexFault cs)
        else
          match escaped? e with
          | some x => readString (x :: acc) cs
          | none => .error (.next .invalidEscape (e :: cs))
    else if c < ' ' then .error (.here .controlCharacter cs)
    else readString (c :: acc) cs

/-- Skips a string after its opening quote. -/
def skipString : List Char → Option (List Char)
  | [] => none
  | c :: cs =>
    if c = '"' then some cs
    else if c = '\\' then
      match cs with
      | [] => none
      | e :: cs =>
        if e = 'u' then
          match cs with
          | a :: b :: c :: d :: rest => if (hex4? a b c d).isSome then skipString rest else none
          | _ => none
        else if (escaped? e).isSome then skipString cs
        else none
    else if c < ' ' then none
    else skipString cs

/-! ## Numbers -/

/-- The value of a decimal digit. -/
def digit (c : Char) : Nat := c.toNat - '0'.toNat

/-- Whether the text goes on with a digit. -/
def startsWithDigit : List Char → Bool
  | c :: _ => c.isDigit
  | [] => false

/-- The bound of the significands that are kept exactly. -/
def significandBound : Nat := twoTo 64

/-- Appends digits to a significand as long as it stays below the bound, and counts them. -/
def gather (significand count : Nat) : List Char → Nat × Nat × List Char
  | [] => (significand, count, [])
  | c :: cs =>
    if c.isDigit && significand * 10 + digit c < significandBound then
      gather (significand * 10 + digit c) (count + 1) cs
    else (significand, count, c :: cs)

/-- Drops digits and counts them. -/
def dropDigits (count : Nat) : List Char → Nat × List Char
  | [] => (count, [])
  | c :: cs => if c.isDigit then dropDigits (count + 1) cs else (count, c :: cs)

/-- The number `± significand * 10 ^ exponent`, if it is not too great for a double. -/
def scaled (negative : Bool) (significand : Nat) (exponent : Int) (rest : List Char) :
    Read Number :=
  match Double.ofScientific negative significand exponent with
  | some x => .ok (.double x, rest)
  | none => .error (.here .numberOutOfRange rest)

/-- The bound of the exponents that are added up; from there on a number is zero or too great. -/
def exponentBound : Nat := twoTo 31

/-- Reads the digits of an exponent, `value` being read already. -/
def exponentDigits (negative : Bool) (significand : Nat) (start : Int) (up : Bool) (value : Nat) :
    List Char → Read Number
  | [] => scaled negative significand (if up then start + value else start - value) []
  | c :: cs =>
    if c.isDigit then
      if value * 10 + digit c < exponentBound then
        exponentDigits negative significand start up (value * 10 + digit c) cs
      else if significand ≠ 0 ∧ up then .error (.here .numberOutOfRange cs)
      else .ok (.double (.zero negative), (dropDigits 0 cs).2)
    else scaled negative significand (if up then start + value else start - value) (c :: cs)

/-- Reads an exponent after its `e`. -/
def readExponent (negative : Bool) (significand : Nat) (start : Int) (cs : List Char) :
    Read Number :=
  let (up, cs) : Bool × List Char :=
    match cs with
    | '+' :: cs => (true, cs)
    | '-' :: cs => (false, cs)
    | cs => (true, cs)
  match cs with
  | [] => .error (.here .endInValue [])
  | c :: rest =>
    if c.isDigit then exponentDigits negative significand start up (digit c) rest
    else .error (.next .invalidNumber cs)

/-- Reads what may follow the digits of a number: an exponent, or nothing. -/
def readTail (negative : Bool) (significand : Nat) (exponent : Int) : List Char → Read Number
  | 'e' :: cs => readExponent negative significand exponent cs
  | 'E' :: cs => readExponent negative significand exponent cs
  | cs => scaled negative significand exponent cs

/-- Reads a fraction after its point.  Digits that no longer fit the significand do not count. -/
def readFraction (negative : Bool) (significand : Nat) (exponent : Int) (cs : List Char) :
    Read Number :=
  let (significand, count, rest) := gather significand 0 cs
  if count = 0 ∧ startsWithDigit rest = false then
    match rest with
    | [] => .error (.next .endInValue [])
    | rest => .error (.next .invalidNumber rest)
  else readTail negative significand (exponent - count) (dropDigits 0 rest).2

/-- The number of a significand without point and exponent. -/
def integer (negative : Bool) (significand : Nat) : Number :=
  if negative then
    if 0 < significand ∧ significand ≤ twoTo 63 then .int (-significand)
    else .double { Double.ofNat significand with negative := true }
  else .int significand

/-- Reads what follows the integer digits of a number. -/
def readAfterDigits (negative : Bool) (significand : Nat) : List Char → Read Number
  | '.' :: cs => readFraction negative significand 0 cs
  | 'e' :: cs => readExponent negative significand 0 cs
  | 'E' :: cs => readExponent negative significand 0 cs
  | cs =>
    if startsWithDigit cs then
      let (count, rest) := dropDigits 0 cs
      match rest with
      | '.' :: rest => readFraction negative significand count rest
      | rest => readTail negative significand count rest
    else .ok (integer negative significand, cs)

/-- Reads a number after its sign. -/
def readNumber (negative : Bool) : List Char → Read Number
  | [] => .error (.here .endInValue [])
  | c :: cs =>
    if c = '0' then
      if startsWithDigit cs then .error (.next .invalidNumber cs)
      else readAfterDigits negative 0 cs
    else if c.isDigit then
      let (significand, _, rest) := gather (digit c) 0 cs
      readAfterDigits negative significand rest
    else .error (.next .invalidNumber (c :: cs))

/-- Skips at least one digit. -/
def skipDigits (cs : List Char) : Option (List Char) :=
  if startsWithDigit cs then some (dropDigits 0 cs).2 else none

/-- Skips an exponent, if there is one. -/
def skipExponent : List Char → Option (List Char)
  | c :: cs =>
    if c = 'e' ∨ c = 'E' then
      match cs with
      | '+' :: cs => skipDigits cs
      | '-' :: cs => skipDigits cs
      | cs => skipDigits cs
    else some (c :: cs)
  | [] => some []

/-- Skips a number after its sign. -/
def skipNumber : List Char → Option (List Char)
  | [] => none
  | c :: cs =>
    if c = '0' ∧ startsWithDigit cs then none
    else if c.isDigit then
      match (dropDigits 0 cs).2 with
      | '.' :: rest => (skipDigits rest).bind skipExponent
      | rest => skipExponent rest
    else none

end PageBridge.Json
