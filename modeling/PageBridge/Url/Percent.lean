import PageBridge.Text.Hex

/-!
# Percent encoding

A byte is written as a percent sign and two hexadecimal digits.  `decode` gives the bytes that a
text stands for, `encode` writes the bytes of the characters of a set that way.
-/

namespace PageBridge.Url.Percent

open PageBridge.Text

/-- The bytes of a character in UTF-8. -/
def utf8 (c : Char) : List UInt8 :=
  String.utf8EncodeChar c

/-- The bytes that a text stands for; `done` is what was read of them, last byte first. -/
def decodeFrom (done : List UInt8) : List Char → List UInt8
  | [] => done.reverse
  | c :: cs =>
    if c = '%' then
      match cs with
      | a :: b :: rest =>
        match hexDigit? a, hexDigit? b with
        | some x, some y => decodeFrom (UInt8.ofNat (x * 16 + y) :: done) rest
        | _, _ => decodeFrom (0x25 :: done) (a :: b :: rest)
      | cs => decodeFrom (0x25 :: done) cs
    else decodeFrom ((utf8 c).reverse ++ done) cs

/-- The bytes that a text stands for.  A percent sign that two hexadecimal digits do not follow
stands for itself. -/
def decode (cs : List Char) : List UInt8 :=
  decodeFrom [] cs

/-- The text that bytes write in UTF-8. -/
def text? (bytes : List UInt8) : Option (List Char) :=
  (String.fromUTF8? bytes.toByteArray).map String.toList

/-- The text that a percent-encoded text stands for, if its bytes are UTF-8. -/
def decodeText? (cs : List Char) : Option (List Char) :=
  if cs.contains '%' then text? (decode cs) else some cs

/-- A byte as a percent sign and two hexadecimal digits. -/
def encodeByte (b : UInt8) : List Char :=
  ['%', hexCharUpper (b.toNat / 16), hexCharUpper (b.toNat % 16)]

/-- Writes the characters of a set as percent-encoded bytes. -/
def encode (set : Char → Bool) (cs : List Char) : List Char :=
  cs.flatMap fun c => if set c then (utf8 c).flatMap encodeByte else [c]

/-- The characters that are encoded everywhere: the control characters and all beyond ASCII. -/
def controls (c : Char) : Bool :=
  c < ' ' || '~' < c

/-- The characters that are encoded in a path. -/
def pathSet (c : Char) : Bool :=
  controls c || c == ' ' || c == '"' || c == '#' || c == '<' || c == '>' || c == '?' || c == '^'
    || c == '`' || c == '{' || c == '}'

end PageBridge.Url.Percent
