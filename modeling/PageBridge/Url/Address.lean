import PageBridge.Text.Hex
import PageBridge.Text.Split

/-!
# Internet addresses

The addresses that a host may be: four bytes written as one to four numbers, and sixteen bytes
written as eight pieces in brackets.
-/

namespace PageBridge.Url

open PageBridge.Text

/-! ## Four bytes -/

namespace Ipv4

/-- What a part of an address writes: a number in decimal, octal or hexadecimal digits. -/
inductive Part where
  | number (n : Nat)
  | other
deriving DecidableEq, Repr

/-- The number that digits of a radix write, if all of them are such digits. -/
def readRadix (radix : Nat) (digits : List Char) : Part :=
  match digits.mapM fun c => (hexDigit? c).filter (· < radix) with
  | some ds => .number (ds.foldl (fun n d => n * radix + d) 0)
  | none => .other

/-- Reads a part.  `0x` starts a hexadecimal number and `0` an octal one, and either may stand
alone. -/
def readPart : List Char → Part
  | [] => .other
  | '0' :: 'x' :: digits => readRadix 16 digits
  | '0' :: 'X' :: digits => readRadix 16 digits
  | '0' :: d :: digits => readRadix 8 (d :: digits)
  | digits => readRadix 10 digits

/-- The parts of a domain without an empty last one. -/
def parts (domain : List Char) : List (List Char) :=
  let parts := splitOn (· == '.') domain
  if parts.getLast? = some [] then parts.dropLast else parts

/-- Whether a domain has to be read as an address: its last part is a number, or digits at
least. -/
def endsInNumber (domain : List Char) : Bool :=
  match (parts domain).getLast? with
  | none => false
  | some [] => false
  | some part => part.all Char.isDigit || readPart part != .other

/-- How many numbers some bytes can hold. -/
def bytesTo (n : Nat) : Nat := Nat.pow 256 n

/-- The value of bytes, the first of which has so many bytes after it. -/
def leading : Nat → List Nat → Nat
  | _, [] => 0
  | k, n :: numbers => n * bytesTo k + leading (k - 1) numbers

/-- The value of the numbers of an address, the last of which fills all bytes that are left. -/
def combine (numbers : List Nat) : Option Nat :=
  match numbers.reverse with
  | [] => none
  | last :: others =>
    if 4 < numbers.length ∨ others.any (255 < ·) ∨ bytesTo (4 - others.length) ≤ last then none
    else some (last + leading 3 others.reverse)

/-- Reads an address. -/
def parse (domain : List Char) : Option Nat := do
  let numbers ← (parts domain).mapM fun part =>
    match readPart part with
    | .number n => some n
    | .other => none
  combine numbers

/-- The four numbers of an address, points between them. -/
def render (address : Nat) : List Char :=
  joinWith '.' ([3, 2, 1, 0].map fun i => (toString (address / bytesTo i % 256)).toList)

end Ipv4

/-! ## Sixteen bytes -/

namespace Ipv6

/-- Reads one to four hexadecimal digits, or none. -/
def takePiece (cs : List Char) : Nat × Nat × List Char :=
  let digits := (cs.take 4).takeWhile fun c => (hexDigit? c).isSome
  (readHex digits, digits.length, cs.drop digits.length)

/-- A number from 0 to 255 in decimal digits without a leading zero. -/
def readByte (cs : List Char) : Option Nat :=
  if cs.isEmpty ∨ !cs.all Char.isDigit ∨ (1 < cs.length ∧ cs.head? = some '0') ∨ 3 < cs.length then
    none
  else
    let n := cs.foldl (fun n c => n * 10 + (c.toNat - '0'.toNat)) 0
    if n ≤ 255 then some n else none

/-- The two last pieces of an address, written as four bytes. -/
def readBytes (cs : List Char) : Option (List Nat) :=
  match (splitOn (· == '.') cs).mapM readByte with
  | some [a, b, c, d] => some [a * 256 + b, c * 256 + d]
  | _ => none

/-- The state of a reader: the pieces read, last one first, and how many of them stand before the
gap of zeros, if there was one. -/
structure Reader where
  pieces : List Nat
  gap : Option Nat

/-- The pieces of an address, the gap filled with zeros. -/
def Reader.finish (r : Reader) : Option (List Nat) :=
  let pieces := r.pieces.reverse
  match r.gap with
  | some before =>
    if pieces.length ≤ 7 then
      some (pieces.take before ++ List.replicate (8 - pieces.length) 0 ++ pieces.drop before)
    else none
  | none => if pieces.length = 8 then some pieces else none

/-- The number of pieces taken, the gap counting as one. -/
def Reader.count (r : Reader) : Nat :=
  r.pieces.length + (if r.gap.isSome then 1 else 0)

/-- Reads the pieces of an address; `steps` bounds their number. -/
def readPieces : Nat → Reader → List Char → Option (List Nat)
  | 0, _, _ => none
  | _ + 1, r, [] => r.finish
  | steps + 1, r, c :: cs =>
    if 8 ≤ r.count then none
    else if c = ':' then
      if r.gap.isSome then none
      else readPieces steps { r with gap := some r.pieces.length } cs
    else
      let (piece, digits, rest) := takePiece (c :: cs)
      match rest with
      | [] => if digits = 0 then none else ({ r with pieces := piece :: r.pieces }).finish
      | '.' :: _ =>
        if digits = 0 ∨ 6 < r.count then none
        else
          match readBytes (c :: cs) with
          | some [a, b] => ({ r with pieces := b :: a :: r.pieces }).finish
          | _ => none
      | ':' :: rest =>
        if rest.isEmpty then none
        else readPieces steps { r with pieces := piece :: r.pieces } rest
      | _ => none

/-- Reads an address without its brackets. -/
def parse (cs : List Char) : Option (List Nat) :=
  match cs with
  | [] | [_] => none
  | ':' :: c :: cs => if c = ':' then readPieces 10 ⟨[], some 0⟩ cs else none
  | cs => readPieces 10 ⟨[], none⟩ cs

/-- The length of the run of zeros at the start. -/
def zeros (pieces : List Nat) : Nat :=
  (pieces.takeWhile (· == 0)).length

/-- The place and length of the first of the longest runs of zeros. -/
def longestZeros (pieces : List Nat) : Nat × Nat :=
  (List.range pieces.length).foldl
    (fun (best : Nat × Nat) i =>
      let n := zeros (pieces.drop i)
      if best.2 < n then (i, n) else best)
    (0, 0)

/-- The pieces, colons between them. -/
def joinPieces (pieces : List Nat) : List Char :=
  joinWith ':' (pieces.map hexDigits)

/-- The pieces of an address in hexadecimal, the first longest run of at least two zeros left
out. -/
def render (pieces : List Nat) : List Char :=
  let (start, length) := longestZeros pieces
  if length < 2 then joinPieces pieces
  else joinPieces (pieces.take start) ++ [':', ':'] ++ joinPieces (pieces.drop (start + length))

end Ipv6

end PageBridge.Url
