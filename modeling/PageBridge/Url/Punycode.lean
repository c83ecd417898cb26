/-!
# Punycode

The encoding of a label of a domain in letters, digits and hyphens: the ASCII characters of the
label, a hyphen, and the places and values of the others as generalized variable-length integers.
-/

namespace PageBridge.Url.Punycode

/-- The base of the integers. -/
def base : Nat := 36

/-- The least threshold. -/
def tMin : Nat := 1

/-- The greatest threshold. -/
def tMax : Nat := 26

/-- Divides the deltas in the adaptation of the bias. -/
def skew : Nat := 38

/-- Divides the first delta. -/
def damp : Nat := 700

/-- The bias before the first integer. -/
def firstBias : Nat := 72

/-- The least code point that is not ASCII. -/
def firstCode : Nat := 128

/-- Divides a delta until it is small, and adds up the base for each division. -/
def scaleDelta (delta k : Nat) : Nat × Nat :=
  if (base - tMin) * tMax / 2 < delta then scaleDelta (delta / (base - tMin)) (k + base)
  else (delta, k)
termination_by delta
decreasing_by
  simp only [base, tMin, tMax] at *
  omega

/-- The bias after an integer of value `delta` among `count` characters. -/
def adapt (delta count : Nat) (first : Bool) : Nat :=
  let delta := if first then delta / damp else delta / 2
  let (delta, k) := scaleDelta (delta + delta / count) 0
  k + (base - tMin + 1) * delta / (delta + skew)

/-- The threshold of the digit at place `k`. -/
def threshold (k bias : Nat) : Nat :=
  if k ≤ bias + tMin then tMin else if bias + tMax ≤ k then tMax else k - bias

/-! ## Encoding -/

/-- The character of a digit. -/
def digitChar (d : Nat) : Char :=
  if d < 26 then Char.ofNat ('a'.toNat + d) else Char.ofNat ('0'.toNat + (d - 26))

/-- The digits of an integer, `steps` bounding their number. -/
def encodeInteger : Nat → Nat → Nat → Nat → List Char
  | 0, _, _, _ => []
  | steps + 1, q, k, bias =>
    let t := threshold k bias
    if q < t then [digitChar q]
    else digitChar (t + (q - t) % (base - t))
      :: encodeInteger steps ((q - t) / (base - t)) (k + base) bias

/-- The state of an encoder that goes over the label for one code point. -/
structure Encoder where
  delta : Nat
  bias : Nat
  handled : Nat
  out : List Char

/-- Goes over one character: smaller ones count, the code point itself is written. -/
def Encoder.step (basic code : Nat) (e : Encoder) (c : Char) : Encoder :=
  if c.toNat < code then { e with delta := e.delta + 1 }
  else if c.toNat = code then
    { delta := 0
      bias := adapt e.delta (e.handled + 1) (e.handled == basic)
      handled := e.handled + 1
      out := (encodeInteger (e.delta + 1) e.delta base e.bias).reverse ++ e.out }
  else e

/-- Writes the code points from `code` on, least first; `steps` bounds their number. -/
def encodeFrom (label : List Char) (basic : Nat) : Nat → Nat → Encoder → Encoder
  | 0, _, e => e
  | steps + 1, code, e =>
    match (label.filterMap fun c => if code ≤ c.toNat then some c.toNat else none).min? with
    | none => e
    | some next =>
      let e := { e with delta := e.delta + (next - code) * (e.handled + 1) }
      let e := label.foldl (Encoder.step basic next) e
      encodeFrom label basic steps (next + 1) { e with delta := e.delta + 1 }

/-- The encoding of a label. -/
def encode (label : List Char) : List Char :=
  let ascii := label.filter fun c => c.toNat < firstCode
  let basic := ascii.length
  let out := if basic = 0 then [] else ascii ++ ['-']
  out ++ (encodeFrom label basic label.length firstCode ⟨0, firstBias, basic, []⟩).out.reverse

/-! ## Decoding -/

/-- The value of a digit. -/
def digit? (c : Char) : Option Nat :=
  if 'a' ≤ c ∧ c ≤ 'z' then some (c.toNat - 'a'.toNat)
  else if 'A' ≤ c ∧ c ≤ 'Z' then some (c.toNat - 'A'.toNat)
  else if c.isDigit then some (c.toNat - '0'.toNat + 26)
  else none

/-- Reads an integer and adds it, weighted, to `i`. -/
def decodeInteger (i weight k bias : Nat) : List Char → Option (Nat × List Char)
  | [] => none
  | c :: cs =>
    match digit? c with
    | none => none
    | some d =>
      let i := i + d * weight
      let t := threshold k bias
      if d < t then some (i, cs) else decodeInteger i (weight * (base - t)) (k + base) bias cs

/-- The character of a code point, if there is one. -/
def char? (n : Nat) : Option Char :=
  if n.isValidChar then some (Char.ofNat n) else none

/-- Inserts the encoded characters into `label`; `steps` bounds their number. -/
def decodeFrom : Nat → List Char → Nat → Nat → Nat → List Char → Option (List Char)
  | 0, _, _, _, _, _ => none
  | steps + 1, label, code, i, bias, cs =>
    match cs with
    | [] => some label
    | cs =>
      match decodeInteger i 1 base bias cs with
      | none => none
      | some (next, rest) =>
        let count := label.length + 1
        let code := code + next / count
        let place := next % count
        match char? code with
        | none => none
        | some c =>
          decodeFrom steps (label.take place ++ c :: label.drop place) code (place + 1)
            (adapt (next - i) count (i == 0)) rest

/-- The label that a text encodes.  The last hyphen ends the ASCII characters, unless it comes
first. -/
def decode (cs : List Char) : Option (List Char) :=
  let tail := (cs.reverse.takeWhile (· ≠ '-')).reverse
  let ascii := (cs.take (cs.length - tail.length)).dropLast
  if cs.any (· = '-') then
    decodeFrom (cs.length + 1) ascii firstCode 0 firstBias (if ascii.isEmpty then cs else tail)
  else decodeFrom (cs.length + 1) [] firstCode 0 firstBias cs

end PageBridge.Url.Punycode
