/-!
# Binary64 numbers in exact arithmetic

A finite double is a sign, a significand and a power of two, and every operation on it is exact
arithmetic on natural numbers followed by one rounding to the nearest double, ties to the even
neighbour.  `ofScientific` reads a decimal significand and exponent with the two operations that a
reader of JSON numbers uses, one conversion and one multiplication or division by a power of ten,
so it is within two roundings of the decimal number.
-/

namespace PageBridge.Json

/-- A power of two. -/
def twoTo (k : Nat) : Nat := Nat.pow 2 k

/-- A power of ten. -/
def tenTo (k : Nat) : Nat := Nat.pow 10 k

/-- A finite double `± mant * 2 ^ exp`, in its canonical form: the significand has 53 bits, or the
exponent is the least one. -/
structure Double where
  negative : Bool
  mant : Nat
  exp : Int
deriving DecidableEq, Repr

namespace Double

/-- The exponent of the subnormal doubles. -/
def minExp : Int := -1074

/-- The exponent of the greatest doubles. -/
def maxExp : Int := 971

/-- Zero with the given sign. -/
def zero (negative : Bool) : Double := ⟨negative, 0, minExp⟩

instance : Inhabited Double := ⟨zero false⟩

/-- `num / den` divided by `2 ^ q`, again as numerator and denominator. -/
def unscale (num den : Nat) (q : Int) : Nat × Nat :=
  if q < 0 then (num * twoTo q.natAbs, den) else (num, den * twoTo q.natAbs)

/-- The exponent of the double nearest to `num / den`, before rounding. -/
def exponentOf (num den : Nat) : Int :=
  let guess := max minExp ((num.log2 : Int) - den.log2 - 52)
  let (n, d) := unscale num den guess
  if n / d < twoTo 52 ∧ minExp < guess then guess - 1 else guess

/-- The quotient rounded to the nearest integer, ties to the even one. -/
def roundEven (n d : Nat) : Nat :=
  let m := n / d
  let r := n % d
  if d < 2 * r ∨ (d = 2 * r ∧ m % 2 = 1) then m + 1 else m

/-- The double nearest to `num / den`, or none where it would be infinite. -/
def ofRatio (negative : Bool) (num den : Nat) : Option Double :=
  if num = 0 then some (zero negative)
  else
    let q := exponentOf num den
    let (n, d) := unscale num den q
    let m := roundEven n d
    let (m, q) := if m = twoTo 53 then (twoTo 52, q + 1) else (m, q)
    if maxExp < q then none else some ⟨negative, m, q⟩

/-- The absolute value as numerator and denominator. -/
def ratio (x : Double) : Nat × Nat :=
  if x.exp < 0 then (x.mant, twoTo x.exp.natAbs) else (x.mant * twoTo x.exp.natAbs, 1)

/-- The double nearest to a natural number. -/
def ofNat (n : Nat) : Double :=
  (ofRatio false n 1).getD (zero false)

/-- The double nearest to a power of ten. -/
def pow10 (k : Nat) : Double := ofNat (tenTo k)

/-- The double nearest to a product of absolute values. -/
def mul (x y : Double) : Option Double :=
  let (a, b) := x.ratio
  let (c, d) := y.ratio
  ofRatio false (a * c) (b * d)

/-- The double nearest to a quotient of absolute values. -/
def div (x y : Double) : Double :=
  let (a, b) := x.ratio
  let (c, d) := y.ratio
  (ofRatio false (a * d) (b * c)).getD (zero false)

/-- The greatest power of ten that is a double. -/
def maxPow10 : Nat := 308

/-- `x / 10 ^ k`, in steps of at most `10 ^ 308`. -/
def divPow10 (x : Double) (k : Nat) : Double :=
  if k ≤ maxPow10 then x.div (pow10 k)
  else if x.mant = 0 then x
  else divPow10 (x.div (pow10 maxPow10)) (k - maxPow10)
termination_by k
decreasing_by simp only [maxPow10] at *; omega

/-- The double read from `significand * 10 ^ exponent`, or none where it is too great. -/
def ofScientific (negative : Bool) (significand : Nat) (exponent : Int) : Option Double :=
  let x := ofNat significand
  let signed (x : Double) : Double := { x with negative }
  if exponent < 0 then some (signed (divPow10 x exponent.natAbs))
  else if exponent.natAbs ≤ maxPow10 then (x.mul (pow10 exponent.natAbs)).map signed
  else if x.mant = 0 then some (signed x)
  else none

end Double

end PageBridge.Json
