import PageBridge.Json.Double

/-!
# The shortest decimal text of a double

`digits` finds the fewest decimal digits that read back as a given double and, among those, the
ones nearest to it; `Double.render` lays them out the way JSON numbers are written.
-/

namespace PageBridge.Json.Double

/-! ## Digits -/

/-- `10 ^ p` as numerator and denominator. -/
def tenPower (p : Int) : Nat × Nat :=
  if p < 0 then (1, tenTo p.natAbs) else (tenTo p.natAbs, 1)

/-- The decimal exponent of a positive number `num / den`: the greatest `e` with `10 ^ e` at most
that number.  The binary length gives it up to one. -/
def decimalExponent (num den : Nat) : Int :=
  let guess := (((num.log2 : Int) - den.log2) * 30103) / 100000
  let reaches (e : Int) : Bool :=
    let (t, u) := tenPower e
    t * den ≤ num * u
  if reaches (guess + 1) then guess + 1
  else if reaches guess then guess
  else if reaches (guess - 1) then guess - 1
  else guess - 2

/-- Four times the ends of the interval of numbers that read as `x`, in units of `2 ^ x.exp`. -/
def interval (x : Double) : Nat × Nat :=
  let below := if x.mant = twoTo 52 ∧ minExp < x.exp then 1 else 2
  (4 * x.mant - below, 4 * x.mant + 2)

/-- Whether `n * 10 ^ p` reads as the positive double `x`. -/
def readsBack (x : Double) (n : Nat) (p : Int) : Bool :=
  let (lo, hi) := x.interval
  let (t, u) := tenPower p
  let (a, b) := if x.exp < 0 then (1, twoTo x.exp.natAbs) else (twoTo x.exp.natAbs, 1)
  let value := 4 * n * t * b
  let low := lo * a * u
  let high := hi * a * u
  if x.mant % 2 = 0 then low ≤ value && value ≤ high else low < value && value < high

/-- On the grid of the multiples of `10 ^ p`, the point nearest to `x` among those that read as
`x`. -/
def nearestOnGrid (x : Double) (p : Int) : Option Nat :=
  let (num, den) := x.ratio
  let (t, u) := tenPower p
  let n := num * u
  let d := den * t
  let floor := n / d
  let up := d < 2 * (n % d) || (d == 2 * (n % d) && floor % 2 == 1)
  let (first, second) := if up then (floor + 1, floor) else (floor, floor + 1)
  if readsBack x first p then some first
  else if readsBack x second p then some second
  else none

/-- The digits of the coarsest grid, from `10 ^ p` downwards, that has a point reading as `x`. -/
def firstGrid (x : Double) : Nat → Int → Nat × Int
  | 0, p => ((nearestOnGrid x p).getD 0, p)
  | steps + 1, p =>
    match nearestOnGrid x p with
    | some n => (n, p)
    | none => firstGrid x steps (p - 1)

/-- The shortest digits of a positive double and the power of ten that they count. -/
def digits (x : Double) : Nat × Int :=
  let (num, den) := x.ratio
  let e := decimalExponent num den
  firstGrid x 17 e

/-- Drops the zeros at the end of a digit string and says how many there were. -/
def stripZeros (ds : List Char) : List Char × Nat :=
  let kept := (ds.reverse.dropWhile (· == '0')).reverse
  (kept, ds.length - kept.length)

/-! ## Layout -/

/-- The decimal exponents of the numbers that are written without an exponent. -/
def plainFrom : Int := -5

/-- The greatest decimal exponent of a number that is written without an exponent. -/
def plainTo : Int := 15

/-- A digit string with the point after its first digit, if it has a second one. -/
def pointAfterFirst : List Char → List Char
  | [] => []
  | [d] => [d]
  | d :: ds => d :: '.' :: ds

/-- Digits `ds` whose first one counts `10 ^ e`, written as a JSON number: in full from `10 ^ -5`
to below `10 ^ 16`, always with a point, and with a signed exponent outside that range. -/
def layout (ds : List Char) (e : Int) : List Char :=
  if e < plainFrom ∨ plainTo < e then
    let sign := if e < 0 then '-' else '+'
    pointAfterFirst ds ++ 'e' :: sign :: (toString e.natAbs).toList
  else if e < 0 then
    '0' :: '.' :: (List.replicate (e.natAbs - 1) '0' ++ ds)
  else
    let whole := e.natAbs + 1
    if ds.length ≤ whole then ds ++ List.replicate (whole - ds.length) '0' ++ ['.', '0']
    else ds.take whole ++ '.' :: ds.drop whole

/-- The JSON text of a double. -/
def render (x : Double) : String :=
  let text :=
    if x.mant = 0 then ['0', '.', '0']
    else
      let (n, p) := x.digits
      let all := (toString n).toList
      layout (stripZeros all).1 (p + (all.length : Int) - 1)
  String.ofList (if x.negative then '-' :: text else text)

end PageBridge.Json.Double
