import PageBridge.Json.Double

/-!
# Doubles in a fixed number of places

A double is rounded at a decimal place, a tie to the even neighbour, and written with all its digits
up to there.
-/

namespace PageBridge.Json.Double

/-- The decimal digits of a number, at least so many of them. -/
def digitsPadded (width n : Nat) : List Char :=
  let digits := Nat.toDigits 10 n
  List.replicate (width - digits.length) '0' ++ digits

/-- A double with so many digits after its point. -/
def renderFixed (places : Nat) (x : Double) : String :=
  let (num, den) := x.ratio
  let digits := digitsPadded (places + 1) (roundEven (num * tenTo places) den)
  let whole := digits.take (digits.length - places)
  let fraction := if places = 0 then [] else '.' :: digits.drop (digits.length - places)
  String.ofList ((if x.negative then ['-'] else []) ++ whole ++ fraction)

end PageBridge.Json.Double
