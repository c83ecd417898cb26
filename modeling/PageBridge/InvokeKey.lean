import PageBridge.Text.Hex

/-!
# Invoke keys

A fresh invoke key is a random identifier of 128 bits in 32 hexadecimal digits.  Six of the bits say
that it is random and by which scheme it is laid out: the thirteenth digit is `4` and the
seventeenth is one of `8`, `9`, `a` and `b`.
-/

namespace PageBridge.InvokeKey

open PageBridge.Text (hexChar)

/-- The digits of a key. -/
def length : Nat := 32

/-- The place of the digit that says that a key is random. -/
def versionPlace : Nat := 12

/-- The place of the digit that says by which scheme a key is laid out. -/
def variantPlace : Nat := 16

/-- The digit at a place, for a random digit. -/
def markDigit (place digit : Nat) : Nat :=
  if place = versionPlace then 4
  else if place = variantPlace then 8 + digit % 4
  else digit % 16

/-- The key of random digits. -/
def ofDigits (digit : Nat → Nat) : String :=
  String.ofList ((List.range length).map fun place => hexChar (markDigit place (digit place)))

/-- Draws random digits, the last one first. -/
def draw {γ : Type} [RandomGen γ] (gen : γ) : Nat → List Nat × γ
  | 0 => ([], gen)
  | n + 1 =>
    let (digit, gen) := randNat gen 0 15
    let (digits, gen) := draw gen n
    (digit :: digits, gen)

/-- Makes a fresh key. -/
def mint {γ : Type} [RandomGen γ] (gen : γ) : String × γ :=
  let (digits, gen) := draw gen length
  (ofDigits fun place => digits[place]?.getD 0, gen)

end PageBridge.InvokeKey
