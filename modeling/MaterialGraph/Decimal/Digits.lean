import MaterialGraph.Binary.Rounding

/-!
# Decimal digits

Digit sequences stand most significant digit first. A decimal is a coefficient times a power of ten;
its decade is the exponent of its leading digit.
-/

namespace MaterialGraph

/-- The digits of a natural number in base ten; zero has one digit. -/
def digitsOf (n : Nat) : List Char :=
  Nat.toDigits 10 n

/-- The number of digits of a natural number in base ten. -/
def digitCount (n : Nat) : Nat :=
  (digitsOf n).length

/-- The value of a decimal digit. -/
def digitValue (c : Char) : Nat :=
  c.toNat - '0'.toNat

/-- The value of a digit sequence. -/
def valueOfDigits (digits : List Char) : Nat :=
  digits.foldl (fun value digit => 10 * value + digitValue digit) 0

/-- Copies of the digit zero. -/
def zeros (count : Nat) : List Char :=
  List.replicate count '0'

/-- The magnitude `coefficient * 10 ^ exponent`. -/
structure Decimal where
  coefficient : Nat
  exponent : Int
deriving DecidableEq, Repr

namespace Decimal

/-- The exact value of a decimal. -/
def toRatio (d : Decimal) : Ratio :=
  Ratio.scale ⟨d.coefficient, 1⟩ 10 d.exponent

/-- Drop at most `limit` zeros from the end of the coefficient. -/
def trimWithin : Nat → Decimal → Decimal
  | 0, d => d
  | limit + 1, d =>
    if d.coefficient % 10 = 0 then trimWithin limit ⟨d.coefficient / 10, d.exponent + 1⟩ else d

/-- The same value without zeros at the end of the coefficient. -/
def trim (d : Decimal) : Decimal :=
  if d.coefficient = 0 then d else trimWithin (digitCount d.coefficient) d

/-- The exponent of the leading digit. -/
def decade (d : Decimal) : Int :=
  d.exponent + digitCount d.coefficient - 1

end Decimal

/-- The exponent `k` with `10 ^ k ≤ r < 10 ^ (k + 1)`, for a positive ratio. -/
def Ratio.decade (r : Ratio) : Int :=
  if r.belowOne then -(digitCount ((r.den - 1) / r.num) : Int)
  else (digitCount (r.num / r.den) : Int) - 1

end MaterialGraph
