/-!
# Rounding of exact quotients

Magnitudes are quotients of natural numbers, so that rounding is a statement about integers: the
nearest multiple of a unit, with a rule for an exact half. A binary format keeps a fixed number of
significant bits above a smallest unit, and rounding to it never loses more than half a unit.

Signs are kept apart from magnitudes throughout.
-/

namespace MaterialGraph

/-- Where an exact half goes. -/
inductive Tie where
  | toEven
  | up
deriving DecidableEq, Repr

/-- The integer nearest to `num / den`, where a half goes as the rule says. -/
def roundDiv (tie : Tie) (num den : Nat) : Nat :=
  let quotient := num / den
  let remainder := num % den
  if 2 * remainder < den then quotient
  else if den < 2 * remainder then quotient + 1
  else match tie with
    | .toEven => quotient + quotient % 2
    | .up => quotient + 1

/-- A magnitude given as an exact quotient. -/
structure Ratio where
  num : Nat
  den : Nat
deriving DecidableEq, Repr

namespace Ratio

/-- The ratio times an integer power of a base. -/
def scale (r : Ratio) (base : Nat) (exponent : Int) : Ratio :=
  ⟨r.num * Nat.pow base exponent.toNat, r.den * Nat.pow base (-exponent).toNat⟩

/-- The nearest integer. -/
def round (tie : Tie) (r : Ratio) : Nat :=
  roundDiv tie r.num r.den

/-- Whether the ratio is below one. -/
def belowOne (r : Ratio) : Bool :=
  r.num < r.den

/-- The exponent `e` with `2 ^ e ≤ r < 2 ^ (e + 1)`, for a positive ratio. -/
def binade (r : Ratio) : Int :=
  let guess : Int := (r.num.log2 : Int) - (r.den.log2 : Int)
  if (r.scale 2 (-guess)).belowOne then guess - 1 else guess

end Ratio

/-- The magnitude `coefficient * 2 ^ unit`. -/
structure Scaled where
  coefficient : Nat
  unit : Int
deriving DecidableEq, Repr

/-- The exact value of a scaled magnitude. -/
def Scaled.toRatio (s : Scaled) : Ratio :=
  Ratio.scale ⟨s.coefficient, 1⟩ 2 s.unit

/-- A binary floating-point format: significant bits, smallest unit and largest unit. -/
structure BinaryFormat where
  precision : Nat
  minUnit : Int
  maxUnit : Int
deriving DecidableEq, Repr

namespace BinaryFormat

/-- Four-byte numbers. -/
def single : BinaryFormat := ⟨24, -149, 104⟩

/-- Eight-byte numbers. -/
def double : BinaryFormat := ⟨53, -1074, 971⟩

/-- The nearest magnitude of the format, a half going to the even coefficient.

The largest unit is not applied here, so a result may lie above every number of the format. -/
def round (f : BinaryFormat) (r : Ratio) : Scaled :=
  if r.num = 0 then ⟨0, f.minUnit⟩
  else
    let unit := max (r.binade - (f.precision - 1 : Nat)) f.minUnit
    ⟨(r.scale 2 (-unit)).round .toEven, unit⟩

/-- Whether a rounded magnitude lies above every number of the format. -/
def overflows (f : BinaryFormat) (s : Scaled) : Bool :=
  f.maxUnit < s.unit || (s.unit == f.maxUnit && s.coefficient == Nat.pow 2 f.precision)

end BinaryFormat

end MaterialGraph
