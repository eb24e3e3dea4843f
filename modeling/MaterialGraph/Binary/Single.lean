import MaterialGraph.Binary.Rounding

/-!
# Four-byte floating-point numbers

A number is its 32-bit pattern, so two numbers are equal when their patterns are. Rounding builds a
pattern from an exact quotient: the biased exponent and the fraction are added, so that a carry out
of the fraction moves to the next binade and out of the last binade to infinity.
-/

namespace MaterialGraph

/-- A four-byte floating-point number. -/
structure Single where
  bits : UInt32
deriving DecidableEq, Repr

namespace Single

/-- The pattern without its sign. -/
def magnitude (x : Single) : Nat :=
  x.bits.toNat % Nat.pow 2 31

/-- Whether the sign bit is set. -/
def negative (x : Single) : Bool :=
  Nat.pow 2 31 ≤ x.bits.toNat

/-- The magnitude pattern of infinity; larger patterns are not numbers. -/
def infinityPattern : Nat := 255 * Nat.pow 2 23

/-- Neither infinite nor NaN. -/
def isFinite (x : Single) : Bool :=
  x.magnitude < infinityPattern

/-- Not a number. -/
def isNaN (x : Single) : Bool :=
  infinityPattern < x.magnitude

/-- The number with a given sign and magnitude pattern. -/
def ofMagnitude (negative : Bool) (magnitude : Nat) : Single :=
  ⟨UInt32.ofNat (magnitude + if negative then Nat.pow 2 31 else 0)⟩

/-- The infinity of a sign. -/
def infinity (negative : Bool) : Single :=
  ofMagnitude negative infinityPattern

/-- The NaN of a sign. -/
def nan (negative : Bool) : Single :=
  ofMagnitude negative (infinityPattern + Nat.pow 2 22)

/-- Zero without a sign. -/
def zero : Single :=
  ⟨0⟩

/-- One. -/
def one : Single :=
  ⟨0x3f800000⟩

/-- The magnitude of a finite number, exactly. -/
def scaled (x : Single) : Scaled :=
  let exponent : Nat := x.magnitude / Nat.pow 2 23
  let fraction : Nat := x.magnitude % Nat.pow 2 23
  if exponent = 0 then ⟨fraction, -149⟩ else ⟨Nat.pow 2 23 + fraction, (exponent : Int) - 150⟩

/-- The number with a rounded magnitude; above the largest number it is infinite. -/
def ofScaled (negative : Bool) (s : Scaled) : Single :=
  ofMagnitude negative (min ((s.unit + 149).toNat * Nat.pow 2 23 + s.coefficient) infinityPattern)

/-- The nearest number, a half going to the even coefficient. -/
def ofRatio (negative : Bool) (r : Ratio) : Single :=
  ofScaled negative (BinaryFormat.single.round r)

/-- A natural number. -/
def ofNat (n : Nat) : Single :=
  ofRatio false ⟨n, 1⟩

/-- The nearest number to a quotient of natural numbers. -/
def ofQuotient (num den : Nat) : Single :=
  ofRatio false ⟨num, den⟩

end Single

end MaterialGraph
