import MaterialGraph.Binary.Single
import MaterialGraph.Decimal.Digits

/-!
# The shortest decimal that reads back

The reals that round to a number form an interval around it, whose ends belong to it exactly when
the coefficient is even. On the decimal grids of one, two, … digits the two neighbours of the number
are tried in turn. The first grid with a neighbour inside the interval wins, and of two neighbours
inside the nearer one.
-/

namespace MaterialGraph

/-- The reals that round to a positive number, with the number itself, as multiples of a quarter of
its unit. -/
structure RoundingInterval where
  low : Nat
  value : Nat
  high : Nat
  quarterUnit : Int
  closed : Bool
deriving DecidableEq, Repr

/-- The rounding interval of a positive finite number.

Below the first coefficient of a binade the neighbour is only half a unit away. -/
def Single.roundingInterval (x : Single) : RoundingInterval :=
  let s := x.scaled
  let nearBelow := s.coefficient == Nat.pow 2 23 && -149 < s.unit
  { low := 4 * s.coefficient - if nearBelow then 1 else 2
    value := 4 * s.coefficient
    high := 4 * s.coefficient + 2
    quarterUnit := s.unit - 2
    closed := s.coefficient % 2 == 0 }

namespace RoundingInterval

/-- Whether a decimal lies in the interval. -/
def contains (i : RoundingInterval) (d : Decimal) : Bool :=
  let r := d.toRatio.scale 2 (-i.quarterUnit)
  if i.closed then i.low * r.den ≤ r.num && r.num ≤ i.high * r.den
  else i.low * r.den < r.num && r.num < i.high * r.den

/-- The value itself. -/
def toRatio (i : RoundingInterval) : Ratio :=
  Ratio.scale ⟨i.value, 1⟩ 2 i.quarterUnit

/-- The best decimal of the interval on the grid of a given number of digits. -/
def onGrid (tie : Tie) (i : RoundingInterval) (digits : Nat) : Option Decimal :=
  let exponent := i.toRatio.decade - (digits : Int) + 1
  let position := i.toRatio.scale 10 (-exponent)
  let below := position.num / position.den
  let nearest := position.round tie
  if i.contains ⟨nearest, exponent⟩ then some ⟨nearest, exponent⟩
  else if i.contains ⟨below, exponent⟩ then some ⟨below, exponent⟩
  else if i.contains ⟨below + 1, exponent⟩ then some ⟨below + 1, exponent⟩
  else none

end RoundingInterval

/-- No number needs more decimal digits than this. -/
def maxShortestDigits : Nat := 9

/-- The shortest decimal that rounds to a finite number, and of those the nearest. -/
def Single.shortest (tie : Tie) (x : Single) : Decimal :=
  if x.magnitude = 0 then ⟨0, 0⟩
  else
    let interval := x.roundingInterval
    match (List.range maxShortestDigits).findSome? fun i => interval.onGrid tie (i + 1) with
    | some d => d.trim
    | none => ⟨0, 0⟩

end MaterialGraph
