import MaterialGraph.Decimal.Numeral
import MaterialGraph.Decimal.Shortest

/-!
# JSON trees and their numbers

Numbers are kept as they are spelled, and objects keep the order and the repetitions of their keys.
A string that contains an unpaired surrogate escape stands for no text; it can be skipped over but
not be used, so it is kept as a string without a text.

A JSON number is written with the fewest digits that read back, a tie going to the even digit. It
has a point and no exponent when its decade lies between -6 and 12.

Integers that fit 64 bits are rounded once when they are read. Any other number is read in double
precision first: as many leading digits as fit 64 bits are rounded to a double, which is multiplied
or divided by the double of a power of ten. A number too large for a double is refused, and one too
large for a single is infinite.
-/

namespace MaterialGraph

/-- A JSON text as a tree. -/
inductive Json where
  | null
  | bool (value : Bool)
  | number (numeral : Numeral)
  | string (text : Option String)
  | array (items : List Json)
  | object (entries : List (Option String × Json))
deriving Repr

namespace Json

/-- Whether numbers of a decade are written without an exponent. -/
def isPositional (decade : Int) : Bool :=
  -6 ≤ decade && decade ≤ 12

/-- The numeral of a finite number. -/
def numeralOf (x : Single) : Numeral :=
  let d := x.shortest .toEven
  if isPositional d.decade then d.positional x.negative else d.scientific x.negative

/-- The first number above every 64-bit word. -/
def wordLimit : Nat := Nat.pow 2 64

/-- The leading digits that fit a word, and a decimal exponent for the digits left out. -/
structure Leading where
  coefficient : Nat
  exponent : Int
deriving DecidableEq, Repr

/-- Take in the digits before the point; each digit after the first that does not fit counts as a
factor of ten. -/
def leadingWhole : List Char → Nat → Leading
  | [], coefficient => ⟨coefficient, 0⟩
  | c :: rest, coefficient =>
    if coefficient * 10 + digitValue c < wordLimit then
      leadingWhole rest (coefficient * 10 + digitValue c)
    else ⟨coefficient, (c :: rest).length⟩

/-- Take in the digits after the point, up to the first that does not fit. -/
def leadingFraction : List Char → Leading → Leading
  | [], l => l
  | c :: rest, l =>
    if l.coefficient * 10 + digitValue c < wordLimit then
      leadingFraction rest ⟨l.coefficient * 10 + digitValue c, l.exponent - 1⟩
    else l

/-- The leading digits of a numeral, without its exponent. -/
def leading (n : Numeral) : Leading :=
  leadingFraction n.fractionDigits (leadingWhole n.whole 0)

/-- The largest power of ten that is used as a factor or divisor. -/
def largestPower : Nat := 308

/-- The double nearest to a power of ten. -/
def powerOfTen (k : Nat) : Scaled :=
  BinaryFormat.double.round ⟨Nat.pow 10 k, 1⟩

/-- The double nearest to a product of doubles. -/
def product (a b : Scaled) : Scaled :=
  BinaryFormat.double.round
    ⟨a.toRatio.num * b.toRatio.num, a.toRatio.den * b.toRatio.den⟩

/-- The double nearest to a quotient of doubles. -/
def quotient (a b : Scaled) : Scaled :=
  BinaryFormat.double.round
    ⟨a.toRatio.num * b.toRatio.den, a.toRatio.den * b.toRatio.num⟩

/-- Divide a double by `10 ^ k`, in steps when the power has no double. -/
def dividePower (a : Scaled) (k : Nat) : Scaled :=
  if k ≤ largestPower then quotient a (powerOfTen k)
  else if a.coefficient = 0 then a
  else dividePower (quotient a (powerOfTen largestPower)) (k - largestPower)
termination_by k
decreasing_by simp only [largestPower] at *; omega

/-- A coefficient times a power of ten in double precision; too large a result is refused. -/
def scalePower (coefficient : Nat) (exponent : Int) : Option Scaled :=
  let start := BinaryFormat.double.round ⟨coefficient, 1⟩
  if exponent < 0 then some (dividePower start exponent.natAbs)
  else if exponent.natAbs ≤ largestPower then
    let result := product start (powerOfTen exponent.natAbs)
    if BinaryFormat.double.overflows result then none else some result
  else if coefficient = 0 then some start
  else none

/-- The first exponent that is too large to be counted. -/
def exponentLimit : Nat := Nat.pow 2 31

/-- The double magnitude of a numeral.

An exponent too large to be counted makes a number zero when it is negative or the digits are. -/
def doubleOf (n : Numeral) : Option Scaled :=
  let l := leading n
  let exponent := n.exponent.getD 0
  if exponentLimit ≤ exponent.natAbs then
    if l.coefficient = 0 || exponent < 0 then some ⟨0, 0⟩ else none
  else scalePower l.coefficient (l.exponent + exponent)

/-- Whether a numeral is an integer that is rounded only once. -/
def isWord (n : Numeral) : Bool :=
  n.fraction.isNone && n.exponent.isNone &&
    if n.negative then valueOfDigits n.whole ≤ Nat.pow 2 63 else valueOfDigits n.whole < wordLimit

/-- The number that a numeral stands for. -/
def single? (n : Numeral) : Option Single :=
  if isWord n then some (Single.ofRatio n.negative ⟨valueOfDigits n.whole, 1⟩)
  else (doubleOf n).map fun s => Single.ofRatio n.negative s.toRatio

end Json

end MaterialGraph
