import MaterialGraph.Binary.Single
import MaterialGraph.Decimal.Digits

/-!
# Numerals

A numeral is a number as it is spelled: a sign, digits before the point, digits after it, and an
exponent. The spelling is kept apart from its value, because the two text formats give one spelling
different values: one rounds the exact decimal once, the other goes through double precision.

A number with a fixed count of decimals is its exact value rounded to that many places, a half going
to the even last digit. The sign of the number is written also when the digits are all zero.
-/

namespace MaterialGraph

/-- A number as it is spelled. -/
structure Numeral where
  negative : Bool
  whole : List Char
  fraction : Option (List Char)
  exponent : Option Int
deriving DecidableEq, Repr

/-- A minus sign for negative numbers. -/
def signText (negative : Bool) : List Char :=
  if negative then ['-'] else []

/-- An exponent with its mark and its sign. -/
def exponentText (exponent : Int) : List Char :=
  'e' :: (if exponent < 0 then '-' else '+') :: digitsOf exponent.natAbs

/-- The text of a numeral. -/
def Numeral.text (n : Numeral) : List Char :=
  signText n.negative ++ n.whole ++ (n.fraction.elim [] fun digits => '.' :: digits) ++
    n.exponent.elim [] exponentText

/-- The digits at the start of a text, and the rest. -/
def readDigits (cs : List Char) : List Char × List Char :=
  cs.span Char.isDigit

/-- A sign at the start of a text: whether it is a minus, and the rest. -/
def readSign : List Char → Bool × List Char
  | '-' :: rest => (true, rest)
  | '+' :: rest => (false, rest)
  | cs => (false, cs)

/-- A point with the digits after it, where there is one. -/
def readFraction : List Char → Option (List Char) × List Char
  | '.' :: rest => (some (readDigits rest).1, (readDigits rest).2)
  | cs => (none, cs)

/-- The exponent after its mark, which needs a digit. -/
def readExponentValue (cs : List Char) : Option (Int × List Char) :=
  let (negative, rest) := readSign cs
  match readDigits rest with
  | ([], _) => none
  | (digits, rest) =>
    let value : Int := valueOfDigits digits
    some (if negative then -value else value, rest)

/-- An exponent, where there is one. -/
def readExponent : List Char → Option (Option Int × List Char)
  | 'e' :: rest => (readExponentValue rest).map fun (value, rest) => (some value, rest)
  | 'E' :: rest => (readExponentValue rest).map fun (value, rest) => (some value, rest)
  | cs => some (none, cs)

namespace Numeral

/-- The numeral at the start of a text whose sign has been read. -/
def readUnsigned (negative : Bool) (cs : List Char) : Option (Numeral × List Char) :=
  let (whole, rest) := readDigits cs
  let (fraction, rest) := readFraction rest
  (readExponent rest).map fun (exponent, rest) => (⟨negative, whole, fraction, exponent⟩, rest)

/-- The digits after the point. -/
def fractionDigits (n : Numeral) : List Char :=
  n.fraction.getD []

/-- A numeral that is all of a text, with a digit before or after the point. -/
def ofText? (cs : List Char) : Option Numeral :=
  let (negative, rest) := readSign cs
  match readUnsigned negative rest with
  | some (n, []) => if n.whole.isEmpty && n.fractionDigits.isEmpty then none else some n
  | _ => none

/-- The exact magnitude. -/
def decimal (n : Numeral) : Decimal :=
  ⟨valueOfDigits (n.whole ++ n.fractionDigits), n.exponent.getD 0 - n.fractionDigits.length⟩

end Numeral

namespace Decimal

/-- A decimal with a point and no exponent, at least one digit on either side of the point. -/
def positional (negative : Bool) (d : Decimal) : Numeral :=
  let digits := digitsOf d.coefficient
  if 0 ≤ d.exponent then ⟨negative, digits ++ zeros d.exponent.toNat, some ['0'], none⟩
  else
    let places := (-d.exponent).toNat
    if places < digits.length then
      ⟨negative, digits.take (digits.length - places),
        some (digits.drop (digits.length - places)), none⟩
    else ⟨negative, ['0'], some (zeros (places - digits.length) ++ digits), none⟩

/-- The leading digit of a decimal, the others after a point, and the decade as exponent. -/
def scientific (negative : Bool) (d : Decimal) : Numeral :=
  match digitsOf d.coefficient with
  | [] => ⟨negative, [], none, some d.decade⟩
  | [digit] => ⟨negative, [digit], none, some d.decade⟩
  | digit :: rest => ⟨negative, [digit], some rest, some d.decade⟩

end Decimal

/-- Decades beyond this one are infinite, and those below its negative are zero. -/
def largestDecade : Int := 60

/-- The number nearest to an exact decimal.

Decades far outside the range are answered without computing the power of ten. -/
def Single.ofDecimal (negative : Bool) (d : Decimal) : Single :=
  if d.coefficient = 0 then ofMagnitude negative 0
  else if largestDecade < d.decade then infinity negative
  else if d.decade < -largestDecade then ofMagnitude negative 0
  else ofRatio negative d.toRatio

/-- A number of units of `10 ^ -places`, written with a point. -/
def fixedText (places units : Nat) : List Char :=
  let fraction := digitsOf (units % Nat.pow 10 places)
  digitsOf (units / Nat.pow 10 places) ++ '.' :: zeros (places - fraction.length) ++ fraction

/-- The text of a number with a fixed count of decimals. -/
def Single.fixed (places : Nat) (x : Single) : List Char :=
  if x.isNaN then "NaN".toList
  else if x.isFinite then
    signText x.negative ++ fixedText places ((x.scaled.toRatio.scale 10 places).round .toEven)
  else signText x.negative ++ "inf".toList

end MaterialGraph
