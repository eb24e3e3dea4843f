import MaterialGraph.Decimal.Numeral
import MaterialGraph.Decimal.Shortest
import MaterialGraph.Ron.Basic
import MaterialGraph.Text.Basic

/-!
# Numbers in RON

A number is written with the fewest digits that read back, a tie going up, always with a point and
never with an exponent. Reading rounds the exact decimal once. Underscores between digits are
dropped, and a word may end in the name of its type.
-/

namespace MaterialGraph.Ron

/-- The tree of a number. -/
def ofSingle (x : Single) : Ron :=
  if x.isFinite then .word ((x.shortest .up).positional x.negative).text
  else
    let text := if x.isNaN then "NaN" else "inf"
    if x.negative then .word ('-' :: text.toList) else .ident ⟨false, text⟩

/-- Whether a character may stand in a decimal number. -/
def inDecimal (c : Char) : Bool :=
  c.isDigit || c == 'e' || c == 'E' || c == '.' || c == '+' || c == '-' || c == '_'

/-- A decimal number without its underscores.

An underscore stands after a digit or an exponent mark with no point in between. -/
def dropUnderscores (allowed : Bool) : List Char → Option (List Char)
  | [] => some []
  | c :: rest =>
    if c = '_' then if allowed then dropUnderscores allowed rest else none
    else if c = '.' then (dropUnderscores false rest).map (c :: ·)
    else if c = '+' || c = '-' then (dropUnderscores allowed rest).map (c :: ·)
    else (dropUnderscores true rest).map (c :: ·)

/-- The numbers that are not finite, by their text. -/
def specialSingles : List (String × Single) :=
  [("inf", .infinity false), ("+inf", .infinity false), ("-inf", .infinity true),
    ("NaN", .nan false), ("+NaN", .nan false), ("-NaN", .nan true)]

/-- The special numbers, each also with the name of a type behind it. -/
def specialSpellings (suffixes : List String) : List (String × Single) :=
  specialSingles.flatMap fun (text, x) =>
    (text, x) :: suffixes.map fun suffix => (text ++ suffix, x)

/-- The number that a spelling stands for, if it ends in none but the given type names. -/
def singleOfText? (suffixes : List String) (spelling : List Char) : Option Single :=
  match (specialSpellings suffixes).lookup (String.ofList spelling) with
  | some x => some x
  | none =>
    let (digits, suffix) := spelling.span inDecimal
    if suffix.isEmpty || suffixes.contains (String.ofList suffix) then
      (dropUnderscores false digits).bind fun digits =>
        (Numeral.ofText? digits).map fun n => Single.ofDecimal n.negative n.decimal
    else none

/-- The number of a tree. -/
def single? : Ron → Option Single
  | .word spelling => singleOfText? ["f32"] spelling
  | .ident name =>
    if name.raw then none
    else (specialSpellings ["f32"]).lookup name.text
  | _ => none

/-- The value of digits in a base; underscores stand anywhere but first. -/
def valueInBase (base : Nat) : List Char → Nat → Option Nat
  | [], value => some value
  | c :: rest, value =>
    if c = '_' then valueInBase base rest value
    else (hexValue? c).bind fun digit =>
      if digit < base then valueInBase base rest (value * base + digit) else none

/-- The value of at least one digit in a base. -/
def baseValue? (base : Nat) : List Char → Option Nat
  | [] => none
  | c :: rest => if c = '_' then none else valueInBase base (c :: rest) 0

/-- An integer as it is spelled: its sign, its magnitude, and the type named at its end. -/
structure IntegerWord where
  negative : Bool
  magnitude : Nat
  suffix : Option String
deriving DecidableEq, Repr

/-- The types that an integer can name, with the bits of a magnitude and whether it has a sign. -/
def integerTypes : List (String × Nat × Bool) :=
  [("i8", 7, true), ("i16", 15, true), ("i32", 31, true), ("i64", 63, true),
    ("u8", 8, false), ("u16", 16, false), ("u32", 32, false), ("u64", 64, false)]

/-- An unsigned magnitude in a base, with a type name where one may stand. -/
def integerInBase (negative : Bool) (base : Nat) (suffixed : Bool) (cs : List Char) :
    Option IntegerWord :=
  let (digits, rest) := cs.span fun c => (hexValue? c).isSome || c == '_'
  (baseValue? base digits).bind fun magnitude =>
    if rest.isEmpty then some ⟨negative, magnitude, none⟩
    else if suffixed && (integerTypes.lookup (String.ofList rest)).isSome then
      some ⟨negative, magnitude, some (String.ofList rest)⟩
    else none

/-- The integer that a spelling stands for. Octal and hexadecimal integers name no type. -/
def integerOfText? (spelling : List Char) : Option IntegerWord :=
  let (negative, rest) := readSign spelling
  match rest with
  | '0' :: 'b' :: rest => integerInBase negative 2 true rest
  | '0' :: 'o' :: rest => integerInBase negative 8 false rest
  | '0' :: 'x' :: rest => integerInBase negative 16 false rest
  | rest => integerInBase negative 10 true rest

/-- Whether an integer lies in the range of a type. -/
def IntegerWord.fits (n : IntegerWord) (bits : Nat) (signed : Bool) : Bool :=
  if n.negative then (if signed then n.magnitude ≤ Nat.pow 2 bits else n.magnitude == 0)
  else n.magnitude < Nat.pow 2 bits

/-- Whether an integer lies in the range of the type that it names. -/
def IntegerWord.inRange (n : IntegerWord) : Bool :=
  match n.suffix with
  | none => n.fits 64 false || n.fits 63 true
  | some suffix => (integerTypes.lookup suffix).any fun (bits, signed) => n.fits bits signed

/-- The 64-bit word of a tree. -/
def word? : Ron → Option Nat
  | .word spelling =>
    (integerOfText? spelling).bind fun n =>
      if n.fits 64 false && (n.suffix == none || n.suffix == some "u64") then some n.magnitude
      else none
  | _ => none

/-- Whether a spelling is a number of any type. -/
def isNumber (spelling : List Char) : Bool :=
  (integerOfText? spelling).any IntegerWord.inRange ||
    (singleOfText? ["f32", "f64"] spelling).isSome

end MaterialGraph.Ron
