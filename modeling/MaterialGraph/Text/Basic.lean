/-!
# Characters and parts of text

What the text formats share: classes of characters as ranges of code points, the parts of a text
between separators, what is left of a text after a given start, and hexadecimal digits.
-/

namespace MaterialGraph

/-! ### Classes of characters -/

/-- Whether a code point lies in one of the closed ranges. -/
def inRanges (ranges : List (Nat × Nat)) (code : Nat) : Bool :=
  ranges.any fun (first, last) => first ≤ code && code ≤ last

/-- The code points of white space, in any script. -/
def whiteSpaceRanges : List (Nat × Nat) :=
  [(0x9, 0xd), (0x20, 0x20), (0x85, 0x85), (0xa0, 0xa0), (0x1680, 0x1680), (0x2000, 0x200a),
   (0x2028, 0x2029), (0x202f, 0x202f), (0x205f, 0x205f), (0x3000, 0x3000)]

/-- Whether a character is white space. -/
def isWhiteSpace (c : Char) : Bool :=
  inRanges whiteSpaceRanges c.toNat

/-! ### Parts -/

/-- The parts of a text between separators.

A text without the separator is one part, and there is always one part more than separators. -/
def splitAt (separator : Char) : List Char → List (List Char)
  | [] => [[]]
  | c :: rest =>
    if c = separator then [] :: splitAt separator rest
    else match splitAt separator rest with
      | [] => [[c]]
      | part :: parts => (c :: part) :: parts

/-- The rest of a text after a given start. -/
def dropStart? : List Char → List Char → Option (List Char)
  | [], cs => some cs
  | e :: start, c :: cs => if e = c then dropStart? start cs else none
  | _ :: _, [] => none

/-- A text in which the first occurrence of a part, which is not empty, is replaced. -/
def replaceFirst (part replacement : List Char) : List Char → List Char
  | [] => []
  | c :: rest =>
    match dropStart? part (c :: rest) with
    | some rest => replacement ++ rest
    | none => c :: replaceFirst part replacement rest

/-! ### Hexadecimal digits

Reading takes both cases and writing gives lower case. Widths are fixed by padding with zeros on the
left.
-/

/-- The value of a hexadecimal digit of either case. -/
def hexValue? (c : Char) : Option Nat :=
  if '0' ≤ c ∧ c ≤ '9' then some (c.toNat - '0'.toNat)
  else if 'a' ≤ c ∧ c ≤ 'f' then some (c.toNat - 'a'.toNat + 10)
  else if 'A' ≤ c ∧ c ≤ 'F' then some (c.toNat - 'A'.toNat + 10)
  else none

/-- The value of a sequence of hexadecimal digits, going on from the digits already read. -/
def hexNumber? : List Char → Nat → Option Nat
  | [], value => some value
  | c :: rest, value => (hexValue? c).bind fun digit => hexNumber? rest (16 * value + digit)

/-- The lower-case hexadecimal digits of a number. -/
def hexDigits (n : Nat) : List Char :=
  Nat.toDigits 16 n

/-- The lower-case hexadecimal digits of a number, padded with zeros to a width. -/
def hexPadded (width n : Nat) : List Char :=
  List.replicate (width - (hexDigits n).length) '0' ++ hexDigits n

end MaterialGraph
