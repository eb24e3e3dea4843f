import MaterialGraph.Json.Basic
import MaterialGraph.Text.Basic

/-!
# Reading JSON

The reader takes strict JSON: four blanks, no trailing comma, no control character inside a string,
no leading zero. Nesting is not limited. Every reader returns what it read with the rest of the
text, and each nested value or further item uses up one unit of fuel; twice the length of the text
is always enough, because every second unit consumes a character.
-/

namespace MaterialGraph.Json

/-- The four blank characters. -/
def isBlank (c : Char) : Bool :=
  c == ' ' || c == '\n' || c == '\t' || c == '\r'

/-- The text from its first character that is not blank. -/
def skipBlank (cs : List Char) : List Char :=
  cs.dropWhile isBlank

/-- A unit of a string: a character, or half of a pair of surrogates. -/
inductive StringUnit where
  | char (c : Char)
  | high (code : Nat)
  | low (code : Nat)
deriving DecidableEq, Repr

/-- The unit of a four-digit escape. -/
def unitOfCode (code : Nat) : StringUnit :=
  if 0xD800 ≤ code ∧ code < 0xDC00 then .high code
  else if 0xDC00 ≤ code ∧ code < 0xE000 then .low code
  else .char (Char.ofNat code)

/-- The character of a pair of surrogates. -/
def pairedChar (high low : Nat) : Char :=
  Char.ofNat (0x10000 + (high - 0xD800) * 0x400 + (low - 0xDC00))

/-- The text of a sequence of units; an unpaired surrogate stands for none. -/
def textOfUnits : List StringUnit → Option (List Char)
  | [] => some []
  | .char c :: rest => (textOfUnits rest).map (c :: ·)
  | .high h :: .low l :: rest => (textOfUnits rest).map (pairedChar h l :: ·)
  | .high _ :: _ => none
  | .low _ :: _ => none

/-- The character that a one-letter escape stands for. -/
def shortEscape? : Char → Option Char
  | '"' => some '"'
  | '\\' => some '\\'
  | '/' => some '/'
  | 'b' => some '\x08'
  | 'f' => some '\x0c'
  | 'n' => some '\n'
  | 'r' => some '\r'
  | 't' => some '\t'
  | _ => none

/-- The units of a string after its opening quote, and the text after its closing quote. -/
def readUnits : List Char → Option (List StringUnit × List Char)
  | [] => none
  | '"' :: rest => some ([], rest)
  | '\\' :: 'u' :: a :: b :: c :: d :: rest =>
    (hexNumber? [a, b, c, d] 0).bind fun code =>
      (readUnits rest).map fun (units, rest) => (unitOfCode code :: units, rest)
  | '\\' :: c :: rest =>
    (shortEscape? c).bind fun c =>
      (readUnits rest).map fun (units, rest) => (.char c :: units, rest)
  | c :: rest =>
    if c = '\\' ∨ c < ' ' then none
    else (readUnits rest).map fun (units, rest) => (.char c :: units, rest)

/-- A string after its opening quote. -/
def readString (cs : List Char) : Option (Option String × List Char) :=
  (readUnits cs).map fun (units, rest) => ((textOfUnits units).map String.ofList, rest)

/-- Whether a numeral is spelled as JSON wants it: a digit on either side of a point, and no zero
before other digits. -/
def isStrict (n : Numeral) : Bool :=
  !n.whole.isEmpty && (n.whole.head? != some '0' || n.whole.length == 1) &&
    n.fraction != some []

/-- A number. -/
def readNumber (cs : List Char) : Option (Numeral × List Char) :=
  let (negative, rest) := match cs with
    | '-' :: rest => (true, rest)
    | cs => (false, cs)
  match Numeral.readUnsigned negative rest with
  | some (n, rest) => if isStrict n then some (n, rest) else none
  | none => none

mutual

/-- A value. -/
def readValue : Nat → List Char → Option (Json × List Char)
  | 0, _ => none
  | fuel + 1, cs =>
    match skipBlank cs with
    | '"' :: rest => (readString rest).map fun (s, rest) => (.string s, rest)
    | '[' :: rest =>
      match skipBlank rest with
      | ']' :: rest => some (.array [], rest)
      | rest => (readItems fuel rest).map fun (items, rest) => (.array items, rest)
    | '\x7b' :: rest =>
      match skipBlank rest with
      | '\x7d' :: rest => some (.object [], rest)
      | rest => (readEntries fuel rest).map fun (entries, rest) => (.object entries, rest)
    | 'n' :: rest => (dropStart? "ull".toList rest).map fun rest => (.null, rest)
    | 't' :: rest => (dropStart? "rue".toList rest).map fun rest => (.bool true, rest)
    | 'f' :: rest => (dropStart? "alse".toList rest).map fun rest => (.bool false, rest)
    | rest => (readNumber rest).map fun (n, rest) => (.number n, rest)

/-- The items of an array up to its end; there is at least one. -/
def readItems : Nat → List Char → Option (List Json × List Char)
  | 0, _ => none
  | fuel + 1, cs =>
    (readValue fuel cs).bind fun (item, rest) =>
      match skipBlank rest with
      | ',' :: rest => (readItems fuel rest).map fun (items, rest) => (item :: items, rest)
      | ']' :: rest => some ([item], rest)
      | _ => none

/-- The entries of an object up to its end; there is at least one. -/
def readEntries : Nat → List Char → Option (List (Option String × Json) × List Char)
  | 0, _ => none
  | fuel + 1, cs =>
    match skipBlank cs with
    | '"' :: rest =>
      (readString rest).bind fun (key, rest) =>
        match skipBlank rest with
        | ':' :: rest =>
          (readValue fuel rest).bind fun (value, rest) =>
            match skipBlank rest with
            | ',' :: rest =>
              (readEntries fuel rest).map fun (entries, rest) => ((key, value) :: entries, rest)
            | '\x7d' :: rest => some ([(key, value)], rest)
            | _ => none
        | _ => none
    | _ => none

end

/-- The tree of a text that is one JSON value with blanks around it. -/
def parse? (source : String) : Option Json :=
  let cs := source.toList
  match readValue (2 * cs.length + 2) cs with
  | some (value, rest) => if (skipBlank rest).isEmpty then some value else none
  | none => none

end MaterialGraph.Json
