import MaterialGraph.Text.Basic
import MaterialGraph.Text.Pattern.Mode

/-!
# The smallest parts of patterns

A backslash takes the meaning of a sign away, gives one to a letter, or begins a character's code.
The named properties of characters cannot be used, and neither can what depends on them: in the mode
for characters these are the shorthands, the edges of words, and letters without regard to case. In
the mode for bytes no part may match a byte that is not a character by itself.
-/

namespace MaterialGraph.Pattern

/-- A part that holds no other one: a character, which may be given as a byte, a shorthand for
digits, blanks or word characters or for all others, and a place between characters that may be the
edge of a word. -/
inductive Atom where
  | char (c : Char) (isByte : Bool)
  | shorthand (negated : Bool)
  | place (ofWord : Bool)
deriving DecidableEq, Repr

/-- The signs with a meaning of their own. -/
def signs : List Char :=
  "\\.+*?()|[]\x7b\x7d^$#&-~".toList

/-- Whether a character stands for itself behind a backslash. -/
def isEscapable (c : Char) : Bool :=
  signs.contains c || (c.toNat < 0x80 && !c.isAlphanum && c != '<' && c != '>')

/-- The characters of the letters that stand for one behind a backslash. -/
def letterChars : List (Char × Char) :=
  [('a', '\x07'), ('f', '\x0c'), ('t', '\t'), ('n', '\n'), ('r', '\r'), ('v', '\x0b')]

/-- The parts of the other letters and signs with a meaning behind a backslash. -/
def letterAtoms : List (Char × Atom) :=
  [('d', .shorthand false), ('s', .shorthand false), ('w', .shorthand false),
    ('D', .shorthand true), ('S', .shorthand true), ('W', .shorthand true),
    ('A', .place false), ('z', .place false),
    ('b', .place true), ('B', .place true), ('<', .place true), ('>', .place true)]

/-- The number of digits of a character's code, by its letter. -/
def codeLengths : List (Char × Nat) :=
  [('x', 2), ('u', 4), ('U', 8)]

/-- A number of hexadecimal digits, behind a value that has been read. -/
def readHex (mode : Mode) : Nat → Nat → List Char → Option (Nat × List Char)
  | 0, value, cs => some (value, cs)
  | count + 1, value, c :: rest =>
    (hexValue? c).bind fun digit => readHex mode count (value * 16 + digit) (mode.skip rest)
  | _ + 1, _, [] => none

/-- The part of an escape after its backslash, and the text after it. -/
def readEscape (mode : Mode) : List Char → Option (Atom × List Char)
  | [] => none
  | c :: rest =>
    match codeLengths.lookup c with
    | some count =>
      (readHex mode count 0 (mode.skip rest)).bind fun (value, rest) =>
        if value.isValidChar then some (.char (Char.ofNat value) (c = 'x'), rest) else none
    | none =>
      if isEscapable c then some (.char c false, rest)
      else match letterChars.lookup c with
        | some c => some (.char c false, rest)
        | none => (letterAtoms.lookup c).map fun atom => (atom, rest)

/-- Whether a part can be used by itself. -/
def Atom.isUsable (mode : Mode) : Atom → Bool
  | .char c isByte => if mode.unicode then !mode.caseless else c.toNat < 0x80 || !isByte
  | .shorthand negated => !mode.unicode && !negated
  | .place ofWord => !(mode.unicode && ofWord)

/-- Whether a part can be used as an item of a set of characters. -/
def Atom.isUsableItem (mode : Mode) : Atom → Bool
  | .char c _ => mode.unicode || c.toNat < 0x80
  | .shorthand negated => !mode.unicode && !negated
  | .place _ => false

end MaterialGraph.Pattern
