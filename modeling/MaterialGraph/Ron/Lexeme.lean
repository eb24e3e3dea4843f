import MaterialGraph.Ron.Basic
import MaterialGraph.Text.Basic

/-!
# The smallest parts of a RON text

Blanks and comments, names, and quoted literals. Each reader takes a text and gives what it read
with the rest of the text. Line comments end with their line or the text; block comments nest and
have to be closed.
-/

namespace MaterialGraph.Ron

/-- The blank characters. -/
def isBlank (c : Char) : Bool :=
  [' ', '\t', '\n', '\r', '\x0b', '\x0c', '\u0085', '\u200e', '\u200f', '\u2028',
    '\u2029'].contains c

/-- Where a walk over blanks stands: between comments, in a line comment, or in a block comment with
a number of further ones around it. -/
inductive BlankState where
  | between
  | line
  | block (around : Nat)
deriving DecidableEq, Repr

/-- The text after blanks and comments. -/
def skipFrom : BlankState → List Char → Option (List Char)
  | .between, [] => some []
  | .line, [] => some []
  | .block _, [] => none
  | .between, '/' :: '/' :: rest => skipFrom .line rest
  | .between, '/' :: '*' :: rest => skipFrom (.block 0) rest
  | .between, c :: rest =>
    if isBlank c then skipFrom .between rest
    else if c = '/' then none
    else some (c :: rest)
  | .line, c :: rest => skipFrom (if c = '\n' then .between else .line) rest
  | .block around, '/' :: '*' :: rest => skipFrom (.block (around + 1)) rest
  | .block 0, '*' :: '/' :: rest => skipFrom .between rest
  | .block (around + 1), '*' :: '/' :: rest => skipFrom (.block around) rest
  | .block around, _ :: rest => skipFrom (.block around) rest

/-- The text after blanks and comments. -/
def skipBlank (cs : List Char) : Option (List Char) :=
  skipFrom .between cs

/-- The starts of quoted literals and of a malformed raw name. -/
def literalStarts : List String :=
  ["b\"", "b'", "br\"", "br#", "r\"", "r#\"", "r##"]

/-- Whether a text begins with a quoted literal that looks like a name. -/
def startsLiteral (cs : List Char) : Bool :=
  literalStarts.any fun start => (dropStart? start.toList cs).isSome

/-- The name at the start of a text. -/
def readName (cs : List Char) : Option (Name × List Char) :=
  if startsLiteral cs then none
  else match cs with
    | 'r' :: '#' :: rest =>
      match rest.span continuesWord with
      | ([], _) => none
      | (text, rest) => some (⟨true, String.ofList text⟩, rest)
    | c :: rest =>
      if startsName c then
        let (text, rest) := rest.span continuesName
        some (⟨false, String.ofList (c :: text)⟩, rest)
      else none
    | [] => none

/-- A part of a quoted literal: a character, a byte given by two digits, or a character given by its
code. -/
inductive QuotedUnit where
  | char (c : Char)
  | byte (value : Nat)
  | code (c : Char)
deriving DecidableEq, Repr

/-- The character that a one-letter escape stands for. -/
def shortEscape? : Char → Option Char
  | '\'' => some '\''
  | '"' => some '"'
  | '\\' => some '\\'
  | 'n' => some '\n'
  | 'r' => some '\r'
  | 't' => some '\t'
  | '0' => some '\x00'
  | _ => none

/-- The most digits of a character code. -/
def codeDigits : Nat := 6

/-- The part that an escape stands for, after its backslash, and the text after it. -/
def readEscape : List Char → Option (QuotedUnit × List Char)
  | 'x' :: a :: b :: rest => (hexNumber? [a, b] 0).map fun value => (.byte value, rest)
  | 'u' :: '\x7b' :: rest =>
    match rest.span fun c => (hexValue? c).isSome with
    | (digits, '\x7d' :: rest) =>
      if digits.isEmpty || codeDigits < digits.length then none
      else (hexNumber? digits 0).bind fun value =>
        if value.isValidChar then some (.code (Char.ofNat value), rest) else none
    | _ => none
  | c :: rest => (shortEscape? c).map fun c => (.char c, rest)
  | [] => none

/-- Why a literal cannot be read: the text ends before it does, or it is not spelled as one. -/
inductive LiteralFault where
  | unclosed
  | malformed
deriving DecidableEq, Repr

/-- The character that a sequence of bytes encodes. -/
def charOfBytes? (bytes : List Nat) : Option Char :=
  match (String.fromUTF8? ⟨(bytes.map UInt8.ofNat).toArray⟩).map String.toList with
  | some [c] => some c
  | _ => none

/-- The character that bytes encode together with escaped bytes that follow, up to a number of
them. -/
def readBytes : Nat → List Nat → List Char → Option (Char × List Char)
  | 0, _, _ => none
  | count + 1, bytes, '\\' :: rest =>
    match readEscape rest with
    | some (.byte value, rest) =>
      match charOfBytes? (bytes ++ [value]) with
      | some c => some (c, rest)
      | none => readBytes count (bytes ++ [value]) rest
    | _ => none
  | _, _, _ => none

/-- The character that an escape of a text stands for, after its backslash. Bytes beyond ASCII have
to encode a character, of four bytes at most. -/
def readTextEscape (cs : List Char) : Option (Char × List Char) :=
  (readEscape cs).bind fun (part, rest) =>
    match part with
    | .char c => some (c, rest)
    | .code c => some (c, rest)
    | .byte value =>
      if value < 0x80 then some (Char.ofNat value, rest) else readBytes 3 [value] rest

/-- The parts of a literal in quotes up to the closing one, and the text after it. Escapes are read
as given. A literal is searched for its end before an escape is looked at, so an escape that stands
for nothing leaves it unclosed where no quote follows. More fuel than the text has characters is
enough. -/
def readQuoted {α : Type} (escape : List Char → Option (α × List Char)) (plain : Char → α) :
    Nat → List Char → Except LiteralFault (List α × List Char)
  | 0, _ => .error .unclosed
  | _, [] => .error .unclosed
  | fuel + 1, c :: rest =>
    if c = '"' then .ok ([], rest)
    else if c = '\\' then
      match escape rest with
      | some (part, rest) =>
        (readQuoted escape plain fuel rest).map fun (parts, rest) => (part :: parts, rest)
      | none => .error (if rest.contains '"' then .malformed else .unclosed)
    else (readQuoted escape plain fuel rest).map fun (parts, rest) => (plain c :: parts, rest)

/-- The text of a raw literal up to the end that closes it, and the text after that. -/
def readUpTo (close : List Char) : List Char → Option (List Char × List Char)
  | [] => none
  | c :: rest =>
    match dropStart? close (c :: rest) with
    | some rest => some ([], rest)
    | none => (readUpTo close rest).map fun (text, rest) => (c :: text, rest)

/-- A raw literal after its letter: as many hashes behind its closing quote as before the opening
one. -/
def readRaw (cs : List Char) : Except LiteralFault (List Char × List Char) :=
  match cs.span (· == '#') with
  | (hashes, '"' :: rest) =>
    match readUpTo ('"' :: hashes) rest with
    | some (text, rest) => .ok (text, rest)
    | none => .error .unclosed
  | _ => .error .malformed

/-- A text literal, in quotes or raw. -/
def readText (fuel : Nat) : List Char → Except LiteralFault (List Char × List Char)
  | '"' :: rest => readQuoted readTextEscape id fuel rest
  | 'r' :: rest => readRaw rest
  | _ => .error .malformed

/-- Whether a part may stand alone as a character. -/
def QuotedUnit.isChar : QuotedUnit → Bool
  | .char _ => true
  | .byte value => value < 0x80
  | .code _ => true

/-- Whether a part may stand alone as a byte. -/
def QuotedUnit.isByte : QuotedUnit → Bool
  | .char c => c.toNat < 0x80
  | .byte _ => true
  | .code _ => false

/-- The text after a single part between apostrophes, of which the first has been read. -/
def skipSingle (accepts : QuotedUnit → Bool) : List Char → Option (List Char)
  | '\\' :: rest =>
    match readEscape rest with
    | some (part, '\'' :: rest) => if accepts part then some rest else none
    | _ => none
  | c :: '\'' :: rest => if accepts (.char c) then some rest else none
  | _ => none

/-- The text after a character literal. -/
def skipChar : List Char → Option (List Char)
  | '\'' :: rest => skipSingle QuotedUnit.isChar rest
  | _ => none

/-- The text after a byte string, in quotes or raw. -/
def skipByteString (fuel : Nat) : List Char → Except LiteralFault (List Char)
  | 'b' :: '"' :: rest => (readQuoted readEscape QuotedUnit.char fuel rest).map Prod.snd
  | 'b' :: 'r' :: rest => (readRaw rest).map Prod.snd
  | _ => .error .malformed

/-- The text after a character literal, a byte literal or a byte string. -/
def skipLiteral (fuel : Nat) : List Char → Option (List Char)
  | 'b' :: '\'' :: rest => skipSingle QuotedUnit.isByte rest
  | cs => skipChar cs <|> (skipByteString fuel cs).toOption

end MaterialGraph.Ron
