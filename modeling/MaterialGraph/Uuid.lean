import MaterialGraph.Text.Basic

/-!
# UUIDs

Identifiers of graphs, nodes and connections are 128-bit UUIDs. Four spellings are read: groups of
digits joined by hyphens, the digits alone, and the hyphenated form in braces or after `urn:uuid:`.
Written UUIDs are hyphenated and in lower case.
-/

namespace MaterialGraph

/-- A 128-bit identifier. -/
structure Uuid where
  bits : BitVec 128
deriving DecidableEq, Repr

namespace Uuid

/-- The UUID with every bit zero. -/
def nil : Uuid := ⟨0⟩

/-- The sizes of the groups between hyphens. -/
def groupSizes : List Nat := [8, 4, 4, 4, 12]

/-- The digits of a text whose groups have the given sizes and are joined by hyphens. -/
def dropHyphens : List Nat → List Char → Option (List Char)
  | [], cs => if cs.isEmpty then some [] else none
  | [size], cs => if cs.length = size then some cs else none
  | size :: sizes, cs =>
    match cs.drop size with
    | '-' :: rest => (dropHyphens sizes rest).map (cs.take size ++ ·)
    | _ => none

/-- The groups of the given sizes, joined by hyphens. -/
def addHyphens : List Nat → List Char → List Char
  | [], _ => []
  | [size], cs => cs.take size
  | size :: sizes, cs => cs.take size ++ '-' :: addHyphens sizes (cs.drop size)

/-- The UUID with 32 hexadecimal digits. -/
def ofDigits? (cs : List Char) : Option Uuid :=
  if cs.length = 32 then (hexNumber? cs 0).map fun n => ⟨BitVec.ofNat 128 n⟩ else none

/-- The UUID of a hyphenated text. -/
def ofHyphenated? (cs : List Char) : Option Uuid :=
  (dropHyphens groupSizes cs).bind ofDigits?

/-- The mark before a UUID that is written as a name, in any case. -/
def nameMark : List Char := "urn:uuid:".toList

/-- The UUID that a text spells in one of the four ways. -/
def ofText? (cs : List Char) : Option Uuid :=
  if cs.length = 32 then ofDigits? cs
  else if cs.length = 36 then ofHyphenated? cs
  else if cs.length = 38 && cs.head? == some '\x7b' && cs.getLast? == some '\x7d' then
    ofHyphenated? (cs.drop 1).dropLast
  else if cs.length = 45 && (cs.take 9).map Char.toLower == nameMark then ofHyphenated? (cs.drop 9)
  else none

/-- The hyphenated text of a UUID. -/
def text (u : Uuid) : List Char :=
  addHyphens groupSizes (hexPadded 32 u.bits.toNat)

/-- The hyphenated text of a UUID. -/
def toString (u : Uuid) : String :=
  String.ofList u.text

end Uuid

/-- The identifier of a node. -/
abbrev NodeId := Uuid

/-- The identifier of a connection. -/
abbrev ConnectionId := Uuid

/-- The identifier of a graph. -/
abbrev GraphId := Uuid

end MaterialGraph
