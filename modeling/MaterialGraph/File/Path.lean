import MaterialGraph.Text.Basic

/-!
# Paths

A path is a text whose segments are separated by slashes. Empty segments and single dots do not
count, except that a slash at the start makes the path absolute and a dot at the start is a
component of its own. The parent of a path is a part of its text, so that what is written between
its segments stays.
-/

namespace MaterialGraph

/-- The name of a file or a directory. -/
abbrev Path := String

namespace Path

/-- How a path starts. -/
inductive Start where
  | root
  | here
  | plain
deriving DecidableEq, Repr

/-- A path as its start and the segments behind it. -/
structure Parts where
  start : Start
  body : List (List Char)
deriving DecidableEq, Repr

/-- The parts of a path. -/
def parts (p : Path) : Parts :=
  match splitAt '/' p.toList with
  | [[]] => ⟨.plain, []⟩
  | [] :: body => ⟨.root, body⟩
  | ['.'] :: body => ⟨.here, body⟩
  | body => ⟨.plain, body⟩

/-- Whether a segment does not count. -/
def isIdle (segment : List Char) : Bool :=
  segment == [] || segment == ['.']

/-- Segments without those at the end that do not count. -/
def trimEnd (body : List (List Char)) : List (List Char) :=
  (body.reverse.dropWhile isIdle).reverse

/-- Segments with slashes between them. -/
def joinSegments : List (List Char) → List Char
  | [] => []
  | [segment] => segment
  | segment :: rest => segment ++ '/' :: joinSegments rest

/-- The text of parts. -/
def Parts.text (p : Parts) : Path :=
  String.ofList <| match p.start with
    | .root => '/' :: joinSegments p.body
    | .here => joinSegments (['.'] :: p.body)
    | .plain => joinSegments p.body

/-- The path without its last component, if it has one besides the root. -/
def parent? (p : Path) : Option Path :=
  let ⟨start, body⟩ := p.parts
  match (trimEnd body).reverse with
  | _ :: before => some (Parts.text ⟨start, trimEnd before.reverse⟩)
  | [] => if start = .here then some "" else none

/-- The path, its parent, the parent of that, and so on; a parent is shorter than its path. -/
def ancestorsWithin : Nat → Path → List Path
  | 0, _ => []
  | limit + 1, p => p :: (p.parent?.elim [] (ancestorsWithin limit))

/-- The path, its parent, the parent of that, and so on. -/
def ancestors (p : Path) : List Path :=
  ancestorsWithin (p.length + 1) p

/-- The last component as a list of characters, if it is a name. -/
def nameChars? (p : Path) : Option (List Char) :=
  match (trimEnd p.parts.body).getLast? with
  | some name => if name == ['.', '.'] then none else some name
  | none => none

/-- The last component, if it is a name. -/
def fileName? (p : Path) : Option String :=
  p.nameChars?.map String.ofList

/-- A name divided at its last dot; a dot that comes first does not count. -/
def splitName (name : List Char) : List Char × Option (List Char) :=
  match name.reverse.span (· != '.') with
  | (after, _ :: c :: before) => ((c :: before).reverse, some after.reverse)
  | _ => (name, none)

/-- The name up to its last dot. -/
def stem? (p : Path) : Option String :=
  p.nameChars?.map fun name => String.ofList (splitName name).1

/-- The name after its last dot. -/
def extension? (p : Path) : Option String :=
  p.nameChars?.bind fun name => (splitName name).2.map String.ofList

/-- Whether a path starts at the root. -/
def isAbsolute (p : Path) : Bool :=
  p.toList.head? == some '/'

/-- A path inside a directory. -/
def join (directory p : Path) : Path :=
  if p.isAbsolute || directory.isEmpty then p
  else if directory.toList.getLast? == some '/' then directory ++ p
  else directory ++ "/" ++ p

end Path

end MaterialGraph
