import MaterialGraph.Json.Basic
import MaterialGraph.Text.Basic

/-!
# Writing JSON

The compact form has no blanks. The spread form puts every item and entry on a line of its own,
indented by two blanks a level, and keeps empty arrays and objects on one line. Strings escape the
quote, the backslash and the control characters below the blank.
-/

namespace MaterialGraph.Json

/-- A character as it stands in a string. -/
def stringChar (c : Char) : List Char :=
  if c = '"' then ['\\', '"']
  else if c = '\\' then ['\\', '\\']
  else if c = '\x08' then ['\\', 'b']
  else if c = '\t' then ['\\', 't']
  else if c = '\n' then ['\\', 'n']
  else if c = '\x0c' then ['\\', 'f']
  else if c = '\r' then ['\\', 'r']
  else if c < ' ' then '\\' :: 'u' :: hexPadded 4 c.toNat
  else [c]

/-- A string with its quotes. -/
def stringText (s : String) : List Char :=
  '"' :: s.toList.flatMap stringChar ++ ['"']

/-- The start of a line at a level of indentation. -/
def newLine (level : Nat) : List Char :=
  '\n' :: List.replicate (2 * level) ' '

mutual

/-- The compact text of a tree. -/
def compact : Json → List Char
  | .null => "null".toList
  | .bool value => (if value then "true" else "false").toList
  | .number n => n.text
  | .string s => stringText (s.getD "")
  | .array [] => ['[', ']']
  | .array (item :: items) => '[' :: compact item ++ compactItems items
  | .object [] => ['\x7b', '\x7d']
  | .object ((key, value) :: entries) =>
    '\x7b' :: stringText (key.getD "") ++ ':' :: compact value ++ compactEntries entries
termination_by structural json => json

/-- The compact text of the items after the first, with the end of the array. -/
def compactItems : List Json → List Char
  | [] => [']']
  | item :: items => ',' :: compact item ++ compactItems items
termination_by structural items => items

/-- The compact text of the entries after the first, with the end of the object. -/
def compactEntries : List (Option String × Json) → List Char
  | [] => ['\x7d']
  | (key, value) :: entries =>
    ',' :: stringText (key.getD "") ++ ':' :: compact value ++ compactEntries entries
termination_by structural entries => entries

end

mutual

/-- The spread text of a tree whose lines stand at a level of indentation. -/
def spread (level : Nat) : Json → List Char
  | .null => "null".toList
  | .bool value => (if value then "true" else "false").toList
  | .number n => n.text
  | .string s => stringText (s.getD "")
  | .array [] => ['[', ']']
  | .array (item :: items) =>
    '[' :: newLine (level + 1) ++ spread (level + 1) item ++ spreadItems level items
  | .object [] => ['\x7b', '\x7d']
  | .object ((key, value) :: entries) =>
    '\x7b' :: newLine (level + 1) ++ stringText (key.getD "") ++ ':' :: ' ' ::
      spread (level + 1) value ++ spreadEntries level entries
termination_by structural json => json

/-- The spread text of the items after the first, with the end of the array. -/
def spreadItems (level : Nat) : List Json → List Char
  | [] => newLine level ++ [']']
  | item :: items =>
    ',' :: newLine (level + 1) ++ spread (level + 1) item ++ spreadItems level items
termination_by structural items => items

/-- The spread text of the entries after the first, with the end of the object. -/
def spreadEntries (level : Nat) : List (Option String × Json) → List Char
  | [] => newLine level ++ ['\x7d']
  | (key, value) :: entries =>
    ',' :: newLine (level + 1) ++ stringText (key.getD "") ++ ':' :: ' ' ::
      spread (level + 1) value ++ spreadEntries level entries
termination_by structural entries => entries

end

/-- The compact text of a tree. -/
def compactString (json : Json) : String :=
  String.ofList (compact json)

/-- The spread text of a tree. -/
def spreadString (json : Json) : String :=
  String.ofList (spread 0 json)

end MaterialGraph.Json
