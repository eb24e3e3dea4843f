import MaterialGraph.Ron.Basic
import MaterialGraph.Text.Quoted

/-!
# Writing RON

The compact form has no blanks. The spread form puts every item of a list and every entry on a line
of its own, indented by four blanks a level and with a comma behind it; tuples stay on one line.
-/

namespace MaterialGraph.Ron

/-- A name, where there is one. -/
def nameText (name : Option Name) : List Char :=
  name.elim [] Name.spelling

/-- What stands before the content of an option. -/
def optionStart : List Char :=
  "Some(".toList

/-- A text in quotes. -/
def quotedText (text : String) : List Char :=
  quoted .escaped text

mutual

/-- The compact text of a tree. -/
def compact : Ron → List Char
  | .word spelling => spelling
  | .ident name => name.spelling
  | .string value => quotedText value
  | .literal spelling => spelling
  | .unit => ['(', ')']
  | .option _ content => optionStart ++ compact content ++ [')']
  | .list items => '[' :: compactItems items ++ [']']
  | .map pairs => '\x7b' :: compactPairs pairs ++ ['\x7d']
  | .tuple name items => nameText name ++ '(' :: compactItems items ++ [')']
  | .surplus name items => name.spelling ++ '(' :: compactItems items ++ [',', ',', ')']
  | .struct name entries => nameText name ++ '(' :: compactEntries entries ++ [')']
termination_by structural ron => ron

/-- Items with commas between them. -/
def compactItems : List Ron → List Char
  | [] => []
  | [item] => compact item
  | item :: items => compact item ++ ',' :: compactItems items
termination_by structural items => items

/-- Pairs with commas between them. -/
def compactPairs : List (Ron × Ron) → List Char
  | [] => []
  | [(key, value)] => compact key ++ ':' :: compact value
  | (key, value) :: pairs => compact key ++ ':' :: compact value ++ ',' :: compactPairs pairs
termination_by structural pairs => pairs

/-- Entries with commas between them. -/
def compactEntries : List (Name × Ron) → List Char
  | [] => []
  | [(name, value)] => name.spelling ++ ':' :: compact value
  | (name, value) :: entries =>
    name.spelling ++ ':' :: compact value ++ ',' :: compactEntries entries
termination_by structural entries => entries

end

/-- The start of a line at a level of indentation. -/
def newLine (level : Nat) : List Char :=
  '\n' :: List.replicate (4 * level) ' '

mutual

/-- The spread text of a tree whose lines stand at a level of indentation. -/
def spread (level : Nat) : Ron → List Char
  | .word spelling => spelling
  | .ident name => name.spelling
  | .string value => quotedText value
  | .literal spelling => spelling
  | .unit => ['(', ')']
  | .option _ content => optionStart ++ spread level content ++ [')']
  | .list items => '[' :: spreadItems level items ++ [']']
  | .map pairs => '\x7b' :: spreadPairs level pairs ++ ['\x7d']
  | .tuple name items => nameText name ++ '(' :: spreadTuple level items ++ [')']
  | .surplus name items => name.spelling ++ '(' :: spreadTuple level items ++ [',', ',', ')']
  | .struct name entries => nameText name ++ '(' :: spreadEntries level entries ++ [')']
termination_by structural ron => ron

/-- The items of a list, with the start of the line on which the list ends. -/
def spreadItems (level : Nat) : List Ron → List Char
  | [] => []
  | [item] => newLine (level + 1) ++ spread (level + 1) item ++ ',' :: newLine level
  | item :: items =>
    newLine (level + 1) ++ spread (level + 1) item ++ ',' :: spreadItems level items
termination_by structural items => items

/-- The items of a tuple, with commas and blanks between them. -/
def spreadTuple (level : Nat) : List Ron → List Char
  | [] => []
  | [item] => spread level item
  | item :: items => spread level item ++ ',' :: ' ' :: spreadTuple level items
termination_by structural items => items

/-- The pairs of a map, with the start of the line on which it ends. -/
def spreadPairs (level : Nat) : List (Ron × Ron) → List Char
  | [] => []
  | [(key, value)] =>
    newLine (level + 1) ++ spread (level + 1) key ++ ':' :: ' ' :: spread (level + 1) value ++
      ',' :: newLine level
  | (key, value) :: pairs =>
    newLine (level + 1) ++ spread (level + 1) key ++ ':' :: ' ' :: spread (level + 1) value ++
      ',' :: spreadPairs level pairs
termination_by structural pairs => pairs

/-- The entries of a body, with the start of the line on which it ends. -/
def spreadEntries (level : Nat) : List (Name × Ron) → List Char
  | [] => []
  | [(name, value)] =>
    newLine (level + 1) ++ name.spelling ++ ':' :: ' ' :: spread (level + 1) value ++
      ',' :: newLine level
  | (name, value) :: entries =>
    newLine (level + 1) ++ name.spelling ++ ':' :: ' ' :: spread (level + 1) value ++
      ',' :: spreadEntries level entries
termination_by structural entries => entries

end

/-- The compact text of a tree. -/
def compactString (ron : Ron) : String :=
  String.ofList (compact ron)

/-- The spread text of a tree. -/
def spreadString (ron : Ron) : String :=
  String.ofList (spread 0 ron)

end MaterialGraph.Ron
