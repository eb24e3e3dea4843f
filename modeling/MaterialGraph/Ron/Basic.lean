import MaterialGraph.Text.Name

/-!
# RON trees

A RON text is a value built from names, number words, texts, options, lists, maps and parenthesised
bodies. A body holds items or named entries, and may follow a name; whether it is a struct, a tuple
or the content of a variant is for the reader of typed data to decide, so the tree keeps what is
spelled.
-/

namespace MaterialGraph

namespace Ron

/-- A name: its characters, and whether it is spelled in the raw form `r#name`. -/
structure Name where
  raw : Bool
  text : String
deriving DecidableEq, Repr

/-- The names that stand for values or begin options when they are not spelled in the raw form. -/
def reservedNames : List String :=
  ["true", "false", "Some", "None", "inf", "inff32", "inff64", "NaN", "NaNf32", "NaNf64"]

/-- The name with given characters, in the raw form where the plain one is reserved. -/
def Name.ofString (text : String) : Name :=
  ⟨reservedNames.contains text, text⟩

/-- A name in its plain form. -/
def Name.plain (text : String) : Name :=
  ⟨false, text⟩

/-- The spelling of a name. -/
def Name.spelling (name : Name) : List Char :=
  if name.raw then 'r' :: '#' :: name.text.toList else name.text.toList

/-- Whether a character may stand in a number word or a raw name. -/
def continuesWord (c : Char) : Bool :=
  continuesName c || c == '.' || c == '+' || c == '-'

/-- Whether a character begins a number word. -/
def startsWord (c : Char) : Bool :=
  c.isDigit || c == '.' || c == '+' || c == '-'

/-- How deep a text may be nested. -/
def nestingBudget : Nat := 128

/-- What a glance ahead takes the content of an option for: one value, several, or nothing that it
can make out. -/
inductive Outlook where
  | single
  | several
  | unclear
deriving DecidableEq, Repr

end Ron

/-- A RON text as a tree. Character and byte literals have no use but to be passed over, and are
kept as they are spelled. A body of items that ends in two commas is told apart from all others, and
so is a body that is a pair of parentheses with nothing between them. -/
inductive Ron where
  | word (spelling : List Char)
  | ident (name : Ron.Name)
  | string (value : String)
  | literal (spelling : List Char)
  | unit
  | option (outlook : Ron.Outlook) (content : Ron)
  | list (items : List Ron)
  | map (entries : List (Ron × Ron))
  | tuple (name : Option Ron.Name) (items : List Ron)
  | surplus (name : Ron.Name) (items : List Ron)
  | struct (name : Option Ron.Name) (entries : List (Ron.Name × Ron))
deriving Repr

namespace Ron

/-- The switches that a document can turn on at its start. -/
structure Switches where
  implicitSome : Bool
  unwrapVariants : Bool
  structNames : Bool
deriving DecidableEq, Repr

/-- No switch turned on. -/
def Switches.off : Switches :=
  ⟨false, false, false⟩

end Ron

end MaterialGraph
