import MaterialGraph.Data
import MaterialGraph.Ron.Number
import MaterialGraph.Ron.Reader
import MaterialGraph.Ron.Writer

/-!
# Typed data in RON

A record is a body of entries, with or without its type's name in front; a body without content is a
record without fields. A variant that holds nothing is its name; others have a body behind the name.
An optional value is `None` or `Some(value)`.

Nesting is limited. A reader starts with a budget, and every body, list, option and variant that it
enters costs one unit, as does every item, key or value inside. Values of undeclared fields are
passed over, and have to fit what is left of the budget.
-/

namespace MaterialGraph.Ron

/-- Whether a name stands for a value of its own, and has no body. -/
def Name.isReserved (name : Name) : Bool :=
  !name.raw && reservedNames.contains name.text

mutual

/-- Whether a value can be passed over within a budget. What an option holds is passed over as a
glance took it: several values are the items of a body of their own. -/
def skippable (budget : Nat) : Ron → Bool
  | .word spelling => isNumber spelling
  | .ident _ => true
  | .string _ => true
  | .literal _ => true
  | .unit => true
  | .option .single content => 1 ≤ budget && skippable (budget - 1) content
  | .option .several content => 3 ≤ budget && skippable (budget - 3) content
  | .option .unclear _ => false
  | .list items => 1 ≤ budget && skippableItems (budget - 1) items
  | .map pairs => 1 ≤ budget && skippablePairs (budget - 1) pairs
  | .tuple name items =>
    !name.any Name.isReserved && 1 ≤ budget && skippableItems (budget - 1) items
  | .surplus _ _ => false
  | .struct name entries =>
    !name.any Name.isReserved && 1 ≤ budget && skippableEntries (budget - 1) entries
termination_by structural ron => ron

/-- Whether items can be passed over. -/
def skippableItems (budget : Nat) : List Ron → Bool
  | [] => true
  | item :: items => 1 ≤ budget && skippable (budget - 1) item && skippableItems budget items
termination_by structural items => items

/-- Whether the pairs of a map can be passed over. -/
def skippablePairs (budget : Nat) : List (Ron × Ron) → Bool
  | [] => true
  | (key, value) :: pairs =>
    1 ≤ budget && skippable (budget - 1) key && skippable (budget - 1) value &&
      skippablePairs budget pairs
termination_by structural pairs => pairs

/-- Whether named entries can be passed over. -/
def skippableEntries (budget : Nat) : List (Name × Ron) → Bool
  | [] => true
  | (_, value) :: entries =>
    1 ≤ budget && skippable (budget - 1) value && skippableEntries budget entries
termination_by structural entries => entries

end

/-- A place in a text: its tree, what is left of the nesting budget, the switches, and whether the
tree is a body whose parentheses belong to the variant around it. -/
structure Cursor where
  tree : Ron
  budget : Nat
  switches : Switches
  unwrapped : Bool

namespace Cursor

/-- The start of a text. -/
def ofSource (source : Source) : Cursor :=
  ⟨source.tree, nestingBudget, source.switches, false⟩

/-- A place further inside, if the budget allows a number of steps. -/
def inside (place : Cursor) (steps : Nat) (tree : Ron) : Option Cursor :=
  if steps ≤ place.budget then some ⟨tree, place.budget - steps, place.switches, false⟩ else none

/-- The places of the entries of one field; a step for the body and one for the value. -/
def entriesOf (place : Cursor) (entries : List (Name × Ron)) (field : String) :
    Option (List Cursor) :=
  (entries.filter fun (name, _) => name.text == field).mapM fun (_, value) => place.inside 2 value

/-- Whether all entries that are not declared can be passed over. -/
def passesOver (place : Cursor) (fields : List FieldRule) (entries : List (Name × Ron)) : Bool :=
  entries.all fun (name, value) =>
    2 ≤ place.budget &&
      (fields.any (·.name == name.text) || skippable (place.budget - 2) value)

/-- The row of a body's entries: no declared field twice. -/
def row? (place : Cursor) (fields : List FieldRule) (entries : List (Name × Ron)) :
    Option (List (Option Cursor)) :=
  if 1 ≤ place.budget && place.passesOver fields entries then
    fields.mapM fun field =>
      match place.entriesOf entries field.name with
      | some [] => some none
      | some [value] => some (some value)
      | _ => none
  else none

/-- Whether a body may bear a name as a record of a type. -/
def bears (place : Cursor) (typeName : String) : Option Name → Bool
  | none => !place.switches.structNames
  | some name => name.text == typeName

/-- The row of a record. -/
def record? (typeName : String) (fields : List FieldRule) (place : Cursor) :
    Option (List (Option Cursor)) :=
  match place.tree with
  | .struct name entries => if place.bears typeName name then place.row? fields entries else none
  | .tuple name [] => if place.bears typeName name then place.row? fields [] else none
  | .unit => if place.bears typeName none then place.row? fields [] else none
  | _ => none

/-- The place one step further that holds the same tree. -/
def deeper (place : Cursor) : Option Cursor :=
  place.inside 1 place.tree

/-- What a variant wraps, from a body of items. Where variants share the parentheses of what they
hold, the body is the content itself, and not an item of it. -/
def wrapped? (place : Cursor) (body : Ron) : Option Cursor :=
  if place.switches.unwrapVariants then
    (place.inside 2 body).map fun inner => { inner with unwrapped := true }
  else match body with
    | .tuple _ [item] => place.inside 2 item
    | _ => none

/-- A variant; one step for it and one for its name. -/
def variant? (variants : List (String × VariantRule)) (place : Cursor) :
    Option (String × List (Option Cursor)) :=
  if place.budget < 2 then none
  else match place.tree with
    | .ident name =>
      match variants.lookup name.text with
      | some .unit => some (name.text, [])
      | _ => none
    | .tuple (some name) items =>
      match variants.lookup name.text with
      | some .wrapped => (place.wrapped? place.tree).map fun inner => (name.text, [some inner])
      | some (.record fields) =>
        if items.isEmpty then
          place.deeper.bind fun inner => (inner.row? fields []).map fun row => (name.text, row)
        else none
      | _ => none
    | .surplus name _ =>
      match variants.lookup name.text with
      | some .wrapped => (place.wrapped? place.tree).map fun inner => (name.text, [some inner])
      | _ => none
    | .struct (some name) entries =>
      match variants.lookup name.text with
      | some (.record fields) =>
        place.deeper.bind fun inner => (inner.row? fields entries).map fun row => (name.text, row)
      | _ => none
    | _ => none

/-- An optional value; one step for it. -/
def option? (place : Cursor) : Option (Option Cursor) :=
  match place.tree with
  | .ident ⟨false, "None"⟩ => some none
  | .option _ content => (place.inside 1 content).map some
  | _ => if place.switches.implicitSome then place.deeper.map some else none

/-- A number. -/
def number? (place : Cursor) : Option Single :=
  match place.unwrapped, place.tree with
  | true, .tuple _ [item] => single? item
  | true, _ => none
  | false, tree => single? tree

/-- The items of a tuple. The body of a variant is one without parentheses of its own, and its last
item may be followed by a comma before the one that ends the variant. -/
def tupleItems? (place : Cursor) : Option (List Ron) :=
  match place.unwrapped, place.tree with
  | true, .tuple _ items => some items
  | true, .surplus _ items => some items
  | false, .tuple none items => some items
  | _, _ => none

/-- A tuple of a given length that holds numbers; a step for the tuple and one for each item. -/
def numbers? (count : Nat) (place : Cursor) : Option (List Single) :=
  place.tupleItems?.bind fun items =>
    if items.length = count && 2 ≤ place.budget then items.mapM single? else none

/-- A list; a step for it and one for each item. -/
def items? (place : Cursor) : Option (List Cursor) :=
  match place.tree with
  | .list items => if 1 ≤ place.budget then items.mapM (place.inside 2) else none
  | _ => none

end Cursor

instance : DataSource Cursor where
  text? c := match c.tree with
    | .string value => some value
    | _ => none
  flag? c := match c.tree with
    | .ident ⟨false, "true"⟩ => some true
    | .ident ⟨false, "false"⟩ => some false
    | _ => none
  word? c := word? c.tree
  number? := Cursor.number?
  numbers? := Cursor.numbers?
  items? := Cursor.items?
  option? := Cursor.option?
  record? := Cursor.record?
  variant? := Cursor.variant?

/-- The entries of a body with given names. -/
def ofFields (fields : List (String × Ron)) : List (Name × Ron) :=
  fields.map fun (name, value) => (Name.ofString name, value)

/-- A body of entries with its type's name in front. -/
def withTypeName (typeName : String) : Ron → Ron
  | .struct _ entries => .struct (some (Name.ofString typeName)) entries
  | ron => ron

instance : DataSink Ron where
  text := .string
  flag value := .ident (Name.plain (if value then "true" else "false"))
  word n := .word (digitsOf n)
  number := ofSingle
  numbers xs := .tuple none (xs.map ofSingle)
  items := .list
  option
    | none => .ident (Name.plain "None")
    | some value => .option .single value
  record _ fields := .struct none (ofFields fields)
  variant name
    | .unit => .ident (Name.ofString name)
    | .wrapped content => .tuple (some (Name.ofString name)) [content]
    | .record fields => .struct (some (Name.ofString name)) (ofFields fields)

end MaterialGraph.Ron
