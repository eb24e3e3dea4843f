import MaterialGraph.Data
import MaterialGraph.Json.Basic
import MaterialGraph.Json.Reader
import MaterialGraph.Json.Writer

/-!
# Typed data in JSON

A record is an object, and is also read from an array of its fields in order, of which the last ones
may be missing if they may be omitted. A variant that holds nothing is its name as a string, or an
object from its name to null; any other variant is an object from its name to what it holds. A
number that is not finite is written as null, which is not read as a number.
-/

namespace MaterialGraph.Json

/-- The row of an object: no declared field twice, and every key a text. -/
def rowOfEntries (fields : List FieldRule) (entries : List (Option String × Json)) :
    Option (List (Option Json)) :=
  if entries.all fun (key, _) => key.isSome then
    fields.mapM fun field =>
      match entries.filter fun (key, _) => key == some field.name with
      | [] => some none
      | [(_, value)] => some (some value)
      | _ => none
  else none

/-- The row of an array: no more items than fields, and no missing field that may not be omitted. -/
def rowOfItems : List FieldRule → List Json → Option (List (Option Json))
  | [], [] => some []
  | [], _ :: _ => none
  | field :: fields, [] =>
    if field.mayOmit then (rowOfItems fields []).map (none :: ·) else none
  | _ :: fields, item :: items => (rowOfItems fields items).map (some item :: ·)

/-- The row of an object or an array. -/
def row? (fields : List FieldRule) : Json → Option (List (Option Json))
  | .object entries => rowOfEntries fields entries
  | .array items => rowOfItems fields items
  | _ => none

/-- A number. -/
def number? : Json → Option Single
  | .number n => single? n
  | _ => none

/-- What a variant of a rule holds, from the value that its name maps to. -/
def contentOf (rule : VariantRule) (content : Json) : Option (List (Option Json)) :=
  match rule, content with
  | .unit, .null => some []
  | .unit, _ => none
  | .wrapped, content => some [some content]
  | .record fields, content => row? fields content

/-- A variant. -/
def variant? (variants : List (String × VariantRule)) : Json → Option (String × List (Option Json))
  | .string (some name) =>
    match variants.lookup name with
    | some .unit => some (name, [])
    | _ => none
  | .object [(some name, content)] =>
    (variants.lookup name).bind fun rule =>
      (contentOf rule content).map fun row => (name, row)
  | _ => none

/-- An integer that fits a word. -/
def word? : Json → Option Nat
  | .number n => if isWord n && !n.negative then some (valueOfDigits n.whole) else none
  | _ => none

instance : DataSource Json where
  text?
    | .string s => s
    | _ => none
  flag?
    | .bool value => some value
    | _ => none
  word? := word?
  number? := number?
  numbers? count
    | .array items => if items.length = count then items.mapM number? else none
    | _ => none
  items?
    | .array items => some items
    | _ => none
  option?
    | .null => some none
    | json => some (some json)
  record? _ fields json := row? fields json
  variant? := variant?

/-- A number, or null if it is not finite. -/
def ofSingle (x : Single) : Json :=
  if x.isFinite then .number (numeralOf x) else .null

/-- A natural number. -/
def ofNat (n : Nat) : Json :=
  .number ⟨false, digitsOf n, none, none⟩

/-- A text. -/
def ofString (s : String) : Json :=
  .string (some s)

/-- An object with the given keys. -/
def ofFields (fields : List (String × Json)) : Json :=
  .object (fields.map fun (name, value) => (some name, value))

instance : DataSink Json where
  text := ofString
  flag := .bool
  word := ofNat
  number := ofSingle
  numbers xs := .array (xs.map ofSingle)
  items := .array
  option content := content.getD .null
  record _ fields := ofFields fields
  variant name
    | .unit => ofString name
    | .wrapped content => ofFields [(name, content)]
    | .record fields => ofFields [(name, ofFields fields)]

end MaterialGraph.Json
