import MaterialGraph.Binary.Single

/-!
# Typed data in text formats

Documents, settings and node types are read from trees of more than one text format. What a format
offers to a reader is collected in one class: how to see a place of a tree as text, number, list,
record or variant. A type then has a single reader for all formats.

A record is seen as a row: one entry for each declared field, in the order of the declaration, which
is empty where the field is missing. Formats refuse a declared field that is given twice and pass
over undeclared ones.

What a format offers to a writer is collected in another class: how to build text, numbers, lists,
records and variants. Fields that are left out of a record are not passed to it.
-/

namespace MaterialGraph

/-! ### Reading -/

/-- A declared field: its name, and whether a record without names may end before it. -/
structure FieldRule where
  name : String
  mayOmit : Bool
deriving DecidableEq, Repr

/-- What a variant is declared to hold. -/
inductive VariantRule where
  | unit
  | wrapped
  | record (fields : List FieldRule)
deriving DecidableEq, Repr

/-- The places of a text format, as a reader of typed data sees them. -/
class DataSource (σ : Type) where
  text? : σ → Option String
  flag? : σ → Option Bool
  /-- A 64-bit word. -/
  word? : σ → Option Nat
  number? : σ → Option Single
  /-- A fixed count of numbers. -/
  numbers? : Nat → σ → Option (List Single)
  items? : σ → Option (List σ)
  option? : σ → Option (Option σ)
  /-- The row of a record, which may bear its type's name. -/
  record? : String → List FieldRule → σ → Option (List (Option σ))
  /-- The name of a variant, and what it holds as a row. -/
  variant? : List (String × VariantRule) → σ → Option (String × List (Option σ))

namespace DataSource

variable {σ α : Type}

/-- A field that has to be there. -/
def required (read : σ → Option α) (entry : Option σ) : Option α :=
  entry.bind read

/-- A field that has a value of its own where it is missing. -/
def orElse (value : α) (read : σ → Option α) : Option σ → Option α
  | none => some value
  | some s => read s

/-- An optional value. -/
def optionOf [DataSource σ] (read : σ → Option α) (s : σ) : Option (Option α) :=
  match option? s with
  | none => none
  | some none => some none
  | some (some inner) => (read inner).map some

/-- A list of values. -/
def listOf [DataSource σ] (read : σ → Option α) (s : σ) : Option (List α) :=
  (items? s).bind fun items => items.mapM read

/-- One of a list of named values. -/
def oneOf [DataSource σ] (values : List (String × α)) (s : σ) : Option α :=
  (variant? (values.map fun (name, _) => (name, .unit)) s).bind fun (name, _) => values.lookup name

end DataSource

/-! ### Writing -/

/-- What a variant holds when it is written. -/
inductive VariantBody (τ : Type) where
  | unit
  | wrapped (content : τ)
  | record (fields : List (String × τ))

/-- The trees of a text format, as a writer of typed data builds them. -/
class DataSink (τ : Type) where
  text : String → τ
  flag : Bool → τ
  /-- A 64-bit word. -/
  word : Nat → τ
  number : Single → τ
  /-- A fixed count of numbers. -/
  numbers : List Single → τ
  items : List τ → τ
  option : Option τ → τ
  /-- A record with its type's name. -/
  record : String → List (String × τ) → τ
  variant : String → VariantBody τ → τ

end MaterialGraph
