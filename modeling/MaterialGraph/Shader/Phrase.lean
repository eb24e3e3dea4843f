import MaterialGraph.Decimal.Digits

/-!
# Phrases and statements

A phrase is shader text in which the variables of the compiler are kept apart by their numbers. A
statement declares the next variable or is a line of its own. Declarations do not say which variable
they declare: a sequence of statements declares consecutive numbers, and only rendering fixes the
first.
-/

namespace MaterialGraph

/-- A part of a phrase. -/
inductive Fragment where
  | text (s : String)
  | variable (index : Nat)
deriving DecidableEq, Repr

/-- Shader text with numbered variables. -/
abbrev Phrase := List Fragment

namespace Phrase

instance : Coe String Phrase where
  coe s := [.text s]

/-- A phrase that is a single variable. -/
def ofVariable (index : Nat) : Phrase :=
  [.variable index]

/-- Phrases one after the other. -/
def join (parts : List Phrase) : Phrase :=
  parts.flatten

/-- Phrases with a separator between them. -/
def separate (separator : String) : List Phrase → Phrase
  | [] => []
  | [part] => part
  | part :: parts => part ++ .text separator :: separate separator parts

/-- The name of a variable. -/
def variableName (index : Nat) : List Char :=
  "var".toList ++ digitsOf index

/-- The characters of a fragment. -/
def fragmentText : Fragment → List Char
  | .text s => s.toList
  | .variable index => variableName index

/-- The characters of a phrase. -/
def render (p : Phrase) : List Char :=
  p.flatMap fragmentText

end Phrase

/-- Whether a variable can be assigned again. -/
inductive Storage where
  | fixed
  | assignable
deriving DecidableEq, Repr

/-- The word that declares a variable. -/
def Storage.keyword : Storage → String
  | fixed => "let"
  | assignable => "var"

/-- A statement. -/
inductive Statement where
  | declare (storage : Storage) (type : Option String) (value : Phrase)
  | line (text : Phrase)
deriving DecidableEq, Repr

namespace Statement

/-- Whether a statement declares a variable. -/
def declares : Statement → Bool
  | declare .. => true
  | line _ => false

/-- The number of variables that statements declare. -/
def declared (statements : List Statement) : Nat :=
  statements.countP declares

/-- The text of a statement that would declare a variable of a given number. -/
def render (index : Nat) : Statement → List Char
  | declare storage type value =>
    storage.keyword.toList ++ ' ' :: Phrase.variableName index ++
      type.elim [] (fun type => ':' :: ' ' :: type.toList) ++ " = ".toList ++ value.render ++ [';']
  | line text => text.render

/-- The lines of statements, of which the first declaration has a given number. -/
def renderAll (index : Nat) : List Statement → List String
  | [] => []
  | s :: rest =>
    String.ofList (s.render index) :: renderAll (if s.declares then index + 1 else index) rest

/-- The variables of two sequences are those of both. -/
theorem declared_append (s t : List Statement) : declared (s ++ t) = declared s + declared t :=
  List.countP_append

/-- The second of two sequences starts with the number after the variables of the first. -/
theorem renderAll_append (index : Nat) (s t : List Statement) :
    renderAll index (s ++ t) = renderAll index s ++ renderAll (index + declared s) t := by
  induction s generalizing index with
  | nil => rfl
  | cons first rest ih =>
    simp only [List.cons_append, renderAll, ih, declared, List.countP_cons]
    cases first.declares with
    | true => simp [Nat.add_comm, Nat.add_left_comm]
    | false => simp

end Statement

end MaterialGraph
