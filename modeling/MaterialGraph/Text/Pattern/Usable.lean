import MaterialGraph.Text.Letter
import MaterialGraph.Text.Pattern.CharSet

/-!
# Patterns that can be used

A pattern is a choice between sequences of parts, each of which may be repeated. Groups hold further
patterns, and may be named; no two bear the same name. A repetition needs a part in front of it, and
nothing can look around. Patterns are found between braces, so one never holds a closing brace, and
an opening one by itself begins a count without an end. Nesting is limited.
-/

namespace MaterialGraph.Pattern

/-- How deep a pattern may be nested. -/
def nestingLimit : Nat := 250

/-- A part of a sequence: its nesting, and whether it can be repeated. -/
structure Part where
  depth : Nat
  repeatable : Bool

/-- What has been read of a choice: the mode behind it, the names of groups so far, the nesting of
the finished sequences, and the parts of the last one, the latest first. -/
structure State where
  mode : Mode
  names : List (List Char)
  finished : List Nat
  parts : List Part

namespace State

/-- The state at the start of a group. -/
def inside (state : State) (mode : Mode) : State :=
  ⟨mode, state.names, [], []⟩

/-- The state after one more part. -/
def add (state : State) (depth : Nat) (repeatable : Bool) : State :=
  { state with parts := ⟨depth, repeatable⟩ :: state.parts }

/-- The nesting of all sequences. -/
def sequences (state : State) : List Nat :=
  depthOfParts (state.parts.map Part.depth) :: state.finished

/-- The state after the sign between two sequences. -/
def alternate (state : State) : State :=
  { state with finished := state.sequences, parts := [] }

/-- The state after a sign that repeats the last part. -/
def repeatLast? (state : State) : Option State :=
  match state.parts with
  | part :: parts =>
    if part.repeatable then some { state with parts := ⟨part.depth + 1, true⟩ :: parts } else none
  | [] => none

/-- The state after a group that began in it. -/
def close (state inner : State) : State :=
  { state with names := inner.names }.add (1 + depthOfParts inner.sequences) true

end State

/-- Whether a character may stand in the name of a group, at its start or later. -/
def inGroupName (isFirst : Bool) (c : Char) : Bool :=
  if isFirst then c == '_' || isLetterOrNumber c && !c.isDigit
  else ['_', '.', '[', ']'].contains c || isLetterOrNumber c

/-- The name of a group up to its closing sign, and the text after it. -/
def readGroupName (cs : List Char) : Option (List Char × List Char) :=
  match cs.span (· != '>') with
  | (first :: name, '>' :: rest) =>
    if inGroupName true first && name.all (inGroupName false) then some (first :: name, rest)
    else none
  | _ => none

/-- The starts of groups that look around. -/
def lookStarts : List String :=
  ["?=", "?!", "?<=", "?<!"]

/-- The text after the start of a named group. -/
def namedStart? (cs : List Char) : Option (List Char) :=
  dropStart? "?P<".toList cs <|> dropStart? "?<".toList cs

/-- The start of a group after its parenthesis: the state that its content begins in, or the one
after it where it holds nothing but letters that change the mode. -/
def openGroup (state : State) (cs : List Char) : Option (Bool × State × List Char) :=
  let cs := state.mode.skip cs
  if lookStarts.any fun start => (dropStart? start.toList cs).isSome then none
  else match namedStart? cs with
    | some rest =>
      (readGroupName rest).bind fun (name, rest) =>
        if state.names.contains name then none
        else some (true, { state.inside state.mode with names := name :: state.names }, rest)
    | none =>
      match cs with
      | '?' :: rest =>
        (readFlags state.mode [] rest).bind fun (change, rest) =>
          if !change.closes then some (true, state.inside change.mode, rest)
          else if change.isEmpty then none
          else some (false, { state with mode := change.mode }.add 0 false, rest)
      | cs => some (true, state.inside state.mode, cs)

/-- A single part that is neither a group nor a set, from its first character on. -/
def readAtom (mode : Mode) (c : Char) (rest : List Char) : Option (List Char) :=
  if c = '\\' then
    (readEscape mode rest).bind fun (atom, rest) => if atom.isUsable mode then some rest else none
  else if c = '.' then if mode.unicode then some rest else none
  else if c = '^' || c = '$' then some rest
  else if (Atom.char c false).isUsable mode then some rest
  else none

/-- The text after a sign that repeats, with the one that makes it modest. -/
def skipModest : List Char → List Char
  | '?' :: rest => rest
  | cs => cs

/-- The choice from some place on, up to the end of its group or of the text. -/
def readChoice : Nat → State → List Char → Option (State × List Char)
  | 0, _, _ => none
  | fuel + 1, state, cs =>
    match state.mode.skip cs with
    | [] => some (state, [])
    | c :: rest =>
      if c = ')' then some (state, c :: rest)
      else if c = '|' then readChoice fuel state.alternate rest
      else if c = '(' then
        (openGroup state rest).bind fun (holds, inner, rest) =>
          if !holds then readChoice fuel inner rest
          else
            match readChoice fuel inner rest with
            | some (inner, ')' :: rest) => readChoice fuel (state.close inner) rest
            | _ => none
      else if c = '[' then
        (readSet fuel state.mode rest).bind fun (depth, rest) =>
          readChoice fuel (state.add depth true) rest
      else if c = '?' || c = '*' || c = '+' then
        state.repeatLast?.bind fun state => readChoice fuel state (skipModest rest)
      else if c = '\x7b' then none
      else
        (readAtom state.mode c rest).bind fun rest => readChoice fuel (state.add 0 true) rest

/-- Whether a pattern can be used. -/
def isUsable (cs : List Char) : Bool :=
  match readChoice (cs.length + 1) ⟨Mode.start, [], [], []⟩ cs with
  | some (state, []) => depthOfParts state.sequences ≤ nestingLimit
  | _ => false

end MaterialGraph.Pattern
