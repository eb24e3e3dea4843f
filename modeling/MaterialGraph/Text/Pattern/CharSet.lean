import MaterialGraph.Text.Basic
import MaterialGraph.Text.Pattern.Atom

/-!
# Sets of characters in patterns

A set is written in brackets: characters, ranges, named classes and further sets, of which operators
take the common part or the difference. Only its nesting matters here. A set whose case is ignored
cannot be used in the mode for characters, and what is not in a set not in the mode for bytes.
-/

namespace MaterialGraph.Pattern

/-- How deep parts side by side are nested as one: a single part stands for itself. -/
def depthOfParts : List Nat → Nat
  | [] => 0
  | [depth] => depth
  | depths => 1 + depths.foldl max 0

/-- The nesting of a set up to some place: of what stands before the last operator, and of the items
behind it. -/
structure SetState where
  operand : Option Nat
  items : List Nat

/-- The state after one more item. -/
def SetState.add (state : SetState) (depth : Nat) : SetState :=
  { state with items := depth :: state.items }

/-- The nesting of all that has been read. -/
def SetState.depth (state : SetState) : Nat :=
  match state.operand with
  | none => depthOfParts state.items
  | some operand => 1 + max operand (depthOfParts state.items)

/-- The names of classes. -/
def classNames : List String :=
  ["alnum", "alpha", "ascii", "blank", "cntrl", "digit", "graph", "lower", "print", "punct",
    "space", "upper", "word", "xdigit"]

/-- A named class after its opening bracket: whether it is negated, and the text after it. -/
def readClass? (cs : List Char) : Option (Bool × List Char) :=
  match cs with
  | ':' :: cs =>
    let (negated, cs) := match cs with
      | '^' :: rest => (true, rest)
      | cs => (false, cs)
    match cs.span (· != ':') with
    | (name, ':' :: ']' :: rest) =>
      if classNames.contains (String.ofList name) then some (negated, rest) else none
    | _ => none
  | _ => none

/-- The text of a set after its opening bracket, with whether it is negated. -/
def readNegation (mode : Mode) (cs : List Char) : Bool × List Char :=
  match mode.skip cs with
  | '^' :: rest => (true, mode.skip rest)
  | cs => (false, cs)

/-- The number of minus signs in front, and the text after them. -/
def countMinus (mode : Mode) : Nat → List Char → Nat × List Char
  | fuel + 1, '-' :: rest =>
    let (count, rest) := countMinus mode fuel (mode.skip rest)
    (count + 1, rest)
  | _, cs => (0, cs)

/-- The items that are characters by their place: minus signs at the start, or else a closing
bracket. -/
def readFirst (mode : Mode) (cs : List Char) : SetState × List Char :=
  match countMinus mode cs.length cs with
  | (0, ']' :: rest) => (⟨none, [0]⟩, rest)
  | (count, rest) => (⟨none, List.replicate count 0⟩, rest)

/-- One part of an item. -/
def readItemAtom (mode : Mode) : List Char → Option (Atom × List Char)
  | '\\' :: rest => readEscape mode rest
  | c :: rest => some (.char c false, rest)
  | [] => none

/-- The text after blanks and at most one sign of a comment, which is not passed over with it. -/
def peekVerbose (cs : List Char) : List Char :=
  match cs.dropWhile isWhiteSpace with
  | '#' :: rest => rest.dropWhile isWhiteSpace
  | cs => cs

/-- Whether a minus sign is an item or begins an operator, by the text behind it. -/
def endsRange (mode : Mode) (rest : List Char) : Bool :=
  match if mode.verbose then peekVerbose rest else rest with
  | ']' :: _ => true
  | '-' :: _ => true
  | _ => false

/-- Whether two parts are the ends of a range. -/
def isRange (mode : Mode) (first last : Atom) : Bool :=
  match first, last with
  | .char a _, .char b _ => a.toNat ≤ b.toNat && first.isUsableItem mode && last.isUsableItem mode
  | _, _ => false

/-- The text after a single item or a range. -/
def skipItem (mode : Mode) (cs : List Char) : Option (List Char) :=
  (readItemAtom mode cs).bind fun (first, rest) =>
    match mode.skip rest with
    | [] => none
    | '-' :: rest =>
      if endsRange mode rest then
        if first.isUsableItem mode then some ('-' :: rest) else none
      else
        (readItemAtom mode (mode.skip rest)).bind fun (last, rest) =>
          if isRange mode first last then some rest else none
    | rest => if first.isUsableItem mode then some rest else none

/-- The operators between sets, each a sign written twice. -/
def setOperators : List Char :=
  ['&', '-', '~']

mutual

/-- The nesting of a set after its opening bracket, and the text after it. -/
def readSet : Nat → Mode → List Char → Option (Nat × List Char)
  | 0, _, _ => none
  | fuel + 1, mode, cs =>
    let (negated, cs) := readNegation mode cs
    if mode.unicode && mode.caseless || negated && !mode.unicode then none
    else
      let (state, cs) := readFirst mode cs
      (readSetItems fuel mode state cs).map fun (depth, rest) => (depth + 1, rest)

/-- The nesting of the content of a set from some place on, and the text after the set. -/
def readSetItems : Nat → Mode → SetState → List Char → Option (Nat × List Char)
  | 0, _, _, _ => none
  | fuel + 1, mode, state, cs =>
    match mode.skip cs with
    | [] => none
    | '[' :: rest =>
      match readClass? rest with
      | some (negated, rest) =>
        if negated && !mode.unicode then none else readSetItems fuel mode (state.add 0) rest
      | none =>
        (readSet fuel mode rest).bind fun (depth, rest) =>
          readSetItems fuel mode (state.add depth) rest
    | ']' :: rest => some (state.depth, rest)
    | c :: rest =>
      if setOperators.contains c && rest.head? = some c then
        readSetItems fuel mode ⟨some state.depth, []⟩ rest.tail
      else
        (skipItem mode (c :: rest)).bind fun rest => readSetItems fuel mode (state.add 0) rest

end

end MaterialGraph.Pattern
