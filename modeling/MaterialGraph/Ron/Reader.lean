import MaterialGraph.Ron.Outlook

/-!
# Reading RON

A text is a number of headers that turn on switches, and one value. Items and entries are separated
by commas, of which one may trail. A parenthesised body holds entries if it begins with a name and a
colon, and items otherwise.

`Some` begins an option. Its content stands in parentheses; where values can be options without
saying so, it may also follow `Some` directly. Where variants share the parentheses of what they
hold, so do options, and a body of variants may end in two commas.

A value inside another one needs room, of which a text has as much as its nesting budget: what is
nested deeper can neither be read as typed data nor be passed over.

Each nested value or further item uses up one unit of fuel; twice the length of the text is always
enough, because every second unit consumes a character.
-/

namespace MaterialGraph.Ron

/-- The rest of a text after one expected character and the blanks behind it. -/
def expectChar (expected : Char) : List Char → Option (List Char)
  | c :: rest => if c = expected then skipBlank rest else none
  | [] => none

/-- What follows an item: another one, or the end of its list after one comma at most or after
two. -/
inductive Following where
  | item
  | close
  | closeAfterTwo
deriving DecidableEq, Repr

/-- What follows an item, and the text of the next item or behind the end. -/
def readSeparator (close : Char) (cs : List Char) : Option (Following × List Char) :=
  (skipBlank cs).bind fun cs =>
    match cs with
    | ',' :: rest =>
      (skipBlank rest).bind fun rest =>
        match rest with
        | ',' :: rest => (skipBlank rest).bind fun rest =>
          match rest with
          | c :: rest => if c = close then some (.closeAfterTwo, rest) else none
          | [] => none
        | c :: rest => if c = close then some (.close, rest) else some (.item, c :: rest)
        | [] => none
    | c :: rest => if c = close then some (.close, rest) else none
    | [] => none

/-- A value that holds no others. -/
def readLeaf (fuel : Nat) (cs : List Char) : Option (Ron × List Char) :=
  match cs with
  | [] => none
  | c :: _ =>
    if c = '"' || c = 'r' then
      (readText fuel cs).toOption.map fun (text, rest) => (.string (String.ofList text), rest)
    else if startsWord c then
      let (spelling, rest) := cs.span continuesWord
      some (.word spelling, rest)
    else
      (skipLiteral fuel cs).map fun rest => (.literal (cs.take (cs.length - rest.length)), rest)

/-- Whether a body begins with a named entry. -/
def startsEntry (cs : List Char) : Bool :=
  match (readName cs).bind fun (_, rest) => skipBlank rest with
  | some (':' :: _) => true
  | _ => false

/-- An option around the items of its own body: one value, or several that a glance takes for such.
-/
def optionOfItems? (outlook : Outlook) : List Ron → Option Ron
  | [item] => some (.option outlook item)
  | items => if outlook = .several then some (.option .single (.tuple none items)) else none

/-- A body of items behind an optional name. -/
def bodyOfItems? (switches : Switches) (name : Option Name) (items : List Ron) :
    Following → Option Ron
  | .closeAfterTwo => if switches.unwrapVariants then name.map (.surplus · items) else none
  | _ => some (.tuple name items)

mutual

/-- A value that begins right here. -/
def readValue (switches : Switches) : Nat → Nat → List Char → Option (Ron × List Char)
  | 0, _, _ => none
  | fuel + 1, room, cs =>
    match readName cs with
    | some (name, rest) =>
      (skipBlank rest).bind fun rest =>
        if name = Name.plain "Some" then readOption switches fuel room rest
        else match rest with
          | '(' :: rest => readBody switches fuel room (some name) rest
          | rest => some (.ident name, rest)
    | none =>
      match cs with
      | '(' :: ')' :: rest => some (.unit, rest)
      | '(' :: rest => readBody switches fuel room none rest
      | '[' :: rest =>
        (skipBlank rest).bind fun rest =>
          match rest with
          | ']' :: rest => some (.list [], rest)
          | rest =>
            (readItems switches fuel room ']' rest).bind fun (items, following, rest) =>
              if following = .close then some (.list items, rest) else none
      | '\x7b' :: rest =>
        (skipBlank rest).bind fun rest =>
          match rest with
          | '\x7d' :: rest => some (.map [], rest)
          | rest => (readPairs switches fuel room rest).map fun (pairs, rest) => (.map pairs, rest)
      | cs => readLeaf fuel cs

/-- What follows `Some` and the blanks behind it. -/
def readOption (switches : Switches) : Nat → Nat → List Char → Option (Ron × List Char)
  | 0, _, _ => none
  | fuel + 1, room, '(' :: rest =>
    (skipBlank rest).bind fun cs =>
      if !switches.unwrapVariants then
        (readItems switches fuel room ')' cs).bind fun (items, following, rest) =>
          match items, following with
          | [item], .close => some (.option .single item, rest)
          | _, _ => none
      else if startsEntry cs then
        (readEntries switches fuel room cs).map fun (entries, rest) =>
          (.option .single (.struct none entries), rest)
      else match cs with
        | ')' :: rest => some (.option .single .unit, rest)
        | cs =>
          (readItems switches fuel room ')' cs).bind fun (items, following, rest) =>
            if following = .close then
              (optionOfItems? (Outlook.ofContent fuel cs) items).map fun value => (value, rest)
            else none
  | fuel + 1, room, cs =>
    if switches.implicitSome && 0 < room then
      (readValue switches fuel (room - 1) cs).map fun (content, rest) =>
        (.option .single content, rest)
    else none

/-- A body after its opening parenthesis. -/
def readBody (switches : Switches) :
    Nat → Nat → Option Name → List Char → Option (Ron × List Char)
  | 0, _, _, _ => none
  | fuel + 1, room, name, cs =>
    (skipBlank cs).bind fun cs =>
      if startsEntry cs then
        (readEntries switches fuel room cs).map fun (entries, rest) => (.struct name entries, rest)
      else match cs with
        | ')' :: rest => some (.tuple name [], rest)
        | cs =>
          (readItems switches fuel room ')' cs).bind fun (items, following, rest) =>
            (bodyOfItems? switches name items following).map fun body => (body, rest)

/-- The items up to a closing character, and how they end; there is at least one. -/
def readItems (switches : Switches) :
    Nat → Nat → Char → List Char → Option (List Ron × Following × List Char)
  | fuel + 1, room + 1, close, cs =>
    (readValue switches fuel room cs).bind fun (item, rest) =>
      (readSeparator close rest).bind fun (following, rest) =>
        if following = .item then
          (readItems switches fuel (room + 1) close rest).map fun (items, following, rest) =>
            (item :: items, following, rest)
        else some ([item], following, rest)
  | _, _, _, _ => none

/-- The pairs of a map up to its end; there is at least one. -/
def readPairs (switches : Switches) :
    Nat → Nat → List Char → Option (List (Ron × Ron) × List Char)
  | fuel + 1, room + 1, cs =>
    (readValue switches fuel room cs).bind fun (key, rest) =>
      ((skipBlank rest).bind (expectChar ':')).bind fun rest =>
        (readValue switches fuel room rest).bind fun (value, rest) =>
          (readSeparator '\x7d' rest).bind fun (following, rest) =>
            match following with
            | .item =>
              (readPairs switches fuel (room + 1) rest).map fun (pairs, rest) =>
                ((key, value) :: pairs, rest)
            | .close => some ([(key, value)], rest)
            | .closeAfterTwo => none
  | _, _, _ => none

/-- The named entries of a body up to its end; there is at least one. -/
def readEntries (switches : Switches) :
    Nat → Nat → List Char → Option (List (Name × Ron) × List Char)
  | fuel + 1, room + 1, cs =>
    (readName cs).bind fun (name, rest) =>
      ((skipBlank rest).bind (expectChar ':')).bind fun rest =>
        (readValue switches fuel room rest).bind fun (value, rest) =>
          (readSeparator ')' rest).bind fun (following, rest) =>
            match following with
            | .item =>
              (readEntries switches fuel (room + 1) rest).map fun (entries, rest) =>
                ((name, value) :: entries, rest)
            | .close => some ([(name, value)], rest)
            | .closeAfterTwo => none
  | _, _, _ => none

end

/-- Turn on the switch of a given name. The content of a type that wraps one other never shows, so
its switch has no effect. -/
def Switches.enable (switches : Switches) (name : String) : Option Switches :=
  if name = "implicit_some" then some { switches with implicitSome := true }
  else if name = "unwrap_newtypes" then some switches
  else if name = "unwrap_variant_newtypes" then some { switches with unwrapVariants := true }
  else if name = "explicit_struct_names" then some { switches with structNames := true }
  else none

/-- The switch names of a header up to its closing parenthesis; there is at least one. -/
def readSwitches : Nat → Switches → List Char → Option (Switches × List Char)
  | 0, _, _ => none
  | fuel + 1, switches, cs =>
    (readName cs).bind fun (name, rest) =>
      (switches.enable name.text).bind fun switches =>
        (readSeparator ')' rest).bind fun (following, rest) =>
          match following with
          | .item => readSwitches fuel switches rest
          | .close => some (switches, rest)
          | .closeAfterTwo => none

/-- The headers at the start of a text that has no blanks before it. -/
def readHeaders : Nat → Switches → List Char → Option (Switches × List Char)
  | 0, _, _ => none
  | fuel + 1, switches, cs =>
    match cs with
    | '#' :: rest => do
      let rest ← (← skipBlank rest) |> expectChar '!'
      let rest ← expectChar '[' rest
      let rest ← (← dropStart? "enable".toList rest) |> skipBlank
      let rest ← expectChar '(' rest
      let (switches, rest) ← readSwitches fuel switches rest
      let rest ← (← skipBlank rest) |> expectChar ']'
      readHeaders fuel switches rest
    | cs => some (switches, cs)

/-- A RON text: the switches it turns on, and its value. -/
structure Source where
  switches : Switches
  tree : Ron
deriving Repr

/-- The reading of a text that is headers and one value with blanks around them. -/
def parse? (source : String) : Option Source := do
  let cs := source.toList
  let rest ← skipBlank cs
  let (switches, rest) ← readHeaders (cs.length + 1) Switches.off rest
  let (tree, rest) ← readValue switches (2 * cs.length + 2) nestingBudget rest
  if (← skipBlank rest).isEmpty then some ⟨switches, tree⟩ else none

end MaterialGraph.Ron
