import MaterialGraph.Decimal.Numeral
import MaterialGraph.Text.Basic
import MaterialGraph.Text.Letter
import MaterialGraph.Text.Pattern.Usable
import MaterialGraph.Text.Quoted

/-!
# Log events and filters

An event has a level, a target and a message. A filter is a list of directives, separated by commas:
a level for all targets, a target with a level, or a target alone for all levels. The directive with
the longest target at the start of an event's target decides, and of equal ones the last; without
one the event is not shown.

Behind its target a directive may name, in brackets, a span or a field that it asks for, and a value
or pattern for the field. There are no spans here, and the only field of an event is its message.
-/

namespace MaterialGraph

/-- How important an event is. -/
inductive LogLevel where
  | error
  | warn
  | info
  | debug
  | trace
deriving DecidableEq, Repr

namespace LogLevel

/-- The name of a level in a log. -/
def name : LogLevel → String
  | error => "ERROR"
  | warn => "WARN"
  | info => "INFO"
  | debug => "DEBUG"
  | trace => "TRACE"

/-- The number of a level; the more important, the smaller. -/
def rank : LogLevel → Nat
  | error => 1
  | warn => 2
  | info => 3
  | debug => 4
  | trace => 5

end LogLevel

/-- An event of a log. -/
structure LogEvent where
  level : LogLevel
  target : String
  message : String
deriving DecidableEq, Repr

/-- The control characters below the blank, and the delete character, that steer a terminal. -/
def steeringChars : List Char :=
  ['\x07', '\x08', '\x0c', '\x1b', '\x7f']

/-- A character of a message in a line; those that could steer a terminal are escaped. -/
def harmlessChar (c : Char) : List Char :=
  if steeringChars.contains c then '\\' :: 'x' :: hexPadded 2 c.toNat
  else if 0x80 ≤ c.toNat ∧ c.toNat ≤ 0x9f then codePointEscape c
  else [c]

/-- The line of an event. -/
def LogEvent.line (e : LogEvent) : String :=
  e.level.name ++ " " ++ e.target ++ ": " ++
    String.ofList (e.message.toList.flatMap harmlessChar)

/-- What a directive is for: all events, those with a field, or what happens in spans. -/
inductive LogScope where
  | events
  | field (name : List Char)
  | spans
deriving DecidableEq, Repr

/-- A directive: the target and scope it is for, and the largest rank that it shows. -/
structure LogDirective where
  target : List Char
  scope : LogScope
  limit : Nat
deriving DecidableEq, Repr

/-- A filter. -/
abbrev LogFilter := List LogDirective

/-- Why a filter cannot be used. -/
inductive LogFilterError where
  | badDirective
  | badField
  | badLevel
deriving DecidableEq, Repr

/-- The text of a filter error. -/
def LogFilterError.message : LogFilterError → String
  | badDirective => "invalid filter directive"
  | badField => "invalid field filter: error building NFA"
  | badLevel =>
    "error parsing level filter: expected one of \"off\", \"error\", \"warn\", \"info\", " ++
      "\"debug\", \"trace\", or a number 0-5"

namespace LogDirective

/-- The limits by name. -/
def limits : List (String × Nat) :=
  [("off", 0), ("error", 1), ("warn", 2), ("info", 3), ("debug", 4), ("trace", 5)]

/-- The limit that shows everything. -/
def everything : Nat := 5

/-- A limit that is given as a number, with or without a plus sign. -/
def numberedLimit? (level : List Char) : Option Nat :=
  let digits := (dropStart? ['+'] level).getD level
  if !digits.isEmpty && digits.all Char.isDigit && valueOfDigits digits ≤ everything then
    some (valueOfDigits digits)
  else none

/-- The limit of a level: a number, or a name in any case of its letters. -/
def limit? (level : List Char) : Option Nat :=
  numberedLimit? level <|> limits.lookup (String.ofList (level.map Char.toLower))

/-- Whether a directive may start with a character. -/
def mayStart (c : Char) : Bool :=
  isLetterOrNumber c || c == '-' || c == ':' || c == '_'

/-- The limit that a text behind an equals sign gives; none at all shows everything. -/
def limitOf (level : List Char) : Except LogFilterError Nat :=
  if level.isEmpty then .ok everything
  else match limit? level with
    | some limit => .ok limit
    | none => .error .badLevel

/-- The names of the numbers that are not finite. -/
def specialNumbers : List String :=
  ["inf", "infinity", "nan"]

/-- Whether a text is a number, with or without a sign. -/
def isNumber (cs : List Char) : Bool :=
  (Numeral.ofText? cs).isSome ||
    specialNumbers.contains (String.ofList ((readSign cs).2.map Char.toLower))

/-- The scope of a field, by whether its span has a name. The text behind the first equals sign, up
to the next, is a value; if it is no number it is a pattern. A field with a value is one of spans.
-/
def fieldScope (named : Bool) (field : List Char) : Except LogFilterError LogScope :=
  match splitAt '=' field with
  | _ :: value :: _ =>
    if isNumber value || Pattern.isUsable value then .ok .spans else .error .badField
  | _ => .ok (if named then .spans else .field field)

/-- The directive of a target and a scope that end at a place of the text, by what follows there. -/
def ofEnd (text target : List Char) (scope : LogScope) (place : Nat) :
    List Char → Except LogFilterError LogDirective
  | [] => .ok ⟨target, scope, everything⟩
  | '=' :: _ => (limitOf (text.drop (place + 1))).map fun limit => ⟨target, scope, limit⟩
  | _ => .error .badDirective

/-- A directive with a scope in brackets, from the place after the opening one on. -/
def ofScoped (text target : List Char) (place : Nat) (rest : List Char) :
    Except LogFilterError LogDirective :=
  match rest.span fun c => c != ']' && c != '\x7b' with
  | (name, ']' :: rest) => ofEnd text target .spans (place + name.length + 1) rest
  | (name, _ :: rest) =>
    match rest.span (· != '\x7d') with
    | ([], _) => .error .badDirective
    | (field, _ :: rest) =>
      let start := place + name.length + 1
      match fieldScope (!name.isEmpty) ((text.drop start).take field.length) with
      | .error e => .error e
      | .ok scope =>
        match rest with
        | ']' :: rest => ofEnd text target scope (start + field.length + 2) rest
        | _ => .error .badDirective
    | _ => .error .badDirective
  | _ => .error .badDirective

/-- The text without the blanks around it. -/
def trim (cs : List Char) : List Char :=
  ((cs.dropWhile isWhiteSpace).reverse.dropWhile isWhiteSpace).reverse

/-- Read a directive. Its parts are found in the text without the blanks around it, but cut out of
the text with them: behind blanks, every part begins and ends as many places too early. -/
def ofText (text : List Char) : Except LogFilterError LogDirective :=
  match trim text with
  | [] => .error .badDirective
  | '[' :: rest => ofScoped text [] 1 rest
  | c :: cs =>
    if mayStart c then
      match (c :: cs).span fun c => c != '=' && c != '[' with
      | (target, '=' :: rest) =>
        ofEnd text (text.take target.length) .events target.length ('=' :: rest)
      | (target, '[' :: rest) =>
        ofScoped text (text.take target.length) (target.length + 1) rest
      | _ =>
        match limit? text with
        | some limit => .ok ⟨[], .events, limit⟩
        | none => .ok ⟨text, .events, everything⟩
    else .error .badDirective

/-- The one field of an event. -/
def messageField : List Char :=
  "message".toList

/-- Whether a directive is for an event. -/
def concerns (d : LogDirective) (e : LogEvent) : Bool :=
  (dropStart? d.target e.target.toList).isSome &&
    match d.scope with
    | .events => true
    | .field name => name == messageField
    | .spans => false

/-- Whether a directive is at least as special as another one for the same event: by the length of
its target, then by its scope. -/
def atLeastAs (d other : LogDirective) : Bool :=
  other.target.length < d.target.length ||
    other.target.length == d.target.length && (d.scope != .events || other.scope == .events)

end LogDirective

namespace LogFilter

/-- Read directives. -/
def readAll : List (List Char) → Except LogFilterError LogFilter
  | [] => .ok []
  | text :: rest =>
    match LogDirective.ofText text with
    | .error e => .error e
    | .ok directive => (readAll rest).map (directive :: ·)

/-- Read a filter. Empty parts between commas are passed over, and a filter without directives shows
nothing. -/
def ofText (text : String) : Except LogFilterError LogFilter :=
  readAll ((splitAt ',' text.toList).filter fun part => !part.isEmpty)

/-- Of two directives for an event the more special one, or the second. -/
def better (chosen : Option LogDirective) (d : LogDirective) : Option LogDirective :=
  match chosen with
  | none => some d
  | some c => if d.atLeastAs c then some d else some c

/-- The directive that decides on an event. -/
def deciding? (filter : LogFilter) (e : LogEvent) : Option LogDirective :=
  (filter.filter (·.concerns e)).foldl better none

/-- Whether an event is shown. -/
def shows (filter : LogFilter) (e : LogEvent) : Bool :=
  (filter.deciding? e).any fun d => e.level.rank ≤ d.limit

end LogFilter

end MaterialGraph
