import MaterialGraph.Text.Basic

/-!
# Modes of patterns

A pattern is a regular expression. Letters in a group at its start change how the rest is read: `i`
makes it blind to case, `u` lets it match characters instead of bytes, and `x` lets blanks and
comments stand between its parts. The other letters change what a pattern matches, but not whether
it can be used.
-/

namespace MaterialGraph.Pattern

/-- How the parts of a pattern are read. -/
structure Mode where
  caseless : Bool
  unicode : Bool
  verbose : Bool
deriving DecidableEq, Repr

namespace Mode

/-- The mode at the start of a pattern. -/
def start : Mode :=
  ⟨false, true, false⟩

/-- The mode with the flag of a letter turned on or off. -/
def change? (mode : Mode) (on : Bool) (letter : Char) : Option Mode :=
  if letter = 'i' then some { mode with caseless := on }
  else if letter = 'u' then some { mode with unicode := on }
  else if letter = 'x' then some { mode with verbose := on }
  else if ['m', 's', 'U', 'R'].contains letter then some mode
  else none

/-- The text after blanks and comments, from inside a comment or not. -/
def skipVerbose (inComment : Bool) : List Char → List Char
  | [] => []
  | c :: rest =>
    if inComment then skipVerbose (c != '\n') rest
    else if c = '#' then skipVerbose true rest
    else if isWhiteSpace c then skipVerbose false rest
    else c :: rest

/-- The text after what the mode ignores between parts. -/
def skip (mode : Mode) (cs : List Char) : List Char :=
  if mode.verbose then skipVerbose false cs else cs

end Mode

/-- What the letters of a group change: the new mode, whether there are any letters, and whether the
group ends with them. -/
structure ModeChange where
  mode : Mode
  isEmpty : Bool
  closes : Bool
deriving DecidableEq, Repr

/-- The letters of a group up to the colon before its content or its closing parenthesis, and the
text after that. Letters behind a minus sign turn their flags off. No letter and no sign may stand
twice, and the sign not at the end. -/
def readFlags (mode : Mode) (seen : List Char) : List Char → Option (ModeChange × List Char)
  | [] => none
  | c :: rest =>
    if c = ':' || c = ')' then
      if seen.head? = some '-' then none else some (⟨mode, seen.isEmpty, c = ')'⟩, rest)
    else if seen.contains c then none
    else if c = '-' then readFlags mode (c :: seen) rest
    else (mode.change? (!seen.contains '-') c).bind fun mode => readFlags mode (c :: seen) rest

end MaterialGraph.Pattern
