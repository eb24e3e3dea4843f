import MaterialGraph.Text.Basic
import MaterialGraph.Text.Escaped

/-!
# Quoted text

Text in double quotes, in which every character can be told apart on a screen: quotes, backslashes
and the usual control characters have escapes of two characters, and other characters that are not
shown plainly are escaped by their code point in hexadecimal.
-/

namespace MaterialGraph

/-- Whether the apostrophe is escaped, too. -/
inductive Apostrophe where
  | escaped
  | plain
deriving DecidableEq, Repr

/-- The escape of a character by its code point. -/
def codePointEscape (c : Char) : List Char :=
  "\\u\x7b".toList ++ hexDigits c.toNat ++ ['\x7d']

/-- A character as it stands in quoted text. -/
def quotedChar (apostrophe : Apostrophe) (c : Char) : List Char :=
  if c = '\x00' then ['\\', '0']
  else if c = '\t' then ['\\', 't']
  else if c = '\r' then ['\\', 'r']
  else if c = '\n' then ['\\', 'n']
  else if c = '"' then ['\\', '"']
  else if c = '\\' then ['\\', '\\']
  else if c = '\'' && apostrophe == .escaped then ['\\', '\'']
  else if shownPlainly c then [c]
  else codePointEscape c

/-- A text in double quotes. -/
def quoted (apostrophe : Apostrophe) (s : String) : List Char :=
  '"' :: s.toList.flatMap (quotedChar apostrophe) ++ ['"']

/-- A text as it is quoted in messages, where an apostrophe stays as it is. -/
def quotedInMessage (s : String) : String :=
  String.ofList (quoted .plain s)

end MaterialGraph
