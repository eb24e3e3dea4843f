import MaterialGraph.Ron.Lexeme

/-!
# A glance ahead in RON

Where the parentheses of an option may also be those of the body that it holds, a glance ahead
decides between one value and several. It counts brackets up to the comma or the end of the first
value. Blanks, comments and literals are passed over, but only one literal of each sort at a time
and none right behind another: what follows a literal is looked at as a single character. So a
comment right behind a literal, and a byte literal that is no character, can lead the glance astray.
-/

namespace MaterialGraph.Ron

/-- The text after a literal, or all of it where there is none; nothing where one is not closed. -/
def passLiteral (read : List Char → Except LiteralFault (List Char)) (cs : List Char) :
    Option (List Char) :=
  match read cs with
  | .ok rest => some rest
  | .error .malformed => some cs
  | .error .unclosed => none

/-- The text after blanks and the literals that stand behind them. -/
def passLiterals (fuel : Nat) (cs : List Char) : Option (List Char) :=
  (skipBlank cs).bind fun cs =>
    (passLiteral (fun cs => (readText fuel cs).map Prod.snd) ((skipChar cs).getD cs)).bind
      (passLiteral (skipByteString fuel))

namespace Outlook

/-- The outlook behind the first comma: that comma may be a trailing one. -/
def afterComma (rest : List Char) : Outlook :=
  match skipBlank rest with
  | some (')' :: _) => .single
  | some _ => .several
  | none => .unclear

/-- The outlook from inside a number of brackets. -/
def within : Nat → Nat → List Char → Outlook
  | 0, _, _ => .unclear
  | fuel + 1, depth, cs =>
    match passLiterals fuel cs with
    | some (c :: rest) =>
      if ['(', '[', '\x7b'].contains c then within fuel (depth + 1) rest
      else if [')', ']', '\x7d'].contains c then
        match depth with
        | 0 => .single
        | depth + 1 => within fuel depth rest
      else if c = ',' && depth = 0 then afterComma rest
      else within fuel depth rest
    | _ => .unclear

/-- The outlook on the content of an option, from its first character on. More fuel than the text
has characters is enough. -/
def ofContent (fuel : Nat) (cs : List Char) : Outlook :=
  match readName cs with
  | none => within fuel 0 cs
  | some (_, rest) =>
    match skipBlank rest with
    | some (',' :: rest) => afterComma rest
    | some rest => within fuel 0 rest
    | none => .unclear

end Outlook

end MaterialGraph.Ron
