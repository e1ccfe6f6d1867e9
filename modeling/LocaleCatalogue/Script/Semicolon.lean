import LocaleCatalogue.Script.Token

/-!
# Automatic semicolons

A statement may end without a semicolon before a line end, before a closing brace and at the end of
the text. Whether a line end counts depends on the character after it: one that can only go on with
the statement keeps it open. In a statement that can end here an automatic semicolon wins over any
way to go on, so operators have to ask first.
-/

namespace LocaleCatalogue.Script

open LocaleCatalogue.Script.Parser

/-- Where a statement may end: never inside brackets; elsewhere after an expression or after a type.
-/
inductive Ending where
  | inside
  | afterExpression
  | afterType
  | beforeBody
deriving DecidableEq

namespace Semicolon

/-- White space by the locale's classification, which leaves out the no-break spaces. -/
def isSpace (c : Char) : Bool :=
  let n := c.toNat
  (0x09 ≤ n && n ≤ 0x0D) || n = 0x20 || n = 0x1680 || (0x2000 ≤ n && n ≤ 0x2006)
    || (0x2008 ≤ n && n ≤ 0x200A) || n = 0x2028 || n = 0x2029 || n = 0x205F || n = 0x3000

/-- The text after white space and comments, by a scan that knows only line feeds and the two
Unicode line ends; `none` before a slash that opens no comment. -/
def afterSpaceAndComments : List Char → Option (List Char)
  | '/' :: '/' :: cs => lineRest cs
  | '/' :: '*' :: cs => blockRest cs
  | '/' :: _ => none
  | c :: cs => if isSpace c then afterSpaceAndComments cs else some (c :: cs)
  | [] => some []
where
  /-- After the rest of a line comment. -/
  lineRest : List Char → Option (List Char)
    | [] => some []
    | c :: cs =>
      if c = '\n' || c = '\u2028' || c = '\u2029' then afterSpaceAndComments cs else lineRest cs
  /-- After the rest of a block comment. -/
  blockRest : List Char → Option (List Char)
    | [] => some []
    | '*' :: '/' :: cs => afterSpaceAndComments cs
    | _ :: cs => blockRest cs

/-- Whether a line that begins with these characters leaves the line before it complete. -/
def startsAfresh (ending : Ending) : List Char → Bool
  | [] => true
  | c :: cs =>
    if ['\x60', ',', '.', ';', '*', '%', '>', '<', '=', '?', '^', '|', '&', '/', ':'].contains c then false
    else if c = '\x7b' then ending ≠ .beforeBody
    else if c = '(' || c = '[' then ending ≠ .afterExpression
    else if c = '+' then cs.head? = some '+'
    else if c = '-' then cs.head? = some '-'
    else if c = '!' then cs.head? ≠ some '='
    else if c = 'i' then !continuesWithOperator cs
    else true
where
  /-- After an `i`: the rest of `in` or of `instanceof`, as far as the scan looks. -/
  continuesWithOperator : List Char → Bool
    | 'n' :: cs =>
      match cs with
      | [] => true
      | c :: _ =>
        if !c.isAlpha && c.toNat < 0x80 then true
        else if "stanceof".toList.isPrefixOf cs then
          match cs.drop 8 with
          | [] => true
          | d :: _ => !d.isAlpha && d.toNat < 0x80
        else false
    | _ => false

/-- Whether an automatic semicolon stands exactly here. -/
def here (ending : Ending) : List Char → Bool
  | [] => true
  | '\x7d' :: cs =>
    match (cs.dropWhile isSpace).head? with
    | some ':' => ending = .afterExpression
    | _ => true
  | '\n' :: cs =>
    match afterSpaceAndComments cs with
    | some rest => startsAfresh ending rest
    | none => false
  | c :: cs => if isSpace c then here ending cs else false

end Semicolon

/-- An automatic semicolon, here or after one of the comments that follow. -/
def automaticSemicolon (ending : Ending) : Parser Unit :=
  match ending with
  | .inside => refuse
  | ending =>
    let standsHere : Parser Unit := do guard (Semicolon.here ending (← upcoming))
    standsHere <|> do
      discard (many do
        guard (!Semicolon.here ending (← upcoming))
        discard (optional blanks)
        commentTree)
      standsHere

/-- Whether the statement ends here by itself. -/
def endsHere (ending : Ending) : Parser Bool := ahead (automaticSemicolon ending)

/-- The end of a statement: a semicolon, or an automatic one. -/
def semicolon (ending : Ending) : Parser (List Piece) :=
  (do automaticSemicolon ending; return []) <|> pieces1
where
  /-- A written semicolon. -/
  pieces1 : Parser (List Piece) := do return [← symbol ";"]

end LocaleCatalogue.Script
