import LocaleCatalogue.Script.Expression

/-!
# Markup in expressions

Tags with attributes, text, character references and expressions in braces. Markup is recognised as
one piece; it only matters whether it is an element or a tag that closes itself.
-/

namespace LocaleCatalogue.Script

open LocaleCatalogue.Script.Parser

variable (g : Grammar)

/-- A name that may hold hyphens. -/
def tagWord : Parser Unit := do
  discard name
  discard (many (measured fun cs =>
    match cs with
    | '-' :: rest => some (Lexeme.run (fun c => Lexeme.isWordPart c || c = '-') rest + 1)
    | _ => none))

/-- The name of a tag: a word, members after dots, or a name in a name space. -/
def tagName : Parser Unit := do
  tagWord
  discard (many do
    discard (symbol "." <|> symbol ":")
    tagWord)

/-- Characters of an attribute string. -/
def attributeText (quote : Char) : List Char → Option Nat
  | '&' :: c :: _ => if c ≠ '#' && !c.isAlpha && c ≠ quote then some 2 else none
  | c :: _ => if c ≠ quote && c ≠ '&' then some 1 else none
  | [] => none

/-- An attribute string in the given quotes. Escapes mean nothing in it. -/
def attributeString (quote : Char) : Parser Unit := do
  discard (symbol quote.toString)
  discard (many (measured (attributeText quote) <|> measured Lexeme.characterReference))
  measured (Lexeme.spelling [quote])

/-- Something in braces inside markup; it may be empty. -/
def markupExpression : Parser Unit :=
  inBraces (discard (optional (spreadElement g <|> g.expressions .inside)))

/-- An attribute: a name with or without a value, or something in braces. -/
def tagAttribute : Parser Unit :=
  markupExpression g
    <|> (do
      tagWord
      discard (optional do
        discard (symbol ":")
        tagWord)
      discard (optional do
        discard (symbol "=")
        attributeString '\x22' <|> attributeString '\x27' <|> markupExpression g
          <|> discard (g.nested .markup)))

/-- The end of an opening tag. Answers whether the tag closes itself. -/
def tagEnd : Parser Bool :=
  (do
    discard (symbol "/>")
    return true)
  <|> (do
    discard (symbol ">")
    return false)

/-- What stands between the tags of an element. -/
def markupChild : Parser Unit :=
  measured Lexeme.markupText
    <|> (do
      discard (optional blanks)
      measured Lexeme.characterReference)
    <|> markupExpression g
    <|> (do
      guard (match ← nextChars with
        | '<' :: '/' :: _ => false
        | _ => true)
      discard (g.nested .markup))

/-- An element with its children and closing tag, or a tag that closes itself. Answers which. -/
def markupText : Parser Bool := do
  discard (symbol "<")
  discard (optional do
    tagName
    discard (optional (typeArguments g))
    discard (many (tagAttribute g)))
  if ← tagEnd then return true
  discard (many (markupChild g))
  discard (symbol "<")
  discard (symbol "/")
  discard (optional tagName)
  discard (symbol ">")
  return false

/-- Markup, as one piece. -/
def markup : Parser Piece := do
  let comments ← trivia
  let start ← offset
  let closed ← markupText g
  return {
    comments
    tree := {
      kind := if closed then "jsx_self_closing_element" else "jsx_element"
      named := true, role := none, start, stop := (← offset), parts := [] } }

end LocaleCatalogue.Script
