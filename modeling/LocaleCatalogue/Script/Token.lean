import LocaleCatalogue.Script.Parser
import LocaleCatalogue.Script.Tree
import LocaleCatalogue.Script.Lexeme

/-!
# Tokens

A token is read together with the blanks and comments before it. The token parsers answer with a
piece: the tree of the token and those comments. Words are read as they are; whether a word is a
keyword is decided by the construct that expects it, so that a word without a special meaning at its
place is a name.
-/

namespace LocaleCatalogue.Script

open LocaleCatalogue.Script.Parser

/-- One comment, as a tree. -/
def commentTree : Parser Tree := do
  let start ← offset
  measured Lexeme.comment
  return { kind := "comment", named := true, role := none, start, stop := (← offset), parts := [] }

/-- Skips blanks; refuses if there are none. -/
def blanks : Parser Unit := measured fun cs =>
  match Lexeme.run Lexeme.isBlank cs with
  | 0 => none
  | n => some n

/-- Skips blanks and reads the comments between them. -/
def trivia : Parser (List Tree) := do
  let _ ← optional blanks
  many do
    let t ← commentTree
    let _ ← optional blanks
    return t

/-- What a parser reads after blanks and comments, as a single tree without parts. -/
def whole (kind : String) (named : Bool) (p : Parser Unit) : Parser Piece := do
  let comments ← trivia
  let start ← offset
  p
  return { comments, tree := { kind, named, role := none, start, stop := (← offset), parts := [] } }

/-- A token of a fixed spelling, whatever follows it. -/
def symbol (s : String) : Parser Piece := whole s false (measured (Lexeme.spelling s.toList))

/-- A token of a fixed spelling that is not continued by one of the given characters. -/
def symbolUnless (s : String) (continued : List Char) : Parser Piece :=
  whole s false do
    measured (Lexeme.spelling s.toList)
    guard (match (← upcoming).head? with
      | some c => !continued.contains c
      | none => true)

/-- The word that comes next, if one does. -/
def nextWord : Parser (Option String) := do
  let here ← lookahead do
    let _ ← trivia
    let cs ← upcoming
    match Lexeme.word cs with
    | some n => return String.ofList (cs.take n)
    | none => refuse
  return here

/-- The characters after blanks and comments; reads nothing. -/
def nextChars : Parser (List Char) := do
  let here ← lookahead do
    let _ ← trivia
    upcoming
  return here.getD []

/-- A given word, as an unnamed token. -/
def keyword (w : String) : Parser Piece :=
  whole w false do
    let cs ← upcoming
    match Lexeme.word cs with
    | some n =>
      guard (cs.take n = w.toList)
      skip n
    | none => refuse

/-- One of the given words, as an unnamed token. -/
def keywordAmong (words : List String) : Parser Piece := do
  match ← nextWord with
  | some w => if words.contains w then keyword w else refuse
  | none => refuse

/-- Any word, as a tree of the given kind. -/
def wordAs (kind : String) : Parser Piece := whole kind true (measured Lexeme.word)

/-- A name: any word. -/
def name : Parser Piece := wordAs "identifier"

/-- A number. -/
def numberToken : Parser Piece := whole "number" true (measured Lexeme.number)

/-- One part of a quoted string: a stretch of plain characters or an escape. -/
def stringPart (quote : Char) : Parser Piece := do
  let start ← offset
  let kind ←
    ((do measured (Lexeme.fragment quote); return "string_fragment")
      <|> (do measured Lexeme.escape; return "escape_sequence"))
  return {
    comments := []
    tree := { kind, named := true, role := none, start, stop := (← offset), parts := [] } }

/-- A string in the given quotes. Its parts are the quotes, stretches of plain characters and
escapes. -/
def stringIn (quote : Char) : Parser Piece := do
  let opening ← symbol quote.toString
  let parts ← many (stringPart quote)
  let closing ← symbol quote.toString
  return .around "string" opening (parts ++ [closing])

/-- A string in double or single quotes. -/
def stringToken : Parser Piece := stringIn '\x22' <|> stringIn '\x27'

/-- What a parser reads if it comes next; nothing otherwise. -/
def pieces (p : Parser Piece) : Parser (List Piece) := do
  match ← optional p with
  | some t => return [t]
  | none => return []

/-- Items with commas between them; an item may be missing before a comma or at the end. -/
def commaSlots (item : Parser Piece) : Parser (List Piece) := do
  let first ← pieces item
  let more ← many do
    let comma ← symbol ","
    return comma :: (← pieces item)
  return first ++ more.flatten

/-- Reads a list without keeping it. -/
def discard {α : Type} (p : Parser α) : Parser Unit := do
  let _ ← p
  return ()

/-- At least one item, with commas between them and perhaps one at the end. -/
def commaSeparated {α : Type} (item : Parser α) : Parser Unit := do
  discard item
  discard (many do
    discard (symbol ",")
    discard item)
  discard (optional (symbol ","))

/-- Something between two symbols. -/
def between {α : Type} (opening closing : String) (p : Parser α) : Parser α := do
  discard (symbol opening)
  let a ← p
  discard (symbol closing)
  return a

/-- Something between braces. -/
def inBraces {α : Type} (p : Parser α) : Parser α := between "\x7b" "\x7d" p

end LocaleCatalogue.Script
