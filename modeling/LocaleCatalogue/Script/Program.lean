import LocaleCatalogue.Script.Markup
import LocaleCatalogue.Script.Module

/-!
# Programs

This module ties the productions together. Every nested goal is met after at least one character has
been read or a few goals further down, so a depth that grows with the length of the text suffices.
-/

namespace LocaleCatalogue.Script

open LocaleCatalogue.Script.Parser

/-- The production of a goal. -/
def production (g : Grammar) : Goal → Parser Piece
  | .expression ending => expressionText g ending
  | .unary ending => unary g ending
  | .constructed => constructed g
  | .property => objectProperty g
  | .type ending => whole "type" true (typeText g ending)
  | .typeOperand ending => whole "type" true (typeOperandText g ending)
  | .binding => binding g
  | .markup => markup g
  | .declaration => declaration g
  | .statement => statement g

/-- The parser of a goal, with at most `depth` goals inside each other. -/
def parseWithin (dialect : Dialect) : Nat → Goal → Parser Piece
  | 0, _ => refuse
  | depth + 1, goal => production ⟨dialect, parseWithin dialect depth⟩ goal

/-- The first line, when it names an interpreter. -/
def interpreterLine : Parser Unit := measured fun cs =>
  match cs with
  | '#' :: '!' :: rest => some (Lexeme.run (· ≠ '\n') rest + 2)
  | _ => none

/-- The statements of a program, the comments between them, and whether the text ends after them. -/
structure Outline where
  parts : List Tree
  complete : Bool
  stop : Nat

/-- Reads statements as long as they come. -/
def outline (dialect : Dialect) (depth : Nat) : Parser Outline := do
  discard (optional interpreterLine)
  let statements ← many (parseWithin dialect depth .statement)
  let trailing ← trivia
  return {
    parts := statements.flatMap (fun p => p.comments ++ [p.tree]) ++ trailing
    complete := (← upcoming).isEmpty
    stop := (← offset) }

/-- The outline of a whole text. -/
def outlineOf (dialect : Dialect) (text : List Char) : Outline :=
  match outline dialect (4 * (text.length + 1)) (.start text) with
  | some s => s.value
  | none => { parts := [], complete := false, stop := 0 }

end LocaleCatalogue.Script
