import LocaleCatalogue.Script.Semicolon

/-!
# Grammars and their goals

The constructs of the language contain each other. A production is an ordinary function on parsers
that receives a `Grammar`: the dialect, and a parser for every goal that it may meet inside itself.
The knot is tied once, in `LocaleCatalogue.Script.Program`.
-/

namespace LocaleCatalogue.Script

/-- The two dialects. They differ in what may follow a less-than sign at the beginning of an
expression: an asserted type, or a tag of markup. -/
inductive Dialect where
  | typescript
  | tsx
deriving DecidableEq, Repr

/-- The name of a dialect in messages. -/
def Dialect.name : Dialect → String
  | .typescript => "typescript"
  | .tsx => "tsx"

/-- What a construct may ask for inside itself. The ending of an expression or type says how the
statement around it may end. -/
inductive Goal where
  | expression (ending : Ending)
  | unary (ending : Ending)
  | constructed
  | property
  | type (ending : Ending)
  | typeOperand (ending : Ending)
  | binding
  | markup
  | declaration
  | statement
deriving DecidableEq

/-- A dialect and the parsers for nested goals. -/
structure Grammar where
  dialect : Dialect
  nested : Goal → Parser Piece

namespace Grammar

/-- A nested expression that no automatic semicolon can end. -/
def expression (g : Grammar) : Parser Piece := g.nested (.expression .inside)

/-- A nested type that no automatic semicolon can end. -/
def type (g : Grammar) : Parser Piece := g.nested (.type .inside)

/-- One or more expressions with commas between them. Two or more are one piece of their own. -/
def expressions (g : Grammar) (ending : Ending) : Parser Piece := do
  let first ← g.nested (.expression ending)
  let more ← Parser.many do
    if ← endsHere ending then Parser.refuse
    let comma ← symbol ","
    return [comma, ← g.nested (.expression ending)]
  match more with
  | [] => return first
  | _ => return .around "sequence_expression" first more.flatten

end Grammar

end LocaleCatalogue.Script
