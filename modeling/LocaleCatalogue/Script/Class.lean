import LocaleCatalogue.Script.Type

/-!
# Functions and classes

The parts that function and class declarations share with function and class expressions.
-/

namespace LocaleCatalogue.Script

open LocaleCatalogue.Script.Parser

variable (g : Grammar)

/-- A method with its body. -/
def method : Parser Unit := do
  discard (many memberModifier)
  discard (propertyName g)
  discard (optional (symbol "?"))
  signature g .inside
  block g

/-- The end of a class member. -/
def classMemberEnd (ending : Ending) : Parser Unit := do
  if ← ahead (symbol "\x7d") then return ()
  discard (symbol ",") <|> discard (semicolon ending)

/-- A field of a class, or a method without a body. -/
def classField : Parser Unit := do
  discard (many memberModifier)
  discard (propertyName g)
  discard (optional (symbol "?" <|> symbol "!"))
  (do
    signature g .beforeBody
    classMemberEnd .beforeBody)
  <|> (do
    discard (optional (typeMark g .afterType))
    (do
      initializer g .afterExpression
      classMemberEnd .afterExpression)
    <|> classMemberEnd .afterType)

/-- A member of a class body. -/
def classMember : Parser Unit :=
  discard (symbol ";")
    <|> (do
      discard (keyword "static")
      block g)
    <|> (do
      discard (many (decorator g))
      method g
        <|> classField g
        <|> (do
          discard (optional (keyword "static"))
          bracketMember g
          classMemberEnd .afterType))

/-- What a class extends and implements. -/
def heritage : Parser Unit := do
  discard (optional do
    discard (keyword "extends")
    commaSeparated do
      discard (g.nested (.unary .inside))
      discard (optional (typeArguments g)))
  discard (optional do
    discard (keyword "implements")
    commaSeparated g.type)

/-- The name of a class, unless the word already belongs to what follows. -/
def className : Parser Unit := do
  match ← nextWord with
  | some "extends" => refuse
  | some "implements" => refuse
  | _ => discard name

/-- A class after its keyword and name. -/
def classRest : Parser Unit := do
  discard (optional (typeParameters g))
  heritage g
  inBraces (discard (many (classMember g)))

/-- A class, given what to read between its keyword and the rest. -/
def classWith (naming : Parser Unit) : Parser Unit := do
  discard (many (decorator g))
  discard (optional (keyword "abstract"))
  discard (keyword "class")
  naming
  classRest g

/-- A class expression, whose name may be missing. -/
def classExpression : Parser Piece := whole "class" true (classWith g (discard (optional className)))

/-- The beginning of a function: answers whether it is a generator and whether it has a name. -/
def functionHead : Parser (Bool × Bool) := do
  discard (optional (keyword "async"))
  discard (keyword "function")
  let star ← optional (symbol "*")
  let named ← optional name
  return (star.isSome, named.isSome)

end LocaleCatalogue.Script
