import LocaleCatalogue.Script.Grammar

/-!
# Bindings and parameters

What may stand on the binding side: names, object and array patterns, and parameter lists with their
types and default values. These are recognised only; nothing looks inside them.
-/

namespace LocaleCatalogue.Script

open LocaleCatalogue.Script.Parser

variable (g : Grammar)

/-- An equals sign, which no longer operator shares. -/
def equalsSign : Parser Piece := symbolUnless "=" ['=', '>']

/-- A default or initial value. -/
def initializer (ending : Ending) : Parser Unit := do
  discard equalsSign
  discard (g.nested (.expression ending))

/-- A colon and a type. -/
def typeMark (ending : Ending) : Parser Unit := do
  discard (symbol ":")
  discard (g.nested (.type ending))

/-- A name in brackets that is computed. -/
def computedName : Parser Piece :=
  whole "computed_property_name" true (between "[" "]" (discard g.expression))

/-- The name of a property: any word, a private name, a string, a number or a computed name. -/
def propertyName : Parser Piece :=
  wordAs "property_identifier"
    <|> stringToken
    <|> numberToken
    <|> computedName g
    <|> whole "private_property_identifier" true (measured Lexeme.privateName)

/-- An element of an object pattern. -/
def objectPatternElement : Parser Unit :=
  (do
    discard (symbol "...")
    discard (g.nested .binding))
  <|> (do
    discard (propertyName g)
    discard (symbol ":")
    discard (g.nested .binding)
    discard (optional (initializer g .inside)))
  <|> (do
    discard name
    discard (optional (initializer g .inside)))

/-- An element of an array pattern. -/
def arrayPatternElement : Parser Unit := do
  discard (optional (symbol "..."))
  discard (g.nested .binding)
  discard (optional (initializer g .inside))

/-- A pattern in brackets or braces. -/
def destructuring : Parser Piece :=
  whole "object_pattern" true
      (inBraces (discard (commaSlots (whole "element" true (objectPatternElement g)))))
    <|> whole "array_pattern" true
      (between "[" "]" (discard (commaSlots (whole "element" true (arrayPatternElement g)))))

/-- A name or a pattern. -/
def binding : Parser Piece := destructuring g <|> name

/-- A decorator: a name with its members and calls, or an expression in parentheses. -/
def decorator : Parser Unit := do
  discard (symbol "@")
  discard (whole "decorator" true (between "(" ")" (discard g.expression)) <|> name)
  discard (many
    ((do discard (symbol "."); discard name)
      <|> between "(" ")" (discard (commaSlots (g.expression)))))

/-- Words that qualify a parameter or a member when something to qualify follows. -/
def modifierWords : List String := ["public", "private", "protected", "override", "readonly"]

/-- A modifier with the thing it qualifies still ahead. -/
def parameterModifier : Parser Unit := do
  discard (keywordAmong modifierWords)
  let cs ← nextChars
  guard (match cs.head? with
    | some c => Lexeme.isWordPart c || c = '\x7b' || c = '[' || c = '\\'
    | none => false)

/-- One parameter. -/
def parameter : Parser Unit := do
  discard (many (decorator g))
  discard (many parameterModifier)
  discard (optional (symbol "..."))
  discard (g.nested .binding)
  discard (optional (symbol "?"))
  discard (optional (typeMark g .inside))
  discard (optional (initializer g .inside))

/-- A parameter list in parentheses. -/
def parameters : Parser Unit := between "(" ")" (discard (optional (commaSeparated (parameter g))))

/-- One type parameter, with its bound and default. -/
def typeParameter : Parser Unit := do
  discard (many do
    discard (keywordAmong ["const", "in", "out"])
    guard (← nextWord).isSome)
  discard name
  discard (optional do
    discard (keyword "extends")
    discard g.type)
  discard (optional do
    discard equalsSign
    discard g.type)

/-- Type parameters in angle brackets. -/
def typeParameters : Parser Unit := between "<" ">" (commaSeparated (typeParameter g))

/-- Type arguments in angle brackets, as one piece. -/
def typeArguments : Parser Piece :=
  whole "type_arguments" true (between "<" ">" (discard (commaSeparated g.type)))

/-- What a function is called with and what it gives back: type parameters, parameters, result type.
-/
def signature (ending : Ending) : Parser Unit := do
  discard (optional (typeParameters g))
  parameters g
  discard (optional (typeMark g ending))

/-- Statements in braces. -/
def block : Parser Unit := inBraces (discard (many (g.nested .statement)))

/-- A template: text, escapes and substitutions between backquotes. -/
def template (substituted : Parser Unit) : Parser Unit := do
  measured (Lexeme.spelling ['\x60'])
  discard (many
    ((measured fun cs => match Lexeme.templateText cs with
        | 0 => none
        | n => some n)
      <|> measured Lexeme.escape
      <|> (do
        measured (Lexeme.spelling ['$', '\x7b'])
        substituted
        discard (symbol "\x7d"))))
  measured (Lexeme.spelling ['\x60'])

end LocaleCatalogue.Script
