import LocaleCatalogue.Script.Pattern

/-!
# Types

Types are recognised and kept as one piece without parts, because they do not change the value that
they are written at.
-/

namespace LocaleCatalogue.Script

open LocaleCatalogue.Script.Parser

variable (g : Grammar)

/-- The parameters of a function type and the arrow after them. -/
def functionTypeHead : Parser Unit := do
  discard (optional (typeParameters g))
  parameters g
  discard (symbol "=>")

/-- A function type. -/
def functionType (ending : Ending) : Parser Unit := do
  functionTypeHead g
  discard (g.nested (.type ending))

/-- The type of a constructor. -/
def constructorType (ending : Ending) : Parser Unit := do
  discard (optional (keyword "abstract"))
  discard (keyword "new")
  functionType g ending

/-- A name with dots, and perhaps type arguments. -/
def typeReference : Parser Unit := do
  discard name
  discard (many do
    discard (symbol ".")
    discard (name <|> whole "name" true (measured Lexeme.privateName)))
  discard (optional (typeArguments g))

/-- The type of a module, and a name inside it. -/
def importType : Parser Unit := do
  discard (keyword "import")
  between "(" ")" (discard (commaSlots g.expression))
  discard (many do
    discard (symbol ".")
    discard name)
  discard (optional (typeArguments g))

/-- The type of a value. -/
def typeQuery : Parser Unit := do
  discard (keyword "typeof")
  importType g <|> do
    typeReference g
    discard (many
      ((do discard (symbol "?."); discard name)
        <|> between "[" "]" (discard (stringToken <|> numberToken))))

/-- An element of a tuple type: perhaps spread, labelled or optional. -/
def tupleElement : Parser Unit := do
  discard (optional (symbol "..."))
  discard (optional do
    discard name
    discard (optional (symbol "?"))
    discard (symbol ":"))
  discard g.type
  discard (optional (symbol "?"))

/-- A sign that adds or removes a modifier of a mapped type. -/
def mappedSign : Parser Unit := discard (optional (symbol "+" <|> symbol "-"))

/-- The bracket of a mapped type or of an index signature. -/
def memberBracket : Parser Unit := between "[" "]" do
  discard name
  (do
    discard (keyword "in")
    discard g.type
    discard (optional do
      discard (keyword "as")
      discard g.type))
  <|> (do
    discard (symbol ":")
    discard g.type)

/-- A member declared by a bracket. -/
def bracketMember : Parser Unit := do
  discard (optional do
    mappedSign
    discard (keyword "readonly"))
  memberBracket g
  mappedSign
  discard (optional (symbol "?"))
  discard (optional (typeMark g .afterType))

/-- Words that qualify a member when a member name follows. -/
def memberModifier : Parser Unit := do
  discard ((do
      discard (keywordAmong
        (modifierWords ++ ["static", "abstract", "declare", "async", "get", "set", "accessor"])))
    <|> discard (symbol "*"))
  let cs ← nextChars
  guard (match cs.head? with
    | some c => Lexeme.isWordPart c || c = '[' || c = '\\' || c = '\x22' || c = '\x27' || c = '#' || c = '*'
    | none => false)

/-- A property or method of an object type. -/
def namedMember : Parser Unit := do
  discard (many memberModifier)
  discard (propertyName g)
  discard (optional (symbol "?"))
  signature g .afterType <|> discard (optional (typeMark g .afterType))

/-- A member of an object type. -/
def typeMember : Parser Unit :=
  bracketMember g
    <|> signature g .afterType
    <|> (do
      discard (optional (keyword "abstract"))
      discard (keyword "new")
      signature g .afterType)
    <|> namedMember g

/-- The end of a member: a comma, a semicolon, an automatic one, or the closing brace ahead. -/
def memberEnd : Parser Unit := do
  if ← ahead (symbol "\x7d") then return ()
  discard (symbol ",") <|> discard (semicolon .afterType)

/-- An object type, in braces. -/
def objectType : Parser Unit := inBraces do
  discard (optional (symbol "," <|> symbol ";"))
  discard (many do
    typeMember g
    memberEnd)

/-- A type that is not an operator applied to types: a reference, a literal, or something in
brackets. -/
def typeAtom (ending : Ending) : Parser Unit := do
  match ← nextChars with
  | '(' :: _ =>
    functionType g ending <|> between "(" ")" (discard g.type)
  | '<' :: _ => functionType g ending
  | '[' :: _ => between "[" "]" (discard (optional (commaSeparated (tupleElement g))))
  | '\x7b' :: _ => objectType g
  | '\x22' :: _ => discard stringToken
  | '\x27' :: _ => discard stringToken
  | '\x60' :: _ => discard (whole "template" true (template (discard g.type)))
  | '-' :: _ =>
    discard (symbol "-")
    discard numberToken
  | '+' :: _ =>
    discard (symbol "+")
    discard numberToken
  | '*' :: _ => discard (symbol "*")
  | '?' :: _ =>
    discard (symbol "?")
    discard (g.nested (.typeOperand ending))
  | '.' :: _ => discard numberToken
  | c :: _ =>
    if c.isDigit then discard numberToken
    else
      match ← nextWord with
      | some "new" => constructorType g ending
      | some "abstract" => constructorType g ending <|> typeReference g
      | some "typeof" => typeQuery g
      | some "import" => importType g
      | some _ => typeReference g
      | none => refuse
  | [] => refuse

/-- An array or lookup bracket after a type. -/
def typeSuffix (ending : Ending) : Parser Unit := do
  if ← endsHere ending then refuse
  between "[" "]" (discard (optional g.type))

/-- A type operator's word with an operand after it. -/
def typeOperator (ending : Ending) : Parser Unit := do
  match ← nextWord with
  | some "infer" =>
    discard (keyword "infer")
    discard name
    discard (optional do
      discard (keyword "extends")
      discard (g.nested (.typeOperand ending)))
  | some "asserts" =>
    discard (keyword "asserts")
    discard name
    discard (optional do
      discard (keyword "is")
      discard (g.nested (.type ending)))
  | some _ =>
    discard (keywordAmong ["keyof", "readonly", "unique"])
    discard (g.nested (.typeOperand ending))
  | none => refuse

/-- A predicate on a parameter. -/
def typePredicate (ending : Ending) : Parser Unit := do
  discard name
  if ← endsHere ending then refuse
  discard (keyword "is")
  discard (g.nested (.type ending))

/-- An operand of a union or intersection. -/
def typeOperandText (ending : Ending) : Parser Unit :=
  typeOperator g ending
    <|> typePredicate g ending
    <|> (do
      typeAtom g ending
      discard (many (typeSuffix g ending)))

/-- A vertical bar or an ampersand between types. -/
def typeConnective : Parser Unit :=
  discard (symbolUnless "|" ['|', '=']) <|> discard (symbolUnless "&" ['&', '='])

/-- A type: operands with connectives between them, perhaps the condition of a conditional type. -/
def typeText (ending : Ending) : Parser Unit := do
  discard (optional typeConnective)
  typeOperandText g ending
  discard (many do
    if ← endsHere ending then refuse
    typeConnective
    typeOperandText g ending)
  discard (optional do
    if ← endsHere ending then refuse
    discard (keyword "extends")
    discard g.type
    discard (symbol "?")
    discard g.type
    discard (symbol ":")
    discard (g.nested (.type ending)))

end LocaleCatalogue.Script
