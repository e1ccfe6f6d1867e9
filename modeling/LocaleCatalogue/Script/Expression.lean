import LocaleCatalogue.Script.Class

/-!
# Expressions

Object literals, parentheses and the three wrappers that assert a type keep their parts; other
expressions keep their kind and the expression that they begin with. Binary operators need no levels
of their own for that: whichever way they associate, the whole is a binary expression. Asserting a
type binds weakest of them.
-/

namespace LocaleCatalogue.Script

open LocaleCatalogue.Script.Parser

variable (g : Grammar)

/-- An element to spread. -/
def spreadElement : Parser Piece := do
  let dots ← symbol "..."
  let spread ← g.expression
  return .around "spread_element" dots [spread]

/-- A property with a value of its own. -/
def pairProperty : Parser Piece := do
  let key ← propertyName g
  let colon ← symbol ":"
  let value ← g.expression
  return .around "pair" (key.under "key") [colon, value.under "value"]

/-- A property of an object literal. -/
def objectProperty : Parser Piece :=
  pairProperty g
    <|> spreadElement g
    <|> whole "method_definition" true (method g)
    <|> wordAs "shorthand_property_identifier"

/-- An object literal. Slots between commas may be empty. -/
def objectLiteral : Parser Piece := do
  let opening ← symbol "\x7b"
  let properties ← commaSlots (objectProperty g)
  let closing ← symbol "\x7d"
  return .around "object" opening (properties ++ [closing])

/-- An array literal. -/
def arrayLiteral : Parser Piece :=
  whole "array" true (between "[" "]" (discard (commaSlots (spreadElement g <|> g.expression))))

/-- The arguments of a call. -/
def callArguments : Parser Piece :=
  whole "arguments" true (between "(" ")" (discard (commaSlots (spreadElement g <|> g.expression))))

/-- A template with expressions in it. -/
def templateString : Parser Piece :=
  whole "template_string" true (template (discard (g.expressions .inside)))

/-- An expression in parentheses, perhaps with a type. -/
def parenthesized : Parser Piece := do
  let opening ← symbol "("
  let inner ← g.expressions .inside
  let annotation ← pieces (whole "type_annotation" true (typeMark g .inside))
  let closing ← symbol ")"
  return .around "parenthesized_expression" opening (inner :: annotation ++ [closing])

/-- The body of an arrow function. -/
def arrowBody (ending : Ending) : Parser Unit := do
  if ← ahead (symbol "\x7b") then block g
  else discard (g.nested (.expression ending))

/-- An arrow function with a parameter list. -/
def arrowFunction (ending : Ending) : Parser Piece :=
  whole "arrow_function" true do
    discard (optional (keyword "async"))
    signature g .inside
    discard (symbol "=>")
    arrowBody g ending

/-- An arrow function with a single bare parameter. -/
def bareArrowFunction (ending : Ending) : Parser Piece :=
  whole "arrow_function" true do
    discard (optional do
      discard (keyword "async")
      guard (← nextWord).isSome)
    discard name
    discard (symbol "=>")
    arrowBody g ending

/-- A function expression. -/
def functionExpression : Parser Piece := do
  let generator ← lookahead (functionHead)
  whole (if (generator.getD (false, false)).1 then "generator_function" else "function_expression") true do
    discard functionHead
    signature g .inside
    block g

/-- An expression built by `new`. -/
def newExpression : Parser Piece := do
  let word ← keyword "new"
  let target ←
    (do
      let dot ← symbol "."
      let target ← name
      return ("meta_property", [dot, target]))
    <|> (do
      let constructor ← g.nested .constructed
      let arguments ← pieces do
        discard (optional (typeArguments g))
        callArguments g
      return ("new_expression", constructor :: arguments))
  return .around target.1 word target.2

/-- The keyword of imports inside an expression: a call, or its one property. -/
def importExpression : Parser Piece := do
  let word ← keyword "import"
  (do
    let dot ← symbol "."
    let property ← name
    return .around "meta_property" word [dot, property])
  <|> (do
    let arguments ← callArguments g
    return .around "call_expression" word [arguments])

/-- An expression that begins with a word. -/
def wordExpression (ending : Ending) (w : String) : Parser Piece :=
  match w with
  | "function" => functionExpression g
  | "class" => classExpression g
  | "new" => newExpression g <|> name
  | "import" => importExpression g
  | "async" =>
    bareArrowFunction g ending <|> arrowFunction g ending <|> functionExpression g <|> name
  | "this" => wordAs "this"
  | "super" => wordAs "super"
  | "true" => wordAs "true"
  | "false" => wordAs "false"
  | "null" => wordAs "null"
  | "undefined" => wordAs "undefined"
  | _ => bareArrowFunction g ending <|> name

/-- An expression that no operator takes apart. -/
def primary (ending : Ending) : Parser Piece := do
  match ← nextChars with
  | '(' :: _ => arrowFunction g ending <|> parenthesized g
  | '\x7b' :: _ => objectLiteral g <|> destructuring g
  | '[' :: _ => arrayLiteral g <|> destructuring g
  | '\x22' :: _ => stringToken
  | '\x27' :: _ => stringToken
  | '\x60' :: _ => templateString g
  | '/' :: _ => whole "regex" true (measured Lexeme.regex)
  | '#' :: _ => whole "private_property_identifier" true (measured Lexeme.privateName)
  | '@' :: _ => classExpression g
  | '.' :: _ => numberToken
  | c :: _ =>
    if c.isDigit then numberToken
    else
      match ← nextWord with
      | some w => wordExpression g ending w
      | none => refuse
  | [] => refuse

/-- The name after a dot. -/
def memberName : Parser Piece :=
  wordAs "property_identifier" <|> whole "private_property_identifier" true (measured Lexeme.privateName)

/-- A subscript in brackets. -/
def subscript : Parser Piece := whole "subscript" true (between "[" "]" (discard (g.expressions .inside)))

/-- A member access on an expression. -/
def memberSuffix (e : Piece) : Parser Piece := do
  match ← nextChars with
  | '.' :: '.' :: _ => refuse
  | '.' :: _ =>
    let dot ← symbol "."
    return .around "member_expression" e [dot, ← memberName]
  | '[' :: _ => return .around "subscript_expression" e [← subscript g]
  | '!' :: '=' :: _ => refuse
  | '!' :: _ => return .around "non_null_expression" e [← symbol "!"]
  | _ => refuse

/-- An optional access or call on an expression. -/
def optionalSuffix (e : Piece) : Parser Piece := do
  let chain ← symbolUnless "?." ['0', '1', '2', '3', '4', '5', '6', '7', '8', '9']
  (do return .around "subscript_expression" e [chain, ← subscript g])
  <|> (do return .around "member_expression" e [chain, ← memberName])
  <|> (do
    discard (optional (typeArguments g))
    return .around "call_expression" e [chain, ← callArguments g])

/-- A call of an expression, or a template that it tags. -/
def callSuffix (e : Piece) : Parser Piece := do
  match ← nextChars with
  | '(' :: _ => return .around "call_expression" e [← callArguments g]
  | '\x60' :: _ => return .around "call_expression" e [← templateString g]
  | '<' :: _ =>
    let types ← typeArguments g
    return .around "call_expression" e [types, ← callArguments g <|> templateString g]
  | _ => refuse

/-- What `new` builds from: an expression with member accesses but without calls. -/
def constructed : Parser Piece := do
  let first ← primary g .inside
  extend (fun e => do
    match ← nextChars with
    | '!' :: _ => refuse
    | _ => memberSuffix g e) first

/-- An expression with accesses and calls after it. -/
def accessed (ending : Ending) : Parser Piece := do
  let first ← primary g ending
  extend (fun e => do
    if ← endsHere ending then refuse
    memberSuffix g e <|> optionalSuffix g e <|> callSuffix g e) first

/-- Two plus or two minus signs. -/
def stepSign : Parser Piece := symbol "++" <|> symbol "--"

/-- An expression with accesses, perhaps counted up or down. -/
def counted (ending : Ending) : Parser Piece := do
  let e ← accessed g ending
  let sign ← pieces do
    if ← endsHere ending then refuse
    stepSign
  match sign with
  | [] => return e
  | _ => return .around "update_expression" e sign

/-- An operator before its operand, given the operator. -/
def applied (kind : String) (ending : Ending) (operator : Parser Piece) : Parser Piece := do
  let first ← operator
  return .around kind first [← g.nested (.unary ending)]

/-- An expression that begins with a less-than sign: a generic arrow function, and by dialect a type
assertion or markup. -/
def angled (ending : Ending) : Parser Piece :=
  arrowFunction g ending <|>
    match g.dialect with
    | .typescript => applied g "type_assertion" ending (typeArguments g)
    | .tsx => g.nested .markup

/-- An operand: operators that stand before it and those that stand after it. -/
def unary (ending : Ending) : Parser Piece := do
  match ← nextChars with
  | '!' :: _ => applied g "unary_expression" ending (symbol "!")
  | '~' :: _ => applied g "unary_expression" ending (symbol "~")
  | '+' :: '+' :: _ => applied g "update_expression" ending stepSign
  | '-' :: '-' :: _ => applied g "update_expression" ending stepSign
  | '+' :: _ => applied g "unary_expression" ending (symbol "+")
  | '-' :: _ => applied g "unary_expression" ending (symbol "-")
  | '<' :: _ => angled g ending
  | _ =>
    match ← nextWord with
    | some "typeof" => applied g "unary_expression" ending (keyword "typeof")
    | some "void" => applied g "unary_expression" ending (keyword "void")
    | some "delete" => applied g "unary_expression" ending (keyword "delete")
    | some "await" => applied g "await_expression" ending (keyword "await")
    | _ => counted g ending

/-- Operators between two operands, longer spellings first, with what may not follow them. -/
def binaryOperators : List (String × List Char) :=
  [(">>>", ['=']), ("===", []), ("!==", []), ("**", ['=']), ("&&", ['=']), ("||", ['=']), ("??", ['=']),
    ("<<", ['=']), (">>", ['=', '>']), ("==", ['=']), ("!=", ['=']), ("<=", []), (">=", []),
    ("<", ['<']), (">", ['>']), ("+", ['+', '=']), ("-", ['-', '=']), ("*", ['*', '=']),
    ("/", ['=']), ("%", ['=']), ("&", ['&', '=']), ("^", ['=']), ("|", ['|', '='])]

/-- A binary operator. -/
def binaryOperator : Parser Piece :=
  binaryOperators.foldr (fun (s, continued) other => symbolUnless s continued <|> other)
    (keyword "instanceof" <|> keyword "in")

/-- Type arguments after an expression that is not called. -/
def instantiation (e : Piece) : Parser Piece := do
  let types ← typeArguments g
  let cs ← nextChars
  guard (match cs.head? with
    | some c => [')', ']', '\x7d', ',', ';', ':', '.', '=', '?', '|', '&'].contains c
    | none => true)
  return .around "instantiation_expression" e [types]

/-- A type asserted after an expression. -/
def asserted (ending : Ending) (e : Piece) : Parser Piece :=
  (do
    let word ← keyword "as"
    let type ← keyword "const" <|> g.nested (.type ending)
    return .around "as_expression" e [word, type])
  <|> (do
    let word ← keyword "satisfies"
    let type ← g.nested (.type ending)
    return .around "satisfies_expression" e [word, type])

/-- Operands with binary operators and asserted types after them. -/
def binary (ending : Ending) : Parser Piece := do
  let first ← unary g ending
  extend (fun e => do
    if ← endsHere ending then refuse
    asserted g ending e
      <|> instantiation g e
      <|> (do
        let operator ← binaryOperator
        return .around "binary_expression" e [operator, ← g.nested (.unary ending)])) first

/-- Kinds of expressions that can be assigned to. -/
def assignableKinds : List String :=
  ["identifier", "undefined", "member_expression", "subscript_expression", "parenthesized_expression",
    "object", "array", "object_pattern", "array_pattern", "non_null_expression"]

/-- Operators that assign a combined value. -/
def combiningOperator : Parser Piece :=
  [">>>=", "**=", "&&=", "||=", "??=", "<<=", ">>=", "+=", "-=", "*=", "/=", "%=", "&=", "^=", "|="].foldr
    (fun s other => symbol s <|> other) refuse

/-- The question mark of a conditional expression. -/
def conditionMark : Parser Piece := do
  let mark ← symbolUnless "?" ['?']
  match ← nextChars with
  | ':' :: _ => refuse
  | ')' :: _ => refuse
  | ',' :: _ => refuse
  | '.' :: c :: _ => if c.isDigit then return mark else refuse
  | _ => return mark

/-- The branch of a condition that holds. A colon that seemed to begin the result type of an arrow
function ends the branch if no other colon follows. -/
def consequent : Parser Piece :=
  reconsider g.expression
    (fun yes => do return yes.tree.kind = "arrow_function" && !(← ahead (symbol ":")))
    (parenthesized g)

/-- What may follow an expression to make a larger one of it: an assignment or a condition's
branches. -/
def continued (ending : Ending) (e : Piece) : Parser Piece :=
  (do
    guard (assignableKinds.contains e.tree.kind)
    let sign ← equalsSign
    return .around "assignment_expression" e [sign, ← g.nested (.expression ending)])
  <|> (do
    guard (assignableKinds.contains e.tree.kind)
    let operator ← combiningOperator
    return .around "augmented_assignment_expression" e [operator, ← g.nested (.expression ending)])
  <|> (do
    let mark ← conditionMark
    let yes ← consequent g
    let colon ← symbol ":"
    return .around "ternary_expression" e [mark, yes, colon, ← g.nested (.expression ending)])

/-- The expression of a generator that hands out a value. -/
def yieldExpression (ending : Ending) : Parser Piece := do
  let word ← keyword "yield"
  let value ← pieces do
    if ← endsHere ending then refuse
    discard (optional (symbol "*"))
    g.nested (.expression ending)
  return .around "yield_expression" word value

/-- An expression without commas outside brackets. -/
def expressionText (ending : Ending) : Parser Piece := do
  if (← nextWord) = some "yield" then yieldExpression g ending
  else
    let e ← binary g ending
    let whole ← pieces do
      if ← endsHere ending then refuse
      continued g ending e
    match whole with
    | w :: _ => return w
    | [] =>
      guard (e.tree.kind ≠ "object_pattern" && e.tree.kind ≠ "array_pattern")
      return e

end LocaleCatalogue.Script
