import LocaleCatalogue.Script.Class

/-!
# Statements and declarations

Statements other than imports and exports are recognised and kept as one piece, because no key and
no binding of interest is inside them.
-/

namespace LocaleCatalogue.Script

open LocaleCatalogue.Script.Parser

variable (g : Grammar)

/-- Recognises a construct and keeps it as one piece. -/
def statementOf (kind : String) (p : Parser Unit) : Parser Piece := whole kind true p

/-- An expression as a statement. -/
def expressionStatement : Parser Piece := statementOf "expression_statement" do
  discard (g.expressions .afterExpression)
  discard (semicolon .afterExpression)

/-- The parenthesised expression that a control statement depends on. -/
def condition : Parser Unit := between "(" ")" (discard (g.expressions .inside))

/-- One declared variable. -/
def declarator (ending : Ending) : Parser Unit := do
  discard (binding g)
  discard (optional (symbolUnless "!" ['=']))
  discard (optional (typeMark g (if ending = .inside then .inside else .afterType)))
  discard (optional (initializer g ending))

/-- Declared variables, without the end of the statement. -/
def declarators (ending : Ending) : Parser Unit := do
  declarator g ending
  discard (many do
    discard (symbol ",")
    declarator g ending)

/-- A declaration of variables. -/
def variableDeclaration : Parser Piece := statementOf "lexical_declaration" do
  discard (keywordAmong ["const", "let", "var"])
  declarators g .afterExpression
  discard (semicolon .afterExpression)

/-- A function declaration, or a signature of one. -/
def functionDeclaration : Parser Piece := do
  let head ← lookahead functionHead
  guard (head.getD (false, false)).2
  statementOf "function_declaration" do
    discard functionHead
    signature g .beforeBody
    block g <|> discard (semicolon .beforeBody)

/-- A class declaration. -/
def classDeclaration : Parser Piece := statementOf "class_declaration" (classWith g className)

/-- An interface. -/
def interfaceDeclaration : Parser Piece := statementOf "interface_declaration" do
  discard (keyword "interface")
  discard name
  discard (optional (typeParameters g))
  discard (optional do
    discard (keyword "extends")
    commaSeparated g.type)
  objectType g

/-- A name for a type. -/
def typeAlias : Parser Piece := statementOf "type_alias_declaration" do
  discard (keyword "type")
  discard name
  discard (optional (typeParameters g))
  discard equalsSign
  discard (g.nested (.type .afterType))
  discard (semicolon .afterType)

/-- An enumeration. -/
def enumDeclaration : Parser Piece := statementOf "enum_declaration" do
  discard (optional (keyword "const"))
  discard (keyword "enum")
  discard name
  inBraces (discard (optional (commaSeparated do
    discard (propertyName g)
    discard (optional (initializer g .inside)))))

/-- A name space or module, with or without a body. -/
def moduleDeclaration : Parser Piece := statementOf "module" do
  discard (keywordAmong ["namespace", "module"])
  discard stringToken <|> do
    discard name
    discard (many do
      discard (symbol ".")
      discard name)
  block g <|> discard (semicolon .afterType)

/-- Declarations of any kind but imports and exports. -/
def declarationOf (w : String) : Parser Piece :=
  match w with
  | "const" => enumDeclaration g <|> variableDeclaration g
  | "let" => variableDeclaration g
  | "var" => variableDeclaration g
  | "function" => functionDeclaration g
  | "async" => functionDeclaration g
  | "class" => classDeclaration g
  | "abstract" => classDeclaration g
  | "interface" => interfaceDeclaration g
  | "type" => typeAlias g
  | "enum" => enumDeclaration g
  | "namespace" => moduleDeclaration g
  | "module" => moduleDeclaration g
  | "declare" => statementOf "ambient_declaration" do
      discard (keyword "declare")
      (do
        discard (keyword "global")
        block g)
      <|> discard (g.nested .declaration)
  | _ => refuse

/-- A declaration, after decorators if it is a class. -/
def declaration : Parser Piece := do
  match ← nextChars with
  | '@' :: _ => classDeclaration g
  | _ =>
    match ← nextWord with
    | some w => declarationOf g w
    | none => refuse

/-- The head of a loop over a collection. -/
def collectionHead : Parser Unit := do
  (do
    discard (keywordAmong ["const", "let", "var"])
    discard (binding g)
    discard (optional (initializer g .inside)))
  <|> discard (g.nested (.unary .inside))
  discard (keywordAmong ["of", "in"])
  discard (g.expressions .inside)

/-- The head of a counting loop. -/
def countingHead : Parser Unit := do
  discard (optional
    ((do
      discard (keywordAmong ["const", "let", "var"])
      declarators g .inside)
    <|> discard (g.expressions .inside)))
  discard (symbol ";")
  discard (optional (g.expressions .inside))
  discard (symbol ";")
  discard (optional (g.expressions .inside))

/-- A nested statement. -/
def body : Parser Unit := discard (g.nested .statement)

/-- A case of a switch. -/
def switchCase : Parser Unit := do
  (do
    discard (keyword "case")
    discard (g.expressions .inside))
  <|> discard (keyword "default")
  discard (symbol ":")
  discard (many (body g))

/-- A handler of a try statement. -/
def handlers : Parser Unit := do
  discard (optional do
    discard (keyword "catch")
    discard (optional (between "(" ")" do
      discard (binding g)
      discard (optional (typeMark g .inside))))
    block g)
  discard (optional do
    discard (keyword "finally")
    block g)

/-- A jump, perhaps with a label on the same line. -/
def jump (w : String) : Parser Piece := statementOf w do
  discard (keyword w)
  discard (optional do
    if ← endsHere .afterType then refuse
    discard name)
  discard (semicolon .afterType)

/-- Statements that begin with a keyword of their own. -/
def controlStatement (w : String) : Parser Piece :=
  match w with
  | "if" => statementOf "if_statement" do
      discard (keyword "if")
      condition g
      body g
      discard (optional do
        discard (keyword "else")
        body g)
  | "for" => statementOf "for_statement" do
      discard (keyword "for")
      discard (optional (keyword "await"))
      between "(" ")" (collectionHead g <|> countingHead g)
      body g
  | "while" => statementOf "while_statement" do
      discard (keyword "while")
      condition g
      body g
  | "do" => statementOf "do_statement" do
      discard (keyword "do")
      body g
      discard (keyword "while")
      condition g
      discard (optional (semicolon .afterType))
  | "switch" => statementOf "switch_statement" do
      discard (keyword "switch")
      condition g
      inBraces (discard (many (switchCase g)))
  | "try" => statementOf "try_statement" do
      discard (keyword "try")
      block g
      handlers g
  | "with" => statementOf "with_statement" do
      discard (keyword "with")
      condition g
      body g
  | "return" => statementOf "return_statement" do
      discard (keyword "return")
      discard (optional do
        if ← endsHere .afterType then refuse
        g.expressions .afterExpression)
      discard (semicolon .afterExpression)
  | "throw" => statementOf "throw_statement" do
      discard (keyword "throw")
      discard (g.expressions .afterExpression)
      discard (semicolon .afterExpression)
  | "break" => jump w
  | "continue" => jump w
  | "debugger" => statementOf "debugger_statement" do
      discard (keyword "debugger")
      discard (semicolon .afterType)
  | _ => refuse

/-- Words that only begin declarations; a statement or default export never uses them as names. -/
def declaringWords : List String := ["const", "var", "enum", "interface", "abstract"]

/-- Words with a meaning of their own wherever an expression begins. -/
def operandWords : List String :=
  ["function", "class", "import", "typeof", "void", "delete", "await", "yield", "this", "super", "true",
    "false", "null", "undefined"]

/-- A statement behind a label. -/
def labelled : Parser Piece := statementOf "labeled_statement" do
  match ← nextWord with
  | some w => guard (!operandWords.contains w)
  | none => refuse
  discard name
  discard (symbol ":")
  body g

/-- Words at which a statement never begins, because the construct around it goes on there. -/
def continuingWords : List String := ["case", "default", "else", "catch", "finally"]

/-- Words that begin a control statement. -/
def controlWords : List String :=
  ["if", "for", "while", "do", "switch", "try", "with", "return", "throw", "break", "continue", "debugger"]

/-- Whether a function or class with a name begins here; such a statement is never an expression. -/
def namedDefinition : Parser Bool := do
  let head ← lookahead functionHead
  let classHead ← ahead do
    discard (optional (keyword "abstract"))
    discard (keyword "class")
    className
  return classHead || (head.getD (false, false)).2

/-- A statement that begins with a word. -/
def wordStatement (w : String) : Parser Piece := do
  if continuingWords.contains w then refuse
  else if controlWords.contains w then controlStatement g w
  else if declaringWords.contains w then declarationOf g w
  else if ← namedDefinition then declarationOf g w
  else labelled g <|> declarationOf g w <|> expressionStatement g

/-- A statement other than an import or export. -/
def plainStatement : Parser Piece := do
  match ← nextChars with
  | '\x7b' :: _ => statementOf "statement_block" (block g) <|> expressionStatement g
  | ';' :: _ => statementOf "empty_statement" (discard (symbol ";"))
  | '@' :: _ => classDeclaration g
  | _ =>
    match ← nextWord with
    | some w => wordStatement g w
    | none => expressionStatement g

end LocaleCatalogue.Script
