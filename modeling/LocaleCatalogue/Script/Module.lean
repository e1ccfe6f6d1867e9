import LocaleCatalogue.Script.Statement

/-!
# Imports and exports

The statements that tie modules together keep the parts that bind a name or hold a value: the import
clause with its default binding, the specifier, the word `default` and the exported expression.
-/

namespace LocaleCatalogue.Script

open LocaleCatalogue.Script.Parser

variable (g : Grammar)

/-- The name of something exported: a word or a string. -/
def exportedName : Parser Unit := discard stringToken <|> discard name

/-- Names in braces, each perhaps renamed and perhaps marked as a type. -/
def specifierList : Parser Unit := inBraces (discard (optional (commaSeparated do
    (do
      discard (keywordAmong ["type", "typeof"])
      specifier)
    <|> specifier)))
where
  /-- A name, perhaps with another name after `as`, before a comma or the closing brace. -/
  specifier : Parser Unit := do
    exportedName
    discard (optional do
      discard (keyword "as")
      exportedName)
    guard (match (← nextChars).head? with
      | some c => c = ',' || c = '\x7d'
      | none => false)

/-- A binding of a whole module. -/
def namespaceImport : Parser Piece := whole "namespace_import" true do
  discard (symbol "*")
  discard (keyword "as")
  discard name

/-- The bindings in braces or of the whole module. -/
def namedImports : Parser Piece := whole "named_imports" true specifierList <|> namespaceImport

/-- The clause of an import: a default binding, other bindings, or both. -/
def importClause : Parser Piece :=
  (do
    let bindings ← namedImports
    return .around "import_clause" bindings [])
  <|> (do
    let first ← name
    let others ← pieces (symbol ",")
    match others with
    | [] => return .around "import_clause" first []
    | _ => return .around "import_clause" first (others ++ [← namedImports]))

/-- The specifier after `from`. -/
def fromClause : Parser (List Piece) := do
  let word ← keyword "from"
  let source ← stringToken
  return [word, source.under "source"]

/-- Attributes of an import or export. -/
def importAttributes : Parser (List Piece) := pieces (whole "import_attribute" true do
  discard (keywordAmong ["with", "assert"])
  inBraces (discard (commaSlots (g.nested .property))))

/-- An import that names what it binds. -/
def bindingImport : Parser (List Piece) := do
  let clause ← importClause
  return clause :: (← fromClause)

/-- An import by assignment. -/
def requireImport : Parser (List Piece) := do
  let clause ← whole "import_require_clause" true do
    discard name
    discard equalsSign
    discard (keyword "require")
    between "(" ")" (discard stringToken)
  return [clause]

/-- An import for its effects alone. -/
def bareImport : Parser (List Piece) := do
  let source ← stringToken
  return [source.under "source"]

/-- What stands after the keyword of an import. A leading `type` is a modifier if an import follows
it. -/
def importContent : Parser (List Piece) :=
  (do
    let modifier ← keywordAmong ["type", "typeof"]
    return modifier :: (← bindingImport <|> requireImport))
  <|> bindingImport
  <|> requireImport
  <|> bareImport

/-- An import statement. -/
def importStatement : Parser Piece := do
  let word ← keyword "import"
  let content ← importContent
  let attributes ← importAttributes g
  let ending ← semicolon .afterType
  return .around "import_statement" word (content ++ attributes ++ ending)

/-- A local name for a member of a name space. -/
def importAlias : Parser Piece := statementOf "import_alias" do
  discard (keyword "import")
  discard (optional do
    discard (keyword "type")
    guard (← nextWord).isSome)
  discard name
  discard equalsSign
  discard name
  discard (many do
    discard (symbol ".")
    discard name)
  discard (semicolon .afterType)

/-- The expression of a default export, or the declaration that takes its place. -/
def defaultExport : Parser (List Piece) := do
  let word ← keyword "default"
  (do
    let declared ← declaration g
    return [word, declared.under "declaration"])
  <|> (do
    guard (match ← nextWord with
      | some w => !declaringWords.contains w
      | none => true)
    let value ← g.nested (.expression .afterExpression)
    return word :: value.under "value" :: (← semicolon .afterExpression))

/-- An export of names, perhaps from another module. -/
def exportClause : Parser (List Piece) := do
  let modifier ← pieces do
    let modifier ← keyword "type"
    guard (match (← nextChars).head? with
      | some c => c = '\x7b' || c = '*'
      | none => false)
    return modifier
  let clause ←
    whole "export_clause" true specifierList
      <|> whole "namespace_export" true do
        discard (symbol "*")
        discard (optional do
          discard (keyword "as")
          exportedName)
  let source ← optional fromClause
  guard (source.isSome || clause.tree.kind = "export_clause")
  let attributes ← importAttributes g
  return modifier ++ clause :: source.getD [] ++ attributes ++ (← semicolon .afterType)

/-- An export by assignment. -/
def exportAssignment : Parser (List Piece) := do
  let sign ← equalsSign
  let value ← g.nested (.expression .afterExpression)
  return sign :: value :: (← semicolon .afterExpression)

/-- An export of everything under a global name. -/
def exportNamespace : Parser (List Piece) := do
  let words ← whole "as" false do
    discard (keyword "as")
    discard (keyword "namespace")
  let bound ← name
  return words :: bound :: (← semicolon .afterType)

/-- What stands after the keyword of an export. -/
def exportContent : Parser (List Piece) := do
  match ← nextWord with
  | some "default" => defaultExport g
  | some "import" => return [← importAlias]
  | some "as" => exportNamespace
  | some "type" => exportClause g <|> do return [(← declaration g).under "declaration"]
  | some _ => return [(← declaration g).under "declaration"]
  | none =>
    match ← nextChars with
    | '=' :: _ => exportAssignment g
    | '@' :: _ => return [(← declaration g).under "declaration"]
    | _ => exportClause g

/-- An export statement, perhaps of a decorated class. -/
def exportStatement : Parser Piece := do
  let decorators ← many (whole "decorator" true (decorator g))
  let word ← keyword "export"
  let content ← exportContent g
  match decorators with
  | [] => return .around "export_statement" word content
  | first :: more => return .around "export_statement" first (more ++ word :: content)

/-- A statement of a module. -/
def statement : Parser Piece := do
  match ← nextWord with
  | some "export" => exportStatement g <|> plainStatement g
  | some "import" => importStatement g <|> importAlias <|> plainStatement g
  | some _ => plainStatement g
  | none =>
    match ← nextChars with
    | '@' :: _ => exportStatement g <|> plainStatement g
    | _ => plainStatement g

end LocaleCatalogue.Script
