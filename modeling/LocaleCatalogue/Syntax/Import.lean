import LocaleCatalogue.Syntax.Literal

/-!
# Default imports

Which module a name is bound to as the default import. The default binding is a bare identifier
directly under the import clause; named, renamed and name-space bindings are deeper. The
first import that binds the name decides, even if its source is not a string.
-/

namespace LocaleCatalogue.Syntax

/-- Whether one of the nodes is an identifier with the given text. Nodes after the first such one
are not read. -/
def bindsName (name : Text) : List Node → Except Fault Bool
  | [] => .ok false
  | n :: ns =>
    if n.kind = "identifier" then
      match n.readText with
      | .ok t => if t = name then .ok true else bindsName name ns
      | .error e => .error e
    else bindsName name ns

/-- The specifier of an import statement. -/
def importSpecifier? (statement : Node) : Except Fault (Option Text) :=
  match statement.childByField "source" with
  | none => .ok none
  | some source =>
    if source.kind = "string" then (Literal.value source).map some else .ok none

/-- The specifier of the first of the statements that binds the name as its default import. -/
def defaultImportAmong (name : Text) : List Node → Except Fault (Option Text)
  | [] => .ok none
  | statement :: rest =>
    if statement.kind = "import_statement" then
      match statement.namedChildren.find? (·.kind = "import_clause") with
      | none => defaultImportAmong name rest
      | some clause =>
        match bindsName name clause.namedChildren with
        | .error e => .error e
        | .ok true => importSpecifier? statement
        | .ok false => defaultImportAmong name rest
    else defaultImportAmong name rest

/-- The specifier that a program imports a name from as the default, if it does and it is a string.
-/
def defaultImport? (root : Node) (name : Text) : Except Fault (Option Text) :=
  defaultImportAmong name root.namedChildren

end LocaleCatalogue.Syntax
