import LocaleCatalogue.Syntax.Node

/-!
# The exported expression and its wrappers

Parentheses around an expression and one asserted type do not change its value, so the analyses look
through them. Parentheses that also hold a comment are not looked through.
-/

namespace LocaleCatalogue.Syntax

/-- Kinds of expressions that assert a type. -/
def assertionKinds : List String := ["as_expression", "satisfies_expression", "type_assertion"]

/-- The first top-level statement that exports by default. -/
def defaultExport? (root : Node) : Option Node :=
  root.namedChildren.find? fun statement =>
    statement.kind = "export_statement" && statement.children.any (·.kind = "default")

/-- The expression that a default export exports; declarations have none. -/
def exportedExpression? (statement : Node) : Option Node := statement.childByField "value"

mutual

/-- The expression inside parentheses that hold nothing else with a name. -/
def Node.withoutParens : Node → Node
  | ⟨kind, named, field, text, startByte, stopByte, start, stop, erroneous, missing, flagged, children⟩ =>
    let self : Node :=
      ⟨kind, named, field, text, startByte, stopByte, start, stop, erroneous, missing, flagged, children⟩
    if kind = "parenthesized_expression" then (soleWithoutParens children).getD self else self

/-- The only named node of a list, without its parentheses. -/
def soleWithoutParens : List Node → Option Node
  | [] => none
  | c :: cs =>
    if c.named then
      if cs.any (·.named) then none else some c.withoutParens
    else soleWithoutParens cs

end

/-- The operand of an expression that asserts a type: the last named child after a leading type, the
first one before a trailing type. -/
def Node.assertedOperand (n : Node) : Node :=
  let operands := n.namedChildren.filter (·.kind ≠ "type_arguments")
  if n.kind = "type_assertion" then operands.getLastD n else operands.headD n

/-- An expression without the parentheses around it and one asserted type. -/
def Node.unwrapped (n : Node) : Node :=
  let outer := n.withoutParens
  if assertionKinds.contains outer.kind then outer.assertedOperand.withoutParens else outer

end LocaleCatalogue.Syntax
