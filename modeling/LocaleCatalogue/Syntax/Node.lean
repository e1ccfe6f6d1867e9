import LocaleCatalogue.Text.Utf8

/-!
# Syntax nodes

A node as the analyses see it: a kind, a stretch of the source in octets and in rows, perhaps its
text, and children of which some are named. Erroneous and missing nodes are marked, and so is every
node that contains one.
-/

namespace LocaleCatalogue.Syntax

/-- A place in a source: rows count from zero, columns count octets since the row began. -/
structure Point where
  row : Nat
  column : Nat
deriving DecidableEq, Repr

/-- A node of a syntax tree. -/
structure Node where
  kind : String
  named : Bool
  field : Option String
  text : Option Bytes
  startByte : Nat
  stopByte : Nat
  start : Point
  stop : Point
  erroneous : Bool
  missing : Bool
  flagged : Bool
  children : List Node
deriving Repr

namespace Node

/-- The children with a name in the grammar. -/
def namedChildren (n : Node) : List Node := n.children.filter (·.named)

/-- The first child under a field name. -/
def childByField (n : Node) (field : String) : Option Node :=
  n.children.find? fun c => c.field = some field

/-- The decoded text of a node; nothing if it has no text. -/
def decodedText (n : Node) : Except Utf8.Malformed Text :=
  match n.text with
  | none => .ok []
  | some bytes => (Utf8.decode bytes).map Text.ofChars

end Node

end LocaleCatalogue.Syntax
