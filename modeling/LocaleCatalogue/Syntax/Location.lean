import LocaleCatalogue.Syntax.Node
import LocaleCatalogue.Text.Column

/-!
# Locations

A location spans a token: lines count from one, columns from zero in code points, and the end is the
column after the last code point.
-/

namespace LocaleCatalogue

/-- The span of a token. -/
structure Location where
  startLine : Int
  startColumn : Int
  stopLine : Int
  stopColumn : Int
deriving DecidableEq, Repr

/-- The span of a node of a source. -/
def Syntax.Node.location (n : Syntax.Node) (source : Bytes) : Location where
  startLine := n.start.row + 1
  startColumn := charColumn source n.startByte n.start.column
  stopLine := n.stop.row + 1
  stopColumn := charColumn source n.stopByte n.stop.column

end LocaleCatalogue
