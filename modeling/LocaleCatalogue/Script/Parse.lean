import LocaleCatalogue.Script.Program
import LocaleCatalogue.Script.Source

/-!
# Parsing a source

Parsing always answers with a tree whose root is a program. A source that is not a program as a
whole yields the statements before the place where it stops making sense, an erroneous node after
them, and a flagged root.
-/

namespace LocaleCatalogue.Script

open Syntax (Node)

/-- An erroneous node between two places. -/
def errorNode (start stop : Mark) (text : Bytes) : Node where
  kind := "ERROR"
  named := true
  field := none
  text := some text
  startByte := start.byte
  stopByte := stop.byte
  start := start.point
  stop := stop.point
  erroneous := true
  missing := false
  flagged := true
  children := []

/-- The root over the given children. -/
def programNode (stop : Mark) (text : Bytes) (children : List Node) : Node where
  kind := "program"
  named := true
  field := none
  text := some text
  startByte := 0
  stopByte := stop.byte
  start := Mark.first.point
  stop := stop.point
  erroneous := false
  missing := false
  flagged := children.any (·.flagged)
  children

/-- The tree of a source text. -/
def parseChars (dialect : Dialect) (text : List Char) : Node :=
  let source := Source.ofChars text
  let found := outlineOf dialect text
  let last := source.mark text.length
  let statements := placeAll source found.parts
  let rest :=
    if found.complete then []
    else [errorNode (source.mark found.stop) last (source.stretch found.stop text.length)]
  programNode last (Utf8.encode text) (statements ++ rest)

/-- The tree of the octets of a source. Octets that are not UTF-8 are erroneous as a whole. -/
def parse (dialect : Dialect) (bytes : Bytes) : Node :=
  match Utf8.decode bytes with
  | .ok text => parseChars dialect text
  | .error _ =>
    let stop : Mark := ⟨bytes.length, ⟨0, bytes.length⟩⟩
    programNode stop bytes [errorNode .first stop bytes]

end LocaleCatalogue.Script
