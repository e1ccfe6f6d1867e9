import LocaleCatalogue.Path.Basic
import LocaleCatalogue.Script.Grammar

/-!
# Languages of files

Two things are read off a path: the tag of the natural language that the file holds, and the dialect
that its source is written in.
-/

namespace LocaleCatalogue

/-- The stem of files that take their tag from the directory. -/
def indexStem : Text := Text.ofString "index"

/-- The language tag of a file: its name up to the first dot, or the name of its directory if it is
an index file and the directory has a name. -/
def languageTag (spelling : Text) : Text :=
  let path := Path.ofText spelling
  let stem := path.lastName.takeWhile (· ≠ Path.dot)
  let directory := path.parent.lastName
  if stem = indexStem && !directory.isEmpty then directory else stem

/-- Suffixes of sources that may hold markup. -/
def markupSuffixes : List Text := [".tsx", ".jsx", ".js", ".mjs", ".cjs"].map Text.ofString

/-- The dialect of a source, from its suffix in any case. -/
def dialectOf (spelling : Text) : Script.Dialect :=
  if markupSuffixes.contains (Path.ofText spelling).suffix.asciiLower then .tsx else .typescript

/-- The dialects by name. -/
def dialects : List Script.Dialect := [.typescript, .tsx]

/-- The dialect with a name. -/
def dialectNamed? (name : Text) : Option Script.Dialect :=
  dialects.find? fun d => Text.ofString d.name = name

end LocaleCatalogue
