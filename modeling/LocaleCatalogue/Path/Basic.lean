import LocaleCatalogue.Text.Basic

/-!
# Paths

A path is an anchor and names. Reading a path drops empty names and single dots and keeps double
dots, so different spellings can be one path, but a path never loses a name that a link could make
meaningful.
-/

namespace LocaleCatalogue

/-- Where a path begins: at the working directory, at the root, or at the root written with two
slashes. -/
inductive Anchor where
  | relative
  | root
  | doubleRoot
deriving DecidableEq, Repr

/-- The slashes of an anchor. -/
def Anchor.text : Anchor → Text
  | .relative => []
  | .root => [0x2F]
  | .doubleRoot => [0x2F, 0x2F]

/-- An anchor and the names below it. -/
structure Path where
  anchor : Anchor
  names : List Text
deriving DecidableEq, Repr

namespace Path

/-- The slash between names. -/
def slash : CodePoint := 0x2F

/-- The dot in names. -/
def dot : CodePoint := 0x2E

/-- A single dot, the name of the directory itself. -/
def here : Text := [dot]

/-- Two dots, the name of the directory above. -/
def above : Text := [dot, dot]

/-- The anchor of a spelling: two slashes and no third one are an anchor of their own. -/
def anchorOf (spelling : Text) : Anchor :=
  match spelling with
  | 0x2F :: 0x2F :: 0x2F :: _ => .root
  | 0x2F :: 0x2F :: _ => .doubleRoot
  | 0x2F :: _ => .root
  | _ => .relative

/-- Reads a path from its spelling. -/
def ofText (spelling : Text) : Path where
  anchor := anchorOf spelling
  names := (Text.splitOn slash spelling).filter fun name => !name.isEmpty && name ≠ here

/-- The plainest spelling of a path; a relative path without names is a dot. -/
def toText (p : Path) : Text :=
  match p.anchor, p.names with
  | .relative, [] => here
  | _, names => p.anchor.text ++ Text.join [slash] names

/-- The names with the anchor, if there is one, in front. -/
def components (p : Path) : List Text :=
  match p.anchor with
  | .relative => p.names
  | _ => p.anchor.text :: p.names

/-- The last name, or nothing. -/
def lastName (p : Path) : Text := p.names.getLastD []

/-- The path without its last name. -/
def parent (p : Path) : Path := { p with names := p.names.dropLast }

/-- The path with one more name. -/
def child (p : Path) (name : Text) : Path := { p with names := p.names ++ [name] }

/-- The part of a name from its last dot on, unless the dot is its first or last character. -/
def suffixOf (name : Text) : Text :=
  let tail := name.reverse.takeWhile (· ≠ dot)
  if tail.length + 1 < name.length && !tail.isEmpty then dot :: tail.reverse else []

/-- The suffix of the last name. -/
def suffix (p : Path) : Text := suffixOf p.lastName

/-- Dictionary order of lists of texts. -/
def namesLe : List Text → List Text → Bool
  | [], _ => true
  | _ :: _, [] => false
  | a :: s, b :: t => if a = b then namesLe s t else Text.le a b

/-- Order by components, not by spelling. -/
def le (p q : Path) : Bool := namesLe p.components q.components

/-- The names of a path after those of a directory that it lies under. -/
def below (directory p : Path) : Path := ⟨.relative, p.names.drop directory.names.length⟩

end Path

end LocaleCatalogue
