import LocaleCatalogue.Catalogue.Logged
import LocaleCatalogue.Path.Spelling
import LocaleCatalogue.Syntax.Import

/-!
# Targets of spreads

A spread name stands for the file that the name is default-imported from. The specifier of
the import is seen from the directory of the importing file and probed as it is, then as a script,
then as a typed script; the first regular file is the target. A name that leads to no file stands for
nothing.
-/

namespace LocaleCatalogue

/-- What is put behind a specifier, in the order in which it is tried. -/
def candidateSuffixes : List Text := ["", ".js", ".ts"].map Text.ofString

/-- The paths that are tried for a specifier seen from the working directory. -/
def candidatePaths (base : Text) : List Path :=
  candidateSuffixes.map fun ending => Path.ofText (base ++ ending)

/-- A path and the regular file that it leads to. -/
structure Target (fs : Files) where
  path : Path
  file : fs.Found

/-- The first of several paths that leads to a regular file. -/
def Files.firstRegular? (fs : Files) : List Path → Except Failure (Option (Target fs))
  | [] => .ok none
  | path :: rest =>
    match fs.regular? path with
    | .error fault => .error (.lookup path fault)
    | .ok (some file) => .ok (some ⟨path, file⟩)
    | .ok none => fs.firstRegular? rest

/-- A specifier in the file at `path`, seen from the working directory. -/
def specifierBase (path specifier : Text) : Text :=
  Spelling.normalise (Spelling.join (Spelling.directory path) specifier)

/-- A failure to read the text behind a node. -/
def ofSyntax {α : Type} : Except Syntax.Fault α → Logged α
  | .ok a => .done a
  | .error fault => .fail (.literal fault)

/-- The file that a spread name in the file at `path` stands for. -/
def spreadTarget? (fs : Files) (path name : Text) (root : Syntax.Node) : Logged (Option (Target fs)) := do
  match ← ofSyntax (Syntax.defaultImport? root name) with
  | none =>
    Logged.say (.unboundName path name)
    return none
  | some specifier =>
    match ← Logged.ofExcept (fs.firstRegular? (candidatePaths (specifierBase path specifier))) with
    | some target => return some target
    | none =>
      Logged.say (.targetMissing path name specifier)
      return none

end LocaleCatalogue
