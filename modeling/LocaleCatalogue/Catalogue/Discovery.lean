import LocaleCatalogue.Catalogue.Logged
import LocaleCatalogue.Settings.Basic

/-!
# Discovery

Files are found by path patterns below a directory. Each pattern gives one group, sorted by
components. A path that an earlier pattern found is not found again, and hidden and excluded paths
are left out.
-/

namespace LocaleCatalogue

/-- Whether a path, seen from the searched directory, is left out. Hidden means that a name, double
dots included, begins with a dot. -/
def isExcluded (settings : Settings) (path : Path) : Bool :=
  (!settings.showsHidden && path.components.any fun name => name.head? = some Path.dot)
    || settings.excludePatterns.any fun pattern => path.toText.matchesPattern pattern

/-- The paths of a list that lead to regular files. -/
def regularOnes (fs : Files) : List Path → Except Failure (List Path)
  | [] => .ok []
  | path :: rest =>
    match fs.regular? path with
    | .error fault => .error (.lookup path fault)
    | .ok found =>
      (regularOnes fs rest).map fun more => if found.isSome then path :: more else more

/-- The sorted paths that a pattern selects below a directory. -/
def selected (fs : Files) (directory : Path) (pattern : Text) : Except Failure (List Path) :=
  match Glob.read pattern with
  | .error fault => .error (.pattern fault)
  | .ok glob =>
    match Glob.select fs glob directory with
    | .error (path, fault) => .error (.lookup path fault)
    | .ok paths => .ok (paths.mergeSort Path.le)

/-- The group of a pattern, given the paths found before. -/
def group (fs : Files) (settings : Settings) (directory : Path) (before : List Path) (pattern : Text) :
    Except Failure (List Path) := do
  let paths ← selected fs directory pattern
  let files ← regularOnes fs paths
  return files.filter fun path =>
    !before.contains path && !isExcluded settings (Path.below directory path)

/-- The groups of patterns, given the paths found before. -/
def groupsFrom (fs : Files) (settings : Settings) (directory : Path) :
    (before : List Path) → List Text → Logged (List (List Path))
  | _, [] => .done []
  | before, pattern :: rest => do
    let found ← Logged.ofExcept (group fs settings directory before pattern)
    Logged.say (.patternMatched pattern found.length)
    let more ← groupsFrom fs settings directory (before ++ found) rest
    return found :: more

/-- The files below a directory, in one group for each pattern. -/
def discover (fs : Files) (settings : Settings) (root : Text) : Logged (List (List Text)) :=
  let directory := Path.ofText root
  match fs.isDirectory directory with
  | .error fault => .fail (.lookup directory fault)
  | .ok false => .fail (.notADirectory directory)
  | .ok true => do
    let groups ← groupsFrom fs settings directory [] settings.localePatterns
    return groups.map fun paths => paths.map Path.toText

end LocaleCatalogue
