import LocaleCatalogue.Files.Access

/-!
# Arranging files

Putting files, directories and links into a file system under relative paths, with the directories
above them, and taking them away again. A file written through a link changes what the link leads
to.
-/

namespace LocaleCatalogue.Files

/-- The directory under a name in a directory, made if nothing is there yet. -/
def enter (fs : Files) (place : Place) (name : Text) : Files × Place :=
  match fs.walk linkLimit place [name] with
  | .ok reached => (fs, reached)
  | .error _ => (fs.put (place ++ [name]) .directory, place ++ [name])

/-- Something put at a path, with the directories above it. -/
def plant (fs : Files) (path : Path) (entry : Entry) : Files :=
  let (above, place) := path.parent.names.foldl
    (fun (fs, place) name => fs.enter place name) (fs, fs.origin path)
  match path.names.getLast? with
  | none => above
  | some name =>
    match entry, above.walk linkLimit place [name] with
    | .file _, .ok reached => above.put reached entry
    | .directory, .ok _ => above
    | _, _ => above.put (place ++ [name]) entry

/-- A file or link, or a directory with all below it, taken away. -/
def uproot (fs : Files) (path : Path) : Files :=
  match fs.walk linkLimit (fs.origin path) path.parent.names, path.names.getLast? with
  | .ok place, some name => fs.erase (place ++ [name])
  | _, _ => fs

end LocaleCatalogue.Files
