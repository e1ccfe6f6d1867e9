import LocaleCatalogue.Path.Basic
import LocaleCatalogue.Text.Utf8

/-!
# File systems

A file system says what stands at each absolute place: octets, a directory, or a symbolic link to a
path. It also knows the working directory, where relative paths begin, and which files may not be
read. The root is always a directory, and every directory may be listed and searched: only the
content of a file can be out of reach. Nothing here follows links; that is done by the walk in
`LocaleCatalogue.Files.Walk`.
-/

namespace LocaleCatalogue

/-- An absolute place: the names from the root down. -/
abbrev Place : Type := List Text

/-- What stands at a place. -/
inductive Entry where
  | file (content : Bytes)
  | directory
  | link (target : Text)
deriving DecidableEq, Repr

/-- What stands at places other than the root, the working directory, and the places of regular
files that may not be read. -/
structure Files where
  entries : List (Place × Entry)
  working : Place
  unreadable : List Place := []
deriving DecidableEq, Repr

namespace Files

/-- What stands at a place, if anything does. -/
def entry? (fs : Files) (place : Place) : Option Entry :=
  if place = [] then some .directory
  else (fs.entries.find? fun e => e.1 = place).map Prod.snd

/-- The file system with something else at a place. -/
def put (fs : Files) (place : Place) (entry : Entry) : Files :=
  { fs with entries := (fs.entries.filter fun e => e.1 ≠ place) ++ [(place, entry)] }

/-- The file system without a place and all that lies below it. -/
def erase (fs : Files) (place : Place) : Files :=
  { fs with
    entries := fs.entries.filter fun e => !place.isPrefixOf e.1
    unreadable := fs.unreadable.filter fun p => !place.isPrefixOf p }

/-- The file system where the file at a place may not be read. -/
def forbid (fs : Files) (place : Place) : Files := { fs with unreadable := place :: fs.unreadable }

/-- The names in a directory with what stands under them. -/
def children (fs : Files) (place : Place) : List (Text × Entry) :=
  fs.entries.filterMap fun (p, entry) =>
    match p.getLast? with
    | some name => if p.dropLast = place then some (name, entry) else none
    | none => none

/-- The directories at and below a place, each by its names from there. Links are not followed. -/
def directoriesBelow (fs : Files) (place : Place) : List (List Text) :=
  [] :: fs.entries.filterMap fun (p, entry) =>
    if entry = .directory && place.isPrefixOf p && place.length < p.length then
      some (p.drop place.length)
    else none

/-- The places of all regular files. -/
def filePlaces (fs : Files) : List Place :=
  fs.entries.filterMap fun (p, entry) =>
    match entry with
    | .file _ => some p
    | _ => none

/-- An empty working directory and the directories above it. -/
def empty (working : Place) : Files where
  entries := (List.range working.length).map fun n => (working.take (n + 1), .directory)
  working

theorem mem_filePlaces {fs : Files} {place : Place} {content : Bytes}
    (h : fs.entry? place = some (.file content)) : place ∈ fs.filePlaces := by
  unfold entry? at h
  split at h
  · simp at h
  · obtain ⟨e, found, same⟩ := Option.map_eq_some_iff.1 h
    have here : e.1 = place := by simpa using List.find?_some found
    refine List.mem_filterMap.2 ⟨e, List.mem_of_find?_eq_some found, ?_⟩
    obtain ⟨p, entry⟩ := e
    simp only at same here
    simp [same, here]

end Files

end LocaleCatalogue
