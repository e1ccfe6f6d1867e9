import LocaleCatalogue.Files.Walk

/-!
# Asking about files

The questions that the program asks about a path: is there a regular file, is there a directory, is
there anything, what does the file hold. The first three answer no where nothing can be reached, but
a name that is too long is a fault even for them.
-/

namespace LocaleCatalogue.Files

/-- A regular file of a file system, known by its place. -/
structure Found (fs : Files) where
  place : Place
  content : Bytes
  present : fs.entry? place = some (.file content)

/-- The regular file at a place, if one stands there. -/
def fileAt? (fs : Files) (place : Place) : Option (Found fs) :=
  match h : fs.entry? place with
  | some (.file content) => some ⟨place, content, h⟩
  | _ => none

/-- What a path leads to: a place, or nothing where nothing can be reached. -/
def reach (fs : Files) (path : Path) : Except Fault (Option Place) :=
  match fs.locate path with
  | .ok place => .ok (some place)
  | .error fault => if fault.isAbsence then .ok none else .error fault

/-- The regular file that a path leads to, if it does. -/
def regular? (fs : Files) (path : Path) : Except Fault (Option (Found fs)) :=
  (fs.reach path).map fun reached => reached.bind fs.fileAt?

/-- Whether a path leads to a directory. -/
def isDirectory (fs : Files) (path : Path) : Except Fault Bool :=
  (fs.reach path).map fun reached => reached.any fun place => fs.entry? place = some .directory

/-- Whether a path leads to anything. -/
def isPresent (fs : Files) (path : Path) : Except Fault Bool :=
  (fs.reach path).map Option.isSome

/-- The octets of a regular file, unless it may not be read. -/
def Found.octets {fs : Files} (file : fs.Found) : Except Obstacle Bytes :=
  if fs.unreadable.contains file.place then .error .denied else .ok file.content

/-- The file that a path leads to, whether it may be read or not. -/
def found (fs : Files) (path : Path) : Except Fault (Found fs) :=
  match fs.locate path with
  | .error fault => .error fault
  | .ok place =>
    match fs.fileAt? place with
    | some file => .ok file
    | none => .error (.obstacle .isDirectory)

/-- The file that a path leads to, for reading it. -/
def access (fs : Files) (path : Path) : Except Fault (Found fs) :=
  match fs.found path with
  | .error fault => .error fault
  | .ok file =>
    match file.octets with
    | .error cause => .error (.obstacle cause)
    | .ok _ => .ok file

/-- What a spelling leads to as it is written: a slash at its end asks for a directory, and an empty
one leads to nothing. -/
def locateSpelling (fs : Files) (spelling : Text) : Except Fault Place :=
  match spellingFault? spelling with
  | some fault => .error fault
  | none =>
    if spelling.isEmpty then .error (.obstacle .missing)
    else
      match fs.walk linkLimit (fs.origin (Path.ofText spelling)) (targetNames spelling) with
      | .ok place => .ok place
      | .error cause => .error (.obstacle cause)

end LocaleCatalogue.Files
