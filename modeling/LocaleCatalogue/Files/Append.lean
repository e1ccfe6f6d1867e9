import LocaleCatalogue.Files.Access
import LocaleCatalogue.Path.Spelling

/-!
# Adding to files

A file can be added to wherever a path leads, or where it could lead to a new file. A path that ends
in a link to nothing stands for the file that the link names.
-/

namespace LocaleCatalogue.Files

/-- The place of a file that can be added to: `names` lead from a directory to it. At most `links`
links at the end of the path are followed. -/
def slotBelow (fs : Files) : (links : Nat) → Place → (names : List Text) → Except Obstacle Place
  | 0, _, _ => .error .tooManyLinks
  | links + 1, origin, names =>
    match fs.walk linkLimit origin names.dropLast, names.getLast? with
    | .error cause, _ => .error cause
    | .ok _, none => .error .isDirectory
    | .ok directory, some name =>
      if fs.entry? directory ≠ some .directory then .error .notDirectory
      else if name = Path.here || name = Path.above then .error .isDirectory
      else if nameLimit < size name then .error .nameTooLong
      else
        match fs.entry? (directory ++ [name]) with
        | some .directory => .error .isDirectory
        | some (.link target) =>
          if target.isEmpty then .error .missing
          else
            fs.slotBelow links (if target.head? = some Path.slash then [] else directory)
              (targetNames target)
        | _ => .ok (directory ++ [name])

/-- The place of a file that can be added to, whether it is there already or not. -/
def slot (fs : Files) (path : Path) : Except Fault Place :=
  match spellingFault? path.toText with
  | some fault => .error fault
  | none =>
    match fs.slotBelow (linkLimit + 1) (fs.origin path) path.names with
    | .ok place => .ok place
    | .error cause => .error (.obstacle cause)

/-- The file system with octets added at the end of the file at a place, which is made if nothing is
there. -/
def append (fs : Files) (place : Place) (octets : Bytes) : Files :=
  match fs.entry? place with
  | some (.file content) => fs.put place (.file (content ++ octets))
  | _ => fs.put place (.file octets)

/-- A spelling seen from the working directory, without dots and double dots. -/
def absolute (fs : Files) (spelling : Text) : Path :=
  Path.ofText (Spelling.normalise (Spelling.join ((⟨.root, fs.working⟩ : Path).toText) spelling))

end LocaleCatalogue.Files
