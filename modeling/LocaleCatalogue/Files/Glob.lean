import LocaleCatalogue.Files.Access
import LocaleCatalogue.Path.Pattern

/-!
# Path patterns

A path pattern selects paths below a directory name by name. A name without wildcards is looked up
as it is, so double dots and links work; a name with wildcards is compared with what the directory
holds; two stars stand for the directory and all directories below it, links not followed. Every
name but the last has to lead to a directory, and a slash at the end asks the same of the last one.
-/

namespace LocaleCatalogue

/-- One name of a path pattern. -/
inductive GlobName where
  | exactly (name : Text)
  | wild (pattern : Text)
  | anyDepth
deriving DecidableEq, Repr

/-- A path pattern: its names, and whether it asks for directories. -/
structure Glob where
  names : List GlobName
  directory : Bool
deriving DecidableEq, Repr

namespace Glob

/-- Why a text is no path pattern. -/
inductive Fault where
  | empty
  | anchored
  | onlyDots
  | onlyDirectory
  | partialStars
deriving DecidableEq, Repr

/-- What is said about a text that is no path pattern. -/
def Fault.message : Fault → String
  | .empty => "Unacceptable pattern: ''"
  | .anchored => "Non-relative patterns are unsupported"
  | .onlyDots => "tuple index out of range"
  | .onlyDirectory => "'_TerminatingSelector' object has no attribute 'select_from'"
  | .partialStars => "Invalid pattern: '**' can only be an entire path component"

/-- Two stars. -/
def stars : Text := Text.ofString "**"

/-- Reads one name of a pattern. -/
def readName (name : Text) : Except Fault GlobName :=
  if name = stars then .ok .anyDepth
  else if Text.hasPart stars name then .error .partialStars
  else if name.isWildcard then .ok (.wild name)
  else .ok (.exactly name)

/-- Reads a path pattern. -/
def read (pattern : Text) : Except Fault Glob :=
  let path := Path.ofText pattern
  let directory : Bool := pattern.getLast? = some Path.slash
  if pattern.isEmpty then .error .empty
  else if path.anchor ≠ .relative then .error .anchored
  else if path.names.isEmpty then .error (if directory then .onlyDirectory else .onlyDots)
  else (path.names.mapM readName).map fun names => ⟨names, directory⟩

/-- An answer about paths, or the path that cannot be asked about. -/
abbrev Answer (α : Type) : Type := Except (Path × Files.Fault) α

/-- The answer of a file system about one path. -/
def about {α : Type} (path : Path) : Except Files.Fault α → Answer α
  | .ok a => .ok a
  | .error fault => .error (path, fault)

/-- Whether what is listed under a path counts. Only links have to be followed to tell a directory. -/
def counts (fs : Files) (onlyDirectories : Bool) (path : Path) (entry : Entry) : Answer Bool :=
  if onlyDirectories then
    match entry with
    | .link _ => about path (fs.isDirectory path)
    | _ => .ok (entry = .directory)
  else .ok true

/-- The paths in a directory whose names a wildcard matches. Where the pattern goes on, only
directories count, also those behind links, and all that the directory holds is asked before its name
is compared. -/
def matching (fs : Files) (pattern : Text) (onlyDirectories : Bool) (directory : Path) :
    Answer (List Path) :=
  match about directory (fs.reach directory) with
  | .error failed => .error failed
  | .ok none => .ok []
  | .ok (some place) =>
    (fs.children place).filterMapM fun (name, entry) =>
      (counts fs onlyDirectories (directory.child name) entry).map fun yes =>
        if yes && name.matchesPattern pattern then some (directory.child name) else none

/-- A directory and the directories below it. -/
def depths (fs : Files) (directory : Path) : Answer (List Path) :=
  (about directory (fs.reach directory)).map fun
    | none => []
    | some place =>
      (fs.directoriesBelow place).map fun below => { directory with names := directory.names ++ below }

/-- The paths that one name selects in a directory. -/
def step (fs : Files) (name : GlobName) (onlyDirectories : Bool) (directory : Path) :
    Answer (List Path) :=
  match name with
  | .exactly name =>
    let path := directory.child name
    (about path (if onlyDirectories then fs.isDirectory path else fs.isPresent path)).map fun yes =>
      if yes then [path] else []
  | .wild pattern => matching fs pattern onlyDirectories directory
  | .anyDepth => depths fs directory

/-- The paths that names select below a directory, with repetitions. -/
def selectNames (fs : Files) (onlyDirectories : Bool) : List GlobName → Path → Answer (List Path)
  | [], path => .ok [path]
  | name :: rest, path =>
    match step fs name (onlyDirectories || !rest.isEmpty) path with
    | .error failed => .error failed
    | .ok paths => (paths.mapM (selectNames fs onlyDirectories rest)).map List.flatten

/-- The paths that a pattern selects below a directory; none if there is no such directory. -/
def select (fs : Files) (glob : Glob) (directory : Path) : Answer (List Path) :=
  match about directory (fs.isDirectory directory) with
  | .error failed => .error failed
  | .ok false => .ok []
  | .ok true => (selectNames fs glob.directory glob.names directory).map List.eraseDups

end Glob

end LocaleCatalogue
