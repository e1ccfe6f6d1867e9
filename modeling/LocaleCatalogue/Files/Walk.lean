import LocaleCatalogue.Files.Basic
import LocaleCatalogue.Text.Quoted

/-!
# Walking a path

A walk goes down from a directory name by name. Double dots go up to the directory that was really
reached, links are followed, at most forty of them, and only directories are passed through. A walk
that ends well ends at a place, and one place has one real path, so places can stand for files. Since
every directory may be searched, a walk is never denied; only reading a file can be.
-/

namespace LocaleCatalogue.Files

/-- Why a walk or an access fails. -/
inductive Obstacle where
  | missing
  | denied
  | notDirectory
  | isDirectory
  | nameTooLong
  | tooManyLinks
deriving DecidableEq, Repr

/-- Why the file at a path cannot be had: an obstacle, or a spelling that no file system takes. -/
inductive Fault where
  | obstacle (cause : Obstacle)
  | embeddedNull
  | surrogates (first : CodePoint) (start stop : Nat)
deriving DecidableEq, Repr

/-- The number of an obstacle. -/
def Obstacle.number : Obstacle → Nat
  | .missing => 2
  | .denied => 13
  | .notDirectory => 20
  | .isDirectory => 21
  | .nameTooLong => 36
  | .tooManyLinks => 40

/-- What an obstacle is called. -/
def Obstacle.description : Obstacle → String
  | .missing => "No such file or directory"
  | .denied => "Permission denied"
  | .notDirectory => "Not a directory"
  | .isDirectory => "Is a directory"
  | .nameTooLong => "File name too long"
  | .tooManyLinks => "Too many levels of symbolic links"

/-- What is said about a fault at a path. -/
def Fault.message (path : Path) : Fault → Text
  | .obstacle cause =>
    Text.ofString s!"[Errno {cause.number}] {cause.description}: " ++ Quoted.encode path.toText
  | .embeddedNull => "embedded null byte"
  | .surrogates first start stop =>
    if start + 1 = stop then
      "'utf-8' codec can't encode character '" ++ Quoted.escape 0x27 first
        ++ Text.ofString s!"' in position {start}: surrogates not allowed"
    else
      Text.ofString s!"'utf-8' codec can't encode characters in position {start}-{stop - 1}: "
        ++ "surrogates not allowed"

/-- Faults that only mean that nothing of the kind is there. -/
def Fault.isAbsence : Fault → Bool
  | .obstacle .missing => true
  | .obstacle .notDirectory => true
  | .obstacle .tooManyLinks => true
  | .embeddedNull => true
  | .surrogates .. => true
  | _ => false

/-- Surrogates that stand for a single octet of a name that is not UTF-8. -/
def isOctet (c : CodePoint) : Bool := 0xDC80 ≤ c.val && c.val ≤ 0xDCFF

/-- How many octets a code point of a name takes. -/
def nameOctets (c : CodePoint) : Nat := if isOctet c then 1 else (Utf8.encodeValue c.val).length

/-- How many octets a name or path takes. -/
def size (t : Text) : Nat := t.foldl (fun octets c => octets + nameOctets c) 0

/-- The longest name, in octets. -/
def nameLimit : Nat := 255

/-- The longest path, in octets. -/
def pathLimit : Nat := 4095

/-- How many links a walk may follow. -/
def linkLimit : Nat := 40

/-- The first run of surrogates that no name can hold: from the first one that stands for no octet
up to the end of the surrogates. -/
def surrogateFault? : (position : Nat) → Text → Option Fault
  | _, [] => none
  | position, c :: rest =>
    if c.isSurrogate && !isOctet c then
      some (.surrogates c position
        (position + 1 + (rest.takeWhile CodePoint.isSurrogate).length))
    else surrogateFault? (position + 1) rest

/-- What is wrong with a spelling before any name is looked up. -/
def spellingFault? (spelling : Text) : Option Fault :=
  match surrogateFault? 0 spelling with
  | some fault => some fault
  | none =>
    if spelling.contains 0 then some .embeddedNull
    else if pathLimit < size spelling then some (.obstacle .nameTooLong)
    else none

/-- The names to walk for the target of a link. A slash at the end asks for a directory. -/
def targetNames (target : Text) : List Text :=
  (Text.splitOn Path.slash target).filter (!·.isEmpty)
    ++ (if target.getLast? = some Path.slash then [Path.here] else [])

/-- Goes down name by name from a directory; `follow` takes over at a link, with the directory that
holds it, its target and the names after it. -/
def descend (fs : Files) (follow : Place → Text → List Text → Except Obstacle Place) :
    Place → List Text → Except Obstacle Place
  | place, [] => .ok place
  | place, name :: rest =>
    if name = Path.here then descend fs follow place rest
    else if name = Path.above then descend fs follow place.dropLast rest
    else if nameLimit < size name then .error .nameTooLong
    else
      match fs.entry? (place ++ [name]) with
      | none => .error .missing
      | some (.file _) => if rest.isEmpty then .ok (place ++ [name]) else .error .notDirectory
      | some .directory => descend fs follow (place ++ [name]) rest
      | some (.link target) => follow place target rest

/-- Goes down from a directory and follows at most `links` links. -/
def walk (fs : Files) : (links : Nat) → Place → List Text → Except Obstacle Place
  | 0 => fs.descend fun _ _ _ => .error .tooManyLinks
  | links + 1 => fs.descend fun place target rest =>
    if target.isEmpty then .error .missing
    else fs.walk links (if target.head? = some Path.slash then [] else place) (targetNames target ++ rest)

/-- Where walks along a path begin. -/
def origin (fs : Files) (path : Path) : Place :=
  match path.anchor with
  | .relative => fs.working
  | _ => []

/-- The place that a path leads to. -/
def locate (fs : Files) (path : Path) : Except Fault Place :=
  match spellingFault? path.toText with
  | some fault => .error fault
  | none =>
    match fs.walk linkLimit (fs.origin path) path.names with
    | .ok place => .ok place
    | .error cause => .error (.obstacle cause)

end LocaleCatalogue.Files
