import LocaleCatalogue.Path.Basic
import LocaleCatalogue.Text.Integer

/-!
# The command line

A command line names a command and gives it options and positions in any order. An option is written
in full after two hyphens or as a letter after one; letters may be put together, and a value may be
joined to its option or follow it, whatever it looks like. Two hyphens alone end the options. What
does not fit gives no invocation.
-/

namespace LocaleCatalogue.Command

/-- Options without a value. -/
inductive Switch where
  | json
  | verbose
  | quiet
  | help
deriving DecidableEq, Repr

/-- Options with a value. -/
inductive Setting where
  | config
  | workers
  | logFile
deriving DecidableEq, Repr

/-- An option of either kind. -/
inductive Flag where
  | switch (s : Switch)
  | setting (s : Setting)
deriving DecidableEq, Repr

/-- How an option is written: in full, and as a letter. -/
structure Spelled where
  flag : Flag
  full : Text
  letter : Option CodePoint
deriving DecidableEq, Repr

/-- The options of every command. -/
def sharedFlags : List Spelled := [
  ⟨.setting .config, "config", some 0x63⟩, ⟨.setting .workers, "workers", some 0x77⟩,
  ⟨.switch .verbose, "verbose", some 0x76⟩, ⟨.switch .quiet, "quiet", some 0x71⟩,
  ⟨.setting .logFile, "log-file", none⟩, ⟨.switch .help, "help", none⟩]

/-- The options of the command that lists catalogues. -/
def scanFlags : List Spelled := ⟨.switch .json, "json", none⟩ :: sharedFlags

/-- A piece of a command line that has been read. -/
inductive Item where
  | on (s : Switch)
  | value (s : Setting) (t : Text)
  | position (t : Text)
deriving DecidableEq, Repr

/-- What one argument stands for: items, and perhaps an option that still needs its value. -/
abbrev Reading : Type := List Item × Option Setting

/-- A hyphen. -/
def hyphen : CodePoint := 0x2D

/-- Two hyphens. -/
def endOfOptions : Text := [hyphen, hyphen]

/-- The option with a full name. -/
def fullFlag? (flags : List Spelled) (name : Text) : Option Flag :=
  (flags.find? fun f => f.full = name).map Spelled.flag

/-- The option with a letter. -/
def letterFlag? (flags : List Spelled) (letter : CodePoint) : Option Flag :=
  (flags.find? fun f => f.letter = some letter).map Spelled.flag

/-- Reads an option written in full, without its hyphens. -/
def readFull (flags : List Spelled) (body : Text) : Option Reading :=
  let name := body.takeWhile (· ≠ 0x3D)
  let joined := (body.drop name.length).tail?
  match fullFlag? flags name, joined with
  | some (.switch s), none => some ([.on s], none)
  | some (.setting s), some t => some ([.value s t], none)
  | some (.setting s), none => some ([], some s)
  | _, _ => none

/-- Reads letters after a hyphen. The rest after a letter that needs a value is the value. -/
def readLetters (flags : List Spelled) : Text → Option Reading
  | [] => some ([], none)
  | letter :: rest =>
    match letterFlag? flags letter with
    | none => none
    | some (.switch s) => (readLetters flags rest).map fun (items, pending) => (.on s :: items, pending)
    | some (.setting s) => if rest.isEmpty then some ([], some s) else some ([.value s rest], none)

/-- Reads an argument before the end of the options. A hyphen alone is a position. -/
def readArgument (flags : List Spelled) (argument : Text) : Option Reading :=
  match argument with
  | [0x2D] => some ([.position argument], none)
  | 0x2D :: 0x2D :: body => readFull flags body
  | 0x2D :: letters => readLetters flags letters
  | _ => some ([.position argument], none)

/-- Reads arguments; `pending` is an option that still needs its value. -/
def readItems (flags : List Spelled) : (pending : Option Setting) → List Text → Option (List Item)
  | none, [] => some []
  | some _, [] => none
  | some s, t :: rest => (readItems flags none rest).map (.value s t :: ·)
  | none, argument :: rest =>
    if argument = endOfOptions then some (rest.map .position)
    else
      match readArgument flags argument with
      | none => none
      | some (items, pending) => (readItems flags pending rest).map (items ++ ·)

/-- The options of an invocation, with the paths as they are written. -/
structure Options where
  json : Bool
  verbose : Bool
  quiet : Bool
  config : Option Text
  workers : Option Int
  logFile : Option Text
deriving DecidableEq, Repr

/-- What a command line asks for. -/
inductive Invocation where
  | scan (root : Text) (options : Options)
  | locate (name root : Text) (options : Options)
  | help
deriving DecidableEq, Repr

/-- The positions among items. -/
def positions (items : List Item) : List Text :=
  items.filterMap fun
    | .position t => some t
    | _ => none

/-- The value of an option among items, the last one if it is given several times. -/
def valueOf? (items : List Item) (setting : Setting) : Option Text :=
  (items.reverse.findSome? fun
    | .value s t => if s = setting then some t else none
    | _ => none)

/-- A number of workers: an integer, at least one. -/
def workersOf? (t : Text) : Option Int :=
  match Integer.read 10 t with
  | .ok n => if 1 ≤ n then some n else none
  | .error _ => none

/-- The options among items, unless the number of workers is none. -/
def optionsOf? (items : List Item) : Option Options := do
  let workers ← match valueOf? items .workers with
    | none => some none
    | some t => (workersOf? t).map some
  return {
    json := items.contains (.on .json), verbose := items.contains (.on .verbose)
    quiet := items.contains (.on .quiet), config := valueOf? items .config, workers
    logFile := valueOf? items .logFile }

/-- The directory that is searched when none is named. -/
def usualRoot : Text := Path.here

/-- Reads the arguments of the command that lists catalogues. -/
def readScan (arguments : List Text) : Option Invocation := do
  let items ← readItems scanFlags none arguments
  if items.contains (.on .help) then return .help
  let options ← optionsOf? items
  match positions items with
  | [] => return .scan usualRoot options
  | [root] => return .scan root options
  | _ => none

/-- Reads the arguments of the command that finds a key. -/
def readLocate (arguments : List Text) : Option Invocation := do
  let items ← readItems sharedFlags none arguments
  if items.contains (.on .help) then return .help
  let options ← optionsOf? items
  match positions items with
  | [name] => return .locate name usualRoot options
  | [name, root] => return .locate name root options
  | _ => none

/-- The name of the command that lists catalogues. -/
def scanName : Text := Text.ofString "scan"

/-- The name of the command that finds a key. -/
def locateName : Text := Text.ofString "where"

/-- The full name of the option that asks for help, with its hyphens. -/
def helpName : Text := Text.ofString "--help"

/-- Reads a command and its arguments. -/
def readCommand : List Text → Option Invocation
  | [] => none
  | name :: arguments =>
    if name = scanName then readScan arguments
    else if name = locateName then readLocate arguments
    else none

/-- Reads a command line. Two hyphens before the command are passed over. -/
def read (arguments : List Text) : Option Invocation :=
  match arguments with
  | [] => none
  | first :: rest =>
    if first = endOfOptions then readCommand rest
    else if first = helpName then some .help
    else readCommand arguments

end LocaleCatalogue.Command
