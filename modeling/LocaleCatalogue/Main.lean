import LocaleCatalogue.Command.Run
import LocaleCatalogue.Report.Terminal

/-!
# The program

Reads the working directory and what the command line names, runs the command on that picture of the
files, and writes what comes out: the output, the complaint, and the new lines of the log. All
decisions are made by `LocaleCatalogue.Command.run`.
-/

namespace LocaleCatalogue.Program

/-- The string of a text; surrogates have none and are left out. -/
def stringOf (t : Text) : String := String.ofList (t.filterMap CodePoint.toChar?)

/-- The spelling of a place. -/
def spelled (place : Place) : String := stringOf (⟨.root, place⟩ : Path).toText

/-- The place of an absolute spelling. -/
def placeOf (spelling : String) : Place := (Path.ofText (Text.ofString spelling)).names

/-- A picture of the files with the directories above a place. -/
def withAbove (fs : Files) (place : Place) : Files :=
  (List.range place.length).foldl (fun fs n =>
    if (fs.entry? (place.take n)).isSome then fs else fs.put (place.take n) .directory) fs

/-- A picture of the files with everything at and below a place. Links are kept with the place that
they lead to in the end. A file whose octets cannot be had is kept as one that may not be read; a
directory that cannot be listed is left out. -/
partial def withBelow (fs : Files) (place : Place) : IO Files := do
  try
    let path ← IO.FS.realPath (spelled place.dropLast)
    let here := path / stringOf (place.getLastD [])
    let kind := (← here.symlinkMetadata).type
    if kind == .symlink then
      let target := (← IO.FS.realPath here).toString
      return fs.put place (.link (if target = here.toString then [] else Text.ofString target))
    else if kind == .dir then
      let mut fs := if place.isEmpty then fs else fs.put place .directory
      for entry in ← here.readDir do
        fs ← withBelow fs (place ++ [Text.ofString entry.fileName])
      return fs
    else
      match ← (IO.FS.readBinFile here).toBaseIO with
      | .ok octets => return fs.put place (.file octets.toList)
      | .error _ => return (fs.put place (.file [])).forbid place
  catch _ => return fs

/-- A picture of the working directory and of what arguments name. -/
def picture (arguments : List String) : IO Files := do
  let working := placeOf (← IO.currentDir).toString
  let mut fs ← withBelow (Files.empty working) working
  for argument in arguments do
    let place := (fs.absolute (Text.ofString argument)).names
    if (fs.entry? place).isNone then fs ← withBelow (withAbove fs place) place
  return fs

/-- The variables that set fields, with their values. -/
def environment : IO (List (Text × Text)) :=
  Settings.fields.filterMapM fun field => do
    return (← IO.getEnv (stringOf field.variable)).map fun word => (field.variable, Text.ofString word)

/-- How many cells wide the consoles are. -/
def width : IO Nat := return ((← IO.getEnv "COLUMNS").bind String.toNat?).getD 80

/-- What a command works on. About every text that is no document the same is said. -/
def surroundings (arguments : List String) : IO Command.Surroundings := do
  let console := terminal (← width)
  return ⟨← picture arguments, ← environment, console, console, fun _ => "not a valid document"⟩

/-- Adds the new lines of a log to its file. -/
def writeLog (log : Command.Log) : IO Unit :=
  IO.FS.withFile (spelled log.place) .append fun file =>
    file.write (ByteArray.mk (octetsOfLines log.lines).toArray)

/-- Writes what a command printed, its complaint and its log, and gives its status. -/
def finish (complaints : Console) (outcome : Command.Outcome) : IO UInt32 := do
  (← IO.getStdout).putStr (stringOf outcome.output)
  match outcome.log with
  | some log => writeLog log
  | none => pure ()
  (← IO.getStderr).putStr (stringOf (outcome.ending.report complaints))
  return UInt32.ofNat outcome.ending.status

end LocaleCatalogue.Program

/-- Runs the command line. -/
def main (arguments : List String) : IO UInt32 := do
  let surroundings ← LocaleCatalogue.Program.surroundings arguments
  LocaleCatalogue.Program.finish surroundings.complaints
    (LocaleCatalogue.Command.run surroundings (arguments.map LocaleCatalogue.Text.ofString))
