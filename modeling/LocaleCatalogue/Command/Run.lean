import LocaleCatalogue.Catalogue.Assembly
import LocaleCatalogue.Command.Arguments
import LocaleCatalogue.Data.Json.Writing
import LocaleCatalogue.Files.Append
import LocaleCatalogue.Report.Console
import LocaleCatalogue.Report.Log
import LocaleCatalogue.Settings.Layers

/-!
# Running a command

A command checks the paths among its options, loads the settings, opens its log, puts the catalogue
together and prints what was asked for. It ends in exactly one way, and what it printed until then
stays printed. Nothing here reads or writes: the files and the consoles come in as values, and the
output and the log come out as values.
-/

namespace LocaleCatalogue.Command

/-- What a command works on: the files, the environment, the consoles for its output and for its
complaints, and what the reader of documents says about a text that is none. -/
structure Surroundings where
  files : Files
  environment : List (Text × Text)
  console : Console
  complaints : Console
  diagnosis : List Char → Text

/-- How a command ends. -/
inductive Ending where
  | exit (status : Nat)
  | usage
  | settings (cause : Settings.LoadFault)
  | analysis (cause : Failure)
  | lookup (path : Path) (cause : Files.Fault)
  | markup

/-- A log: where it is kept, and its new lines. -/
structure Log where
  place : Place
  lines : List Text
deriving DecidableEq, Repr

/-- What a command printed, how it ended, and its log if it opened one. -/
structure Outcome where
  output : Text
  ending : Ending
  log : Option Log

/-- A complaint as it is printed; nothing if it cannot be. -/
def printedComplaint (console : Console) (c : Complaint) : Option Text :=
  console.print ("[red]Error:[/red] " ++ c.text)

/-- The complaint that an end is explained with, if it is. -/
def Ending.complaint? : Ending → Option Complaint
  | .settings cause => cause.complaint?
  | .analysis cause => cause.complaint?
  | _ => none

/-- An end whose complaint can be printed; any other complaint ends the command as markup. -/
def Ending.checked (console : Console) (e : Ending) : Ending :=
  match e.complaint? with
  | some complaint => if (printedComplaint console complaint).isSome then e else .markup
  | none => e

/-- The status that a command ends with. -/
def Ending.status : Ending → Nat
  | .exit status => status
  | .usage => 2
  | _ => 1

/-- What is said on the side when a command ends: the complaint, or in a word what went wrong. -/
def Ending.report (console : Console) (e : Ending) : Text :=
  match e.complaint?, e with
  | some complaint, _ => (printedComplaint console complaint).getD []
  | none, .exit _ => []
  | none, .usage => "usage: locale-lens scan [ROOT] | where KEY [ROOT]\n"
  | none, .lookup path cause => cause.message path ++ "\n"
  | none, .markup => "the console cannot print a text\n"
  | none, _ => "the command failed\n"

/-- A part of a command: it goes on with a value, or the command ends. -/
abbrev Step (α : Type) : Type := Except Ending α

/-- Checks that a path, if it is given, leads to no directory, and perhaps that it leads anywhere.
-/
def checkFile (fs : Files) (needed : Bool) (spelling : Option Text) : Step Unit :=
  match spelling with
  | none => .ok ()
  | some t =>
    match fs.locateSpelling t with
    | .ok place => if fs.entry? place = some .directory then .error .usage else .ok ()
    | .error (.obstacle _) => if needed then .error .usage else .ok ()
    | .error fault => .error (.lookup (Path.ofText t) fault)

/-- What the command line says about settings. -/
def overridesOf (options : Options) : Settings.Layer := [
  (Settings.Field.workers.name, match options.workers with
    | some n => .int n
    | none => .null),
  (Settings.verboseName, .bool options.verbose), (Settings.quietName, .bool options.quiet)]

/-- The settings of a command. -/
def loadSettings (w : Surroundings) (options : Options) : Step Settings :=
  match Settings.load ⟨w.files, w.environment, options.config, overridesOf options, w.diagnosis⟩ with
  | .ok settings => .ok settings
  | .error fault => .error ((Ending.settings fault).checked w.complaints)

/-- The place of the log, if there is one. -/
def openLog (fs : Files) (options : Options) : Step (Option Place) :=
  match options.logFile with
  | none => .ok none
  | some spelling =>
    let path := fs.absolute (Path.ofText spelling).toText
    match fs.slot path with
    | .ok place => .ok (some place)
    | .error fault => .error (.lookup path fault)

/-- What is printed about a catalogue, and how the command ends then. -/
abbrev Report : Type := Text × Ending

/-- The whole catalogue as JSON. -/
def jsonReport (locales : List Locale) : Report :=
  (Json.write (.list (locales.map Locale.toValue)) ++ "\n", .exit 0)

/-- A report of what the console shows, if it does. -/
def shown (status : Nat) : Option Text → Report
  | some t => (t, .exit status)
  | none => ([], .markup)

/-- What is printed when there is no file. -/
def nothingFound : Text := Text.ofString "[yellow]No locale files found.[/yellow]"

/-- The columns of the list of catalogues. -/
def scanColumns : List Column := [⟨"Language", false⟩, ⟨"File", false⟩, ⟨"Keys", true⟩]

/-- The cells of a locale; a file without keys is played down. -/
def scanCells (l : Locale) : List Text :=
  [l.language, l.filePath, if l.keys.isEmpty then "[dim]0[/dim]" else Text.ofNat l.keys.length]

/-- The list of catalogues. -/
def tableReport (console : Console) (locales : List Locale) : Report :=
  shown 0 (if locales.isEmpty then console.print nothingFound
    else console.printTable scanColumns (locales.map scanCells))

/-- The line for one place where a key is defined. -/
def placeLine (l : Locale) (k : Key) : Text :=
  "[bold cyan]" ++ l.language ++ "[/bold cyan]\t" ++ k.sourcePath ++ ":" ++ Text.ofInt k.location.startLine
    ++ ":" ++ Text.ofInt (k.location.startColumn + 1)

/-- Prints lines until one cannot be printed. -/
def printAll (console : Console) : List Text → Report
  | [] => ([], .exit 0)
  | line :: rest =>
    match console.printUnbroken line with
    | none => ([], .markup)
    | some t => (t ++ (printAll console rest).1, (printAll console rest).2)

/-- The places where a key is defined. -/
def placesReport (console : Console) (name : Text) (locales : List Locale) : Report :=
  match locales.flatMap fun l => (l.find name).map (placeLine l) with
  | [] =>
    shown 1 (console.print
      ("[yellow]Key '" ++ name ++ "' is not defined in any locale file.[/yellow]"))
  | lines => printAll console lines

/-- Puts the catalogue together and reports about it; the remarks go to the log. -/
def work (w : Surroundings) (settings : Settings) (root : Text) (log : Option Place)
    (report : List Locale → Report) : Outcome :=
  let there := match log with
    | some place => w.files.append place []
    | none => w.files
  let run := (catalogueBelow there settings (Path.ofText root).toText).outcome
  let lines := logLines settings.verbosity (run.remarks.map LogRecord.ofRemark)
  let (output, ending) := match run.result with
    | .ok locales => report locales
    | .error failure => ([], (Ending.analysis failure).checked w.complaints)
  ⟨output, ending, log.map fun place => ⟨place, lines⟩⟩

/-- Everything before the work: checks, settings and the place of the log. -/
def prepare (w : Surroundings) (options : Options) : Step (Settings × Option Place) := do
  checkFile w.files true options.config
  checkFile w.files false options.logFile
  let settings ← loadSettings w options
  let log ← openLog w.files options
  return (settings, log)

/-- Runs a command on the files below a directory. -/
def runOn (w : Surroundings) (root : Text) (options : Options) (report : List Locale → Report) : Outcome :=
  match prepare w options with
  | .error ending => ⟨[], ending, none⟩
  | .ok (settings, log) => work w settings root log report

/-- Runs what a command line asks for. -/
def run (w : Surroundings) (arguments : List Text) : Outcome :=
  match read arguments with
  | none => ⟨[], .usage, none⟩
  | some .help => ⟨[], .exit 0, none⟩
  | some (.scan root options) =>
    runOn w root options (if options.json then jsonReport else tableReport w.console)
  | some (.locate name root options) => runOn w root options (placesReport w.console name)

/-- The files after a command: only the log has grown. -/
def Outcome.filesAfter (o : Outcome) (fs : Files) : Files :=
  match o.log with
  | some log => fs.append log.place (octetsOfLines log.lines)
  | none => fs

end LocaleCatalogue.Command
