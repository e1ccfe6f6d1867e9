import LocaleCatalogue.Catalogue.Complaint

/-!
# Settings

Settings are checked once, when they are put together from named values. Patterns are lists of texts
and at least one file pattern is needed; the number of workers is left open or at least one; the
verbosity is one of three. Whether hidden files count may be any value, which is read as a switch.
The checks come in a fixed order, so of several faults the same one is always reported.
-/

namespace LocaleCatalogue

/-- How much is said while the program works. -/
inductive Verbosity where
  | quiet
  | normal
  | verbose
deriving DecidableEq, Repr

namespace Verbosity

/-- The name of a verbosity. -/
def name : Verbosity → String
  | .quiet => "quiet"
  | .normal => "normal"
  | .verbose => "verbose"

/-- The verbosities. -/
def all : List Verbosity := [.quiet, .normal, .verbose]

/-- The verbosity with a name. -/
def named? (t : Text) : Option Verbosity := all.find? fun v => Text.ofString v.name = t

end Verbosity

/-- Checked settings. The number of workers is nothing if it is left open. -/
structure Settings where
  localePatterns : List Text
  excludePatterns : List Text
  workers : Value
  allowHiddenFiles : Value
  verbosity : Verbosity

namespace Settings

/-- The fields of settings. -/
inductive Field where
  | localePatterns
  | excludePatterns
  | workers
  | allowHiddenFiles
  | verbosity
deriving DecidableEq, Repr

/-- The fields in the order of their declaration. -/
def fields : List Field := [.localePatterns, .excludePatterns, .workers, .allowHiddenFiles, .verbosity]

/-- The name of a field. -/
def Field.name : Field → Text
  | .localePatterns => "locale_patterns"
  | .excludePatterns => "exclude_patterns"
  | .workers => "workers"
  | .allowHiddenFiles => "allow_hidden_files"
  | .verbosity => "verbosity"

/-- The field with a name. -/
def fieldNamed? (name : Text) : Option Field := fields.find? fun f => f.name = name

/-- The file patterns when none are given. -/
def defaultLocalePatterns : List Text :=
  ["**/locales/*.ts", "**/locales/*.js", "**/locales/*/index.ts", "**/locales/*/index.js"].map
    Text.ofString

/-- The patterns of paths that are left out when none are given. -/
def defaultExcludePatterns : List Text :=
  ["node_modules/*", "*/node_modules/*", "dist/*", "build/*", ".git/*", "*.d.ts", "*.test.ts",
    "*.spec.ts"].map Text.ofString

/-- A list of texts as a value. -/
def textList (ts : List Text) : Value := .list (ts.map .text)

/-- The value of a field when none is given. -/
def Field.default : Field → Value
  | .localePatterns => textList defaultLocalePatterns
  | .excludePatterns => textList defaultExcludePatterns
  | .workers => .null
  | .allowHiddenFiles => .bool false
  | .verbosity => .text "normal"

/-- Why named values are no settings. -/
inductive Fault where
  | unknownField (name : Text)
  | notTexts (field : Field) (v : Value)
  | noPattern
  | noOrder (v : Value)
  | tooFewWorkers (v : Value)
  | unknownVerbosity (v : Value)
  | tooLongToShow

/-- The complaint about a value, if the fault lies in one. -/
def Fault.complaint? : Fault → Option Complaint
  | .notTexts field v => some (.invalidSetting field.name v "expected a list of glob strings")
  | .noPattern =>
    some (.invalidSetting Field.localePatterns.name (.list []) "at least one pattern is required")
  | .tooFewWorkers v => some (.invalidSetting Field.workers.name v "must be at least 1")
  | .unknownVerbosity v =>
    some (.invalidSetting Field.verbosity.name v "expected quiet, normal or verbose")
  | _ => none

/-- The value that is shown when a fault is told. -/
def Fault.value? : Fault → Option Value
  | .notTexts _ v => some v
  | .tooFewWorkers v => some v
  | .unknownVerbosity v => some v
  | _ => none

/-- The fault that comes of telling a fault: a value that cannot be shown takes its place. -/
def Fault.told (fault : Fault) : Fault :=
  match fault.value? with
  | some v => if v.isShowable then fault else .tooLongToShow
  | none => fault

/-- The name that stands for the settings themselves while they are put together. -/
def ownName : Text := Text.ofString "self"

/-- What is said about a fault. -/
def Fault.message : Fault → Text
  | .unknownField name =>
    "LocaleConfig.__init__() got " ++
      (if name = ownName then "multiple values for argument '" else "an unexpected keyword argument '") ++
      name ++ "'"
  | .tooLongToShow =>
    s!"Exceeds the limit ({Integer.digitLimit} digits) for integer string conversion; "
      ++ "use sys.set_int_max_str_digits() to increase the limit"
  | .noOrder v =>
    Text.ofString s!"'<' not supported between instances of '{v.typeName}' and 'int'"
  | fault => (fault.complaint?.map Complaint.text).getD []

/-- The texts of a list of texts. -/
def texts? : Value → Option (List Text)
  | .list items => items.mapM fun
    | .text t => some t
    | _ => none
  | _ => none

/-- Whether a value is a number below one; nothing if the value is no number. -/
def belowOne? : Value → Option Bool
  | .bool b => some !b
  | .int n => some (n < 1)
  | .float x => some (x < 1)
  | _ => none

/-- The number of workers, checked. -/
def checkWorkers (v : Value) : Except Fault Value :=
  match v with
  | .null => .ok v
  | _ =>
    match belowOne? v with
    | none => .error (.noOrder v)
    | some true => .error (.tooFewWorkers v)
    | some false => .ok v

/-- A list of patterns, checked. -/
def checkPatterns (field : Field) (v : Value) : Except Fault (List Text) :=
  match texts? v with
  | some ts => .ok ts
  | none => .error (.notTexts field v)

/-- The verbosity, checked. -/
def checkVerbosity (v : Value) : Except Fault Verbosity :=
  match v with
  | .text t =>
    match Verbosity.named? t with
    | some verbosity => .ok verbosity
    | none => .error (.unknownVerbosity v)
  | _ => .error (.unknownVerbosity v)

/-- The value given for a field, or the usual one. -/
def given (entries : List (Text × Value)) (field : Field) : Value :=
  (Entries.find? entries field.name).getD field.default

/-- The first name that is not the name of a field. -/
def unknownName? (entries : List (Text × Value)) : Option Text :=
  (entries.map Prod.fst).find? fun name => (fieldNamed? name).isNone

/-- Named values, checked in order. -/
def check (entries : List (Text × Value)) : Except Fault Settings := do
  match unknownName? entries with
  | some name => throw (.unknownField name)
  | none => pure ()
  let localePatterns ← checkPatterns .localePatterns (given entries .localePatterns)
  let excludePatterns ← checkPatterns .excludePatterns (given entries .excludePatterns)
  if localePatterns.isEmpty then throw .noPattern
  let workers ← checkWorkers (given entries .workers)
  let verbosity ← checkVerbosity (given entries .verbosity)
  return {
    localePatterns, excludePatterns, workers, verbosity
    allowHiddenFiles := given entries .allowHiddenFiles }

/-- Settings from named values, or the fault that comes of telling what is wrong with them. -/
def ofEntries (entries : List (Text × Value)) : Except Fault Settings :=
  (check entries).mapError Fault.told

/-- The settings when nothing is given. -/
def standard : Settings where
  localePatterns := defaultLocalePatterns
  excludePatterns := defaultExcludePatterns
  workers := .null
  allowHiddenFiles := .bool false
  verbosity := .normal

/-- Whether hidden files count. -/
def showsHidden (s : Settings) : Bool := !s.allowHiddenFiles.isFalsy

/-- The size of the pool: the number of workers, or else one for each processor, at most eight. Four
processors are assumed if their number is not known. -/
def maxWorkers (settings : Settings) (processors : Option Nat) : Value :=
  match settings.workers with
  | .null =>
    let known := processors.getD 0
    .int (min (if known = 0 then 4 else known) 8 : Nat)
  | v => v

end Settings

end LocaleCatalogue
