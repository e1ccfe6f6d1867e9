import LocaleCatalogue.Catalogue.Failure
import LocaleCatalogue.Data.Toml.Document
import LocaleCatalogue.Settings.Environment

/-!
# Layers of settings

Settings are put together from layers, the later ones winning: the usual values, the file of the
project, a file that was asked for, the environment, and what the caller says. A layer only speaks
for the fields that it names, and the caller's empty values say nothing.
-/

namespace LocaleCatalogue.Settings

/-- Named values, in order. -/
abbrev Layer : Type := List (Text × Value)

/-- Where settings come from, and what the reader of documents says about a text that is none. -/
structure Sources where
  files : Files
  environment : List (Text × Text)
  chosenFile : Option Text
  overrides : Layer
  diagnosis : List Char → Text

/-- Why settings cannot be had. -/
inductive LoadFault where
  | complaint (cause : Complaint)
  | notADocument (path : Path) (reason : Text)
  | noSection (v : Value)
  | malformed (cause : Utf8.Malformed)
  | integer (cause : Integer.Fault)
  | lookup (path : Path) (cause : Files.Fault)
  | tooLongToShow

/-- The name of the file of a project. -/
def projectFileName : Text := Text.ofString "locale-lens.toml"

/-- The table for settings of all tools. -/
def toolName : Text := Text.ofString "tool"

/-- The table for the settings of this one. -/
def sectionName : Text := Text.ofString "locale-lens"

/-- What is said about a file that does not hold settings. -/
def badFile (path : Path) (reason : Text) : Complaint :=
  .plain ("Invalid config file '" ++ path.toText ++ "': " ++ reason)

/-- The complaint about a fault, if it is one that is explained to the user. -/
def LoadFault.complaint? : LoadFault → Option Complaint
  | .complaint cause => some cause
  | .notADocument path reason => some (badFile path reason)
  | _ => none

/-- One layer over another. -/
def overlay (lower upper : Layer) : Layer :=
  upper.foldl (fun entries (name, v) => Entries.put entries name v) lower

/-- The settings in a document: the section for this tool if there is one, or else the whole
document without the sections of tools. -/
def sectionOf (document : Toml.Table) : Except LoadFault Layer :=
  let whole := document.filter fun (name, _) => name ≠ toolName
  match Entries.find? document toolName with
  | none => .ok whole
  | some (.table tools) =>
    match Entries.find? tools sectionName with
    | some (.table entries) => .ok entries
    | _ => .ok whole
  | some v => .error (.noSection v)

/-- The layer in a file. -/
def fromFile (diagnosis : List Char → Text) (fs : Files) (path : Path) : Except LoadFault Layer :=
  match fs.access path with
  | .error fault => .error (.complaint (badFile path (fault.message path)))
  | .ok file =>
    match Utf8.decode file.content with
    | .error cause => .error (.malformed cause)
    | .ok text =>
      match Toml.read text with
      | .error .malformed => .error (.notADocument path (diagnosis text))
      | .error (.integer cause) => .error (.integer cause)
      | .ok document => sectionOf document

/-- Whether anything stands at a path. -/
def isThere (fs : Files) (path : Path) : Except LoadFault Bool :=
  match fs.isPresent path with
  | .ok found => .ok found
  | .error fault => .error (.lookup path fault)

/-- The path of the file of the project in the working directory. -/
def projectFile (fs : Files) : Path := ⟨.root, fs.working ++ [projectFileName]⟩

/-- The layer of the project, empty if it has no file. -/
def projectLayer (diagnosis : List Char → Text) (fs : Files) : Except LoadFault Layer := do
  if ← isThere fs (projectFile fs) then fromFile diagnosis fs (projectFile fs) else return []

/-- The layer of the file that was asked for, empty if none was. -/
def chosenLayer (diagnosis : List Char → Text) (fs : Files) (chosen : Option Text) :
    Except LoadFault Layer :=
  match chosen with
  | none => .ok []
  | some spelling => do
    let path := Path.ofText spelling
    if ← isThere fs path then fromFile diagnosis fs path
    else .error (.complaint (.plain ("Config file not found: " ++ path.toText)))

/-- The name of a switch that raises the verbosity. -/
def verboseName : Text := Text.ofString "verbose"

/-- The name of a switch that lowers the verbosity. -/
def quietName : Text := Text.ofString "quiet"

/-- The verbosity put in place of one of its switches. -/
def flip (switch : Text) (verbosity : Verbosity) (layer : Layer) : Layer :=
  let rest := layer.filter fun (name, _) => name ≠ switch
  match Entries.find? layer switch with
  | none => rest
  | some v =>
    if v.isFalsy then rest
    else Entries.put rest Field.verbosity.name (.text verbosity.name)

/-- What the caller says: switches as a verbosity, quiet winning, and no empty values. -/
def callerLayer (overrides : Layer) : Layer :=
  (flip quietName .quiet (flip verboseName .verbose overrides)).filter fun (_, v) =>
    match v with
    | .null => false
    | _ => true

/-- All layers in one. -/
def merged (s : Sources) : Except LoadFault Layer := do
  let project ← projectLayer s.diagnosis s.files
  let chosen ← chosenLayer s.diagnosis s.files s.chosenFile
  match fromEnvironment s.environment with
  | .error cause => throw (.complaint cause)
  | .ok environment =>
    return overlay (overlay (overlay project chosen) environment) (callerLayer s.overrides)

/-- The complaint about merged values that are no settings. -/
def complaintAbout (fault : Fault) : Complaint :=
  match fault.complaint? with
  | some complaint => complaint
  | none => .plain ("Invalid configuration: " ++ fault.message)

/-- How loading fails when merged values are no settings. -/
def LoadFault.about : Fault → LoadFault
  | .tooLongToShow => .tooLongToShow
  | fault => .complaint (complaintAbout fault)

/-- The settings from all sources. -/
def load (s : Sources) : Except LoadFault Settings := do
  match ofEntries (← merged s) with
  | .ok settings => return settings
  | .error fault => throw (.about fault)

end LocaleCatalogue.Settings
