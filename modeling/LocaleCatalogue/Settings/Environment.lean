import LocaleCatalogue.Settings.Basic
import LocaleCatalogue.Text.Integer

/-!
# Settings from the environment

A field may be set by an environment variable, as far as its values can be written in one word:
switches, integers and texts can, lists cannot and are passed over.
-/

namespace LocaleCatalogue.Settings

/-- What the word for a field is read as. -/
inductive Reading where
  | switch
  | integer
  | text
  | nothing
deriving DecidableEq, Repr

/-- How the word for a field is read. -/
def Field.reading : Field → Reading
  | .localePatterns => .nothing
  | .excludePatterns => .nothing
  | .workers => .integer
  | .allowHiddenFiles => .switch
  | .verbosity => .text

/-- Why a word cannot be read. -/
inductive WordFault where
  | notASwitch (word : Text)
  | notAnInteger (cause : Integer.Fault)
deriving DecidableEq

/-- What is said about a word that cannot be read. -/
def WordFault.message : WordFault → Text
  | .notASwitch word => "expected true/false, got '" ++ word ++ "'"
  | .notAnInteger cause => cause.message

/-- Words that turn a switch on. -/
def onWords : List Text := ["true", "1", "yes", "on"].map Text.ofString

/-- Words that turn a switch off. -/
def offWords : List Text := ["false", "0", "no", "off"].map Text.ofString

/-- The value of a word; nothing if the word is passed over. -/
def Reading.read (reading : Reading) (word : Text) : Except WordFault (Option Value) :=
  match reading with
  | .switch =>
    if onWords.contains word.asciiLower then .ok (some (.bool true))
    else if offWords.contains word.asciiLower then .ok (some (.bool false))
    else .error (.notASwitch word)
  | .integer =>
    match Integer.read 10 word with
    | .ok n => .ok (some (.int n))
    | .error cause => .error (.notAnInteger cause)
  | .text => .ok (some (.text word))
  | .nothing => .ok none

/-- The beginning of the names of the variables. -/
def variablePrefix : Text := Text.ofString "LOCALE_LENS_"

/-- The variable that sets a field. -/
def Field.variable (field : Field) : Text := variablePrefix ++ field.name.asciiUpper

/-- The values that the environment gives to some fields, in the order of the fields. -/
def fromEnvironmentOf (environment : List (Text × Text)) : List Field →
    Except Complaint (List (Text × Value))
  | [] => .ok []
  | field :: rest =>
    match environment.find? fun entry => entry.1 = field.variable with
    | none => fromEnvironmentOf environment rest
    | some (_, word) =>
      match field.reading.read word with
      | .error fault => .error (.invalidSetting field.variable (.text word) fault.message)
      | .ok found =>
        (fromEnvironmentOf environment rest).map fun entries =>
          (found.map fun v => (field.name, v)).toList ++ entries

/-- The values that the environment gives. -/
def fromEnvironment (environment : List (Text × Text)) : Except Complaint (List (Text × Value)) :=
  fromEnvironmentOf environment fields

end LocaleCatalogue.Settings
