import LocaleCatalogue.Text.Quoted

/-!
# Remarks

What the analyses say while they work. A remark is kept as its cause; its level, the part of the
program it comes from and its wording are read off it.
-/

namespace LocaleCatalogue

/-- How loud a remark is. -/
abbrev Level : Type := Int

namespace Level

/-- The level of details. -/
def debug : Level := 10

/-- The level of progress. -/
def info : Level := 20

/-- The level of what may be a mistake in the files. -/
def warning : Level := 30

/-- The level of failures. -/
def error : Level := 40

/-- The level of failures that end the program. -/
def critical : Level := 50

/-- The levels with a name of their own. -/
def names : List (Level × String) := [
  (0, "NOTSET"), (debug, "DEBUG"), (info, "INFO"), (warning, "WARNING"), (error, "ERROR"),
  (critical, "CRITICAL")]

/-- The name of a level. -/
def name (level : Level) : Text :=
  match names.find? fun entry => entry.1 = level with
  | some (_, name) => name
  | none => Text.ofString "Level " ++ Text.ofInt level

end Level

/-- Something said while files are found, read and put together. -/
inductive Remark where
  | noDefaultExport (path : Text)
  | notAnObject (path : Text) (kind : String)
  | skippedProperty (path : Text) (kind : String)
  | reentered (path name target : Text)
  | unboundName (path name : Text)
  | targetMissing (path name specifier : Text)
  | patternMatched (pattern : Text) (count : Nat)
  | parsingFiles (count : Nat)
  | extractedKeys (count : Nat)
deriving DecidableEq, Repr

namespace Remark

/-- How loud a remark is. Only spreads that lead back into a file in progress are worth a warning.
-/
def level : Remark → Level
  | .reentered .. => .warning
  | .parsingFiles _ => .info
  | .extractedKeys _ => .info
  | _ => .debug

/-- The part of the program that a remark comes from. -/
def source : Remark → String
  | .noDefaultExport _ => "scanning.syntax_extractor"
  | .notAnObject .. => "scanning.syntax_extractor"
  | .skippedProperty .. => "scanning.syntax_extractor"
  | .reentered .. => "scanning.syntax_extractor"
  | .unboundName .. => "scanning.resolver"
  | .targetMissing .. => "scanning.resolver"
  | .patternMatched .. => "scanning.discovery"
  | .parsingFiles _ => "aggregator"
  | .extractedKeys _ => "aggregator"

/-- The wording of a remark. -/
def message : Remark → Text
  | .noDefaultExport path => path ++ ": no default export"
  | .notAnObject path kind => path ++ Text.ofString s!": default export is {kind}, not an object literal"
  | .skippedProperty path kind => path ++ Text.ofString s!": skipping {kind} property"
  | .reentered path name target =>
    path ++ ": spread '" ++ name ++ "' re-enters " ++ target
      ++ ", which is already being resolved; skipping"
  | .unboundName path name => path ++ ": no default import binds '" ++ name ++ "'"
  | .targetMissing path name specifier =>
    path ++ ": spread '" ++ name ++ "' from '" ++ specifier ++ "' not found on disk"
  | .patternMatched pattern count =>
    "Pattern " ++ Quoted.encode pattern ++ Text.ofString s!" matched {count} locale files"
  | .parsingFiles count => s!"Parsing {count} locale files"
  | .extractedKeys count => s!"Extracted {count} keys"

end Remark

end LocaleCatalogue
