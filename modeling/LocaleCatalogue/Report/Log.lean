import LocaleCatalogue.Catalogue.Remark
import LocaleCatalogue.Settings.Basic
import LocaleCatalogue.Text.Utf8

/-!
# The log

The log holds what was said loudly enough. The verbosity sets how loud that is: a quiet program only
logs failures, a verbose one everything. A record that holds surrogates has no written form and is
left out.
-/

namespace LocaleCatalogue

/-- The name that all sources of records begin with. -/
def programName : Text := Text.ofString "locale_lens"

/-- The name of a source without a name of its own. -/
def rootSource : Text := Text.ofString "root"

/-- Something said, by whom, and how loudly. -/
structure LogRecord where
  source : Text
  level : Level
  message : Text
deriving DecidableEq, Repr

/-- The least level that is logged. -/
def Verbosity.threshold : Verbosity → Level
  | .quiet => .error
  | .normal => .warning
  | .verbose => .debug

/-- Whether a level is logged. -/
def Verbosity.admits (verbosity : Verbosity) (level : Level) : Bool := verbosity.threshold ≤ level

namespace LogRecord

/-- A remark as a record. -/
def ofRemark (r : Remark) : LogRecord :=
  ⟨programName ++ "." ++ Text.ofString r.source, r.level, r.message⟩

/-- The written form of a record, without the time. -/
def line (r : LogRecord) : Text :=
  r.level.name.padRight 8 ++ " " ++ (if r.source.isEmpty then rootSource else r.source) ++ ": " ++ r.message

/-- Whether a record has a written form. -/
def isWritable (r : LogRecord) : Bool := !r.line.any CodePoint.isSurrogate

end LogRecord

/-- The lines of a log. -/
def logLines (verbosity : Verbosity) (records : List LogRecord) : List Text :=
  (records.filter fun r => verbosity.admits r.level && r.isWritable).map LogRecord.line

/-- The octets of lines. -/
def octetsOfLines (lines : List Text) : Bytes :=
  lines.flatMap fun line => Utf8.encode ((line ++ [0x0A]).filterMap CodePoint.toChar?)

end LocaleCatalogue
