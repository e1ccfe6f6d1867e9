import LocaleCatalogue.Catalogue.Complaint
import LocaleCatalogue.Files.Glob
import LocaleCatalogue.Script.Grammar
import LocaleCatalogue.Syntax.Literal

/-!
# Failures of the analyses

Why no catalogue comes out. Most failures are complaints about one file or path. The others come
from looking: a path that the file system does not take, a key whose code point is out of range, a
pattern that is none.
-/

namespace LocaleCatalogue

/-- Why the text of a file cannot be had. -/
inductive AccessFault where
  | obstacle (path : Path) (cause : Files.Obstacle)
  | malformed (cause : Utf8.Malformed)
deriving DecidableEq, Repr

/-- What is said about a text that cannot be had. -/
def AccessFault.message : AccessFault → Text
  | .obstacle path cause => (Files.Fault.obstacle cause).message path
  | .malformed cause => cause.message

/-- Why an analysis fails. -/
inductive Failure where
  | access (path : Text) (cause : AccessFault)
  | rejected (path : Text) (dialect : Script.Dialect) (diagnosis : String)
  | notADirectory (path : Path)
  | lookup (path : Path) (cause : Files.Fault)
  | literal (cause : Syntax.Fault)
  | pattern (cause : Glob.Fault)
deriving DecidableEq, Repr

/-- The complaint about a failure, if it is one that is explained to the user. -/
def Failure.complaint? : Failure → Option Complaint
  | .access path cause => some (.fileAccess path cause.message)
  | .rejected path dialect diagnosis => some (.parsing path dialect.name diagnosis)
  | .notADirectory path => some (.invalidPath path.toText "not a directory")
  | _ => none

end LocaleCatalogue
