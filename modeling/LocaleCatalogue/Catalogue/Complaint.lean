import LocaleCatalogue.Data.Value

/-!
# Complaints

A complaint is a refusal that the program explains to its user: a message, and named details that
are shown after it. Complaints fall into kinds, and each kind but the most general one is a case of
another.
-/

namespace LocaleCatalogue

/-- The kinds of complaints. -/
inductive ComplaintKind where
  | general
  | analysis
  | fileAccess
  | parsing
  | configuration
  | invalidPath
  | invalidSetting
deriving DecidableEq, Repr

/-- The kind that a kind is a case of. -/
def ComplaintKind.parent? : ComplaintKind → Option ComplaintKind
  | .general => none
  | .analysis => some .general
  | .fileAccess => some .analysis
  | .parsing => some .analysis
  | .configuration => some .general
  | .invalidPath => some .configuration
  | .invalidSetting => some .configuration

/-- A kind with all kinds that it is a case of, the most general one last. -/
def ComplaintKind.lineage (kind : ComplaintKind) : List ComplaintKind :=
  match kind.parent? with
  | none => [kind]
  | some parent =>
    match parent.parent? with
    | none => [kind, parent]
    | some root => [kind, parent, root]

/-- A refusal with a message and details. -/
structure Complaint where
  kind : ComplaintKind
  message : Text
  details : List (Text × Value)

namespace Complaint

/-- A complaint as it is shown: the message, and the details in parentheses if there are any. -/
def text (c : Complaint) : Text :=
  match c.details with
  | [] => c.message
  | details =>
    c.message ++ " (" ++ Text.join ", " (details.map fun (name, v) => name ++ "=" ++ v.shown) ++ ")"

/-- A file that cannot be read. -/
def fileAccess (path reason : Text) : Complaint :=
  ⟨.fileAccess, "Cannot access file: " ++ path, [("filepath", .text path), ("reason", .text reason)]⟩

/-- A file whose source is not valid in its dialect. -/
def parsing (path dialect reason : Text) : Complaint :=
  ⟨.parsing, "Failed to parse " ++ dialect ++ " file: " ++ path,
    [("filepath", .text path), ("language", .text dialect), ("reason", .text reason)]⟩

/-- A path that does not lead to what is needed. -/
def invalidPath (path reason : Text) : Complaint :=
  ⟨.invalidPath, "Invalid path: " ++ path, [("path", .text path), ("reason", .text reason)]⟩

/-- A setting with a value that it cannot have. -/
def invalidSetting (name : Text) (v : Value) (reason : Text) : Complaint :=
  ⟨.invalidSetting, "Invalid configuration for " ++ name ++ ": " ++ v.shown,
    [("key", .text name), ("value", .text v.shown), ("reason", .text reason)]⟩

/-- A complaint without details. -/
def plain (message : Text) : Complaint := ⟨.general, message, []⟩

end Complaint

end LocaleCatalogue
