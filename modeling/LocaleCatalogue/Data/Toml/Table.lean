import LocaleCatalogue.Data.Value

/-!
# Growing TOML tables

A document builds nested tables step by step. Marks remember which tables a header has opened and
which values were written in one piece, because neither may be opened or extended again. An array of
tables is entered through its last table.
-/

namespace LocaleCatalogue.Toml

/-- A table under construction. -/
abbrev Table : Type := List (Text × Value)

/-- The names that lead to a table or value. -/
abbrev KeyPath : Type := List Text

/-- Changes the table behind a path, which is made as far as it is missing. Nothing comes out if a
value stands in the way or the change fails. -/
def within (throughLists : Bool) (change : Table → Option Table) : KeyPath → Table → Option Table
  | [], table => change table
  | name :: rest, table =>
    match Entries.find? table name with
    | none =>
      (within throughLists change rest []).map fun inner => Entries.put table name (.table inner)
    | some (.table inner) =>
      (within throughLists change rest inner).map fun inner => Entries.put table name (.table inner)
    | some (.list items) =>
      match throughLists, items.getLast? with
      | true, some (.table inner) =>
        (within throughLists change rest inner).map fun inner =>
          Entries.put table name (.list (items.dropLast ++ [.table inner]))
      | _, _ => none
    | some _ => none

/-- A new entry of a table. -/
def insertNew (name : Text) (v : Value) (table : Table) : Option Table :=
  if (Entries.find? table name).isSome then none else some (Entries.put table name v)

/-- A new empty table at the end of an array of tables. -/
def appendTable (name : Text) (table : Table) : Option Table :=
  match Entries.find? table name with
  | none => some (Entries.put table name (.list [.table []]))
  | some (.list items) => some (Entries.put table name (.list (items ++ [.table []])))
  | some _ => none

/-- What a mark forbids: opening a table again, or changing anything at or below a value. -/
inductive MarkKind where
  | opened
  | frozen
deriving DecidableEq, Repr

/-- A mark at a path. -/
structure Mark where
  kind : MarkKind
  path : KeyPath
deriving DecidableEq, Repr

/-- Whether a path is marked. Frozen values forbid everything below them too. -/
def isMarked (marks : List Mark) (kind : MarkKind) (path : KeyPath) : Bool :=
  !path.isEmpty && marks.any fun m =>
    m.kind = kind && (m.path = path || (kind = .frozen && m.path.isPrefixOf path))

/-- The marks without those at and below a path. -/
def unmark (marks : List Mark) (path : KeyPath) : List Mark :=
  marks.filter fun m => !path.isPrefixOf m.path

end LocaleCatalogue.Toml
