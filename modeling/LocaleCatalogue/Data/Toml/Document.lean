import LocaleCatalogue.Data.Toml.Scalar
import LocaleCatalogue.Data.Toml.Table

/-!
# TOML documents

A document is a sequence of lines with entries and headers. An entry adds a value to the table of
the last header; a header opens a table, or adds a table to an array. What is already there is never
replaced.
-/

namespace LocaleCatalogue.Toml

/-- Characters of a name without quotes. -/
def isBareKey (c : Char) : Bool := c.isAlphanum || c = '-' || c = '_'

/-- One name of a path. -/
def keyPart (cs : List Char) : Read Text :=
  match lineString? cs with
  | some found => found.map fun (t, rest) => (Text.ofChars t, rest)
  | none =>
    let name := cs.takeWhile isBareKey
    if name.isEmpty then .error .malformed else .ok (Text.ofChars name, cs.drop name.length)

/-- A path of names with dots between them, and the blanks after it. -/
def key : (fuel : Nat) → List Char → Read KeyPath
  | 0, _ => .error .malformed
  | fuel + 1, cs =>
    match keyPart cs with
    | .error fault => .error fault
    | .ok (name, rest) =>
      match skipBlanks rest with
      | '.' :: more => (key fuel (skipBlanks more)).map fun (names, after) => (name :: names, after)
      | after => .ok ([name], after)

/-- The characters after a comment, if there is one; the line end stays. -/
def skipComment (cs : List Char) : Except Fault (List Char) :=
  match cs with
  | '#' :: rest =>
    if (rest.takeWhile (· ≠ '\n')).any (isIllegal false) then .error .malformed
    else .ok (rest.dropWhile (· ≠ '\n'))
  | _ => .ok cs

/-- The characters after white space, line ends and comments. -/
def skipGaps : (fuel : Nat) → List Char → Except Fault (List Char)
  | 0, cs => .ok cs
  | fuel + 1, cs =>
    match cs.dropWhile isGap with
    | '#' :: rest =>
      match skipComment ('#' :: rest) with
      | .ok after => skipGaps fuel after
      | .error fault => .error fault
    | after => .ok after

/-- A value that is a single token; nothing if there is none. -/
def scalar? (cs : List Char) : Option (Read Value) :=
  match string? cs with
  | some found => some (found.map fun (t, rest) => (.text (Text.ofChars t), rest))
  | none =>
    if "true".toList.isPrefixOf cs then some (.ok (.bool true, cs.drop 4))
    else if "false".toList.isPrefixOf cs then some (.ok (.bool false, cs.drop 5))
    else
      match moment? cs with
      | some found => some found
      | none =>
        match number? cs with
        | some found => some found
        | none => (special? cs).map .ok

/-- Values that are made of others. -/
def isCompound : Value → Bool
  | .list _ => true
  | .table _ => true
  | _ => false

/-- The marks that an entry leaves behind. -/
def marksOf (path : KeyPath) (v : Value) : List Mark := if isCompound v then [⟨.frozen, path⟩] else []

/-- A new entry behind a path. -/
def insertAt (throughLists : Bool) (path : KeyPath) (v : Value) (table : Table) : Option Table :=
  match path.getLast? with
  | none => none
  | some name => within throughLists (insertNew name v) path.dropLast table

mutual

/-- A value. -/
def value : (fuel : Nat) → List Char → Read Value
  | 0, _ => .error .malformed
  | fuel + 1, cs =>
    match cs with
    | '[' :: rest => (items fuel rest).map fun (vs, after) => (.list vs, after)
    | '\x7b' :: rest =>
      match skipBlanks rest with
      | '\x7d' :: after => .ok (.table [], after)
      | inside => (members fuel [] [] inside).map fun (table, after) => (.table table, after)
    | _ => (scalar? cs).getD (.error .malformed)

/-- The items of an array after its opening bracket or a comma. -/
def items : (fuel : Nat) → List Char → Read (List Value)
  | 0, _ => .error .malformed
  | fuel + 1, cs =>
    match skipGaps cs.length cs with
    | .error fault => .error fault
    | .ok (']' :: after) => .ok ([], after)
    | .ok inside =>
      match value fuel inside with
      | .error fault => .error fault
      | .ok (v, rest) =>
        match skipGaps rest.length rest with
        | .error fault => .error fault
        | .ok (']' :: after) => .ok ([v], after)
        | .ok (',' :: more) => (items fuel more).map fun (vs, after) => (v :: vs, after)
        | .ok _ => .error .malformed

/-- A path and the value given to it. -/
def entry : (fuel : Nat) → List Char → Read (KeyPath × Value)
  | 0, _ => .error .malformed
  | fuel + 1, cs =>
    match key (cs.length + 1) cs with
    | .error fault => .error fault
    | .ok (path, '=' :: rest) => (value fuel (skipBlanks rest)).map fun (v, after) => ((path, v), after)
    | .ok _ => .error .malformed

/-- The entries of a table on one line, up to its closing brace. -/
def members : (fuel : Nat) → List Mark → Table → List Char → Read Table
  | 0, _, _, _ => .error .malformed
  | fuel + 1, marks, table, cs =>
    match entry fuel cs with
    | .error fault => .error fault
    | .ok ((path, v), rest) =>
      if isMarked marks .frozen path then .error .malformed
      else
        match insertAt false path v table with
        | none => .error .malformed
        | some table =>
          match skipBlanks rest with
          | '\x7d' :: after => .ok (table, after)
          | ',' :: more => members fuel (marksOf path v ++ marks) table (skipBlanks more)
          | _ => .error .malformed

end

/-- A document while it is read: its table, the table of the last header, the marks, and those that
the next header makes. -/
structure Draft where
  table : Table
  header : KeyPath
  marks : List Mark
  pending : List Mark

namespace Draft

/-- The paths of the tables that an entry passes on the way from the header to its own table. -/
def passed (d : Draft) (path : KeyPath) : List KeyPath :=
  (List.range (path.length - 1)).map fun n => d.header ++ path.take (n + 1)

/-- One more entry. -/
def add? (d : Draft) (path : KeyPath) (v : Value) : Option Draft :=
  if (d.passed path).any (isMarked d.marks .opened) then none
  else if isMarked d.marks .frozen (d.header ++ path.dropLast) then none
  else
    (insertAt true (d.header ++ path) v d.table).map fun table =>
      { d with
        table
        marks := marksOf (d.header ++ path) v ++ d.marks
        pending := (d.passed path).map (⟨.opened, ·⟩) ++ d.pending }

/-- The draft with the marks that a header makes. -/
def settled (d : Draft) : Draft := { d with marks := d.pending ++ d.marks, pending := [] }

/-- The header of a table. -/
def open? (d : Draft) (path : KeyPath) : Option Draft :=
  if isMarked d.marks .opened path || isMarked d.marks .frozen path then none
  else
    (within true some path d.table).map fun table =>
      { d with table, header := path, marks := ⟨.opened, path⟩ :: d.marks }

/-- The header of one more table of an array. -/
def append? (d : Draft) (path : KeyPath) : Option Draft :=
  if isMarked d.marks .frozen path then none
  else
    match path.getLast? with
    | none => none
    | some name =>
      (within true (appendTable name) path.dropLast d.table).map fun table =>
        { d with table, header := path, marks := ⟨.opened, path⟩ :: unmark d.marks path }

end Draft

/-- The outcome of a step that may be refused. -/
def orMalformed {α : Type} : Option α → Except Fault α
  | some a => .ok a
  | none => .error .malformed

/-- The header after its opening bracket. -/
def headerStep (d : Draft) (cs : List Char) : Read Draft :=
  match cs with
  | '[' :: rest =>
    match key (rest.length + 1) (skipBlanks rest) with
    | .error fault => .error fault
    | .ok (path, ']' :: ']' :: after) => (orMalformed (d.settled.append? path)).map fun d => (d, after)
    | .ok _ => .error .malformed
  | _ =>
    match key (cs.length + 1) (skipBlanks cs) with
    | .error fault => .error fault
    | .ok (path, ']' :: after) => (orMalformed (d.settled.open? path)).map fun d => (d, after)
    | .ok _ => .error .malformed

/-- An entry or header at the beginning of a line, if there is one. -/
def statement (d : Draft) (cs : List Char) : Read Draft :=
  match cs with
  | [] => .ok (d, [])
  | '[' :: rest => headerStep d rest
  | c :: _ =>
    if c = '#' || c = '\n' then .ok (d, cs)
    else
      match entry (2 * cs.length + 2) cs with
      | .error fault => .error fault
      | .ok ((path, v), after) => (orMalformed (d.add? path v)).map fun d => (d, after)

/-- The lines of a document. -/
def lines : (fuel : Nat) → Draft → List Char → Except Fault Table
  | 0, d, _ => .ok d.table
  | fuel + 1, d, cs =>
    match statement d (skipBlanks cs) with
    | .error fault => .error fault
    | .ok (d, rest) =>
      match skipComment (skipBlanks rest) with
      | .error fault => .error fault
      | .ok [] => .ok d.table
      | .ok ('\n' :: more) => lines fuel d more
      | .ok _ => .error .malformed

/-- A carriage return before a line feed does not count. -/
def unifyLineEnds : List Char → List Char
  | [] => []
  | '\r' :: '\n' :: rest => '\n' :: unifyLineEnds rest
  | c :: rest => c :: unifyLineEnds rest

/-- The table of a document. -/
def read (text : List Char) : Except Fault Table :=
  let cs := unifyLineEnds text
  lines (cs.length + 1) ⟨[], [], [], []⟩ cs

end LocaleCatalogue.Toml
