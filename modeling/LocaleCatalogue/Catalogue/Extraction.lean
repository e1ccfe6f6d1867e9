import LocaleCatalogue.Catalogue.Key
import LocaleCatalogue.Catalogue.Language
import LocaleCatalogue.Catalogue.Spread
import LocaleCatalogue.Script.Parse
import LocaleCatalogue.Syntax.Assertion
import LocaleCatalogue.Syntax.Diagnosis
import LocaleCatalogue.Syntax.Property

/-!
# Extraction

The keys of a file are the keys of the object that it exports by default, in order, with the keys of
every spread file in the place of the spread. A file that is being extracted already is not entered
again. This is also why extraction ends: the regular files that are not being extracted become fewer
with every spread that is followed.
-/

namespace LocaleCatalogue

/-- Line ends of every kind as line feeds. -/
def unifyNewlines : List Char → List Char
  | [] => []
  | '\r' :: '\n' :: rest => '\n' :: unifyNewlines rest
  | c :: rest => (if c = '\r' then '\n' else c) :: unifyNewlines rest

/-- The text of a file with its line ends unified, or why it cannot be had. -/
def readText {fs : Files} (path : Text) (file : fs.Found) : Except Failure (List Char) :=
  match file.octets with
  | .error cause => .error (.access path (.obstacle (Path.ofText path) cause))
  | .ok octets =>
    match Utf8.decode octets with
    | .error cause => .error (.access path (.malformed cause))
    | .ok written => .ok (unifyNewlines written)

/-- The syntax tree of a file with the octets that its places count, or why there is none. -/
def readTree {fs : Files} (path : Text) (file : fs.Found) : Except Failure (Syntax.Node × Bytes) :=
  match readText path file with
  | .error failure => .error failure
  | .ok text =>
    let dialect := dialectOf path
    let root := Script.parseChars dialect text
    if root.flagged then .error (.rejected path dialect root.diagnosis)
    else .ok (root, Utf8.encode text)

/-- The object literal that a file exports by default, if it does. -/
def exportedObject? (path : Text) (root : Syntax.Node) : Logged (Option Syntax.Node) := do
  match Syntax.defaultExport? root with
  | none =>
    Logged.say (.noDefaultExport path)
    return none
  | some statement =>
    match (Syntax.exportedExpression? statement).map Syntax.Node.unwrapped with
    | none => return none
    | some expression =>
      if expression.kind = "object" then return some expression
      else
        Logged.say (.notAnObject path expression.kind)
        return none

/-- The files among those given that are not in progress. -/
def idle (files active : List Place) : List Place := files.filter fun q => !active.contains q

/-- More files in progress leave no more idle ones. -/
theorem idle_cons_length_le (files active : List Place) (place : Place) :
    (idle files (place :: active)).length ≤ (idle files active).length := by
  simp only [idle, ← List.countP_eq_length_filter]
  refine List.countP_mono_left fun q _ h => ?_
  simp_all

/-- Files that are not yet being extracted become fewer when one of them is. -/
theorem idle_cons_length_lt {files active : List Place} {place : Place} (present : place ∈ files)
    (absent : active.contains place = false) :
    (idle files (place :: active)).length < (idle files active).length := by
  induction files with
  | nil => simp at present
  | cons q files ih =>
    unfold idle at ih ⊢
    by_cases same : q = place
    · subst same
      have := idle_cons_length_le files active q
      rw [List.filter_cons_of_neg (by simp), List.filter_cons_of_pos (by simpa using absent)]
      exact Nat.lt_succ_of_le this
    · have := ih ((List.mem_cons.1 present).resolve_left fun h => same h.symm)
      by_cases hq : q ∈ active
      · rwa [List.filter_cons_of_neg (by simp [hq]), List.filter_cons_of_neg (by simp [hq])]
      · rw [List.filter_cons_of_pos (by simp [hq, same]), List.filter_cons_of_pos (by simp [hq])]
        exact Nat.succ_lt_succ this

/-- The keys of a file on the way from the files that lead to it. `origin` is the path that was
asked for, `path` the one that leads to this file, and `above` holds the places of the files in
progress. Nothing comes out if the file exports no object. -/
def visit (fs : Files) (origin : Text) (above : List Place) (file : fs.Found) (path : Text) :
    Logged (Option (List Key)) := do
  let (root, source) ← Logged.ofExcept (readTree path file)
  match ← exportedObject? path root with
  | none => return none
  | some object =>
    let keys ← Logged.gather
      (fun node => do
        match ← ofSyntax (Syntax.Property.ofNode node source) with
        | .identifier name location =>
          return if name.isEmpty then [] else [Key.declared name location origin path]
        | .string name location =>
          return if name.isEmpty then [] else [Key.declared name location origin path]
        | .opaqueKind kind =>
          Logged.say (.skippedProperty path kind)
          return []
        | .spread none => return []
        | .spread (some name) =>
          match ← spreadTarget? fs path name root with
          | none => return []
          | some target =>
            if _busy : (file.place :: above).contains target.file.place then
              Logged.say (.reentered path name target.path.toText)
              return []
            else
              let found ← visit fs origin (file.place :: above) target.file target.path.toText
              return found.getD [])
      (Syntax.objectProperties object)
    return some keys
termination_by (idle fs.filePlaces (file.place :: above)).length
decreasing_by
  exact idle_cons_length_lt (Files.mem_filePlaces target.file.present) (Bool.eq_false_iff.2 ‹_›)

/-- The keys of the file at a path, with the keys of the files that it spreads. Nothing comes out if
the file exports no object. -/
def extract (fs : Files) (path : Text) : Logged (Option (List Key)) :=
  match fs.found (Path.ofText path) with
  | .ok file => visit fs path [] file path
  | .error (.obstacle cause) => .fail (.access path (.obstacle (Path.ofText path) cause))
  | .error fault => .fail (.lookup (Path.ofText path) fault)

end LocaleCatalogue
