import LocaleCatalogue.Proofs.Catalogue.Shapes
import LocaleCatalogue.Proofs.Syntax.Transparency
import LocaleCatalogue.Proofs.Text.Utf8

/-!
# Comments do not change a catalogue

Extraction reads trees, so it is as indifferent to comments as the analyses of trees are. Two file
systems whose programs differ in comments only, at places where these change nothing, lead to the
same remarks and to the same keys in the same order, from the same files and on the same lines. Only
columns may differ.
-/

namespace LocaleCatalogue

open Syntax (Node Property Commented)

/-- Two programs differ in comments where these change nothing. -/
def SameProgram (program program' : Node × Bytes) : Prop :=
  Commented .program program.1 program'.1

/-- Two file systems differ in comments where these change nothing: every path leads to programs that
do, or to none in both of them. -/
structure Files.DifferInComments (fs fs' : Files) : Prop where
  shape : fs.SameShape fs'
  programs : ∀ path : Text, EndAlike SameProgram (fs.program path) (fs'.program path)

/-- Two keys are the same, apart from columns. -/
structure Key.Alike (k k' : Key) : Prop where
  name : k'.name = k.name
  location : Syntax.SameLines k.location k'.location
  filePath : k'.filePath = k.filePath
  sourcePath : k'.sourcePath = k.sourcePath

/-- Two findings are none, or keys that are the same in order, apart from columns. -/
abbrev SameFinding : Option (List Key) → Option (List Key) → Prop :=
  Option.Rel (List.Forall₂ Key.Alike)

variable {fs fs' : Files} {origin path : Text} {root root' : Node}

/-- Objects whose properties differ in comments only. -/
def SameProperties (object object' : Node) : Prop :=
  List.Forall₂ (Commented .property) (Syntax.objectProperties object) (Syntax.objectProperties object')

theorem exportedObject?_alike (h : Commented .program root root') :
    Logged.Alike (Option.Rel SameProperties) (exportedObject? path root) (exportedObject? path root') := by
  have hstatement := Syntax.defaultExport?_commented h
  have hkind : ∀ statement, Syntax.defaultExport? root = some statement →
      statement.kind = "export_statement" := fun statement hfound => by
    have := List.find?_some hfound
    rw [Bool.and_eq_true, decide_eq_true_eq] at this
    exact this.1
  rw [exportedObject?, exportedObject?]
  generalize Syntax.defaultExport? root = statement, Syntax.defaultExport? root' = statement'
    at hstatement hkind ⊢
  cases hstatement with
  | none => exact .said (.done .none)
  | @some statement statement' hstatement =>
      have hvalue := Syntax.childByField_commented hstatement "value"
      rw [hkind statement rfl] at hvalue
      dsimp only [Syntax.exportedExpression?]
      generalize statement.childByField "value" = value, statement'.childByField "value" = value'
        at hvalue ⊢
      cases hvalue with
      | none => exact .done .none
      | some hvalue =>
          obtain ⟨hsame, hobject⟩ := Syntax.unwrapped_commented hvalue
          dsimp only [Option.map_some]
          rw [hsame]
          split
          · next hkind => exact .done (.some (hobject hkind))
          · exact .said (.done .none)

theorem ofSyntax_alike {α β : Type} {R : α → β → Prop} {r : Except Syntax.Fault α}
    {r' : Except Syntax.Fault β} (h : EndAlike R r r') : Logged.Alike R (ofSyntax r) (ofSyntax r') := by
  cases h with
  | ok h => exact .done h
  | error => exact .fail

theorem declared_alike (name : Text) {l l' : Location} (h : Syntax.SameLines l l') :
    List.Forall₂ Key.Alike (if name.isEmpty then [] else [Key.declared name l origin path])
      (if name.isEmpty then [] else [Key.declared name l' origin path]) := by
  split
  · exact .nil
  · exact .cons ⟨rfl, h, rfl, rfl⟩ .nil

/-- Properties that are alike contribute keys that are, if the visits that they go on to do. -/
theorem contribution_alike (hfs : fs.DifferInComments fs') (hroot : Commented .program root root')
    {above : List Place} {file : fs.Found} {file' : fs'.Found} (hplace : Files.SamePlace file file')
    (hvisit : ∀ (target : Target fs) (target' : Target fs'), Files.SameTarget target target' →
      Enters fs (file.place :: above) target.path.toText target.file.place →
      Logged.Alike SameFinding (visit fs origin (file.place :: above) target.file target.path.toText)
        (visit fs' origin (file.place :: above) target'.file target.path.toText))
    {property property' : Property} (h : property.Alike property') :
    Logged.Alike (List.Forall₂ Key.Alike) (contribution fs origin above file path root property)
      (contribution fs' origin above file' path root' property') := by
  cases h with
  | identifier hlines => exact .done (declared_alike _ hlines)
  | string hlines => exact .done (declared_alike _ hlines)
  | opaqueKind =>
      rw [contribution, contribution, contributionBy, contributionBy]
      exact .said (.done .nil)
  | @spread name =>
      cases name with
      | none => exact .done List.Forall₂.nil
      | some name =>
          exact spread_alike hfs.shape (Syntax.defaultImport?_commented hroot name) hplace hvisit

/-- Visits to the place of a file are alike in both file systems. -/
def VisitsAlike (fs' : Files) (origin : Text) (above : List Place) (file : fs.Found) (path : Text) : Prop :=
  ∀ file' : fs'.Found, Files.SamePlace file file' →
    Logged.Alike SameFinding (visit fs origin above file path) (visit fs' origin above file' path)

/-- Visits to the same place are alike. The induction is on the visits that a visit goes on to. -/
theorem visit_alike (hfs : fs.DifferInComments fs') {above : List Place} {file : fs.Found}
    (henter : Enters fs above path file.place) : VisitsAlike fs' origin above file path := by
  refine visit_induction (motive := VisitsAlike fs' origin) (fun above file path henter ih => ?_) henter
  intro file' hplace
  have hplace' : fs'.realPlace path = .ok file'.place := by
    rw [Files.realPlace, hfs.shape.locate, hplace]
    exact henter.place_eq
  have hprograms := hfs.programs path
  rw [program_eq_readTree henter.place_eq, program_eq_readTree hplace'] at hprograms
  rw [visit_eq, visit_eq]
  refine .andThen (.ofExcept hprograms) ?_
  rintro ⟨root, source⟩ ⟨root', source'⟩ hprogram
  refine .andThen (exportedObject?_alike hprogram) fun object object' hobject => ?_
  cases hobject with
  | none => exact .done .none
  | some hproperties =>
      refine .andThen (.gather hproperties fun node node' hnode => ?_)
        fun keys keys' hkeys => .done (.some hkeys)
      refine .andThen (ofSyntax_alike (Syntax.ofNode_commented hnode source source')) ?_
      refine fun property property' hproperty => contribution_alike hfs hprogram hplace ?_ hproperty
      exact fun target target' htarget henter => ih target henter target'.file htarget.2

/-- Comments are transparent to extraction where they change nothing. -/
theorem extract_commented (hfs : fs.DifferInComments fs') (path : Text) :
    Logged.Alike SameFinding (extract fs path) (extract fs' path) := by
  have hfound := hfs.shape.found (Path.ofText path)
  rw [extract, extract]
  generalize hhere : fs.found (Path.ofText path) = found, fs'.found (Path.ofText path) = found'
    at hfound ⊢
  cases hfound with
  | ok hplace =>
      exact visit_alike hfs ⟨Files.found_eq_ok_iff.mp hhere, List.not_mem_nil⟩ _ hplace
  | @error fault => cases fault <;> exact .fail

/-! ### Comments in contents -/

/-- Two contents are the same, or in every dialect programs that differ in comments where these change
nothing. -/
inductive SameContent : Bytes → Bytes → Prop
  | same {content : Bytes} : SameContent content content
  | comments {content content' : Bytes} {text text' : List Char} :
      Utf8.decode content = .ok text → Utf8.decode content' = .ok text' →
      (∀ dialect, (Script.parseChars dialect (unifyNewlines text)).flagged = false ∧
        (Script.parseChars dialect (unifyNewlines text')).flagged = false ∧
        Commented .program (Script.parseChars dialect (unifyNewlines text))
          (Script.parseChars dialect (unifyNewlines text'))) →
      SameContent content content'

/-- Programs differ in comments only if the contents of files do. -/
theorem differInComments_of_contents (hshape : fs.SameShape fs')
    (h : ∀ (place : Place) (content content' : Bytes), fs.entry? place = some (.file content) →
      fs'.entry? place = some (.file content') → SameContent content content') :
    fs.DifferInComments fs' := by
  refine ⟨hshape, fun path => ?_⟩
  have hfound := hshape.found (Path.ofText path)
  rw [Files.program, Files.program]
  generalize fs.found (Path.ofText path) = found, fs'.found (Path.ofText path) = found' at hfound ⊢
  cases hfound with
  | @error fault => cases fault <;> exact .error
  | @ok file file' hplace =>
      have hsame : file'.place = file.place := hplace
      have hcontent := h file.place file.content file'.content file.present (hsame ▸ file'.present)
      dsimp only
      simp only [readTree, readText, Files.Found.octets, hshape.unreadable, hsame]
      by_cases hdenied : fs.unreadable.contains file.place = true
      · simp only [hdenied, if_true]
        exact .error
      simp only [if_neg hdenied]
      generalize file.content = content, file'.content = content' at hcontent ⊢
      cases hcontent with
      | same =>
          cases Utf8.decode content with
          | error cause => exact .error
          | ok written =>
              dsimp only
              split
              · exact .error
              · exact .ok (Commented.refl _ _)
      | comments htext htext' hprograms =>
          obtain ⟨haccepted, haccepted', hcommented⟩ := hprograms (dialectOf path)
          simp only [htext, htext', haccepted, haccepted', Bool.false_eq_true, if_false]
          exact .ok hcommented

/-- A module that spreads another one. -/
def importing : List Char := "import b from './b';\nexport default ({ ...b, x: 1 } as T);".toList

/-- The same module with comments. -/
def annotated : List Char :=
  "import /* keys */ b from/**/'./b'; // of b\n".toList ++
    "export/**/default /* ( */ (\x7b/**/...b, x /* : 2 */ : /**/1 /* , */ \x7d /* as U */ as T)/**/;".toList

/-- The module in a project, with the one that it spreads. -/
def importingIn (text : List Char) : Files where
  working := ["w"]
  entries := [
    (["w"], .directory), (["w", "a.ts"], .file (Utf8.encode text)),
    (["w", "b.ts"], .file (Utf8.encode "export default { k: 1 };".toList))]

theorem sameContent_annotated : SameContent (Utf8.encode importing) (Utf8.encode annotated) := by
  refine .comments (Utf8.decode_encode _) (Utf8.decode_encode _) fun dialect => ?_
  cases dialect <;> decide +kernel

theorem differInComments_importingIn {text text' : List Char}
    (h : SameContent (Utf8.encode text) (Utf8.encode text')) :
    (importingIn text).DifferInComments (importingIn text') := by
  have hshape : (importingIn text).SameShape (importingIn text') :=
    ⟨rfl, rfl, .cons ⟨rfl, .directory⟩ (.cons ⟨rfl, .file⟩ (.cons ⟨rfl, .file⟩ .nil))⟩
  refine differInComments_of_contents hshape fun place content content' hhere hhere' => ?_
  have hmem := Files.mem_entries_of_entry? hhere
  have hmem' := Files.mem_entries_of_entry? hhere'
  simp only [importingIn, List.mem_cons, Prod.mk.injEq, reduceCtorEq, and_false, Entry.file.injEq,
    List.not_mem_nil, or_false, false_or] at hmem hmem'
  have hnames : ¬ [("w" : Text), "a.ts"] = ["w", "b.ts"] := by decide
  rcases hmem with ⟨rfl, rfl⟩ | ⟨rfl, rfl⟩
  · rw [(hmem'.resolve_right fun hother => hnames hother.1).2]
    exact h
  · rw [(hmem'.resolve_left fun hother => hnames hother.1.symm).2]
    exact .same

/-- The names of the keys found, with the files that they come from. -/
def sourcesFound (result : Except Failure (Option (List Key))) : Option (List (Text × Text)) :=
  result.toOption.join.map fun keys => keys.map fun k => (k.name, k.sourcePath)

theorem sourcesFound_alike {result result' : Except Failure (Option (List Key))}
    (h : EndAlike SameFinding result result') : sourcesFound result' = sourcesFound result := by
  cases h with
  | error => rfl
  | ok hfinding =>
      cases hfinding with
      | none => rfl
      | some hkeys =>
          refine congrArg some ?_
          dsimp only
          induction hkeys with
          | nil => rfl
          | cons hkey _ ih => rw [List.map_cons, List.map_cons, ih, hkey.name, hkey.sourcePath]

theorem extract_commented_annotated :
    sourcesFound (extract (importingIn annotated) "a.ts").result =
      some [(("k" : Text), ("b.ts" : Text)), (("x" : Text), ("a.ts" : Text))] := by
  have hfs := differInComments_importingIn sameContent_annotated
  rw [sourcesFound_alike (extract_commented hfs "a.ts").result]
  decide +kernel

end LocaleCatalogue
