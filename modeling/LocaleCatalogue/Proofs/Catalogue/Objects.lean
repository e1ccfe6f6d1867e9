import LocaleCatalogue.Proofs.Catalogue.Inlining
import LocaleCatalogue.Proofs.Script.Export

/-!
# Keys of exported JSON objects

A file that exports a JSON object by default has the names of its members as keys, in their order
and with repetitions, except for empty names. Nothing in it is refused, and nothing inside the
values of the members counts.
-/

namespace LocaleCatalogue

open Syntax (Node Property)
open Script (Tree)
open Written (ObjectModule Token)

variable {fs : Files} {origin path : Text} {above : List Place} {file : fs.Found}
  {text : List Char} {tokens : List Token}

/-! ## From the program to the object -/

theorem unwrapped_of_object {n : Node} (h : n.kind = "object") : n.unwrapped = n := by
  have hparentheses : "object" ≠ "parenthesized_expression" := by decide
  have hassertions : Syntax.assertionKinds.contains "object" = false := by decide
  have hself : n.withoutParens = n := by
    cases n
    cases h
    rw [Node.withoutParens, if_neg hparentheses]
  rw [Node.unwrapped, hself, h, hassertions]
  rfl

/-- The statement that exports an object is the default export. -/
theorem defaultExport?_of_isExport {root : Node} {t : Tree} (ht : t.IsExport text tokens)
    (hroot : root.children = [t.place (.ofChars text)]) :
    Syntax.defaultExport? root = some (t.place (.ofChars text)) := by
  obtain ⟨word, keyword, object, hparts, -, hkeyword, -⟩ := ht.parts
  rw [Syntax.defaultExport?, Node.namedChildren, hroot,
    List.filter_cons_of_pos (by rw [Script.place_named, ht.named])]
  refine List.find?_cons_of_pos ?_
  simp [ht.kind, hparts, hkeyword]

/-- What the statement exports is the object. -/
theorem exists_object_of_isExport {t : Tree} (ht : t.IsExport text tokens) :
    ∃ object : Tree, object.IsObject text tokens ∧
      Syntax.exportedExpression? (t.place (.ofChars text)) =
        some (object.place (.ofChars text)) := by
  obtain ⟨word, keyword, object, hparts, hword, -, hkeyword, hrole, hobject⟩ := ht.parts
  refine ⟨object, hobject, ?_⟩
  rw [Syntax.exportedExpression?, Node.childByField, Script.place_children, hparts]
  simp [hword, hkeyword, hrole]

theorem exportedObject?_of_isExport (path : Text) {root : Node} {t : Tree}
    (ht : t.IsExport text tokens) (hroot : root.children = [t.place (.ofChars text)]) :
    ∃ object : Tree, object.IsObject text tokens ∧
      (exportedObject? path root).result = .ok (some (object.place (.ofChars text))) := by
  obtain ⟨object, hobject, hexpression⟩ := exists_object_of_isExport ht
  have hkind : (object.place (.ofChars text)).kind = "object" :=
    (Script.place_kind _ _).trans hobject.kind
  refine ⟨object, hobject, ?_⟩
  simp only [exportedObject?, defaultExport?_of_isExport ht hroot, hexpression, Option.map_some,
    unwrapped_of_object hkind, hkind, if_true]
  rfl

/-- The properties of an object are its pairs, each with the name that it declares. -/
theorem properties_of_isObject {object : Tree} (h : object.IsObject text tokens) :
    List.Forall₂ (fun node token => Property.ofNode node (Utf8.encode text) =
        .ok (.string (Text.ofChars token.name) token.location))
      (Syntax.objectProperties (object.place (.ofChars text))) tokens := by
  have hpairs : ∀ t ∈ object.parts.filter (·.named), t.kind = "pair" := by
    have hboth := h.pairs.imp fun t token hpair => And.intro hpair.kind hpair
    exact ((List.forall₂_and_left _ _).mp hboth).1
  have hproperties : Syntax.objectProperties (object.place (.ofChars text)) =
      (object.parts.filter (·.named)).map (Tree.place (.ofChars text)) := by
    have hnamed : (object.place (.ofChars text)).namedChildren =
        (object.parts.filter (·.named)).map (Tree.place (.ofChars text)) := by
      rw [Node.namedChildren, Script.place_children, List.filter_map]
      simp only [Function.comp_def, Script.place_named]
    rw [Syntax.objectProperties, hnamed]
    refine List.filter_eq_self.mpr fun n hn => ?_
    obtain ⟨t, ht, rfl⟩ := List.mem_map.mp hn
    rw [Script.place_kind, hpairs t ht]
    decide
  rw [hproperties, List.forall₂_map_left_iff]
  exact h.pairs.imp fun t token hpair => hpair.property

/-! ## From the file to its keys -/

/-- A module with an object is a program in every dialect, and its one statement exports the object.
-/
theorem exists_statement_of_objectModule (dialect : Script.Dialect) (m : ObjectModule) :
    (Script.parseChars dialect m.text).flagged = false ∧ ∃ t : Tree, t.IsExport m.text m.tokens ∧
      (Script.parseChars dialect m.text).children = [t.place (.ofChars m.text)] := by
  obtain ⟨t, houtline, hexport⟩ := Script.outlineOf_objectModule dialect m
  have haccepted : (Script.parseChars dialect m.text).flagged = false := by
    rw [Script.parseChars_flagged, houtline]
    rfl
  refine ⟨haccepted, t, hexport, ?_⟩
  rw [Script.parseChars_children haccepted, houtline]
  rfl

/-- A file that holds a module with an object exports the object, and the properties of it declare
the names of the members. -/
theorem exists_export_of_holds {m : ObjectModule} (h : fs.Holds path m.text) :
    ∃ e, fs.exported path = some e ∧
      List.Forall₂ (fun node token => Property.ofNode node e.source =
        .ok (.string (Text.ofChars token.name) token.location)) e.nodes m.tokens := by
  obtain ⟨haccepted, t, hexport, hchildren⟩ := exists_statement_of_objectModule (dialectOf path) m
  have hprogram := program_eq_ok_iff.mpr ⟨m.text, h, rfl, rfl, haccepted⟩
  obtain ⟨object, hobject, hresult⟩ := exportedObject?_of_isExport path hexport hchildren
  refine ⟨⟨Script.parseChars (dialectOf path) m.text, Utf8.encode m.text,
    object.place (.ofChars m.text)⟩, ?_, properties_of_isObject hobject⟩
  rw [Files.exported, hprogram]
  simp only [hresult]

/-- The key of a token in the file at a path. -/
def Written.Token.key (path : Text) (t : Token) : Key :=
  ⟨Text.ofChars t.name, t.location, path, path⟩

/-- The keys of tokens in the file at a path: empty names are left out. -/
def Written.keysOf (path : Text) (tokens : List Token) : List Key :=
  (tokens.filter fun t => t.name ≠ []).map (Token.key path)

theorem keysOf_eq_flatten (path : Text) (tokens : List Token) :
    Written.keysOf path tokens = (tokens.map fun t => Written.keysOf path [t]).flatten := by
  induction tokens with
  | nil => rfl
  | cons t ts ih =>
      rw [List.map_cons, List.flatten_cons, ← ih, ← List.singleton_append (x := t)]
      simp only [Written.keysOf, List.filter_append, List.map_append]

theorem contribution_of_token {e : Export} {node : Node} {token : Token}
    (h : Property.ofNode node e.source =
      .ok (.string (Text.ofChars token.name) token.location)) :
    (nodeContribution fs path above file path e node).result =
      .ok (Written.keysOf path [token]) := by
  refine Logged.andThen_result_eq_ok.mpr ⟨_, ofSyntax_result_eq_ok.mpr h, ?_⟩
  by_cases hempty : token.name = []
  · rw [Written.keysOf, List.filter_cons_of_neg (by simpa using hempty), hempty]
    rfl
  · have hname : (Text.ofChars token.name).isEmpty = false := by
      simpa [Text.ofChars] using hempty
    rw [Written.keysOf, List.filter_cons_of_pos (by simpa using hempty), contribution,
      contributionBy, hname, Key.declared_eq id]
    rfl

/-- Extraction finds the keys of the tokens in a module with an object. -/
theorem extract_of_holds {m : ObjectModule} (h : fs.Holds path m.text) :
    (extract fs path).result = .ok (some (Written.keysOf path m.tokens)) := by
  obtain ⟨e, he, hproperties⟩ := exists_export_of_holds h
  rcases extract_cases fs path with ⟨file, hplace, hvisit⟩ | ⟨failure, hfail, -⟩
  · rw [hvisit, visit_result_eq_some hplace]
    refine ⟨e, he, ?_⟩
    have hparts : List.Forall₂ (fun node part =>
        (nodeContribution fs path [] file path e node).result = .ok part) e.nodes
          (m.tokens.map fun t => Written.keysOf path [t]) := by
      rw [List.forall₂_map_right_iff]
      exact hproperties.imp fun node token hproperty => contribution_of_token hproperty
    rw [Logged.gather_result_of_parts hparts, keysOf_eq_flatten]
  · rw [exists_program_of_exported he] at hfail
    cases hfail

/-- A file that exports a JSON object by default is a program, and its keys are the names of the
object's own members that are not empty, in order and with repetitions. Each key stands where its
name is quoted. -/
theorem extract_objectModule (fs : Files) (path : Text) {file : fs.Found}
    (haccess : fs.access (Path.ofText path) = .ok file) (m : ObjectModule)
    (hcontent : file.content = Utf8.encode m.text) :
    (∀ dialect, (Script.parseChars dialect (unifyNewlines m.text)).flagged = false) ∧
      (extract fs path).result =
        .ok (some (Written.keysOf path (m.tokens.map Token.unified))) ∧
      ∀ t ∈ m.tokens, t.unified.location.cut (Text.ofChars (unifyNewlines m.text)) =
        Text.ofChars (Written.quoted t.letters) := by
  have hholds : fs.Holds path m.unified.text :=
    ⟨file, m.text, haccess, by rw [hcontent, Utf8.decode_encode], m.unify_text.symm⟩
  refine ⟨?_, ?_, ?_⟩
  · intro dialect
    rw [m.unify_text]
    exact (exists_statement_of_objectModule dialect m.unified).1
  · rw [extract_of_holds hholds, m.unify_tokens]
  · intro t ht
    rw [m.unify_text]
    refine (ObjectModule.token_in (t := t.unified) ?_).cut
    rw [m.unify_tokens]
    exact List.mem_map_of_mem ht

/-- An object with repeated and empty names, escapes, an object inside it and line ends of two
characters. -/
def repeated : ObjectModule :=
  let no : Written.Gap := ⟨[], nofun⟩
  let line : Written.Gap := ⟨['\r', '\n', ' '], List.all_iff_forall_prop.mp (by decide)⟩
  let a : Written.Letter := .plain 'a' rfl
  let wide : Written.Letter := .plain '\u20AC' rfl
  let feed : Written.Letter := .short 'n' '\n' (by decide)
  let null : Written.Letter :=
    .coded [('0', 0), ('0', 0), ('0', 0), ('0', 0)] '\x00' (by decide) rfl rfl rfl
  let zero : Written.Digits := ⟨'0', [], List.all_iff_forall_prop.mp (by decide)⟩
  let five : Written.Digits := ⟨'5', [], List.all_iff_forall_prop.mp (by decide)⟩
  let half : Written.Magnitude := ⟨zero, some five, none, fun _ => rfl⟩
  let inner : Written.Object := .filled (.last ⟨no, [wide], no, no, .array
    (.more no (.number true half) no (.last no (.constant .null) no)), no⟩)
  ⟨line, .filled
    (.more ⟨line, [a], no, no, .object inner, line⟩
      (.more ⟨no, [], no, no, .constant .true, no⟩
        (.more ⟨no, [wide, feed, null], line, no, .emptyArray line, no⟩
          (.last ⟨no, [a], no, no, .string [feed], line⟩)))), line⟩

/-- A directory with the object in a file. -/
def repeatedFiles : Files where
  working := ["w"]
  entries := [(["w"], .directory), (["w", "de.tsx"], .file (Utf8.encode repeated.text))]

theorem extract_objectModule_repeated :
    (∀ dialect, (Script.parseChars dialect (unifyNewlines repeated.text)).flagged = false) ∧
      (extract repeatedFiles "de.tsx").result = .ok (some [
        ⟨"a", ⟨3, 1, 3, 4⟩, "de.tsx", "de.tsx"⟩,
        ⟨"\u20AC\n\x00", ⟨4, 10, 4, 21⟩, "de.tsx", "de.tsx"⟩,
        ⟨"a", ⟨6, 3, 6, 6⟩, "de.tsx", "de.tsx"⟩]) := by
  have haccess : repeatedFiles.access (Path.ofText "de.tsx") =
      .ok ⟨["w", "de.tsx"], Utf8.encode repeated.text, by decide⟩ := by rfl
  have h := extract_objectModule repeatedFiles "de.tsx" haccess repeated rfl
  refine ⟨h.1, h.2.1.trans ?_⟩
  decide +kernel

end LocaleCatalogue
