import LocaleCatalogue.Proofs.Script.ImportStatements

/-!
# Programs line by line

A program with one statement on each line is read line by line. An import is read whatever follows its
semicolon; without a semicolon the next line has to leave it complete, and an import and the end of
the text do. The other statements are whatever the parser reads from their line and from nothing else.
-/

namespace LocaleCatalogue

namespace Written

/-- A line of a program: an import or the text of another statement. The text may go over several lines
of its own. -/
inductive Line where
  | imports (i : Import)
  | other (statement : List Char)

/-- The characters of a line. -/
def Line.text : Line → List Char
  | .imports i => i.text
  | .other statement => statement

/-- A program with a statement on each line. -/
def printed (lines : List Line) : List Char := lines.flatMap fun line => line.text ++ ['\n']

/-- The imports of a program. -/
def imported (lines : List Line) : List Import := lines.filterMap fun
  | .imports i => some i
  | .other _ => none

theorem printed_append (lines more : List Line) : printed (lines ++ more) = printed lines ++ printed more :=
  List.flatMap_append

theorem printed_cons (line : Line) (lines : List Line) :
    printed (line :: lines) = line.text ++ '\n' :: printed lines := by
  rw [printed, List.flatMap_cons, List.append_assoc]
  rfl

end Written

namespace Script

open LocaleCatalogue.Script.Parser
open Written (Import Line imported printed printed_append printed_cons)

variable {text : List Char} {g : Grammar} {c d e : Cursor}

/-! ## Places in a text -/

/-- The cursor at an offset of a text. -/
def Cursor.within (text : List Char) (offset : Nat) : Cursor := ⟨offset, text.drop offset⟩

theorem Cursor.within_at {offset : Nat} (h : offset ≤ text.length) : (Cursor.within text offset).At text :=
  ⟨rfl, h⟩

theorem Cursor.within_passes {before cs after : List Char} (h : text = before ++ (cs ++ after)) :
    (Cursor.within text before.length).Passes cs (Cursor.within text (before.length + cs.length)) := by
  refine ⟨?_, rfl⟩
  rw [Cursor.within, Cursor.within, h, List.drop_left, ← List.drop_drop, List.drop_left, List.drop_left]

theorem Cursor.within_rest {before after : List Char} (h : text = before ++ after) :
    (Cursor.within text before.length).rest = after := by
  rw [Cursor.within, h, List.drop_left]

/-- The line end behind the lines before is read away. -/
theorem reads_trivia_line {before : List Line} {rest : List Char} (h : text = printed before ++ rest)
    (hrest : Solid rest) :
    trivia.Reads (.within text ((printed before).length - 1)) [] (.within text (printed before).length) := by
  have hsolid : Solid (Cursor.within text (printed before).length).rest := by rwa [Cursor.within_rest h]
  rcases List.eq_nil_or_concat before with rfl | ⟨lines, line, rfl⟩
  · exact reads_trivia_of_solid hsolid
  · have hend : printed (lines ++ [line]) = (printed lines ++ line.text) ++ ['\n'] := by
      rw [printed_append, printed_cons, ← List.append_assoc]
      rfl
    have hlength : (printed (lines ++ [line])).length = (printed lines ++ line.text).length + 1 := by
      rw [hend, List.length_append, List.length_singleton]
    rw [List.concat_eq_append] at h hsolid ⊢
    rw [hlength] at hsolid ⊢
    have hpasses : (Cursor.within text (printed lines ++ line.text).length).Passes ['\n']
        (.within text ((printed lines ++ line.text).length + 1)) :=
      @Cursor.within_passes text _ _ rest (by rw [h, hend, List.append_assoc])
    exact reads_trivia_blank (by decide) hpasses hsolid

/-! ## Statements that import nothing -/

/-- No name is looked up in the tree. -/
def Tree.ImportsNothing (t : Tree) : Prop :=
  t.kind ≠ "import_statement" ∨ ∀ u ∈ t.parts, u.kind ≠ "import_clause"

instance : DecidablePred Tree.ImportsNothing := fun t =>
  inferInstanceAs (Decidable (t.kind ≠ "import_statement" ∨ ∀ u ∈ t.parts, u.kind ≠ "import_clause"))

theorem defaultImportAmong_of_importsNothing {t : Tree} (h : t.ImportsNothing) (s : Source) (name : Text)
    (rest : List Syntax.Node) :
    Syntax.defaultImportAmong name (t.place s :: rest) = Syntax.defaultImportAmong name rest := by
  rw [Syntax.defaultImportAmong]
  split
  next hkind =>
    rw [place_kind] at hkind
    have hparts := h.resolve_left (absurd hkind)
    have hfind : (t.place s).namedChildren.find? (·.kind = "import_clause") = none := by
      refine List.find?_eq_none.mpr fun n hn => ?_
      rw [namedChildren_place] at hn
      obtain ⟨u, hu, rfl⟩ := List.mem_map.mp hn
      simp [hparts u (List.mem_filter.mp hu).1]
    rw [hfind]
  · rfl

/-- What reading a line yields. -/
def Line.Yields (text : List Char) : Line → Piece → Prop
  | .imports i, p => p.comments = [] ∧ p.tree.IsImport text i
  | .other _, p => ∀ t ∈ p.comments ++ [p.tree], t.ImportsNothing

/-- Trees in which no name is looked up are passed over. -/
theorem defaultImportAmong_append {ts : List Tree} (h : ∀ t ∈ ts, t.ImportsNothing) (s : Source)
    (name : Text) (rest : List Syntax.Node) :
    Syntax.defaultImportAmong name ((ts.filter (·.named)).map (Tree.place s) ++ rest) =
      Syntax.defaultImportAmong name rest := by
  induction ts with
  | nil => rfl
  | cons t ts ih =>
      have hrest := ih fun u hu => h u (List.mem_cons_of_mem t hu)
      cases hnamed : t.named with
      | false => rwa [List.filter_cons_of_neg (by simp [hnamed])]
      | true =>
          rw [List.filter_cons_of_pos hnamed, List.map_cons, List.cons_append,
            defaultImportAmong_of_importsNothing (h t List.mem_cons_self), hrest]

/-- The default import is the first one in the lines that binds the name. -/
theorem defaultImportAmong_of_yields {lines : List Line} {pieces : List Piece}
    (h : List.Forall₂ (Line.Yields text) lines pieces) (name : Text) :
    Syntax.defaultImportAmong name (((pieces.flatMap fun p => p.comments ++ [p.tree]).filter
        (·.named)).map (Tree.place (.ofChars text))) =
      .ok (((imported lines).find? fun i => i.bindings.default?.map (·.value) = some name).map
        (·.specifier.value)) := by
  induction h with
  | nil => rfl
  | @cons line p lines pieces hline _ ih =>
      rw [List.flatMap_cons, List.filter_append, List.map_append]
      cases line with
      | other statement => rw [defaultImportAmong_append hline, ih]; rfl
      | imports i =>
          obtain ⟨hcomments, himport⟩ := hline
          rw [hcomments, List.nil_append, List.filter_cons_of_pos himport.named, List.filter_nil,
            List.map_singleton, List.singleton_append, himport.looks, ih]
          have himported : imported (.imports i :: lines) = i :: imported lines := rfl
          rw [himported]
          by_cases heq : i.bindings.default?.map (·.value) = some name
          · rw [if_pos heq, List.find?_cons_of_pos (by simpa using heq), Option.map_some]
          · rw [if_neg heq, List.find?_cons_of_neg (by simpa using heq)]

/-! ## Lines that stand by themselves -/

/-- The grammar that statements at the top of a text are read with. -/
def topGrammar (dialect : Dialect) (text : List Char) : Grammar :=
  ⟨dialect, parseWithin dialect (4 * text.length + 3)⟩

/-- The other statements of a program: each is read from its place, in full and nothing else, and it
imports nothing. One behind an import without a semicolon leaves the import complete. -/
structure Interleaved (dialect : Dialect) (lines : List Line) : Prop where
  reads : ∀ before cs after, lines = before ++ .other cs :: after → cs ≠ [] ∧ ∃ p,
    (parseWithin dialect (4 * ((printed lines).length + 1)) .statement).Reads
      (.within (printed lines) ((printed before).length - 1)) p
      (.within (printed lines) ((printed before).length + cs.length)) ∧
    ∀ t ∈ p.comments ++ [p.tree], t.ImportsNothing
  completes : ∀ before i cs after, lines = before ++ .imports i :: .other cs :: after → i.closed = false →
    (Cursor.within (printed lines) ((printed before).length + i.text.length)).Completes
      (topGrammar dialect (printed lines))

/-- At the end of the text an import is complete. -/
theorem completes_at_end (h : c.rest = ['\n']) : c.Completes g := by
  have hpasses : c.Passes ['\n'] ⟨c.offset + 1, []⟩ := ⟨h, rfl⟩
  have htrivia : trivia.Reads c [] ⟨c.offset + 1, []⟩ :=
    reads_trivia_blank (by decide) hpasses (by rintro y ⟨⟩)
  have hnone : keywordAmong ["with", "assert"] (⟨c.offset + 1, []⟩ : Cursor) = none :=
    keywordAmong_eq_none (reads_trivia_of_solid (by rintro y ⟨⟩)) rfl
  exact ⟨by rw [h]; rfl, reads_importAttributes_nil htrivia hnone⟩

/-- In front of another import an import is complete. -/
theorem completes_before_import {i : Import} (h : c.Passes ['\n'] e) (hp : e.Passes i.text d) :
    c.Completes g := by
  obtain ⟨f, _, hword, -, -⟩ := exists_parts_of_import hp
  have htrivia : trivia.Reads c [] e := reads_trivia_blank (by decide) h hword.solid
  refine ⟨?_, reads_importAttributes_nil htrivia (keywordAmong_eq_none_of_word
    (reads_trivia_of_solid hword.solid) hword (by decide))⟩
  have hstart : c.rest = '\n' :: 'i' :: 'm' :: ("port".toList ++ f.rest) := by
    rw [h.rest_eq, hword.rest_eq]
    rfl
  rw [hstart]
  rfl

/-- No statement begins like a line that names an interpreter. -/
theorem statement_eq_none_at_interpreter {dialect : Dialect} {n : Nat} {ys : List Char}
    (h : c.rest = '#' :: '!' :: ys) : statement ⟨dialect, parseWithin dialect n⟩ c = none := by
  have htrivia : trivia.Reads c [] c := reads_trivia_of_solid (solid_cons (by decide) h)
  have hword := reads_nextWord_none htrivia (word_eq_none_of_cons (by decide) h)
  have hchars := reads_nextChars htrivia
  rw [h] at hchars
  have hexpression : parseWithin dialect n (.expression .afterExpression) c = none := by
    cases n with
    | zero => rfl
    | succ n =>
        have hprimary : primary ⟨dialect, parseWithin dialect n⟩ .afterExpression c = none := by
          rw [primary, bind_of_still hchars]
          refine whole_eq_none htrivia (measured_eq_none ?_)
          rw [h, Lexeme.privateName, Lexeme.word_eq_none (by rintro y ⟨⟩; decide)]
          rfl
        have hunary : unary ⟨dialect, parseWithin dialect n⟩ .afterExpression c = none := by
          refine Parser.eq_none_iff.mpr fun a d hread => ?_
          rw [reads_unary_plain htrivia (forall_head h (by decide)) hword no_prefix_of_none] at hread
          exact Parser.eq_none_iff.mp (bind_eq_none_of_left (bind_eq_none_of_left hprimary)) _ _ hread
        change expressionText _ _ c = none
        rw [expressionText, bind_of_still hword, if_neg (by simp)]
        exact bind_eq_none_of_left (bind_eq_none_of_left hunary)
  have hplain : plainStatement ⟨dialect, parseWithin dialect n⟩ c = none := by
    rw [plainStatement, bind_of_still hchars]
    exact (bind_of_still hword).trans (whole_eq_none htrivia
      (bind_eq_none_of_left (bind_eq_none_of_left (bind_eq_none_of_left hexpression))))
  rw [statement, bind_of_still hword]
  exact (bind_of_still hchars).trans hplain

/-! ## The whole program -/

variable {dialect : Dialect} {lines before after : List Line} {line : Line}

theorem printed_split (hsplit : lines = before ++ line :: after) :
    printed lines = printed before ++ (line.text ++ '\n' :: printed after) := by
  rw [hsplit, printed_append, printed_cons]

theorem Import.solid {i : Import} (rest : List Char) : Solid (i.text ++ rest) :=
  forall_head (y := 'i') rfl (by decide)

/-- An import without a semicolon is complete at the end of its line. -/
theorem completes_of_interleaved {i : Import} (h : Interleaved dialect lines)
    (hsplit : lines = before ++ .imports i :: after) (hclosed : i.closed = false) :
    (Cursor.within (printed lines) ((printed before).length + i.text.length)).Completes
      (topGrammar dialect (printed lines)) := by
  have htext := printed_split hsplit
  have hbehind : printed lines = (printed before ++ i.text) ++ '\n' :: printed after := by
    rw [htext, List.append_assoc]
    rfl
  have hrest := Cursor.within_rest hbehind
  rw [List.length_append] at hrest
  cases after with
  | nil => exact completes_at_end hrest
  | cons next after =>
      cases next with
      | other statement => exact h.completes _ _ _ _ hsplit hclosed
      | imports j =>
          rw [printed_cons] at hbehind
          have hline := @Cursor.within_passes (printed lines) (printed before ++ i.text) ['\n']
            (j.text ++ '\n' :: printed after) hbehind
          have hnext := @Cursor.within_passes (printed lines) (printed before ++ i.text ++ ['\n']) j.text
            ('\n' :: printed after) (by simp [hbehind, Line.text])
          rw [List.length_append, List.length_append] at hnext
          rw [List.length_append] at hline
          exact completes_before_import hline hnext

/-- One line is read as one statement. -/
theorem reads_line (h : Interleaved dialect lines) (hsplit : lines = before ++ line :: after) :
    ∃ p, (statement (topGrammar dialect (printed lines))).Reads
        (.within (printed lines) ((printed before).length - 1)) p
        (.within (printed lines) ((printed before).length + line.text.length)) ∧
      Line.Yields (printed lines) line p ∧ line.text ≠ [] := by
  have htext := printed_split hsplit
  cases line with
  | other statement =>
      obtain ⟨hne, p, hread, hnothing⟩ := h.reads _ _ _ hsplit
      exact ⟨p, hread, hnothing, hne⟩
  | imports i =>
      have hline := reads_trivia_line htext (Import.solid _)
      have hstart : (printed before).length - 1 ≤ (printed lines).length := by
        rw [htext, List.length_append]
        omega
      obtain ⟨t, hread, himport⟩ := reads_importStatement (Cursor.within_at hstart) hline
        (Cursor.within_passes htext) (completes_of_interleaved h hsplit)
      exact ⟨⟨[], t⟩, hread, ⟨rfl, himport⟩, List.cons_ne_nil _ _⟩

/-- The lines from any line on are read one after another up to the end of the last one. -/
theorem reads_lines (h : Interleaved dialect lines) (hsplit : lines = before ++ after) :
    ∃ pieces, (many (statement (topGrammar dialect (printed lines)))).Reads
        (.within (printed lines) ((printed before).length - 1)) pieces
        (.within (printed lines) ((printed lines).length - 1)) ∧
      List.Forall₂ (Line.Yields (printed lines)) after pieces := by
  induction after generalizing before with
  | nil =>
      rw [List.append_nil] at hsplit
      subst hsplit
      have hend := reads_trivia_line (List.append_nil (printed lines)).symm (by rintro y ⟨⟩)
      have hempty := Cursor.within_rest (List.append_nil (printed lines)).symm
      exact ⟨[], reads_many_nil (statement_eq_none (readsValues dialect _) hend hempty), .nil⟩
  | cons line after ih =>
      obtain ⟨p, hread, hyields, hne⟩ := reads_line h hsplit
      have hnext : (printed (before ++ [line])).length - 1 =
          (printed before).length + line.text.length := by
        rw [printed_append, printed_cons, List.length_append, List.length_append, List.length_cons]
        simp [printed]
      obtain ⟨pieces, hmany, hall⟩ := @ih (before ++ [line]) (by rw [hsplit, List.append_assoc]; rfl)
      rw [hnext] at hmany
      have hmoved := List.length_pos_iff.mpr hne
      refine ⟨p :: pieces, (reads_many_of_moves hread ?_).mpr ⟨pieces, rfl, hmany⟩, .cons hyields hall⟩
      simp only [Cursor.within]
      omega

theorem exists_interpreter (h : interpreterLine c ≠ none) : ∃ ys, c.rest = '#' :: '!' :: ys := by
  by_contra hnone
  refine h (measured_eq_none ?_)
  split
  next ys heq => exact absurd ⟨ys, heq⟩ hnone
  next => rfl

/-- A program with a statement on each line is read to its end. -/
theorem outlineOf_printed (h : Interleaved dialect lines) :
    ∃ pieces, outlineOf dialect (printed lines) =
        ⟨pieces.flatMap fun p => p.comments ++ [p.tree], true, (printed lines).length⟩ ∧
      List.Forall₂ (Line.Yields (printed lines)) lines pieces := by
  obtain ⟨pieces, hmany, hall⟩ := @reads_lines dialect lines [] lines h rfl
  have hinterpreter : interpreterLine (.start (printed lines)) = none := by
    by_contra hne
    obtain ⟨ys, hys⟩ := exists_interpreter hne
    cases lines with
    | nil => cases hys
    | cons line after =>
        obtain ⟨p, hread, -⟩ := @reads_line dialect (line :: after) [] after line h rfl
        exact Parser.eq_none_iff.mp (statement_eq_none_at_interpreter hys) _ _ hread
  have hend := reads_trivia_line (List.append_nil (printed lines)).symm (by rintro y ⟨⟩)
  have hempty := Cursor.within_rest (List.append_nil (printed lines)).symm
  obtain ⟨_, houtline⟩ :=
    reads_outline dialect (4 * ((printed lines).length + 1)) hinterpreter hmany hend hempty
  refine ⟨pieces, ?_, hall⟩
  rw [outlineOf, houtline]
  rfl

end Script

end LocaleCatalogue
