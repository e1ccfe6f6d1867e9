import LocaleCatalogue.Proofs.Script.Values

/-!
# Exports of JSON objects

A module that only exports a JSON object by default is a program of one statement. The object is an
expression that no declaration begins like, and the statement ends by itself where only blanks
follow.
-/

namespace LocaleCatalogue.Script

open LocaleCatalogue.Script.Parser
open Written (Gap ObjectModule Token exportWords spaces)

variable {text : List Char} {g : Grammar} {c d e : Cursor}

/-! ## The end of the text -/

theorem Semicolon.afterSpaceAndComments_of_spaces {cs : List Char} (h : ∀ y ∈ cs, y ∈ spaces) :
    afterSpaceAndComments cs = some [] := by
  have hspaces : ∀ y ∈ spaces, isSpace y = true ∧ y ≠ '/' := List.all_iff_forall_prop.mp (by decide)
  induction cs with
  | nil => rfl
  | cons y cs ih =>
      obtain ⟨hspace, hslash⟩ := hspaces y (h y List.mem_cons_self)
      rw [afterSpaceAndComments, if_pos hspace, ih fun z hz => h z (List.mem_cons_of_mem y hz)]
      · exact fun _ heq => absurd heq hslash
      · exact fun _ heq => absurd heq hslash
      · exact hslash

/-- An automatic semicolon stands where only blanks follow. -/
theorem Semicolon.here_of_spaces {cs : List Char} (h : ∀ y ∈ cs, y ∈ spaces) :
    here .afterExpression cs = true := by
  have hspaces : ∀ y ∈ spaces, isSpace y = true ∧ y ≠ '\x7d' :=
    List.all_iff_forall_prop.mp (by decide)
  induction cs with
  | nil => rfl
  | cons y cs ih =>
      have hmore := fun z hz => h z (List.mem_cons_of_mem y hz)
      obtain ⟨hspace, hbrace⟩ := hspaces y (h y List.mem_cons_self)
      by_cases hline : y = '\n'
      · rw [hline, here, afterSpaceAndComments_of_spaces hmore]
        rfl
      · rw [here, if_pos hspace, ih hmore]
        · exact hbrace
        · exact hline

theorem reads_automaticSemicolon {after : Gap} (h : c.rest = after.text) :
    (automaticSemicolon .afterExpression).Reads c () c := by
  refine reads_orElse.mpr (Or.inl (reads_bind.mpr ⟨c.rest, c, reads_upcoming.mpr ⟨rfl, rfl⟩, ?_⟩))
  refine reads_guard.mpr ⟨?_, rfl⟩
  rw [h]
  exact Semicolon.here_of_spaces after.blank

theorem ends_of_blank {after : Gap} (h : c.rest = after.text) : Ends .afterExpression c := by
  refine .here (reads_ahead.mpr ⟨?_, rfl⟩)
  obtain ⟨_, hread⟩ := reads_automaticSemicolon h
  rw [hread]
  rfl

/-- No statement begins where the text ends. -/
theorem statement_eq_none {n : Nat} (hg : g.ReadsValues n) (h : trivia.Reads c [] e)
    (he : e.rest = []) : statement g c = none := by
  have hstopped : Stopped e.rest := by
    rw [he]
    rintro y ⟨⟩
  have hchars := reads_nextChars h
  rw [he] at hchars
  have hword := reads_nextWord_none h hstopped.noWord
  have hexpression : expressionStatement g c = none :=
    whole_eq_none h (bind_eq_none_of_left (bind_eq_none_of_left (bind_eq_none_of_left
      (hg.refuses (reads_trivia_of_solid hstopped.solid) hstopped))))
  have hplain : plainStatement g c = none := by
    rw [plainStatement, bind_of_still hchars]
    exact (bind_of_still hword).trans hexpression
  rw [statement, bind_of_still hword]
  exact (bind_of_still hchars).trans hplain

/-! ## The statement -/

/-- The tree of a statement that exports an object of JSON by default. -/
structure Tree.IsExport (text : List Char) (t : Tree) (tokens : List Token) : Prop where
  kind : t.kind = "export_statement"
  named : t.named = true
  parts : ∃ word keyword object : Tree, t.parts = [word, keyword, object] ∧ word.role = none ∧
    keyword.kind = "default" ∧ keyword.role = none ∧ object.role = some "value" ∧
      object.IsObject text tokens

/-- No declaration begins with a brace. -/
theorem declaration_eq_none {ys : List Char} (h : trivia.Reads c [] e)
    (hrest : e.rest = '\x7b' :: ys) : declaration g c = none := by
  have hword := word_eq_none_of_cons (by decide) hrest
  rw [declaration, bind_of_still (reads_nextChars h), hrest]
  exact bind_of_still (reads_nextWord_none h hword)

/-- Behind the word that marks a default export, an object is exported up to its brace. -/
theorem reads_defaultExport {f k l : Cursor} {after : Gap} {t : Tree} {ys : List Char}
    (h : trivia.Reads c [] e) (hword : e.PassesWord "default" f) (hgap : trivia.Reads f [] k)
    (hk : k.rest = '\x7b' :: ys)
    (hread : (g.nested (.expression .afterExpression)).Reads f ⟨[], t⟩ l)
    (hl : l.rest = after.text) :
    (defaultExport g).Reads c
      [⟨[], signTree "default" e.offset f.offset⟩, ⟨[], { t with role := some "value" }⟩] l := by
  have hnone := word_eq_none_of_cons (by decide) hk
  refine reads_bind.mpr ⟨_, f, reads_keyword h hword, reads_orElse.mpr (Or.inr
    ⟨bind_eq_none_of_left (declaration_eq_none hgap hk), ?_⟩)⟩
  rw [reads_bind_of_still (reads_nextWord_none hgap hnone)]
  refine reads_bind.mpr ⟨(), f, reads_guard.mpr ⟨rfl, rfl⟩, reads_bind.mpr ⟨_, l, hread, ?_⟩⟩
  refine reads_bind.mpr ⟨[], l, ?_, reads_pure.mpr ⟨rfl, rfl⟩⟩
  exact reads_orElse.mpr (Or.inl (reads_bind.mpr
    ⟨(), l, reads_automaticSemicolon hl, reads_pure.mpr ⟨rfl, rfl⟩⟩))

/-- The cursors between the parts of a module that exports an object. -/
theorem exists_cursors (m : ObjectModule) : ∃ c₁ c₂ c₃ c₄ c₅ : Cursor,
    (Cursor.start m.text).Passes "export".toList c₁ ∧ c₁.Passes [' '] c₂ ∧
      c₂.Passes "default".toList c₃ ∧ c₃.Passes m.before.text c₄ ∧ c₄.Passes m.object.text c₅ ∧
        c₅.Passes m.after.text ⟨m.text.length, []⟩ := by
  have hall : (Cursor.start m.text).Passes
      ("export".toList ++ ([' '] ++ ("default".toList ++
        (m.before.text ++ (m.object.text ++ m.after.text))))) ⟨m.text.length, []⟩ := by
    have hwords : exportWords = "export".toList ++ ([' '] ++ "default".toList) := by decide
    have htext : m.text = "export".toList ++ ([' '] ++ ("default".toList ++
        (m.before.text ++ (m.object.text ++ m.after.text)))) := by
      simp only [ObjectModule.text, hwords, List.append_assoc]
    rw [← htext]
    exact ⟨(List.append_nil _).symm, (Nat.zero_add _).symm⟩
  obtain ⟨c₁, h₁, hall⟩ := Cursor.passes_append.mp hall
  obtain ⟨c₂, h₂, hall⟩ := Cursor.passes_append.mp hall
  obtain ⟨c₃, h₃, hall⟩ := Cursor.passes_append.mp hall
  obtain ⟨c₄, h₄, hall⟩ := Cursor.passes_append.mp hall
  obtain ⟨c₅, h₅, h₆⟩ := Cursor.passes_append.mp hall
  exact ⟨c₁, c₂, c₃, c₄, c₅, h₁, h₂, h₃, h₄, h₅, h₆⟩

theorem Cursor.Passes.word {w : String} (h : c.Passes w.toList d) (hend : NoWord d.rest)
    (hw : w.toList.head?.any (! Char.isDigit ·) = true)
    (hparts : w.toList.all Lexeme.isWordPart = true) : c.PassesWord w d := by
  obtain ⟨y, hy, hdigit⟩ := (Option.any_eq_true _ _).mp hw
  obtain ⟨ys, hys⟩ := List.head?_eq_some_iff.mp hy
  exact ⟨h, ⟨y, ys, hys, by simpa using hdigit⟩, List.all_eq_true.mp hparts, hend⟩

theorem noWord_gap {gap : Gap} {k : Cursor} {ys : List Char} (h : c.Passes gap.text k)
    (hk : k.rest = '\x7b' :: ys) : NoWord c.rest := by
  have hspaces : ∀ y ∈ spaces, Lexeme.isWordPart y = false ∧ y ≠ '\\' :=
    List.all_iff_forall_prop.mp (by decide)
  exact forall_head_gap h hspaces (forall_head hk (by decide))

/-- With enough depth an object is an expression that ends before the blanks behind it. -/
theorem reads_exportedObject (dialect : Dialect) {n : Nat} {o : Written.Object} {after : Gap}
    (hlength : o.text.length ≤ n + 1) (he : e.At text) (h : trivia.Reads c [] e)
    (hp : e.Passes o.text d) (hd : d.rest = after.text) :
    ∃ t, (parseWithin dialect (n + 1) (.expression .afterExpression)).Reads c ⟨[], t⟩ d ∧
      t.IsObject text (o.tokens (text.take e.offset)) := by
  obtain ⟨t, hoperand, hobject⟩ := @operand_object text ⟨dialect, parseWithin dialect n⟩
    .afterExpression c d e n (readsValues dialect n) o hlength he h hp
  exact ⟨t, hoperand.expression (ends_of_blank hd), hobject⟩

theorem reads_exportStatement {k : Cursor} {content : List Piece} {ys : List Char}
    (hrest : c.rest = 'e' :: ys) (hword : c.PassesWord "export" d)
    (hnext : nextWord.Reads d (some "default") d) (hread : (defaultExport g).Reads d content k) :
    (statement g).Reads c
      (.around "export_statement" ⟨[], signTree "export" c.offset d.offset⟩ content) k := by
  have htrivia : trivia.Reads c [] c := reads_trivia_of_solid (solid_cons (by decide) hrest)
  have hdecorator : (whole "decorator" true (decorator g)) c = none := by
    refine whole_eq_none htrivia (bind_eq_none_of_left (bind_eq_none_of_left
      (symbol_eq_none htrivia ⟨'@', rfl, ?_⟩)))
    rw [hrest]
    rintro ⟨⟩
  rw [statement, reads_bind_of_still (reads_nextWord_of_word htrivia hword)]
  have hcontent : (exportContent g).Reads d content k := by
    rw [exportContent, reads_bind_of_still hnext]
    exact hread
  exact reads_orElse.mpr (Or.inl (reads_bind.mpr ⟨[], c, reads_many_nil hdecorator, reads_bind.mpr
    ⟨_, d, reads_keyword htrivia hword, reads_bind.mpr
      ⟨content, k, hcontent, reads_pure.mpr ⟨rfl, rfl⟩⟩⟩⟩))

/-- A module that exports an object is read as one statement. -/
theorem reads_statement (dialect : Dialect) {n : Nat} (m : ObjectModule)
    (hlength : m.object.text.length ≤ n + 1) :
    ∃ t f, (statement ⟨dialect, parseWithin dialect (n + 1)⟩).Reads (.start m.text) ⟨[], t⟩ f ∧
      f.Passes m.after.text ⟨m.text.length, []⟩ ∧ t.IsExport m.text m.tokens := by
  obtain ⟨c₁, c₂, c₃, c₄, c₅, h₁, h₂, h₃, h₄, h₅, h₆⟩ := exists_cursors m
  obtain ⟨ys, htext⟩ := m.object.exists_head
  have hbrace : c₄.rest = '\x7b' :: (ys ++ c₅.rest) := by
    rw [h₅.rest_eq, htext, List.cons_append]
  have hend : c₅.rest = m.after.text := by rw [h₆.rest_eq, List.append_nil]
  have hbefore : (Cursor.start m.text).Passes (exportWords ++ m.before.text) c₄ := by
    have hwords : exportWords = "export".toList ++ ([' '] ++ "default".toList) := by decide
    rw [hwords]
    exact Cursor.passes_append.mpr ⟨c₃, Cursor.passes_append.mpr
      ⟨c₁, h₁, Cursor.passes_append.mpr ⟨c₂, h₂, h₃⟩⟩, h₄⟩
  have hstart := Cursor.start_at m.text
  have htokens : m.tokens = m.object.tokens (m.text.take c₄.offset) := by
    rw [hbefore.take hstart]
    rfl
  have hspace : trivia.Reads c₁ [] c₂ :=
    @reads_trivia_gap c₁ c₂ ⟨[' '], List.all_iff_forall_prop.mp (by decide)⟩ h₂
      (solid_cons (by decide) h₃.rest_eq)
  have hgap : trivia.Reads c₃ [] c₄ := reads_trivia_gap h₄ (solid_cons (by decide) hbrace)
  have hexport : (Cursor.start m.text).PassesWord "export" c₁ := by
    exact h₁.word (forall_head h₂.rest_eq (by decide)) (by decide) (by decide)
  have hdefault : c₂.PassesWord "default" c₃ :=
    h₃.word (noWord_gap h₄ hbrace) (by decide) (by decide)
  obtain ⟨t, hread, hobject⟩ :=
    reads_exportedObject dialect hlength (hbefore.reaches.at hstart) hgap h₅ hend
  refine ⟨_, c₅, reads_exportStatement h₁.rest_eq hexport (reads_nextWord_of_word hspace hdefault)
    (reads_defaultExport hspace hdefault hgap hbrace hread hend), h₆, rfl, rfl, _, _, _, rfl, rfl,
    rfl, rfl, rfl, hobject.kind, ?_⟩
  rw [htokens]
  exact hobject.pairs

theorem interpreterLine_eq_none {y : Char} {ys : List Char} (hy : y ≠ '#') (h : c.rest = y :: ys) :
    interpreterLine c = none := by
  apply measured_eq_none
  rw [h]
  split
  next heq => exact absurd (List.cons.inj heq).1 hy
  next => rfl

/-- Reads statements and the blanks behind them up to the end of the text. -/
theorem reads_outline (dialect : Dialect) (depth : Nat) {f : Cursor} {pieces : List Piece}
    (hinterpreter : interpreterLine c = none)
    (hmany : (many (parseWithin dialect depth .statement)).Reads c pieces f)
    (hend : trivia.Reads f [] d) (hd : d.rest = []) :
    (outline dialect depth).Reads c ⟨pieces.flatMap fun p => p.comments ++ [p.tree], true, d.offset⟩ d := by
  have hnone : (optional interpreterLine).Reads c none c :=
    reads_optional.mpr (Or.inr ⟨hinterpreter, rfl, rfl⟩)
  refine reads_bind.mpr ⟨(), c, reads_discard hnone, reads_bind.mpr ⟨pieces, f, hmany,
    reads_bind.mpr ⟨[], d, hend, reads_bind.mpr ⟨d.rest, d, reads_upcoming.mpr ⟨rfl, rfl⟩,
      reads_bind.mpr ⟨d.offset, d, reads_offset.mpr ⟨rfl, rfl⟩, reads_pure.mpr ⟨?_, rfl⟩⟩⟩⟩⟩⟩
  rw [hd, List.append_nil]
  rfl

/-- A module that exports an object is a program, and its statement is the export of the object. -/
theorem outlineOf_objectModule (dialect : Dialect) (m : ObjectModule) :
    ∃ t, outlineOf dialect m.text = ⟨[t], true, m.text.length⟩ ∧ t.IsExport m.text m.tokens := by
  have hlength : m.text.length = exportWords.length + m.before.text.length +
      m.object.text.length + m.after.text.length := by
    simp only [ObjectModule.text, List.length_append, Nat.add_assoc]
  have hwords : exportWords.length = 14 := by decide
  -- The statement is read one step above the expression, and that one step above its parts.
  obtain ⟨n, hdepth, hroom⟩ :
      ∃ n, 4 * (m.text.length + 1) = n + 1 + 1 ∧ m.object.text.length ≤ n + 1 :=
    ⟨4 * m.text.length + 2, by omega, by omega⟩
  obtain ⟨t, f, hread, hafter, hexport⟩ := reads_statement dialect m hroom
  obtain ⟨ys, hhead⟩ := m.exists_head
  have hend : trivia.Reads f [] ⟨m.text.length, []⟩ :=
    reads_trivia_gap hafter (by rintro y ⟨⟩)
  have hmoved : (Cursor.start m.text).offset < f.offset := by
    have hoffset : m.text.length = f.offset + m.after.text.length := hafter.offset_eq
    have hstart : (Cursor.start m.text).offset = 0 := rfl
    omega
  have hstop := statement_eq_none (readsValues dialect (n + 1)) hend rfl
  have hmany : (many (parseWithin dialect (n + 1 + 1) .statement)).Reads (.start m.text) [⟨[], t⟩] f :=
    (reads_many_of_moves hread hmoved).mpr ⟨[], rfl, reads_many_nil hstop⟩
  obtain ⟨_, houtline⟩ := reads_outline dialect (n + 1 + 1)
    (interpreterLine_eq_none (by decide) hhead) hmany hend rfl
  refine ⟨t, ?_, hexport⟩
  rw [outlineOf, hdepth, houtline]
  rfl

end LocaleCatalogue.Script
