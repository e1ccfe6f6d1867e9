import LocaleCatalogue.Syntax.Import
import LocaleCatalogue.Proofs.Script.Imports

/-!
# Import statements

An import declaration is one statement, from its first word to its semicolon or to the end of a line
that leaves it complete. Whoever looks a name up in the statement finds the specifier if the name is
the default binding, and goes on to the next statement otherwise.
-/

namespace LocaleCatalogue.Script

open LocaleCatalogue.Script.Parser
open Written (Bindings Clause Import Name Specifier modifiers)

variable {text : List Char} {g : Grammar} {c d e f : Cursor}

/-! ## Looking a name up -/

/-- A token that no lookup asks for. -/
structure Tree.IsSign (t : Tree) : Prop where
  named : t.named = false
  role : t.role = none

theorem isSign_signTree (kind : String) (start stop : Nat) : (signTree kind start stop).IsSign := ⟨rfl, rfl⟩

/-- The tree of a specifier with the given value. -/
structure Tree.IsSource (text : List Char) (t : Tree) (value : Text) : Prop where
  kind : t.kind = "string"
  named : t.named = true
  role : t.role = some "source"
  value_eq : Syntax.Literal.value (t.place (.ofChars text)) = .ok value

variable {t clause source : Tree} {before middle after : List Tree} {bound? : Option Name} {value : Text}

theorem filter_named_of_isSign (h : ∀ u ∈ before, u.IsSign) : before.filter (·.named) = [] :=
  List.filter_eq_nil_iff.mpr fun u hu => by simp [(h u hu).named]

theorem importSpecifier?_place (hparts : t.parts = before ++ source :: after)
    (hbefore : ∀ u ∈ before, u.role = none) (hsource : source.IsSource text value) :
    Syntax.importSpecifier? (t.place (.ofChars text)) = .ok (some value) := by
  have hfind : (t.place (.ofChars text)).childByField "source" = some (source.place (.ofChars text)) := by
    rw [Syntax.Node.childByField, place_children, hparts, List.map_append, List.find?_append,
      List.find?_eq_none.mpr, Option.none_or, List.map_cons, List.find?_cons_of_pos]
    · simp [hsource.role]
    · intro n hn
      obtain ⟨u, hu, rfl⟩ := List.mem_map.mp hn
      simp [hbefore u hu]
  rw [Syntax.importSpecifier?, hfind]
  dsimp only
  rw [if_pos (by rw [place_kind, hsource.kind]), hsource.value_eq]
  rfl

/-- An import with a clause answers for its default binding only. -/
theorem defaultImportAmong_of_clause (hkind : t.kind = "import_statement")
    (hparts : t.parts = before ++ clause :: (middle ++ source :: after))
    (hbefore : ∀ u ∈ before, u.IsSign) (hclause : clause.IsClause text bound?)
    (hmiddle : ∀ u ∈ middle, u.IsSign) (hsource : source.IsSource text value) (name : Text)
    (rest : List Syntax.Node) :
    Syntax.defaultImportAmong name (t.place (.ofChars text) :: rest) =
      if bound?.map (·.value) = some name then .ok (some value)
      else Syntax.defaultImportAmong name rest := by
  have hfind : (t.place (.ofChars text)).namedChildren.find? (·.kind = "import_clause") =
      some (clause.place (.ofChars text)) := by
    rw [namedChildren_place, hparts, List.filter_append, filter_named_of_isSign hbefore,
      List.nil_append, List.filter_cons_of_pos hclause.named, List.map_cons, List.find?_cons_of_pos]
    simp [hclause.kind]
  have hspecifier : Syntax.importSpecifier? (t.place (.ofChars text)) = .ok (some value) := by
    have hsplit : t.parts = (before ++ clause :: middle) ++ source :: after := by
      rw [hparts, List.append_assoc, List.cons_append]
    refine importSpecifier?_place hsplit ?_ hsource
    intro u hu
    rcases List.mem_append.mp hu with hu | hu
    · exact (hbefore u hu).role
    · rcases List.mem_cons.mp hu with rfl | hu
      · exact hclause.role
      · exact (hmiddle u hu).role
  rw [Syntax.defaultImportAmong, if_pos (by rw [place_kind, hkind]), hfind]
  dsimp only
  rw [hclause.binds name, hspecifier]
  by_cases heq : bound?.map (·.value) = some name <;> simp [heq]

/-- An import without a clause answers for no name. -/
theorem defaultImportAmong_of_source (hparts : t.parts = before ++ source :: after)
    (hbefore : ∀ u ∈ before, u.IsSign) (hsource : source.IsSource text value)
    (hafter : ∀ u ∈ after, u.IsSign) (name : Text) (rest : List Syntax.Node) :
    Syntax.defaultImportAmong name (t.place (.ofChars text) :: rest) =
      Syntax.defaultImportAmong name rest := by
  have hfind : (t.place (.ofChars text)).namedChildren.find? (·.kind = "import_clause") = none := by
    rw [namedChildren_place, hparts, List.filter_append, filter_named_of_isSign hbefore,
      List.nil_append, List.filter_cons_of_pos hsource.named, filter_named_of_isSign hafter,
      List.map_cons, List.map_nil, List.find?_cons_of_neg]
    · rfl
    · simp [hsource.kind]
  rw [Syntax.defaultImportAmong, hfind]
  split <;> rfl

/-! ## Specifiers -/

theorem value_under (t : Tree) (role : Option String) (s : Source) :
    Syntax.Literal.value (({ t with role } : Tree).place s) = Syntax.Literal.value (t.place s) := by
  rw [Syntax.Literal.value, Syntax.Literal.value, namedChildren_place, namedChildren_place]

theorem Specifier.exists_head {s : Specifier} (h : c.Passes s.text d) :
    ∃ y ∈ quotes, ∃ ys, c.rest = y :: ys := ⟨s.quote, s.quoted, _, h.rest_eq⟩

theorem solid_of_quotes (h : ∃ y ∈ quotes, ∃ ys, c.rest = y :: ys) : Solid c.rest := by
  have hquotes : ∀ y ∈ quotes, Lexeme.isBlank y = false ∧ y ≠ '/' :=
    List.all_iff_forall_prop.mp (by decide)
  obtain ⟨y, hy, ys, hrest⟩ := h
  exact solid_cons (hquotes y hy) hrest

theorem noWord_of_quotes (h : ∃ y ∈ quotes, ∃ ys, c.rest = y :: ys) : NoWord c.rest := by
  have hquotes : ∀ y ∈ quotes, Lexeme.isWordPart y = false ∧ y ≠ '\\' :=
    List.all_iff_forall_prop.mp (by decide)
  obtain ⟨y, hy, ys, hrest⟩ := h
  exact noWord_cons (hquotes y hy) hrest

/-- A specifier is read as a string, and its value is the specifier's. -/
theorem reads_specifier (hc : c.At text) {s : Specifier} (h : trivia.Reads c [] e)
    (hp : e.Passes s.text d) :
    ∃ t : Tree, stringToken.Reads c ⟨[], t⟩ d ∧
      Tree.IsSource text { t with role := some "source" } s.value := by
  obtain ⟨t, hread, hkind, hvalue⟩ := reads_signed s.quoted hc h s.precedes s.keeps hp
  have hnamed : t.named = true := by
    obtain ⟨quote, -, hin⟩ := reads_stringToken hread
    obtain ⟨_, _, _, _, _, _, _, -, -, -, -, -, -, -, hpiece⟩ := reads_stringIn.mp hin
    exact congrArg (fun p => p.tree.named) hpiece
  exact ⟨t, hread, hkind, hnamed, rfl, (value_under t _ _).trans hvalue⟩

/-! ## The end of an import -/

/-- Trees as pieces without comments. -/
def uncommented (ts : List Tree) : List Piece := ts.map (⟨[], ·⟩)

theorem flatMap_uncommented (ts : List Tree) :
    ((uncommented ts).flatMap fun p => p.comments ++ [p.tree]) = ts := by
  simp [uncommented, List.flatMap_map]

/-- An import may end here without a semicolon: what follows neither goes on with it nor adds
attributes to it. -/
structure Cursor.Completes (g : Grammar) (c : Cursor) : Prop where
  ends : Semicolon.here .afterType c.rest = true
  bare : (importAttributes g).Reads c [] c

theorem reads_importAttributes_nil {comments : List Tree} (h : trivia.Reads c comments e)
    (hword : keywordAmong ["with", "assert"] e = none) : (importAttributes g).Reads c [] c :=
  reads_pieces_nil (whole_eq_none h (bind_eq_none_of_left (bind_eq_none_of_left hword)))

/-- No automatic semicolon stands in front of a written one. -/
theorem automaticSemicolon_eq_none {ys : List Char} (h : c.rest = ';' :: ys) :
    automaticSemicolon .afterType c = none := by
  have hhere : (do guard (Semicolon.here .afterType (← upcoming))) c = none := by
    refine bind_eq_none.mpr fun cs d hupcoming => Parser.eq_none_iff.mpr fun _ _ hguard => ?_
    obtain ⟨rfl, -⟩ := reads_upcoming.mp hupcoming
    have hfalse : Semicolon.here .afterType c.rest = false := by
      rw [h]
      rfl
    exact absurd ((reads_guard.mp hguard).1.symm.trans hfalse) (by decide)
  have hsolid : Solid c.rest := solid_cons (by decide) h
  have hmany : (discard (many do
      guard (!Semicolon.here .afterType (← upcoming))
      discard (optional blanks)
      commentTree)).Reads c () c := by
    refine reads_discard (reads_many_nil (bind_eq_none.mpr fun cs d hupcoming => ?_))
    obtain ⟨-, rfl⟩ := reads_upcoming.mp hupcoming
    refine bind_eq_none.mpr fun _ d hguard => ?_
    obtain ⟨-, rfl⟩ := reads_guard.mp hguard
    have hblanks : (discard (optional blanks)).Reads c () c :=
      reads_discard (reads_optional.mpr (.inr ⟨blanks_eq_none_of_solid hsolid, rfl, rfl⟩))
    rw [bind_of_still hblanks]
    exact commentTree_eq_none_of_solid hsolid
  refine orElse_eq_none.mpr ⟨hhere, ?_⟩
  rw [bind_of_still hmany]
  exact hhere

/-- An import ends at its semicolon, or where it may end without one. -/
theorem reads_ending {closed : Bool} (hp : c.Passes (if closed then [';'] else []) d)
    (hd : closed = false → d.Completes g) :
    (importAttributes g).Reads c [] c ∧ ∃ signs, (semicolon .afterType).Reads c (uncommented signs) d ∧
      ∀ u ∈ signs, u.IsSign := by
  cases closed with
  | false =>
      obtain rfl := Cursor.passes_nil.mp hp
      have hcomplete := hd rfl
      refine ⟨hcomplete.bare, [], reads_orElse.mpr (.inl (reads_bind.mpr
        ⟨(), c, reads_orElse.mpr (.inl (reads_bind.mpr ⟨c.rest, c, reads_upcoming.mpr ⟨rfl, rfl⟩, ?_⟩)),
          reads_pure.mpr ⟨rfl, rfl⟩⟩)), by simp⟩
      exact reads_guard.mpr ⟨hcomplete.ends, rfl⟩
  | true =>
      have hsolid : Solid c.rest := solid_cons (by decide) hp.rest_eq
      have hc := reads_trivia_of_solid hsolid
      have hword : Lexeme.word c.rest = none := Lexeme.word_eq_none (hp.noWord (by decide))
      refine ⟨reads_importAttributes_nil hc (keywordAmong_eq_none hc hword),
        [signTree ";" c.offset d.offset], reads_orElse.mpr (.inr
          ⟨bind_eq_none_of_left (automaticSemicolon_eq_none hp.rest_eq),
            reads_bind.mpr ⟨_, d, @reads_symbol c d c ";" hc hp, reads_pure.mpr ⟨rfl, rfl⟩⟩⟩), ?_⟩
      simpa using isSign_signTree _ _ _

/-! ## What an import holds -/

/-- Nothing is bound in front of a quote. -/
theorem bindingImport_eq_none (h : trivia.Reads c [] e) (he : ∃ y ∈ quotes, ∃ ys, e.rest = y :: ys) :
    bindingImport c = none := by
  have hquotes : ∀ y ∈ quotes, y ≠ '\x7b' ∧ y ≠ '*' := List.all_iff_forall_prop.mp (by decide)
  have hword := Lexeme.word_eq_none (noWord_of_quotes he)
  obtain ⟨y, hy, ys, hrest⟩ := id he
  obtain ⟨hbrace, hstar⟩ := hquotes y hy
  refine bind_eq_none_of_left (orElse_eq_none.mpr ⟨bind_eq_none_of_left ?_,
    bind_eq_none_of_left (wordAs_eq_none h hword)⟩)
  refine namedImports_eq_none h (solid_of_quotes he) ⟨'\x7b', rfl, ?_⟩ ⟨'*', rfl, ?_⟩
  · rw [hrest]
    rintro ⟨⟩
    exact hbrace rfl
  · rw [hrest]
    rintro ⟨⟩
    exact hstar rfl

/-- A clause and the specifier behind it are read as the content of an import. -/
theorem reads_bindingImport (hc : c.At text) {clause : Clause} {s : Specifier} {k l : Cursor}
    (h : trivia.Reads c [] e) (hclause : e.Passes clause.text f)
    (hfrom : f.Passes (' ' :: "from".toList) k) (hspace : k.Passes [' '] l) (hsource : l.Passes s.text d) :
    ∃ t sign source : Tree, bindingImport.Reads c [⟨[], t⟩, ⟨[], sign⟩, ⟨[], source⟩] d ∧
      t.IsClause text clause.default? ∧ sign.IsSign ∧ source.IsSource text s.value := by
  obtain ⟨m, hbefore, hfrom⟩ := Cursor.passes_cons.mp hfrom
  have hword := hfrom.word (hspace.noWord (by decide)) (by decide) (by decide)
  have hgap := reads_trivia_space hbefore hword.solid
  have hquote := reads_trivia_space hspace (solid_of_quotes (Specifier.exists_head hsource))
  obtain ⟨t, hread, ht⟩ := reads_importClause hc h hclause (hbefore.noWord (by decide)) hgap hword
  have hk : k.At text := hfrom.reaches.at (hgap.reaches.at (hread.at hc))
  obtain ⟨source, hstring, hs⟩ := reads_specifier hk hquote hsource
  refine ⟨t, _, _, reads_bind.mpr ⟨_, f, hread, reads_bind.mpr ⟨_, d, reads_bind.mpr
    ⟨_, k, reads_keyword hgap hword, reads_bind.mpr ⟨_, d, hstring, reads_pure.mpr ⟨rfl, rfl⟩⟩⟩,
      reads_pure.mpr ⟨rfl, rfl⟩⟩⟩, ht, isSign_signTree _ _ _, hs⟩

/-- The trees of an import between its first word and its end: a specifier alone, or a clause and a
specifier with words before and between them. -/
inductive Contents (text : List Char) (bindings : Bindings) (value : Text) : List Tree → Prop
  | effect {source : Tree} : bindings = .none → source.IsSource text value →
      Contents text bindings value [source]
  | bound {typed : Bool} {clause : Clause} {signs : List Tree} {t sign source : Tree} :
      bindings = .some typed clause → (∀ u ∈ signs, u.IsSign) → t.IsClause text clause.default? →
      sign.IsSign → source.IsSource text value →
      Contents text bindings value (signs ++ [t, sign, source])

/-- A clause begins with a name or with the sign of other bindings. -/
theorem Clause.begins {clause : Clause} (h : c.Passes clause.text d) (hd : NoWord d.rest) :
    (∃ (name : Name) (m : Cursor), c.PassesWord name.text m) ∨
      ∃ y ∈ othersSigns, ∃ ys, c.rest = y :: ys := by
  cases clause with
  | alone name => exact .inl ⟨name, d, h.ofWord hd⟩
  | beside others => exact .inr (Others.exists_head h)
  | both name others =>
      obtain ⟨m, hname, h⟩ := Cursor.passes_append.mp h
      exact .inl ⟨name, m, hname.ofWord (h.noWord (by decide))⟩

theorem Clause.solid {clause : Clause} (h : c.Passes clause.text d) (hd : NoWord d.rest) :
    Solid c.rest := by
  have hsigns : ∀ y ∈ othersSigns, Lexeme.isBlank y = false ∧ y ≠ '/' :=
    List.all_iff_forall_prop.mp (by decide)
  rcases Clause.begins h hd with ⟨name, m, hw⟩ | ⟨y, hy, ys, hrest⟩
  · exact hw.solid
  · exact solid_cons (hsigns y hy) hrest

/-- A clause does not begin like a mark for types. -/
theorem modifier_eq_none {clause : Clause} (h : trivia.Reads c [] e) (hp : e.Passes clause.text d)
    (hd : NoWord d.rest) : keywordAmong modifiers c = none := by
  have hsigns : ∀ y ∈ othersSigns, Lexeme.isWordPart y = false ∧ y ≠ '\\' :=
    List.all_iff_forall_prop.mp (by decide)
  rcases Clause.begins hp hd with ⟨name, m, hw⟩ | ⟨y, hy, ys, hrest⟩
  · exact keywordAmong_eq_none_of_word h hw name.ordinary
  · exact keywordAmong_eq_none h (Lexeme.word_eq_none (noWord_cons (hsigns y hy) hrest))

/-- What stands between the first word of an import and its end is read as the content of an import. -/
theorem reads_importContent (hc : c.At text) {i : Import}
    (hp : c.Passes (i.bindings.text ++ ' ' :: i.specifier.text) d) :
    ∃ content, importContent.Reads c (uncommented content) d ∧
      Contents text i.bindings i.specifier.value content := by
  obtain ⟨k, hbindings, hp⟩ := Cursor.passes_append.mp hp
  obtain ⟨l, hspace, hsource⟩ := Cursor.passes_cons.mp hp
  have hquote := Specifier.exists_head hsource
  cases hi : i.bindings with
  | none =>
      rw [hi] at hbindings
      obtain rfl := Cursor.passes_nil.mp hbindings
      have hgap := reads_trivia_space hspace (solid_of_quotes hquote)
      have hword := Lexeme.word_eq_none (noWord_of_quotes hquote)
      have hagain := reads_trivia_of_solid (solid_of_quotes hquote)
      obtain ⟨source, hread, hs⟩ := reads_specifier hc hgap hsource
      have hrequire : requireImport c = none := bind_eq_none_of_left (whole_eq_none hgap
        (bind_eq_none_of_left (bind_eq_none_of_left (wordAs_eq_none hagain hword))))
      refine ⟨[_], reads_orElse.mpr (.inr ⟨bind_eq_none_of_left (keywordAmong_eq_none hgap hword),
        reads_orElse.mpr (.inr ⟨bindingImport_eq_none hgap hquote, reads_orElse.mpr (.inr ⟨hrequire,
          reads_bind.mpr ⟨_, d, hread, reads_pure.mpr ⟨rfl, rfl⟩⟩⟩)⟩)⟩), .effect rfl hs⟩
  | some typed clause =>
      rw [hi] at hbindings
      obtain ⟨m, htyped, hbindings⟩ := Cursor.passes_append.mp hbindings
      obtain ⟨n, hbefore, hbindings⟩ := Cursor.passes_cons.mp hbindings
      obtain ⟨f, hclause, hfrom⟩ := Cursor.passes_append.mp hbindings
      have hf : NoWord f.rest := hfrom.noWord (by decide)
      have hgap := reads_trivia_space hbefore (Clause.solid hclause hf)
      obtain ⟨t, sign, source, hread, ht, hsign, hs⟩ :=
        reads_bindingImport (htyped.reaches.at hc) hgap hclause hfrom hspace hsource
      cases typed with
      | false =>
          obtain rfl := Cursor.passes_nil.mp htyped
          have hmodifier := modifier_eq_none hgap hclause hf
          exact ⟨[t, sign, source], reads_orElse.mpr (.inr ⟨bind_eq_none_of_left hmodifier,
            reads_orElse.mpr (.inl hread)⟩), @Contents.bound text _ _ false clause [] t sign source rfl
              (by simp) ht hsign hs⟩
      | true =>
          obtain ⟨o, hmark, htype⟩ := Cursor.passes_cons.mp htyped
          have hword := htype.word (hbefore.noWord (by decide)) (by decide) (by decide)
          refine ⟨[_, t, sign, source], reads_orElse.mpr (.inl (reads_bind.mpr ⟨_, m, reads_keywordAmong
            (reads_trivia_space hmark hword.solid) hword (by decide), reads_bind.mpr
              ⟨_, d, reads_orElse.mpr (.inl hread), reads_pure.mpr ⟨rfl, rfl⟩⟩⟩)), ?_⟩
          exact @Contents.bound text _ _ true clause [signTree "type" o.offset m.offset] t sign source rfl
            (by simpa using isSign_signTree _ _ _) ht hsign hs

/-! ## The statement -/

/-- The tree of an import declaration: whoever looks a name up in it finds the specifier if the name is
the default binding, and goes on otherwise. -/
structure Tree.IsImport (text : List Char) (t : Tree) (i : Import) : Prop where
  named : t.named = true
  looks : ∀ (name : Text) (rest : List Syntax.Node),
    Syntax.defaultImportAmong name (t.place (.ofChars text) :: rest) =
      if i.bindings.default?.map (·.value) = some name then .ok (some i.specifier.value)
      else Syntax.defaultImportAmong name rest

/-- The trees of an import, between its first word and its end, are those of an import statement. -/
theorem isImport_around {i : Import} {word : Tree} {content signs : List Tree} (hword : word.IsSign)
    (hcontent : Contents text i.bindings i.specifier.value content) (hsigns : ∀ u ∈ signs, u.IsSign) :
    (Piece.around "import_statement" ⟨[], word⟩
      (uncommented content ++ [] ++ uncommented signs)).tree.IsImport text i := by
  have hparts : (Piece.around "import_statement" ⟨[], word⟩
      (uncommented content ++ [] ++ uncommented signs)).tree.parts = word :: (content ++ signs) := by
    simp only [Piece.around, List.append_nil, List.flatMap_append, flatMap_uncommented]
  refine ⟨rfl, fun name rest => ?_⟩
  cases hcontent with
  | @effect source hbindings hsource =>
      have hsplit : word :: ([source] ++ signs) = [word] ++ source :: signs := rfl
      rw [hbindings]
      refine (defaultImportAmong_of_source (hparts.trans hsplit) ?_ hsource hsigns name rest).trans ?_
      · simpa using hword
      · exact (if_neg (Option.some_ne_none name).symm).symm
  | @bound typed clause words t sign source hbindings hwords ht hsign hsource =>
      rw [hbindings]
      have hsplit : word :: (words ++ [t, sign, source] ++ signs) =
          (word :: words) ++ t :: ([sign] ++ source :: signs) := by simp
      refine defaultImportAmong_of_clause rfl (hparts.trans hsplit) ?_ ht ?_ hsource name rest
      · exact List.forall_mem_cons.mpr ⟨hword, hwords⟩
      · simpa using hsign

theorem noWord_behind_import {i : Import}
    (hp : c.Passes (i.bindings.text ++ ' ' :: i.specifier.text) d) : NoWord c.rest := by
  cases hi : i.bindings with
  | none =>
      rw [hi] at hp
      exact hp.noWord (by decide)
  | some typed clause =>
      rw [hi] at hp
      cases typed with
      | false => exact hp.noWord (by decide)
      | true => exact hp.noWord (by decide)

/-- The cursors between the first word of an import, its content and its end. -/
theorem exists_parts_of_import {i : Import} (hp : c.Passes i.text d) : ∃ e f : Cursor,
    c.PassesWord "import" e ∧ e.Passes (i.bindings.text ++ ' ' :: i.specifier.text) f ∧
      f.Passes (if i.closed then [';'] else []) d := by
  obtain ⟨e, himport, hrest⟩ := Cursor.passes_append.mp hp
  rw [← List.cons_append, ← List.append_assoc] at hrest
  obtain ⟨f, hcontent, hending⟩ := Cursor.passes_append.mp hrest
  exact ⟨e, f, himport.word (noWord_behind_import hcontent) (by decide) (by decide), hcontent, hending⟩

/-- An import declaration is read as one statement. -/
theorem reads_importStatement (hc : c.At text) {i : Import} (h : trivia.Reads c [] e)
    (hp : e.Passes i.text d) (hd : i.closed = false → d.Completes g) :
    ∃ t : Tree, (statement g).Reads c ⟨[], t⟩ d ∧ t.IsImport text i := by
  obtain ⟨f, k, hword, hcontent, hending⟩ := exists_parts_of_import hp
  obtain ⟨content, hread, hcontents⟩ :=
    reads_importContent (hword.toPasses.reaches.at (h.reaches.at hc)) hcontent
  obtain ⟨hattributes, signs, hsemicolon, hsigns⟩ := reads_ending hending hd
  refine ⟨_, ?_, isImport_around (isSign_signTree "import" e.offset f.offset) hcontents hsigns⟩
  rw [statement, reads_bind_of_still (reads_nextWord_of_word h hword)]
  exact reads_orElse.mpr (.inl (reads_bind.mpr ⟨_, f, reads_keyword h hword, reads_bind.mpr
    ⟨_, k, hread, reads_bind.mpr ⟨[], k, hattributes, reads_bind.mpr
      ⟨_, d, hsemicolon, reads_pure.mpr ⟨rfl, rfl⟩⟩⟩⟩⟩))

end LocaleCatalogue.Script
