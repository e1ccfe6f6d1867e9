import LocaleCatalogue.Proofs.Script.Lexemes
import LocaleCatalogue.Proofs.Script.Marks
import LocaleCatalogue.Proofs.Script.Strings

/-!
# Strings by themselves

Whatever the parser reads of a string it reads without looking behind the closing quote. So the
characters of a string, taken out of their text, are read as the same string, only that it now
begins at offset zero.
-/

namespace LocaleCatalogue.Script

open LocaleCatalogue.Script.Parser

variable {start stop : Nat} {c d : Cursor}

/-- The cursor in the characters between two offsets, taken by themselves. -/
def Cursor.alone (start stop : Nat) (c : Cursor) : Cursor where
  offset := c.offset - start
  rest := c.rest.take (stop - c.offset)

/-- The tree seen from a later beginning. -/
def Tree.moved (start : Nat) (t : Tree) : Tree :=
  { t with start := t.start - start, stop := t.stop - start }

theorem Cursor.alone_rest {next : Char} {rest : List Char} (hrest : c.rest = next :: rest)
    (hstop : c.offset < stop) :
    (c.alone start stop).rest = next :: rest.take (stop - (c.offset + 1)) := by
  have hlength : stop - c.offset = stop - (c.offset + 1) + 1 := by omega
  rw [Cursor.alone, hrest, hlength, List.take_succ_cons]

theorem Cursor.Reaches.rest_ne_nil {quote : Char} {rest : List Char} (h : c.Reaches d)
    (hrest : d.rest = quote :: rest) : ∃ next more, c.rest = next :: more := by
  obtain ⟨between, hc, -⟩ := h
  rw [hc, hrest]
  cases between with
  | nil => exact ⟨quote, rest, rfl⟩
  | cons next between => exact ⟨next, _, rfl⟩

/-- What a local measure reads is read of the characters alone. -/
theorem reads_measured_alone {measure : List Char → Option Nat} (hlocal : Lexeme.Local measure)
    {u : Unit} (h : (measured measure).Reads c u d) (hstart : start ≤ c.offset)
    (hstop : d.offset < stop)
    {next : Char} {rest : List Char} (hrest : d.rest = next :: rest) :
    (measured measure).Reads (c.alone start stop) u (d.alone start stop) := by
  obtain ⟨n, hn, hskip⟩ := reads_measured.mp h
  obtain ⟨lexeme, hlength, hsplit, hoffset⟩ := reads_skip.mp hskip
  have halone :
      (c.alone start stop).rest = lexeme ++ next :: rest.take (stop - (d.offset + 1)) := by
    have hcount : stop - c.offset = lexeme.length + (stop - (d.offset + 1) + 1) := by omega
    rw [Cursor.alone, hsplit, hrest, hcount, List.take_length_add_append, List.take_succ_cons]
  rw [hsplit, hrest, ← hlength] at hn
  refine reads_measured.mpr ⟨lexeme.length, halone ▸ hlocal lexeme next rest _ hn, ?_⟩
  refine reads_skip.mpr ⟨lexeme, rfl, ?_, ?_⟩
  · rw [halone, Cursor.alone_rest hrest hstop]
  · rw [hlength]
    simp only [Cursor.alone]
    omega

/-- A repetition is read of the characters alone if each of its readings is, and if nothing more is
read there at its end. -/
theorem reads_many_alone {α : Type} {p : Parser α} {move : α → α} {as : List α}
    (hstep : ∀ {c a e}, start ≤ c.offset → p.Reads c a e → e.Reaches d →
      p.Reads (c.alone start stop) (move a) (e.alone start stop))
    (hend : p.Stops (d.alone start stop)) (hstart : start ≤ c.offset) (h : (many p).Reads c as d) :
    (many p).Reads (c.alone start stop) (as.map move) (d.alone start stop) := by
  refine h.many_induction (motive := fun c as => start ≤ c.offset →
    (many p).Reads (c.alone start stop) (as.map move) (d.alone start stop)) ?_ ?_ hstart
  · intro _ _
    exact (reads_many_of_stops hend).mpr ⟨rfl, rfl⟩
  · intro c a e rest hfirst hmoved hrest ih hstart
    have hmoved' : (c.alone start stop).offset < (e.alone start stop).offset := by
      simp only [Cursor.alone]
      omega
    exact (reads_many_of_moves (hstep hstart hfirst hrest.reaches) hmoved').mpr
      ⟨rest.map move, rfl, ih (Nat.le_trans hstart hfirst.offset_le)⟩

/-- Blanks are read, or not read, of the characters alone. -/
theorem reads_optional_blanks_alone {u : Option Unit} (h : (optional blanks).Reads c u d)
    (hstart : start ≤ c.offset) (hstop : d.offset < stop) {next : Char} {rest : List Char}
    (hrest : d.rest = next :: rest) :
    (optional blanks).Reads (c.alone start stop) u (d.alone start stop) := by
  rcases reads_optional.mp h with ⟨a, rfl, ha⟩ | ⟨hnone, rfl, rfl⟩
  · exact reads_optional.mpr
      (Or.inl ⟨a, rfl, reads_measured_alone Lexeme.local_of_run ha hstart hstop hrest⟩)
  · refine reads_optional.mpr (Or.inr ⟨?_, rfl, rfl⟩)
    rw [blanks_eq_none_iff hrest] at hnone
    rwa [blanks_eq_none_iff (Cursor.alone_rest hrest hstop)]

/-- Blanks and comments before a quote are read of the characters alone. -/
theorem reads_trivia_alone {quote : Char} {rest : List Char} (hquote : quote ∈ quotes)
    (hrest : d.rest = quote :: rest) (hstart : start ≤ c.offset) (hstop : d.offset < stop)
    {comments : List Tree} (h : trivia.Reads c comments d) :
    trivia.Reads (c.alone start stop) (comments.map (Tree.moved start)) (d.alone start stop) := by
  obtain ⟨u, e, hblanks, hmany⟩ := reads_bind.mp h
  have hbefore :
      ∀ {e : Cursor}, e.Reaches d → e.offset < stop ∧ ∃ next more, e.rest = next :: more :=
    fun hreaches => ⟨Nat.lt_of_le_of_lt hreaches.offset_le hstop, hreaches.rest_ne_nil hrest⟩
  obtain ⟨hestop, _, _, herest⟩ := hbefore hmany.reaches
  have hestart := Nat.le_trans hstart hblanks.offset_le
  refine reads_bind.mpr
    ⟨u, e.alone start stop, reads_optional_blanks_alone hblanks hstart hestop herest, ?_⟩
  refine reads_many_alone ?_ ?_ hestart hmany
  · intro c t e hstart hread hreaches
    obtain ⟨t', f, hcomment, hread⟩ := reads_bind.mp hread
    obtain ⟨_, f', hblanks, hdone⟩ := reads_bind.mp hread
    obtain ⟨rfl, rfl⟩ := reads_pure.mp hdone
    obtain ⟨hfstop, _, _, hfrest⟩ := hbefore (hblanks.reaches.trans hreaches)
    obtain ⟨hstop', _, _, hrest'⟩ := hbefore hreaches
    obtain ⟨hmeasured, rfl⟩ := reads_commentTree.mp hcomment
    have hfstart := Nat.le_trans hstart hmeasured.offset_le
    refine reads_bind.mpr ⟨_, f.alone start stop, reads_commentTree.mpr
      ⟨reads_measured_alone Lexeme.local_comment hmeasured hstart hfstop hfrest, rfl⟩, ?_⟩
    exact reads_bind.mpr ⟨_, f'.alone start stop,
      reads_optional_blanks_alone hblanks hfstart hstop' hrest', reads_pure.mpr ⟨rfl, rfl⟩⟩
  · apply stops_of_refuses
    intro t e hread
    obtain ⟨t', f, hcomment, -⟩ := reads_bind.mp hread
    refine not_reads_commentTree (Cursor.alone_rest hrest hstop) ?_ t' hcomment
    rintro rfl
    exact absurd hquote (by decide)

/-- The piece seen from a later beginning. -/
def Piece.moved (start : Nat) (p : Piece) : Piece :=
  ⟨p.comments.map (Tree.moved start), p.tree.moved start⟩

/-- Plain characters of a string. -/
def isPlain (quote c : Char) : Bool :=
  c ≠ quote && c ≠ '\\' && c ≠ '\n' && c ≠ '\r' && c ≠ '\x00'

theorem fragment_eq_none_iff {quote next : Char} {rest : List Char}
    (hrest : c.rest = next :: rest) :
    measured (Lexeme.fragment quote) c = none ↔ isPlain quote next = false :=
  measured_run_eq_none_iff hrest

/-- A part of a string is read of the characters alone. -/
theorem reads_stringPart_alone {quote : Char} {piece : Piece}
    (h : (stringPart quote).Reads c piece d)
    (hstart : start ≤ c.offset) (hstop : d.offset < stop) {next : Char} {rest : List Char}
    (hrest : d.rest = next :: rest) :
    (stringPart quote).Reads (c.alone start stop) (piece.moved start) (d.alone start stop) := by
  rcases reads_stringPart.mp h with ⟨hread, rfl⟩ | ⟨hfirst, hread, rfl⟩
  · exact reads_stringPart.mpr (Or.inl
      ⟨reads_measured_alone (Lexeme.local_fragment quote) hread hstart hstop hrest, rfl⟩)
  · refine reads_stringPart.mpr (Or.inr
      ⟨?_, reads_measured_alone Lexeme.local_escape hread hstart hstop hrest, rfl⟩)
    obtain ⟨y, ys, hy⟩ := hread.reaches.rest_ne_nil hrest
    rw [fragment_eq_none_iff hy] at hfirst
    rwa [fragment_eq_none_iff (Cursor.alone_rest hy (Nat.lt_of_le_of_lt hread.offset_le hstop))]

/-- No part of a string begins with a character that is neither plain nor a backslash. -/
theorem not_reads_stringPart {quote next : Char} {rest : List Char} (hrest : c.rest = next :: rest)
    (hplain : isPlain quote next = false) (hescape : next ≠ '\\') (piece : Piece) :
    ¬ (stringPart quote).Reads c piece d := by
  intro h
  rcases reads_stringPart.mp h with ⟨⟨_, hread⟩, -⟩ | ⟨-, hread, -⟩
  · cases ((fragment_eq_none_iff hrest).mpr hplain).symm.trans hread
  · obtain ⟨n, hn, -⟩ := reads_measured.mp hread
    rw [hrest] at hn
    exact hescape (Lexeme.escape_head hn)

/-- Where the parts of a string end, neither a plain character nor a backslash stands. -/
theorem next_of_parts_end {quote next : Char} {rest more : List Char} (hquote : quote ∈ quotes)
    {parts : List Piece} (hparts : (many (stringPart quote)).Reads c parts d)
    (hrest : d.rest = next :: rest) {comments : List Tree} {e : Cursor}
    (htrivia : trivia.Reads d comments e) (hclosing : e.rest = quote :: more) :
    isPlain quote next = false ∧ next ≠ '\\' := by
  constructor
  -- A plain character would have been read as one more part.
  · cases hplain : isPlain quote next with
    | false => rfl
    | true =>
        cases hmeasured : measured (Lexeme.fragment quote) d with
        | none =>
            rw [fragment_eq_none_iff hrest, hplain] at hmeasured
            cases hmeasured
        | some s =>
            have hread := reads_of_eq_some hmeasured
            have hstill := hparts.many_stops _ _ (reads_stringPart.mpr (Or.inl ⟨hread, rfl⟩))
            obtain ⟨n, hn, hskip⟩ := reads_measured.mp hread
            obtain ⟨_, -, -, hoffset⟩ := reads_skip.mp hskip
            have hpos := Lexeme.fragment_pos hn
            omega
  · rintro rfl
    -- A backslash is not skipped before the closing quote, so it would have to be that quote.
    obtain ⟨-, rfl⟩ := (reads_trivia_nil hrest (by decide) (by decide)).unique htrivia
    obtain ⟨rfl, -⟩ := List.cons.inj (hrest.symm.trans hclosing)
    exact absurd hquote (by decide)

theorem moved_quoteTree (quote : Char) {start offset : Nat} (hle : start ≤ offset) :
    (quoteTree quote offset).moved start = quoteTree quote (offset - start) := by
  have hstop : offset + 1 - start = offset - start + 1 := by omega
  simp only [quoteTree, Tree.moved, hstop]

/-- A string seen from a later beginning has the same parts, seen from there. -/
theorem parts_stringTree_moved (quote : Char) {start opening closing : Nat} (parts : List Piece)
    (comments : List Tree) (hopening : start ≤ opening) (hclosing : start ≤ closing) :
    (stringTree quote (opening - start) (parts.map (Piece.moved start))
      (comments.map (Tree.moved start)) (closing - start)).parts =
      (stringTree quote opening parts comments closing).parts.map (Tree.moved start) := by
  simp only [stringTree, Piece.around, List.flatMap_append, List.flatMap_singleton, List.map_cons,
    List.map_append, List.map_nil, moved_quoteTree quote hopening, moved_quoteTree quote hclosing,
    List.map_flatMap, List.flatMap_map, Piece.moved]

/-- The characters of a string, taken out of their text, are read as the same string from offset
zero. -/
theorem reads_string_alone {text : List Char} {t : Tree} (hspelled : t.Spelled text)
    (hkind : t.kind = "string") :
    ∃ literal, stringToken.Reads (.start (t.spelling text)) ⟨[], literal⟩ ⟨t.stop - t.start, []⟩ ∧
      literal.parts = t.parts.map (Tree.moved t.start) := by
  obtain ⟨quote, hquote, hread⟩ := reads_stringToken (hspelled.string hkind)
  obtain ⟨_, e, f, parts, g, inner, k, htrivia, hrest, hoffset, hparts, hinner, hrest', hoffset',
    hpiece⟩ := reads_stringIn.mp hread
  have hstart : t.start = e.offset := congrArg (fun piece => piece.tree.start) hpiece
  have htparts : t.parts = (stringTree quote e.offset parts inner k.offset).parts :=
    congrArg (fun piece => piece.tree.parts) hpiece
  have herest : text.drop t.start = e.rest := by
    -- The tree begins at its quote, so nothing is skipped before it.
    obtain ⟨between, hsplit, hlength⟩ := htrivia.reaches
    dsimp only at hsplit hlength
    obtain rfl : between = [] := List.eq_nil_of_length_eq_zero (by omega)
    exact hsplit
  dsimp only at hoffset'
  have hfg := hparts.offset_le
  have hgk := hinner.offset_le
  obtain ⟨next, more, hnext⟩ := hinner.reaches.rest_ne_nil hrest'
  have halone := @Cursor.alone_rest t.start t.stop e quote f.rest hrest (by omega)
  have hlast := @Cursor.alone_rest t.start t.stop g next more hnext (by omega)
  refine ⟨stringTree quote (e.offset - t.start) (parts.map (Piece.moved t.start))
    (inner.map (Tree.moved t.start)) (k.offset - t.start), ?_, ?_⟩
  · have hbegin : Cursor.start (t.spelling text) = e.alone t.start t.stop := by
      rw [Cursor.start, Tree.spelling, Cursor.alone, herest, hstart, Nat.sub_self]
    rw [hbegin]
    refine reads_stringToken_of_quote hquote halone (reads_stringIn.mpr
      ⟨[], e.alone t.start t.stop, f.alone t.start t.stop, _, g.alone t.start t.stop, _,
        k.alone t.start t.stop, reads_trivia_quote hquote halone, ?_, ?_, ?_,
        reads_trivia_alone hquote hrest' (by omega) (by omega) hinner, ?_, ?_, rfl⟩)
    · rw [halone, Cursor.alone, hoffset]
    · simp only [Cursor.alone]
      omega
    · refine reads_many_alone ?_ ?_ (by omega) hparts
      · intro c piece e' hcstart hread hreaches
        obtain ⟨_, _, hnext'⟩ := (hreaches.trans hinner.reaches).rest_ne_nil hrest'
        have hle := hreaches.offset_le
        exact reads_stringPart_alone hread hcstart (by omega) hnext'
      · obtain ⟨hplain, hescape⟩ := next_of_parts_end hquote hparts hnext hinner hrest'
        exact stops_of_refuses fun piece _ => not_reads_stringPart hlast hplain hescape piece
    · rw [Cursor.alone_rest hrest' (by omega), hoffset', Nat.sub_self, List.take_zero]
    · simp only [Cursor.alone]
      omega
  · rw [htparts]
    exact parts_stringTree_moved quote parts inner (by omega) (by omega)

/-- What a part spells does not change when the part and its text are seen from a later beginning.
-/
theorem Tree.spelling_moved {text : List Char} {t u : Tree} (hstart : t.start ≤ u.start)
    (hstop : u.stop ≤ t.stop) : (u.moved t.start).spelling (t.spelling text) = u.spelling text := by
  have hdrop : t.start + (u.start - t.start) = u.start := by omega
  have hlength :
      min (u.stop - t.start - (u.start - t.start)) (t.stop - t.start - (u.start - t.start)) =
      u.stop - u.start := by omega
  simp only [Tree.spelling, Tree.moved]
  rw [List.drop_take, List.drop_drop, List.take_take, hdrop, hlength]

/-- The value of a part is in its kind and in what it spells. -/
theorem partValue_place {text text' : List Char} {t t' : Tree} (hkind : t.kind = t'.kind)
    (hspelling : t.spelling text = t'.spelling text') :
    Syntax.Literal.partValue (t.place (.ofChars text)) =
      Syntax.Literal.partValue (t'.place (.ofChars text')) := by
  simp only [Syntax.Literal.partValue, place_kind, readText_place, hkind, hspelling]

theorem namedChildren_place (s : Source) (t : Tree) :
    (t.place s).namedChildren = (t.parts.filter (·.named)).map (Tree.place s) := by
  rw [Syntax.Node.namedChildren, place_children, List.filter_map]
  simp [Function.comp_def]

/-- The value of a string taken out of its text is the value of the string. -/
theorem value_alone {text : List Char} {t literal : Tree} (hsound : t.Sound text)
    (hparts : literal.parts = t.parts.map (Tree.moved t.start)) :
    Syntax.Literal.value (literal.place (.ofChars (t.spelling text))) =
      Syntax.Literal.value (t.place (.ofChars text)) := by
  have hmem : ∀ u ∈ t.parts.filter (·.named), t.start ≤ u.start ∧ u.stop ≤ t.stop := fun u hu =>
    ((Tree.sound_iff.mp hsound).2.of_mem (List.mem_filter.mp hu).1).2
  have hfilter :
      literal.parts.filter (·.named) = (t.parts.filter (·.named)).map (Tree.moved t.start) := by
    rw [hparts, List.filter_map]
    rfl
  rw [Syntax.Literal.value, Syntax.Literal.value, namedChildren_place, namedChildren_place, hfilter]
  generalize t.parts.filter (·.named) = parts at hmem
  congr 1
  induction parts with
  | nil => rfl
  | cons u parts ih =>
      obtain ⟨hstart, hstop⟩ := hmem u List.mem_cons_self
      have hrest := ih fun v hv => hmem v (List.mem_cons_of_mem u hv)
      have hpart := @partValue_place (t.spelling text) text (u.moved t.start) u rfl
        (Tree.spelling_moved hstart hstop)
      simp only [List.map_cons, List.mapM_cons, hpart, hrest]

/-- The characters are one string literal, and this is its value. -/
def IsLiteral (cs : List Char) (value : Text) : Prop :=
  ∃ literal, stringToken.Reads (.start cs) ⟨[], literal⟩ ⟨cs.length, []⟩ ∧
    Syntax.Literal.value (literal.place (.ofChars cs)) = .ok value

/-- What the tree of a string spells is a string literal with the value of the tree. -/
theorem isLiteral_spelling {text : List Char} {t : Tree} (hsound : t.Sound text)
    (hstop : t.stop ≤ text.length) (hkind : t.kind = "string") {value : Text}
    (hvalue : Syntax.Literal.value (t.place (.ofChars text)) = .ok value) :
    IsLiteral (t.spelling text) value := by
  obtain ⟨literal, hread, hparts⟩ := reads_string_alone (Tree.sound_iff.mp hsound).1 hkind
  refine ⟨literal, ?_, (value_alone hsound hparts).trans hvalue⟩
  rwa [Tree.length_spelling hstop]

end LocaleCatalogue.Script
