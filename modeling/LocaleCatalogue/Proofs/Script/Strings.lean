import LocaleCatalogue.Proofs.Script.Tokens

/-!
# Strings

A string token begins at its quote, and its closing quote is the last thing that is read of it. So a
string reads the same when the reading begins at the string itself.
-/

namespace LocaleCatalogue.Script

open LocaleCatalogue.Script.Parser

variable {text : List Char} {c d : Cursor}

theorem reads_spelling {cs : List Char} {u : Unit} :
    (measured (Lexeme.spelling cs)).Reads c u d ↔
      c.rest = cs ++ d.rest ∧ d.offset = c.offset + cs.length := by
  rw [reads_measured]
  constructor
  · rintro ⟨n, hn, hskip⟩
    obtain ⟨rest, hrest, rfl⟩ := Lexeme.spelling_eq_some hn
    obtain ⟨ds, hlength, hsplit, hoffset⟩ := reads_skip.mp hskip
    obtain ⟨rfl, -⟩ := List.append_inj (hsplit.symm.trans hrest) hlength
    exact ⟨hsplit, hoffset⟩
  · rintro ⟨hrest, hoffset⟩
    refine ⟨cs.length, ?_, reads_skip.mpr ⟨cs, rfl, hrest, hoffset⟩⟩
    rw [Lexeme.spelling, hrest, if_pos (List.isPrefixOf_iff_prefix.mpr (List.prefix_append _ _))]

/-- The quotes that strings are written in. -/
def quotes : List Char := ['\x22', '\x27']

/-- The token of a quote, read at the quote itself. -/
def quoteTree (quote : Char) (start : Nat) : Tree where
  kind := quote.toString
  named := false
  role := none
  start
  stop := start + 1
  parts := []

theorem reads_quote {quote : Char} {piece : Piece} :
    (symbol quote.toString).Reads c piece d ↔ ∃ comments e, trivia.Reads c comments e ∧
      e.rest = quote :: d.rest ∧ d.offset = e.offset + 1 ∧
        piece = ⟨comments, quoteTree quote e.offset⟩ := by
  have hquote : quote.toString.toList = [quote] := by
    rw [Char.toString_eq_singleton, String.toList_singleton]
  unfold symbol
  rw [reads_whole, hquote]
  constructor
  · rintro ⟨comments, e, htrivia, hquote, rfl⟩
    obtain ⟨hrest, hoffset⟩ := reads_spelling.mp hquote
    refine ⟨comments, e, htrivia, hrest, hoffset, ?_⟩
    rw [hoffset]
    rfl
  · rintro ⟨comments, e, htrivia, hrest, hoffset, rfl⟩
    refine ⟨comments, e, htrivia, reads_spelling.mpr ⟨hrest, hoffset⟩, ?_⟩
    rw [hoffset]
    rfl

/-- A quote is no blank and begins no comment. -/
theorem reads_trivia_quote {quote : Char} {rest : List Char} (hquote : quote ∈ quotes)
    (hrest : c.rest = quote :: rest) : trivia.Reads c [] c := by
  rw [quotes, List.mem_cons, List.mem_singleton] at hquote
  rcases hquote with rfl | rfl
  · exact reads_trivia_nil hrest (by decide) (by decide)
  · exact reads_trivia_nil hrest (by decide) (by decide)

/-- The tree of a string with given parts, and with comments before its closing quote. -/
def stringTree (quote : Char) (start : Nat) (parts : List Piece) (comments : List Tree)
    (closing : Nat) :
    Tree :=
  (Piece.around "string" ⟨[], quoteTree quote start⟩
    (parts ++ [⟨comments, quoteTree quote closing⟩])).tree

/-- A string is its opening quote, parts and its closing quote. -/
theorem reads_stringIn {quote : Char} {piece : Piece} :
    (stringIn quote).Reads c piece d ↔
      ∃ comments e f parts g inner k, trivia.Reads c comments e ∧ e.rest = quote :: f.rest ∧
        f.offset = e.offset + 1 ∧ (many (stringPart quote)).Reads f parts g ∧
          trivia.Reads g inner k ∧
        k.rest = quote :: d.rest ∧ d.offset = k.offset + 1 ∧
        piece = ⟨comments, stringTree quote e.offset parts inner k.offset⟩ := by
  have hstop : ∀ (first : Piece) (parts : List Piece) (last : Piece),
      ((parts ++ [last]).getLastD first).tree.stop = last.tree.stop := by
    intro first parts last
    rw [List.getLastD_concat]
  unfold stringIn
  simp only [reads_bind, reads_pure, reads_quote]
  constructor
  · rintro ⟨_, f, ⟨comments, e, htrivia, hrest, hoffset, rfl⟩, parts, g, hparts, _, _,
      ⟨inner, k, hinner, hrest', hoffset', rfl⟩, rfl, rfl⟩
    refine ⟨comments, e, f, parts, g, inner, k, htrivia, hrest, hoffset, hparts, hinner, hrest',
      hoffset', ?_⟩
    simp only [stringTree, Piece.around, hstop]
  · rintro ⟨comments, e, f, parts, g, inner, k, htrivia, hrest, hoffset, hparts, hinner, hrest',
      hoffset', rfl⟩
    refine ⟨_, f, ⟨comments, e, htrivia, hrest, hoffset, rfl⟩, parts, g, hparts, _, d,
      ⟨inner, k, hinner, hrest', hoffset', rfl⟩, ?_, rfl⟩
    simp only [stringTree, Piece.around, hstop]

/-- Where a quote comes next, the string parser reads a string in that quote. -/
theorem reads_stringToken_of_trivia {quote : Char} {comments : List Tree} {e : Cursor}
    {rest : List Char} (hquote : quote ∈ quotes) (htrivia : trivia.Reads c comments e)
    (hrest : e.rest = quote :: rest) {piece : Piece} (h : (stringIn quote).Reads c piece d) :
    stringToken.Reads c piece d := by
  rw [quotes, List.mem_cons, List.mem_singleton] at hquote
  unfold stringToken
  rcases hquote with rfl | rfl
  · exact reads_orElse.mpr (Or.inl h)
  · refine reads_orElse.mpr (Or.inr ⟨Parser.eq_none_iff.mpr fun other d' hother => ?_, h⟩)
    -- The double quote is tried first, and it is not the one that stands here.
    obtain ⟨_, e', _, _, _, _, _, htrivia', hrest', -⟩ := reads_stringIn.mp hother
    obtain ⟨-, rfl⟩ := htrivia.unique htrivia'
    cases hrest.symm.trans hrest'

theorem reads_stringToken_of_quote {quote : Char} {rest : List Char} (hquote : quote ∈ quotes)
    (hrest : c.rest = quote :: rest) {piece : Piece} (h : (stringIn quote).Reads c piece d) :
    stringToken.Reads c piece d :=
  reads_stringToken_of_trivia hquote (reads_trivia_quote hquote hrest) hrest h

/-- A string reads the same from its opening quote on. -/
theorem reads_stringIn_from {quote : Char} (hquote : quote ∈ quotes) {piece : Piece}
    (h : (stringIn quote).Reads c piece d) :
    ∃ e, c.Reaches e ∧ e.offset = piece.tree.start ∧ d.offset = piece.tree.stop ∧
      stringToken.Reads e ⟨[], piece.tree⟩ d := by
  obtain ⟨comments, e, f, parts, g, inner, k, htrivia, hrest, hoffset, hparts, hinner, hrest',
    hoffset',
    rfl⟩ := reads_stringIn.mp h
  have hread : (stringIn quote).Reads e ⟨[], stringTree quote e.offset parts inner k.offset⟩ d :=
    reads_stringIn.mpr ⟨[], e, f, parts, g, inner, k, reads_trivia_quote hquote hrest, hrest,
      hoffset,
      hparts, hinner, hrest', hoffset', rfl⟩
  refine ⟨e, htrivia.reaches, rfl, ?_, reads_stringToken_of_quote hquote hrest hread⟩
  rw [hoffset']
  simp only [stringTree, Piece.around, List.getLastD_concat, quoteTree]

/-- The string parser reads a string in one of the quotes. -/
theorem reads_stringToken {piece : Piece} (h : stringToken.Reads c piece d) :
    ∃ quote ∈ quotes, (stringIn quote).Reads c piece d := by
  rcases reads_orElse.mp h with h | ⟨-, h⟩
  · exact ⟨_, List.mem_cons_self, h⟩
  · exact ⟨_, List.mem_cons_of_mem _ List.mem_cons_self, h⟩

/-- A part of a string is a stretch of plain characters, or else an escape. -/
theorem reads_stringPart {quote : Char} {piece : Piece} :
    (stringPart quote).Reads c piece d ↔
      (measured (Lexeme.fragment quote)).Reads c () d ∧
        piece = ⟨[], leafTree "string_fragment" c.offset d.offset⟩ ∨
      measured (Lexeme.fragment quote) c = none ∧ (measured Lexeme.escape).Reads c () d ∧
        piece = ⟨[], leafTree "escape_sequence" c.offset d.offset⟩ := by
  unfold stringPart
  simp only [reads_bind, reads_offset, reads_orElse, reads_pure]
  constructor
  · rintro ⟨_, _, ⟨rfl, rfl⟩, _, _, ⟨_, _, hread, rfl, rfl⟩ | ⟨hfirst, _, _, hread, rfl, rfl⟩, _, _,
      ⟨rfl, rfl⟩, rfl, rfl⟩
    · exact Or.inl ⟨hread, rfl⟩
    · exact Or.inr ⟨bind_pure_eq_none.mp hfirst, hread, rfl⟩
  · rintro (⟨hread, rfl⟩ | ⟨hfirst, hread, rfl⟩)
    · exact ⟨_, _, ⟨rfl, rfl⟩, _, _, Or.inl ⟨_, _, hread, rfl, rfl⟩, _, _, ⟨rfl, rfl⟩, rfl, rfl⟩
    · exact ⟨_, _, ⟨rfl, rfl⟩, _, _, Or.inr ⟨bind_pure_eq_none.mpr hfirst, _, _, hread, rfl, rfl⟩,
        _, _, ⟨rfl, rfl⟩, rfl, rfl⟩

theorem laysOne_stringPart (quote : Char) : LaysOne (stringPart quote) := by
  apply lays_of_reads
  intro text c d piece hc hread
  rcases reads_stringPart.mp hread with ⟨h, rfl⟩ | ⟨-, h, rfl⟩
  · exact laid_singleton.mpr
      ⟨c.offset, Nat.le_refl _, Nat.le_refl _, Tree.sound_leaf (by decide) h.offset_le,
        Nat.le_refl _⟩
  · exact laid_singleton.mpr
      ⟨c.offset, Nat.le_refl _, Nat.le_refl _, Tree.sound_leaf (by decide) h.offset_le,
        Nat.le_refl _⟩

theorem isComposite_quote {quote : Char} (hquote : quote ∈ quotes) :
    isComposite quote.toString = true := by
  rw [quotes, List.mem_cons, List.mem_singleton] at hquote
  rcases hquote with rfl | rfl
  · decide
  · decide

/-- A string is laid out where it is read, and its tree keeps the promise of a string. -/
theorem laysOne_stringToken : LaysOne stringToken := by
  apply lays_of_reads
  intro text c d piece hc hread
  obtain ⟨quote, hquote, hread⟩ := reads_stringToken hread
  have hspelled : piece.tree.start ≤ piece.tree.stop → piece.tree.Spelled text := by
    obtain ⟨e, hreaches, hstart, hstop, hfrom⟩ := reads_stringIn_from hquote hread
    have he := (hreaches.at hc).eq
    have hd := (hread.at hc).eq
    obtain ⟨_, _, _, _, _, _, _, -, -, -, -, -, -, -, rfl⟩ := reads_stringIn.mp hread
    intro hordered
    have hkind : "string" ∉ nameKinds := by decide
    refine ⟨hordered, fun hname => absurd hname hkind, fun _ => ?_⟩
    rw [he, hd, hstart, hstop] at hfrom
    exact hfrom
  unfold stringIn at hread
  obtain ⟨opening, e, hopening, hread⟩ := reads_bind.mp hread
  obtain ⟨parts, f, hparts, hread⟩ := reads_bind.mp hread
  obtain ⟨closing, g, hclosing, hread⟩ := reads_bind.mp hread
  obtain ⟨rfl, rfl⟩ := reads_pure.mp hread
  have he := hopening.at hc
  have hf := hparts.at he
  have hsymbol := laysOne_symbol (isComposite_quote hquote)
  have hlaid : Laid text c.offset (opening :: (parts ++ [closing])) g.offset := by
    refine laid_cons.mpr ⟨e.offset, hsymbol.reads hc hopening, laid_append.mpr ⟨f.offset, ?_, ?_⟩⟩
    · have hlaid := (laysOne_stringPart quote).many.reads he hparts
      rwa [List.flatMap_singleton'] at hlaid
    · exact hsymbol.reads hf hclosing
  exact hlaid.around hspelled

end LocaleCatalogue.Script
