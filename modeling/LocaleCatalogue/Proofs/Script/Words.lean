import LocaleCatalogue.Proofs.Script.Export

/-!
# Words behind blanks

A word is read as a whole, so it is taken for no other word, for no string and for no sign. Names are
the words that do not also mark what stands behind them as a type.
-/

namespace LocaleCatalogue

namespace Written

/-- A word: letters in the widest sense and digits, not beginning with a digit. -/
structure Word where
  text : String
  begins : text.toList.head?.any (! Char.isDigit ·) = true
  parts : text.toList.all Script.Lexeme.isWordPart = true

/-- The text of a word. -/
def Word.value (w : Word) : Text := Text.ofString w.text

/-- The words that mark an import as one of types. -/
def modifiers : List String := ["type", "typeof"]

/-- A word without a meaning of its own in front of a binding. -/
structure Name extends Word where
  ordinary : text ∉ modifiers

end Written

namespace Script

open LocaleCatalogue.Script.Parser

variable {c d e : Cursor} {comments : List Tree} {v w : String}

theorem Cursor.Passes.ofWord {w : Written.Word} (h : c.Passes w.text.toList d) (hend : NoWord d.rest) :
    c.PassesWord w.text d := h.word hend w.begins w.parts

theorem noWord_cons {y : Char} {ys : List Char} (hy : Lexeme.isWordPart y = false ∧ y ≠ '\\')
    (h : c.rest = y :: ys) : NoWord c.rest := forall_head h hy

namespace Cursor.PassesWord

theorem exists_head (h : c.PassesWord w d) :
    ∃ y ys, c.rest = y :: ys ∧ Lexeme.isWordPart y = true := by
  obtain ⟨y, ys, hw, -⟩ := h.first
  exact ⟨y, ys ++ d.rest, by rw [h.rest_eq, hw]; rfl, h.parts y (hw ▸ List.mem_cons_self)⟩

/-- No character that ends words begins a word. -/
theorem head_ne (h : c.PassesWord w d) {x : Char} (hx : Lexeme.isWordPart x = false) :
    x ∉ c.rest.head? := by
  obtain ⟨y, ys, hrest, hy⟩ := h.exists_head
  rw [hrest]
  rintro ⟨⟩
  cases hx.symm.trans hy

theorem differs (h : c.PassesWord w d) {s : String}
    (hs : s.toList.head?.any (! Lexeme.isWordPart ·) = true) : Differs s c.rest := by
  obtain ⟨x, hs, hx⟩ := (Option.any_eq_true _ _).mp hs
  exact ⟨x, hs, h.head_ne (by simpa using hx)⟩

theorem solid (h : c.PassesWord w d) : Solid c.rest := by
  obtain ⟨y, ys, hrest, hy⟩ := h.exists_head
  refine solid_cons ⟨?_, ?_⟩ hrest
  · simp only [Lexeme.isWordPart, Bool.and_eq_true, Bool.not_eq_true'] at hy
    exact hy.1.2
  · rintro rfl
    exact absurd hy (by decide)

end Cursor.PassesWord

/-! ## Blanks before a token -/

/-- One blank before a token is read away. -/
theorem reads_trivia_blank {y : Char} (hy : y ∈ Written.spaces) (h : c.Passes [y] e) (he : Solid e.rest) :
    trivia.Reads c [] e :=
  @reads_trivia_gap c e ⟨[y], fun _ hz => List.mem_singleton.mp hz ▸ hy⟩ h he

theorem reads_trivia_space (h : c.Passes [' '] e) (he : Solid e.rest) : trivia.Reads c [] e :=
  reads_trivia_blank (by decide) h he

theorem Cursor.Passes.noWord {y : Char} {ys : List Char} (h : c.Passes (y :: ys) d)
    (hy : Lexeme.isWordPart y = false ∧ y ≠ '\\') : NoWord c.rest :=
  noWord_cons hy h.rest_eq

/-! ## Words that are not the expected one -/

theorem symbol_eq_none_of_word (h : trivia.Reads c comments e) (hw : e.PassesWord w d) {s : String}
    (hs : s.toList.head?.any (! Lexeme.isWordPart ·) = true) : symbol s c = none :=
  symbol_eq_none h (hw.differs hs)

theorem stringToken_eq_none_of_word (h : trivia.Reads c comments e) (hw : e.PassesWord w d) :
    stringToken c = none :=
  orElse_eq_none.mpr ⟨bind_eq_none_of_left (symbol_eq_none_of_word h hw (by decide)),
    bind_eq_none_of_left (symbol_eq_none_of_word h hw (by decide))⟩

/-- A word is not another keyword. -/
theorem keyword_eq_none_of_word (h : trivia.Reads c comments e) (hw : e.PassesWord w d) (hne : w ≠ v) :
    keyword v c = none := by
  refine whole_eq_none h (bind_eq_none.mpr fun cs e' hupcoming => ?_)
  obtain ⟨rfl, rfl⟩ := reads_upcoming.mp hupcoming
  rw [hw.word_eq]
  refine bind_eq_none.mpr fun _ _ hguard => absurd (reads_guard.mp hguard).1 ?_
  rw [hw.rest_eq, List.take_left, decide_eq_true_iff]
  exact fun heq => hne (String.ext heq)

theorem reads_keywordAmong {words : List String} (h : trivia.Reads c [] e) (hw : e.PassesWord w d)
    (hmem : w ∈ words) : (keywordAmong words).Reads c ⟨[], signTree w e.offset d.offset⟩ d := by
  rw [keywordAmong, reads_bind_of_still (reads_nextWord_of_word h hw)]
  dsimp only
  rw [if_pos (by simpa using hmem)]
  exact reads_keyword h hw

theorem keywordAmong_eq_none_of_word {words : List String} (h : trivia.Reads c comments e)
    (hw : e.PassesWord w d) (hmem : w ∉ words) : keywordAmong words c = none := by
  rw [keywordAmong, bind_of_still (reads_nextWord_of_word h hw)]
  dsimp only
  rw [if_neg (by simpa using hmem)]
  rfl

theorem keywordAmong_eq_none {words : List String} (h : trivia.Reads c comments e)
    (hword : Lexeme.word e.rest = none) : keywordAmong words c = none := by
  rw [keywordAmong, bind_of_still (reads_nextWord_none h hword)]
  rfl

end Script

end LocaleCatalogue
