import LocaleCatalogue.Proofs.Json.Written
import LocaleCatalogue.Proofs.Script.Strings

/-!
# Tokens behind blanks

Which token comes next is decided by the characters behind the blanks. So a token is read, or
refused, as soon as these characters are known, and nothing has to be said about the blanks but that
they are read away.
-/

namespace LocaleCatalogue.Script

open LocaleCatalogue.Script.Parser
open Written (Gap spaces)

variable {c d e : Cursor}

/-- Between two cursors stand exactly the given characters. -/
structure Cursor.Passes (c : Cursor) (cs : List Char) (d : Cursor) : Prop where
  rest_eq : c.rest = cs ++ d.rest
  offset_eq : d.offset = c.offset + cs.length

namespace Cursor

theorem passes_nil : c.Passes [] d ↔ c = d := by
  constructor
  · rintro ⟨hrest, hoffset⟩
    cases c
    cases d
    cases hrest
    cases hoffset
    rfl
  · rintro rfl
    exact ⟨rfl, rfl⟩

theorem passes_append {cs ds : List Char} :
    c.Passes (cs ++ ds) d ↔ ∃ e, c.Passes cs e ∧ e.Passes ds d := by
  constructor
  · rintro ⟨hrest, hoffset⟩
    rw [List.append_assoc] at hrest
    rw [List.length_append, ← Nat.add_assoc] at hoffset
    exact ⟨⟨c.offset + cs.length, ds ++ d.rest⟩, ⟨hrest, rfl⟩, ⟨rfl, hoffset⟩⟩
  · rintro ⟨e, ⟨hrest, hoffset⟩, ⟨hrest', hoffset'⟩⟩
    refine ⟨?_, ?_⟩
    · rw [hrest, hrest', List.append_assoc]
    · rw [hoffset', hoffset, List.length_append, Nat.add_assoc]

theorem passes_cons {x : Char} {cs : List Char} :
    c.Passes (x :: cs) d ↔ ∃ e, c.Passes [x] e ∧ e.Passes cs d :=
  @passes_append c d [x] cs

theorem Passes.reaches {cs : List Char} (h : c.Passes cs d) : c.Reaches d :=
  ⟨cs, h.rest_eq, h.offset_eq⟩

/-- What was read before the later cursor is what was read before the earlier one and the characters
between them. -/
theorem Passes.take {text cs : List Char} (h : c.Passes cs d) (hc : c.At text) :
    text.take d.offset = text.take c.offset ++ cs := by
  have hdrop : text.drop c.offset = cs ++ d.rest := hc.rest_eq ▸ h.rest_eq
  rw [h.offset_eq, List.take_add, hdrop, List.take_left]

/-- The characters between two cursors are those between their offsets. -/
theorem Passes.slice {text cs : List Char} (h : c.Passes cs d) (hc : c.At text) :
    (text.drop c.offset).take (d.offset - c.offset) = cs := by
  have hdrop : text.drop c.offset = cs ++ d.rest := hc.rest_eq ▸ h.rest_eq
  rw [h.offset_eq, Nat.add_sub_cancel_left, hdrop, List.take_left]

end Cursor

/-- A fact about the next character, when the next character is known. -/
theorem forall_head {P : Char → Prop} {y : Char} {cs ys : List Char} (hcs : cs = y :: ys)
    (hy : P y) : ∀ z ∈ cs.head?, P z := by
  rw [hcs]
  rintro z ⟨⟩
  exact hy

/-- A fact about the next character, which is a blank or stands behind the blanks. -/
theorem forall_head_gap {P : Char → Prop} {gap : Gap} (h : c.Passes gap.text d)
    (hspaces : ∀ y ∈ spaces, P y) (hd : ∀ y ∈ d.rest.head?, P y) : ∀ y ∈ c.rest.head?, P y := by
  rw [h.rest_eq]
  cases hgap : gap.text with
  | nil => exact hd
  | cons z zs =>
      have hblank := gap.blank z (hgap ▸ List.mem_cons_self)
      exact forall_head rfl (hspaces z hblank)

/-! ## Blanks -/

/-- No blank and no comment begins here. -/
def Solid (cs : List Char) : Prop := ∀ y ∈ cs.head?, Lexeme.isBlank y = false ∧ y ≠ '/'

theorem Lexeme.run_append {p : Char → Bool} {cs rest : List Char} (hcs : ∀ y ∈ cs, p y = true)
    (hrest : ∀ y ∈ rest.head?, p y = false) : run p (cs ++ rest) = cs.length := by
  induction cs with
  | nil =>
      cases rest with
      | nil => rfl
      | cons y ys =>
          rw [List.nil_append, run, hrest y rfl]
          rfl
  | cons y cs ih =>
      rw [List.cons_append, run, if_pos (hcs y List.mem_cons_self),
        ih fun z hz => hcs z (List.mem_cons_of_mem y hz)]
      rfl

/-- A nonempty run of characters is read up to its end. -/
theorem reads_measured_run {p : Char → Bool} {cs : List Char} (hne : cs ≠ [])
    (hcs : ∀ y ∈ cs, p y = true) (h : c.Passes cs d) (hd : ∀ y ∈ d.rest.head?, p y = false) :
    (measured fun cs => match Lexeme.run p cs with
      | 0 => none
      | n => some n).Reads c () d := by
  refine reads_measured.mpr ⟨cs.length, ?_, reads_skip.mpr ⟨cs, rfl, h.rest_eq, h.offset_eq⟩⟩
  rw [h.rest_eq, Lexeme.run_append hcs hd]
  cases cs with
  | nil => exact absurd rfl hne
  | cons y cs => rfl

theorem blanks_eq_none_of_solid (h : Solid c.rest) : blanks c = none := by
  apply measured_eq_none
  have hrun := @Lexeme.run_append Lexeme.isBlank [] c.rest (by simp) fun y hy => (h y hy).1
  rw [List.nil_append, List.length_nil] at hrun
  rw [hrun]
  rfl

theorem commentTree_eq_none_of_solid (h : Solid c.rest) : commentTree c = none := by
  refine Parser.eq_none_iff.mpr fun t d hread => ?_
  cases hrest : c.rest with
  | nil =>
      obtain ⟨n, hn, -⟩ := reads_measured.mp (reads_commentTree.mp hread).1
      rw [hrest] at hn
      cases hn
  | cons y ys => exact not_reads_commentTree hrest (h y (by rw [hrest]; rfl)).2 t hread

/-- Behind the blanks, a token that is no comment ends what stands between tokens. -/
theorem reads_trivia_of_blanks {u : Option Unit} (h : (optional blanks).Reads c u d)
    (hd : Solid d.rest) : trivia.Reads c [] d := by
  refine reads_bind.mpr ⟨u, d, h, (reads_many_of_stops (stops_of_refuses ?_)).mpr ⟨rfl, rfl⟩⟩
  intro t e hread
  obtain ⟨_, _, hcomment, -⟩ := reads_bind.mp hread
  exact Parser.eq_none_iff.mp (commentTree_eq_none_of_solid hd) _ _ hcomment

/-- The blanks between two tokens are read away. -/
theorem reads_trivia_gap {gap : Gap} (h : c.Passes gap.text d) (hd : Solid d.rest) :
    trivia.Reads c [] d := by
  by_cases hgap : gap.text = []
  · rw [hgap, Cursor.passes_nil] at h
    subst h
    exact reads_trivia_of_blanks
      (reads_optional.mpr (Or.inr ⟨blanks_eq_none_of_solid hd, rfl, rfl⟩)) hd
  · have hspaces : ∀ y ∈ spaces, Lexeme.isBlank y = true := List.all_iff_forall_prop.mp (by decide)
    have hblanks : blanks.Reads c () d :=
      reads_measured_run hgap (fun y hy => hspaces y (gap.blank y hy)) h fun y hy => (hd y hy).1
    exact reads_trivia_of_blanks (reads_optional.mpr (Or.inl ⟨(), rfl, hblanks⟩)) hd

theorem reads_trivia_of_solid (h : Solid c.rest) : trivia.Reads c [] c :=
  reads_trivia_of_blanks (reads_optional.mpr (Or.inr ⟨blanks_eq_none_of_solid h, rfl, rfl⟩)) h

/-! ## Tokens -/

/-- The tree of a token that is only punctuation or a keyword. -/
def signTree (kind : String) (start stop : Nat) : Tree :=
  { kind, named := false, role := none, start, stop, parts := [] }

variable {comments : List Tree}

theorem whole_eq_none {kind : String} {named : Bool} {p : Parser Unit}
    (h : trivia.Reads c comments e) (hp : p e = none) : whole kind named p c = none := by
  refine Parser.eq_none_iff.mpr fun piece d hread => ?_
  obtain ⟨_, e', htrivia, hread, -⟩ := reads_whole.mp hread
  obtain ⟨-, rfl⟩ := h.unique htrivia
  exact Parser.eq_none_iff.mp hp _ _ hread

theorem reads_symbol {s : String} (h : trivia.Reads c [] e) (hs : e.Passes s.toList d) :
    (symbol s).Reads c ⟨[], signTree s e.offset d.offset⟩ d :=
  reads_whole.mpr ⟨[], e, h, reads_spelling.mpr ⟨hs.rest_eq, hs.offset_eq⟩, rfl⟩

/-- The characters do not go on with the spelling: already the first one differs. -/
def Differs (s : String) (cs : List Char) : Prop := ∃ x ∈ s.toList.head?, x ∉ cs.head?

theorem spelling_eq_none {s : String} {cs : List Char} (h : Differs s cs) :
    Lexeme.spelling s.toList cs = none := by
  obtain ⟨x, hs, hx⟩ := h
  obtain ⟨xs, hs⟩ := List.head?_eq_some_iff.mp hs
  rw [Lexeme.spelling, hs]
  cases cs with
  | nil => rfl
  | cons y ys =>
      have hne : (x == y) = false := by
        rw [beq_eq_false_iff_ne]
        rintro rfl
        exact hx rfl
      rw [List.isPrefixOf, hne]
      rfl

theorem symbol_eq_none {s : String} (h : trivia.Reads c comments e) (hs : Differs s e.rest) :
    symbol s c = none :=
  whole_eq_none h (measured_eq_none (spelling_eq_none hs))

theorem symbolUnless_eq_none {s : String} {continued : List Char} (h : trivia.Reads c comments e)
    (hs : Differs s e.rest) : symbolUnless s continued c = none :=
  whole_eq_none h (bind_eq_none.mpr fun _ _ hread =>
    absurd hread (Parser.eq_none_iff.mp (measured_eq_none (spelling_eq_none hs)) _ _))

theorem reads_nextChars (h : trivia.Reads c comments e) : nextChars.Reads c e.rest c := by
  refine reads_bind.mpr ⟨some e.rest, c, reads_lookahead.mpr ?_, reads_pure.mpr ⟨rfl, rfl⟩⟩
  exact Or.inl ⟨e.rest, e, rfl, reads_bind.mpr ⟨comments, e, h, reads_upcoming.mpr ⟨rfl, rfl⟩⟩, rfl⟩

/-! ## Words -/

/-- No word begins here, and none goes on. -/
def NoWord (cs : List Char) : Prop := ∀ y ∈ cs.head?, Lexeme.isWordPart y = false ∧ y ≠ '\\'

namespace Lexeme

theorem wordRest_eq_zero {cs : List Char} (h : NoWord cs) : wordRest 0 cs = 0 := by
  cases cs with
  | nil => rfl
  | cons y ys =>
      obtain ⟨hpart, hslash⟩ := h y rfl
      have hescape : unicodeEscape (y :: ys) = none := by
        unfold unicodeEscape
        split
        next heq => exact absurd (List.cons.inj heq).1 hslash
        next heq => exact absurd (List.cons.inj heq).1 hslash
        next => rfl
      rw [wordRest, hpart, hescape]
      rfl

theorem word_eq_none {cs : List Char} (h : NoWord cs) : word cs = none := by
  cases cs with
  | nil => rfl
  | cons y ys =>
      rw [word, wordRest_eq_zero h]
      split <;> rfl

theorem wordRest_append {cs rest : List Char} (hcs : ∀ y ∈ cs, isWordPart y = true)
    (hrest : NoWord rest) : wordRest 0 (cs ++ rest) = cs.length := by
  induction cs with
  | nil => exact wordRest_eq_zero hrest
  | cons y cs ih =>
      rw [List.cons_append, wordRest, if_pos (hcs y List.mem_cons_self),
        ih fun z hz => hcs z (List.mem_cons_of_mem y hz)]
      rfl

/-- A word goes as far as its characters do. -/
theorem word_append {w rest : List Char} (hfirst : ∃ y ys, w = y :: ys ∧ y.isDigit = false)
    (hparts : ∀ y ∈ w, isWordPart y = true) (hrest : NoWord rest) :
    word (w ++ rest) = some w.length := by
  obtain ⟨y, ys, rfl, hdigit⟩ := hfirst
  rw [List.cons_append, word, ← List.cons_append, wordRest_append hparts hrest, hdigit]
  rfl

end Lexeme

theorem word_eq_none_of_cons {y : Char} {ys : List Char}
    (hy : Lexeme.isWordPart y = false ∧ y ≠ '\\') (hrest : c.rest = y :: ys) :
    Lexeme.word c.rest = none :=
  Lexeme.word_eq_none (forall_head hrest hy)

theorem reads_nextWord {n : Nat} (h : trivia.Reads c comments e) (hn : Lexeme.word e.rest = some n) :
    nextWord.Reads c (some (String.ofList (e.rest.take n))) c := by
  refine reads_bind.mpr ⟨_, c, reads_lookahead.mpr ?_, reads_pure.mpr ⟨rfl, rfl⟩⟩
  refine Or.inl ⟨_, e, rfl, reads_bind.mpr ⟨comments, e, h, ?_⟩, rfl⟩
  refine reads_bind.mpr ⟨e.rest, e, reads_upcoming.mpr ⟨rfl, rfl⟩, ?_⟩
  rw [hn]
  exact reads_pure.mpr ⟨rfl, rfl⟩

theorem reads_nextWord_none (h : trivia.Reads c comments e) (hword : Lexeme.word e.rest = none) :
    nextWord.Reads c none c := by
  refine reads_bind.mpr ⟨none, c, reads_lookahead.mpr (Or.inr ⟨?_, rfl, rfl⟩),
    reads_pure.mpr ⟨rfl, rfl⟩⟩
  refine bind_eq_none.mpr fun _ e' htrivia => bind_eq_none.mpr fun cs e'' hupcoming => ?_
  obtain ⟨-, rfl⟩ := h.unique htrivia
  obtain ⟨rfl, rfl⟩ := reads_upcoming.mp hupcoming
  rw [hword]
  rfl

theorem keyword_eq_none {w : String} (h : trivia.Reads c comments e)
    (hword : Lexeme.word e.rest = none) : keyword w c = none := by
  refine whole_eq_none h (bind_eq_none.mpr fun cs e' hupcoming => ?_)
  obtain ⟨rfl, rfl⟩ := reads_upcoming.mp hupcoming
  rw [hword]
  rfl

theorem wordAs_eq_none {kind : String} (h : trivia.Reads c comments e)
    (hword : Lexeme.word e.rest = none) : wordAs kind c = none :=
  whole_eq_none h (measured_eq_none hword)

/-- The characters of a word, when nothing continues it. -/
structure Cursor.PassesWord (c : Cursor) (w : String) (d : Cursor) : Prop extends
    c.Passes w.toList d where
  first : ∃ y ys, w.toList = y :: ys ∧ y.isDigit = false
  parts : ∀ y ∈ w.toList, Lexeme.isWordPart y = true
  ends : NoWord d.rest

theorem Cursor.PassesWord.word_eq {w : String} (h : c.PassesWord w d) :
    Lexeme.word c.rest = some w.toList.length := by
  rw [h.rest_eq]
  exact Lexeme.word_append h.first h.parts h.ends

theorem reads_nextWord_of_word {w : String} (h : trivia.Reads c comments e)
    (hw : e.PassesWord w d) : nextWord.Reads c (some w) c := by
  have hread := reads_nextWord h hw.word_eq
  rwa [hw.rest_eq, List.take_left, String.ofList_toList] at hread

theorem reads_keyword {w : String} (h : trivia.Reads c [] e) (hw : e.PassesWord w d) :
    (keyword w).Reads c ⟨[], signTree w e.offset d.offset⟩ d := by
  refine reads_whole.mpr ⟨[], e, h, ?_, rfl⟩
  refine reads_bind.mpr ⟨e.rest, e, reads_upcoming.mpr ⟨rfl, rfl⟩, ?_⟩
  rw [hw.word_eq]
  refine reads_bind.mpr ⟨(), e, reads_guard.mpr ⟨?_, rfl⟩, ?_⟩
  · rw [hw.rest_eq, List.take_left, decide_eq_true_iff]
  · exact reads_skip.mpr ⟨w.toList, rfl, hw.rest_eq, hw.offset_eq⟩

theorem reads_wordAs {kind w : String} (h : trivia.Reads c [] e) (hw : e.PassesWord w d) :
    (wordAs kind).Reads c ⟨[], leafTree kind e.offset d.offset⟩ d :=
  reads_whole.mpr ⟨[], e, h, reads_measured.mpr ⟨_, hw.word_eq,
    reads_skip.mpr ⟨w.toList, rfl, hw.rest_eq, hw.offset_eq⟩⟩, rfl⟩

/-! ## What follows a value -/

/-- The characters that may stand behind a value. -/
def separators : List Char := spaces ++ [',', ']', '\x7d']

/-- A value may end here. -/
def Separated (cs : List Char) : Prop := ∀ y ∈ cs.head?, y ∈ separators

theorem Separated.noWord {cs : List Char} (h : Separated cs) : NoWord cs := by
  have hseparators : ∀ y ∈ separators, Lexeme.isWordPart y = false ∧ y ≠ '\\' :=
    List.all_iff_forall_prop.mp (by decide)
  exact fun y hy => hseparators y (h y hy)

end LocaleCatalogue.Script
