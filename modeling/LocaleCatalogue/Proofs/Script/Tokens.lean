import LocaleCatalogue.Proofs.Script.Laid
import LocaleCatalogue.Script.Semicolon

/-!
# Tokens are laid out

A token lays the comments before it and its own tree behind them. A word is never empty. A string
begins with its quote, so it reads the same when the reading begins at the string itself.
-/

namespace LocaleCatalogue.Script

open LocaleCatalogue.Script.Parser

namespace Lexeme

theorem word_pos {cs : List Char} {n : Nat} (h : word cs = some n) : 0 < n := by
  unfold word at h
  split at h
  · cases h
  split at h
  · cases h
  split at h
  · cases h
  next hne =>
    cases h
    exact Nat.pos_of_ne_zero hne

theorem spelling_eq_some {s cs : List Char} {n : Nat} (h : spelling s cs = some n) :
    ∃ rest, cs = s ++ rest ∧ n = s.length := by
  unfold spelling at h
  split at h
  next hprefix =>
    cases h
    obtain ⟨rest, rfl⟩ := List.isPrefixOf_iff_prefix.mp hprefix
    exact ⟨rest, rfl, rfl⟩
  · cases h

end Lexeme

variable {text : List Char} {c d : Cursor}

theorem Cursor.At.eq (h : c.At text) : c = ⟨c.offset, text.drop c.offset⟩ := by
  rw [← h.rest_eq]

/-- The tree of a lexeme that is a node by itself. -/
def leafTree (kind : String) (start stop : Nat) : Tree :=
  { kind, named := true, role := none, start, stop, parts := [] }

theorem reads_commentTree {t : Tree} :
    commentTree.Reads c t d ↔ (measured Lexeme.comment).Reads c () d ∧
      t = leafTree "comment" c.offset d.offset := by
  unfold commentTree
  simp only [reads_bind, reads_offset, reads_pure]
  constructor
  · rintro ⟨_, _, ⟨rfl, rfl⟩, _, _, hmeasured, _, _, ⟨rfl, rfl⟩, rfl, rfl⟩
    exact ⟨hmeasured, rfl⟩
  · rintro ⟨hmeasured, rfl⟩
    exact ⟨_, _, ⟨rfl, rfl⟩, _, _, hmeasured, _, _, ⟨rfl, rfl⟩, rfl, rfl⟩

theorem Tree.sound_leaf {kind : String} {named : Bool} {start stop : Nat}
    (hkind : isComposite kind = true)
    (hle : start ≤ stop) :
    Tree.Sound text { kind, named, role := none, start, stop, parts := [] } :=
  Tree.sound_iff.mpr ⟨Tree.spelled_of_isComposite hkind hle, hle⟩

theorem arranged_trivia {ts : List Tree} (h : trivia.Reads c ts d) :
    Arranged text c.offset ts d.offset := by
  unfold trivia at h
  obtain ⟨_, e, hblanks, hmany⟩ := reads_bind.mp h
  refine Arranged.extend_start (?_ : Arranged text e.offset ts d.offset) hblanks.offset_le
  refine hmany.many_induction (motive := fun c ts => Arranged text c.offset ts d.offset) ?_ ?_
  · intro _
    exact Nat.le_refl d.offset
  · intro c t e ts hfirst _ _ hrest
    obtain ⟨t', f, hcomment, hfirst⟩ := reads_bind.mp hfirst
    obtain ⟨_, f', hblanks, hdone⟩ := reads_bind.mp hfirst
    obtain ⟨rfl, rfl⟩ := reads_pure.mp hdone
    obtain ⟨hmeasured, rfl⟩ := reads_commentTree.mp hcomment
    exact ⟨Nat.le_refl _, Tree.sound_leaf (by decide) hmeasured.offset_le,
      hrest.extend_start hblanks.offset_le⟩

theorem Lexeme.run_le_length (p : Char → Bool) (cs : List Char) : run p cs ≤ cs.length := by
  induction cs with
  | nil => exact Nat.le_refl 0
  | cons c cs ih =>
      rw [run]
      split
      · exact Nat.succ_le_succ ih
      · exact Nat.zero_le _

/-- A run of characters is refused exactly if the next character is not one of them. -/
theorem measured_run_eq_none_iff {p : Char → Bool} {y : Char} {ys : List Char}
    (hrest : c.rest = y :: ys) :
    measured (fun cs => match Lexeme.run p cs with
      | 0 => none
      | n => some n) c = none ↔ p y = false := by
  rw [Parser.eq_none_iff]
  constructor
  · intro h
    cases hy : p y with
    | false => rfl
    | true =>
        have hrun : Lexeme.run p c.rest = Lexeme.run p ys + 1 := by
          rw [hrest, Lexeme.run, if_pos hy]
        have hle := Lexeme.run_le_length p c.rest
        refine absurd (reads_measured.mpr ⟨Lexeme.run p ys + 1, by rw [hrun]; rfl, ?_⟩)
          (h () ⟨c.offset + (Lexeme.run p ys + 1), c.rest.drop (Lexeme.run p ys + 1)⟩)
        refine reads_skip.mpr ⟨c.rest.take (Lexeme.run p ys + 1), ?_, ?_, rfl⟩
        · rw [List.length_take, ← hrun]
          exact Nat.min_eq_left hle
        · rw [List.take_append_drop]
  · intro hy a d h
    obtain ⟨n, hn, -⟩ := reads_measured.mp h
    rw [hrest, Lexeme.run, hy] at hn
    cases hn

theorem blanks_eq_none_iff {y : Char} {ys : List Char} (hrest : c.rest = y :: ys) :
    blanks c = none ↔ Lexeme.isBlank y = false := measured_run_eq_none_iff hrest

theorem kind_of_mem_trivia {ts : List Tree} (h : trivia.Reads c ts d) :
    ∀ t ∈ ts, t.kind = "comment" := by
  obtain ⟨_, _, -, hmany⟩ := reads_bind.mp h
  intro t ht
  obtain ⟨e, f, -, hread⟩ := exists_reads_of_mem_many hmany t ht
  obtain ⟨_, _, hcomment, hread⟩ := reads_bind.mp hread
  obtain ⟨_, _, -, hdone⟩ := reads_bind.mp hread
  obtain ⟨rfl, -⟩ := reads_pure.mp hdone
  rw [(reads_commentTree.mp hcomment).2]
  rfl

theorem not_reads_commentTree {y : Char} {ys : List Char} (hrest : c.rest = y :: ys)
    (hslash : y ≠ '/')
    (t : Tree) : ¬ commentTree.Reads c t d := by
  intro h
  obtain ⟨n, hn, -⟩ := reads_measured.mp (reads_commentTree.mp h).1
  rw [hrest] at hn
  unfold Lexeme.comment at hn
  split at hn
  next heq => exact hslash (List.cons.inj heq).1
  next heq => exact hslash (List.cons.inj heq).1
  · cases hn

/-- Between tokens nothing is read before a character that neither is a blank nor begins a comment.
-/
theorem reads_trivia_nil {y : Char} {ys : List Char} (hrest : c.rest = y :: ys)
    (hblank : Lexeme.isBlank y = false) (hslash : y ≠ '/') : trivia.Reads c [] c := by
  refine reads_bind.mpr
    ⟨none, c, reads_optional.mpr (Or.inr ⟨(blanks_eq_none_iff hrest).mpr hblank, rfl, rfl⟩), ?_⟩
  refine (reads_many_of_stops (stops_of_refuses fun t d h => ?_)).mpr ⟨rfl, rfl⟩
  obtain ⟨t', e, hread, -⟩ := reads_bind.mp h
  exact not_reads_commentTree hrest hslash t' hread

theorem reads_whole {kind : String} {named : Bool} {p : Parser Unit} {piece : Piece} :
    (whole kind named p).Reads c piece d ↔ ∃ comments e, trivia.Reads c comments e ∧
      p.Reads e () d ∧
      piece = ⟨comments,
        { kind, named, role := none, start := e.offset, stop := d.offset, parts := [] }⟩ := by
  unfold whole
  simp only [reads_bind, reads_offset, reads_pure]
  constructor
  · rintro ⟨comments, e, htrivia, _, _, ⟨rfl, rfl⟩, _, _, hp, _, _, ⟨rfl, rfl⟩, rfl, rfl⟩
    exact ⟨comments, e, htrivia, hp, rfl⟩
  · rintro ⟨comments, e, htrivia, hp, rfl⟩
    exact ⟨comments, e, htrivia, _, _, ⟨rfl, rfl⟩, _, _, hp, _, _, ⟨rfl, rfl⟩, rfl, rfl⟩

theorem laysOne_whole {kind : String} {named : Bool} {p : Parser Unit}
    (hkind : isComposite kind = true) :
    LaysOne (whole kind named p) := by
  apply lays_of_reads
  intro text c d piece hc hread
  obtain ⟨comments, e, htrivia, hp, rfl⟩ := reads_whole.mp hread
  exact laid_singleton.mpr ⟨e.offset, arranged_trivia htrivia, Nat.le_refl _,
    Tree.sound_leaf hkind hp.offset_le, Nat.le_refl _⟩

theorem laysOne_symbol {s : String} (hs : isComposite s = true) : LaysOne (symbol s) :=
  laysOne_whole hs

theorem laysOne_symbolUnless {s : String} {continued : List Char} (hs : isComposite s = true) :
    LaysOne (symbolUnless s continued) := laysOne_whole hs

theorem laysOne_keyword {w : String} (hw : isComposite w = true) : LaysOne (keyword w) :=
  laysOne_whole hw

theorem laysOne_keywordAmong {words : List String} (hwords : ∀ w ∈ words, isComposite w = true) :
    LaysOne (keywordAmong words) := by
  apply Lays.skip
  intro next
  split
  next w =>
    split
    next hw => exact laysOne_keyword (hwords w (by simpa using hw))
    · exact lays_refuse
  · exact lays_refuse

/-- A word is not empty. -/
theorem laysOne_wordAs {kind : String} (hkind : kind ≠ "string") : LaysOne (wordAs kind) := by
  apply lays_of_reads
  intro text c d piece hc hread
  obtain ⟨comments, e, htrivia, hword, rfl⟩ := reads_whole.mp hread
  obtain ⟨n, hn, hskip⟩ := reads_measured.mp hword
  obtain ⟨_, -, -, hoffset⟩ := reads_skip.mp hskip
  have hpos := Lexeme.word_pos hn
  have hlt : e.offset < d.offset := by omega
  refine laid_singleton.mpr ⟨e.offset, arranged_trivia htrivia, Nat.le_refl _, ?_, Nat.le_refl _⟩
  exact Tree.sound_iff.mpr
    ⟨⟨Nat.le_of_lt hlt, fun _ => hlt, fun hstring => absurd hstring hkind⟩, Nat.le_of_lt hlt⟩

theorem laysOne_name : LaysOne name := laysOne_wordAs (by decide)

theorem laysOne_numberToken : LaysOne numberToken := laysOne_whole (by decide)

end LocaleCatalogue.Script
