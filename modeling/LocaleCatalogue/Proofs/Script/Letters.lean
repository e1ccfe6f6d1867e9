import LocaleCatalogue.Proofs.Script.Strokes

/-!
# Strings of JSON

The letters of a JSON string are strokes of a literal in double quotes. None of them is a broken line
or the digit for the null character, so nothing that follows a letter changes it, and the value of
the string token is the string.
-/

namespace LocaleCatalogue.Script

open LocaleCatalogue.Script.Parser
open Written (Letter Stroke controls heard isMeaningful literal quoted shorthands)

variable {text : List Char} {c d e : Cursor}

theorem isPlain_of_free {c : Char} (h : Written.isReserved c = false) : isPlain '\x22' c = true := by
  have hreserved : ∀ y ∈ ['\x22', '\\', '\n', '\r', '\x00'], Written.isReserved y = true :=
    List.all_iff_forall_prop.mp (by decide)
  have hne : ∀ y ∈ ['\x22', '\\', '\n', '\r', '\x00'], c ≠ y := by
    rintro y hy rfl
    cases h.symm.trans (hreserved c hy)
  simp only [List.mem_cons, List.not_mem_nil, or_false, forall_eq_or_imp, forall_eq] at hne
  simp [isPlain, hne]

/-- A stroke that nothing behind it changes. -/
def Stroke.Settled (s : Stroke '\x22') : Prop := s ≠ .null ∧ s.cuts = false

/-- A letter is a stroke that nothing behind it changes. -/
theorem exists_stroke (letter : Letter) :
    ∃ s : Stroke '\x22', Stroke.Settled s ∧ s.text = letter.text ∧ s.value = [letter.value] := by
  cases letter with
  | plain c free => exact ⟨.bare c (isPlain_of_free free), ⟨nofun, rfl⟩, rfl, rfl⟩
  | short letter c known =>
      have hshort : ∀ s ∈ shorthands, s ∈ controls ∨ s.1 = s.2 ∧ isMeaningful s.2 = false := by decide
      rcases hshort _ known with hcontrol | ⟨hsame, hfree⟩
      · exact ⟨.control letter c hcontrol, ⟨nofun, rfl⟩, rfl, rfl⟩
      · obtain rfl : letter = c := hsame
        exact ⟨.itself letter hfree, ⟨nofun, rfl⟩, rfl, rfl⟩
  | coded digits c known four spells reserved =>
      refine ⟨.coded .four digits c known four spells, ⟨nofun, rfl⟩, ?_, rfl⟩
      simp [Stroke.text, Letter.text, Written.Coding.opening, Written.Coding.closing]

theorem exists_strokes (letters : List Letter) :
    ∃ strokes : List (Stroke '\x22'), strokes.IsChain Stroke.Precedes ∧
      literal strokes = quoted letters ∧ heard false strokes = letters.map Letter.value := by
  suffices h : ∃ strokes : List (Stroke '\x22'), strokes.IsChain Stroke.Precedes ∧
      strokes.flatMap Stroke.text = letters.flatMap Letter.text ∧
      heard false strokes = letters.map Letter.value by
    obtain ⟨strokes, hprecedes, htext, hheard⟩ := h
    exact ⟨strokes, hprecedes, by rw [literal, quoted, htext], hheard⟩
  induction letters with
  | nil => exact ⟨[], .nil, rfl, rfl⟩
  | cons letter letters ih =>
      obtain ⟨s, ⟨hnull, hcuts⟩, htext, hvalue⟩ := exists_stroke letter
      obtain ⟨strokes, hprecedes, htexts, hheard⟩ := ih
      refine ⟨s :: strokes, List.isChain_cons.mpr ⟨fun t _ => ?_, hprecedes⟩, ?_, ?_⟩
      · cases s with
        | null => exact absurd rfl hnull
        | bare | control | coded | itself | broken => trivial
      · rw [List.flatMap_cons, List.flatMap_cons, htext, htexts]
      · rw [heard, hcuts, hheard, hvalue]
        rfl

/-- A string of JSON is a string token with the value of its letters. -/
theorem reads_quoted (hc : c.At text) (h : trivia.Reads c [] e) {letters : List Letter}
    (hp : e.Passes (quoted letters) d) :
    ∃ t, stringToken.Reads c ⟨[], t⟩ d ∧
      t.IsString text e.offset d.offset (letters.map Letter.value) := by
  obtain ⟨strokes, hprecedes, htext, hheard⟩ := exists_strokes letters
  rw [← htext] at hp
  rw [← hheard]
  exact reads_literal (by decide) hc h hprecedes hp

end LocaleCatalogue.Script
