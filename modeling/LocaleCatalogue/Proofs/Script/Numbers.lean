import LocaleCatalogue.Proofs.Script.Spacing

/-!
# Numbers of JSON

A number of JSON is a number of the language, with every character of it: none of the longer
spellings that the language has besides begins like it, and a separator continues none.
-/

namespace LocaleCatalogue.Script

open LocaleCatalogue.Script.Parser
open Written (Digits Exponent Magnitude decimalDigits)

/-- The characters that may stand behind digits. -/
def digitEnds : List Char := ['.', 'e', 'E'] ++ separators

namespace Lexeme

theorem digits_append {p : Char → Bool} {cs rest : List Char} (hcs : ∀ y ∈ cs, p y = true ∧ y ≠ '_')
    (hrest : ∀ y ∈ rest.head?, p y = false ∧ y ≠ '_') : digits p (cs ++ rest) = cs.length := by
  induction cs with
  | nil =>
      cases rest with
      | nil => rfl
      | cons y ys =>
          obtain ⟨hy, hscore⟩ := hrest y rfl
          rw [List.nil_append, digits.eq_def]
          dsimp only
          rw [hy, if_neg (by simp), if_neg hscore]
          rfl
  | cons y cs ih =>
      have hmore := ih fun z hz => hcs z (List.mem_cons_of_mem y hz)
      rw [List.cons_append, digits.eq_def]
      dsimp only
      rw [if_pos (hcs y List.mem_cons_self).1]
      split
      next d ds heq =>
        -- An underscore would have to be a digit or what stands behind them.
        cases cs with
        | nil => exact absurd rfl (hrest '_' (by rw [List.nil_append] at heq; rw [heq]; rfl)).2
        | cons z cs =>
            obtain ⟨rfl, -⟩ := List.cons.inj heq
            exact absurd rfl (hcs _ (List.mem_cons_of_mem y List.mem_cons_self)).2
      next => rw [hmore, List.length_cons]

theorem digitsFrom_append (d : Digits) {rest : List Char}
    (hrest : ∀ y ∈ rest.head?, y ∈ digitEnds) :
    digitsFrom Char.isDigit (d.text ++ rest) = d.text.length := by
  have hdigits : ∀ y ∈ decimalDigits, y.isDigit = true ∧ y ≠ '_' :=
    List.all_iff_forall_prop.mp (by decide)
  have hends : ∀ y ∈ digitEnds, y.isDigit = false ∧ y ≠ '_' :=
    List.all_iff_forall_prop.mp (by decide)
  have hrun := @digits_append Char.isDigit d.text rest (fun y hy => hdigits y (d.digits y hy))
    fun y hy => hends y (hrest y hy)
  rw [Digits.text, List.cons_append] at hrun ⊢
  rw [digitsFrom, if_pos (hdigits _ (d.digits _ List.mem_cons_self)).1, hrun]

theorem exponent_after {n : Nat} (d : Digits) {rest : List Char} (hrest : Separated rest) :
    exponent.after n (d.text ++ rest) = d.text.length + n := by
  rw [exponent.after, digitsFrom_append d fun y hy => List.mem_append_right _ (hrest y hy)]
  rfl

theorem exponent_append (e : Exponent) {rest : List Char} (hrest : Separated rest) :
    exponent (e.text ++ rest) = e.text.length := by
  have hletter : (e.letter = 'e' || e.letter = 'E') = true := by
    rcases e.known with h | h <;> rw [h] <;> decide
  rw [Exponent.text, List.append_assoc, List.cons_append, exponent.eq_def]
  dsimp only
  rw [if_pos hletter]
  rcases e.signed with hsign | hsign | hsign
  · -- Without a sign the digits begin at once, and no digit is a sign.
    have hfirst : ∀ y ys, e.digits.text ++ rest = y :: ys → y ∈ decimalDigits := by
      rintro y ys ⟨⟩
      exact e.digits.digits _ List.mem_cons_self
    rw [hsign, List.nil_append]
    split
    next heq => exact absurd (hfirst _ _ heq) (by decide)
    next heq => exact absurd (hfirst _ _ heq) (by decide)
    next =>
      rw [exponent_after e.digits hrest]
      rfl
  · rw [hsign]
    exact exponent_after e.digits hrest
  · rw [hsign]
    exact exponent_after e.digits hrest

theorem exponent_eq_zero {rest : List Char} (hrest : Separated rest) : exponent rest = 0 := by
  have hletters : ∀ y ∈ separators, (y = 'e' || y = 'E') = false :=
    List.all_iff_forall_prop.mp (by decide)
  rw [exponent.eq_def]
  split
  next y ys => rw [hletters y (hrest y rfl), if_neg (by simp)]
  next => rfl

/-- The exponent of a number, or none, is read up to its end. -/
theorem exponent_elim (e : Option Exponent) {rest : List Char} (hrest : Separated rest) :
    exponent (e.elim [] Exponent.text ++ rest) = (e.elim [] Exponent.text).length := by
  cases e with
  | none => exact exponent_eq_zero hrest
  | some e => exact exponent_append e hrest

theorem head_exponent (e : Option Exponent) {rest : List Char} (hrest : Separated rest) :
    ∀ y ∈ (e.elim [] Exponent.text ++ rest).head?, y ∈ digitEnds ∧ y ≠ '.' := by
  have hseparators : ∀ y ∈ separators, y ∈ digitEnds ∧ y ≠ '.' :=
    List.all_iff_forall_prop.mp (by decide)
  cases e with
  | none => exact fun y hy => hseparators y (hrest y hy)
  | some e =>
      rintro y ⟨⟩
      rcases e.known with h | h <;> rw [h] <;> decide

theorem isPlainInteger_whole (m : Magnitude) : isPlainInteger m.whole.text = true := by
  rw [Digits.text]
  by_cases hzero : m.whole.first = '0'
  · rw [hzero, m.plain hzero]
    rfl
  · unfold isPlainInteger
    split
    · rfl
    next heq => exact absurd (List.cons.inj heq).1 hzero
    next heq =>
      obtain ⟨rfl, -⟩ := List.cons.inj heq
      exact decide_eq_true hzero
    next heq => cases heq

/-- What stands behind the digits before the point. -/
def afterWhole (m : Magnitude) (rest : List Char) : List Char :=
  (m.fraction.elim [] fun d => '.' :: d.text) ++ (m.exponent.elim [] Exponent.text ++ rest)

theorem magnitude_append (m : Magnitude) (rest : List Char) :
    m.text ++ rest = m.whole.text ++ afterWhole m rest := by
  simp only [Magnitude.text, afterWhole, List.append_assoc]

theorem head_afterWhole (m : Magnitude) {rest : List Char} (hrest : Separated rest) :
    ∀ y ∈ (afterWhole m rest).head?, y ∈ digitEnds := by
  rw [afterWhole]
  cases m.fraction with
  | none => exact fun y hy => (head_exponent m.exponent hrest y hy).1
  | some d =>
      rintro y ⟨⟩
      decide

theorem decimal_append (m : Magnitude) {rest : List Char} (hrest : Separated rest) :
    decimal (m.text ++ rest) = some m.text.length := by
  have hbig : (afterWhole m rest).head? ≠ some 'n' := fun h =>
    absurd (head_afterWhole m hrest _ h) (by decide)
  have hexponent := head_exponent m.exponent hrest
  rw [magnitude_append, decimal.eq_def, digitsFrom_append m.whole (head_afterWhole m hrest)]
  split
  next hzero => exact absurd hzero (by rw [Digits.text, List.length_cons]; omega)
  next =>
    rw [List.drop_left, List.take_left, isPlainInteger_whole, if_neg hbig, if_pos rfl, afterWhole,
      Magnitude.text]
    cases m.fraction with
    | none =>
        simp only [Option.elim_none, List.nil_append, List.append_nil, List.length_append]
        split
        next heq => exact absurd rfl (hexponent '.' (by rw [heq]; rfl)).2
        next => rw [exponent_elim m.exponent hrest]
    | some d =>
        have hfraction := digitsFrom_append d fun y hy => (hexponent y hy).1
        simp only [Option.elim_some, List.cons_append, hfraction, List.drop_left,
          exponent_elim m.exponent hrest, List.length_append, List.length_cons, Option.some.injEq]
        omega

/-- A number of JSON is read up to its end. -/
theorem number_append (m : Magnitude) {rest : List Char} (hrest : Separated rest) :
    number (m.text ++ rest) = some m.text.length := by
  have hdecimal := decimal_append m hrest
  rw [magnitude_append] at hdecimal ⊢
  have hhead := head_afterWhole m hrest
  rw [Digits.text] at hdecimal ⊢
  rw [number.eq_def]
  dsimp only
  split
  next n hspecial =>
    -- Behind a zero no letter stands that would give a base.
    have hletters : ∀ y ∈ digitEnds, y ∉ ['x', 'X', 'o', 'O', 'b', 'B'] :=
      List.all_iff_forall_prop.mp (by decide)
    split at hspecial
    next b ds heq =>
      rw [List.cons_append] at heq
      obtain ⟨hfirst, heq⟩ := List.cons.inj heq
      rw [m.plain hfirst, List.nil_append] at heq
      have hb := hletters b (hhead b (by rw [heq]; rfl))
      simp only [List.mem_cons, List.not_mem_nil, or_false, not_or] at hb
      simp [hb] at hspecial
    next => cases hspecial
  next => exact hdecimal

end Lexeme

theorem reads_numberToken {c d e : Cursor} {m : Magnitude} (h : trivia.Reads c [] e)
    (hm : e.Passes m.text d) (hd : Separated d.rest) :
    numberToken.Reads c ⟨[], leafTree "number" e.offset d.offset⟩ d := by
  refine reads_whole.mpr ⟨[], e, h, reads_measured.mpr ⟨m.text.length, ?_, ?_⟩, rfl⟩
  · rw [hm.rest_eq, Lexeme.number_append m hd]
  · exact reads_skip.mpr ⟨m.text, rfl, hm.rest_eq, hm.offset_eq⟩

end LocaleCatalogue.Script
