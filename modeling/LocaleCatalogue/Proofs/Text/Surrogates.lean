import Mathlib.Data.List.Chain
import LocaleCatalogue.Text.Basic

/-!
# Surrogates

A text may hold surrogates. Two of them, a high one directly followed by a low one, are the two halves
of a code point beyond the first plane wherever texts are written in units of sixteen bits. So a text
is more than its units: it also says where two halves are kept apart.
-/

namespace LocaleCatalogue

namespace CodePoint

/-- The first half of a pair. -/
def IsHigh (c : CodePoint) : Prop := 0xD800 ≤ c.val ∧ c.val ≤ 0xDBFF

/-- The second half of a pair. -/
def IsLow (c : CodePoint) : Prop := 0xDC00 ≤ c.val ∧ c.val ≤ 0xDFFF

instance (c : CodePoint) : Decidable c.IsHigh := inferInstanceAs (Decidable (_ ∧ _))

instance (c : CodePoint) : Decidable c.IsLow := inferInstanceAs (Decidable (_ ∧ _))

/-- The two halves of a code point beyond the first plane. -/
def IsPair (high low c : CodePoint) : Prop :=
  high.IsHigh ∧ low.IsLow ∧ c.val = 0x10000 + (high.val - 0xD800) * 0x400 + (low.val - 0xDC00)

theorem IsHigh.not_isLow {c : CodePoint} (h : c.IsHigh) : ¬ c.IsLow := by
  unfold IsHigh at h
  unfold IsLow
  omega

/-- A character is no half of a pair. -/
theorem ofChar_val_cases (c : Char) : (ofChar c).val < 0xD800 ∨ 0xDFFF < (ofChar c).val := by
  have hvalid : c.toNat.isValidChar := c.valid
  exact hvalid.imp_right And.left

theorem not_isHigh_ofChar (c : Char) : ¬ (ofChar c).IsHigh := by
  have hcases := ofChar_val_cases c
  unfold IsHigh
  omega

theorem not_isLow_ofChar (c : Char) : ¬ (ofChar c).IsLow := by
  have hcases := ofChar_val_cases c
  unfold IsLow
  omega

/-- Every other code point is a character. -/
theorem exists_char {c : CodePoint} (hhigh : ¬ c.IsHigh) (hlow : ¬ c.IsLow) :
    ∃ d : Char, ofChar d = c := by
  have hlt := c.isLt
  have hvalid : c.val.isValidChar := by
    unfold IsHigh at hhigh
    unfold IsLow at hlow
    unfold Nat.isValidChar
    omega
  exact ⟨Char.ofNatAux c.val hvalid, rfl⟩

end CodePoint

/-- No high surrogate is directly followed by a low one. -/
def Text.Unpaired (t : Text) : Prop := t.IsChain fun a b => ¬ (a.IsHigh ∧ b.IsLow)

instance (t : Text) : Decidable t.Unpaired := inferInstanceAs (Decidable (List.IsChain _ _))

theorem Text.unpaired_ofChars (cs : List Char) : (Text.ofChars cs).Unpaired := by
  induction cs with
  | nil => exact .nil
  | cons c cs ih =>
      exact List.isChain_cons.mpr ⟨fun _ _ hpair => CodePoint.not_isHigh_ofChar c hpair.1, ih⟩

/-! ## Units -/

/-- The units of sixteen bits that a code point is written in. -/
def CodePoint.units (c : CodePoint) : List Nat :=
  if c.val < 0x10000 then [c.val]
  else [0xD800 + (c.val - 0x10000) / 0x400, 0xDC00 + (c.val - 0x10000) % 0x400]

/-- The units that a text is written in. -/
def Text.units (t : Text) : List Nat := t.flatMap CodePoint.units

/-- Where the surrogates of a text stand, counted in units. -/
def Text.surrogates : (start : Nat) → Text → List Nat
  | _, [] => []
  | start, c :: t =>
    (if c.isSurrogate then [start] else []) ++ surrogates (start + c.units.length) t

theorem CodePoint.isSurrogate_iff {c : CodePoint} : c.isSurrogate = true ↔ c.IsHigh ∨ c.IsLow := by
  simp only [isSurrogate, Bool.and_eq_true, decide_eq_true_eq, IsHigh, IsLow]
  omega

theorem CodePoint.isSurrogate_ofChar (c : Char) : (ofChar c).isSurrogate = false := by
  rw [Bool.eq_false_iff, ne_eq, isSurrogate_iff, not_or]
  exact ⟨not_isHigh_ofChar c, not_isLow_ofChar c⟩

theorem CodePoint.units_of_isSurrogate {c : CodePoint} (h : c.isSurrogate = true) :
    c.units = [c.val] := by
  simp only [isSurrogate, Bool.and_eq_true, decide_eq_true_eq] at h
  rw [units, if_pos (by omega)]

namespace Text

theorem units_cons (c : CodePoint) (t : Text) : units (c :: t) = c.units ++ units t :=
  List.flatMap_cons

theorem surrogates_append (start : Nat) (s t : Text) :
    surrogates start (s ++ t) = surrogates start s ++ surrogates (start + (units s).length) t := by
  induction s generalizing start with
  | nil => rfl
  | cons c s ih =>
      rw [List.cons_append, surrogates, surrogates, ih, units_cons, List.length_append,
        List.append_assoc, Nat.add_assoc]

theorem surrogates_ofChars (start : Nat) (cs : List Char) : surrogates start (ofChars cs) = [] := by
  induction cs generalizing start with
  | nil => rfl
  | cons c cs ih =>
      change (if (CodePoint.ofChar c).isSurrogate then [start] else []) ++
        surrogates _ (ofChars cs) = []
      rw [CodePoint.isSurrogate_ofChar, ih]
      rfl

theorem le_of_mem_surrogates {start n : Nat} {t : Text} (h : n ∈ surrogates start t) : start ≤ n := by
  induction t generalizing start with
  | nil => cases h
  | cons c t ih =>
      rw [surrogates, List.mem_append] at h
      rcases h with h | h
      · split at h
        · exact Nat.le_of_eq (List.mem_singleton.mp h).symm
        · cases h
      · exact Nat.le_trans (Nat.le_add_right _ _) (ih h)

/-- A code point beyond the first plane does not begin where a surrogate of a text with the same units
stands. -/
theorem surrogates_ne_of_units {start : Nat} {a b : CodePoint} {s t : Text} (ha : ¬ a.val < 0x10000)
    (hb : b.val < 0x10000) (hunits : units (a :: s) = units (b :: t)) :
    surrogates start (a :: s) ≠ surrogates start (b :: t) := by
  have hlt := a.isLt
  rw [units_cons, units_cons, CodePoint.units, if_neg ha, CodePoint.units, if_pos hb] at hunits
  have hfirst : 0xD800 + (a.val - 0x10000) / 0x400 = b.val := (List.cons.inj hunits).1
  have hsurrogate : b.isSurrogate = true := by
    simp only [CodePoint.isSurrogate, Bool.and_eq_true, decide_eq_true_eq]
    omega
  have hplain : a.isSurrogate = false := by
    simp only [CodePoint.isSurrogate, Bool.and_eq_false_iff, decide_eq_false_iff_not]
    omega
  intro heq
  have hmem : start ∈ surrogates start (a :: s) := by
    rw [heq, surrogates, if_pos hsurrogate]
    exact List.mem_append_left _ List.mem_cons_self
  rw [surrogates, hplain, if_neg (by simp), List.nil_append] at hmem
  have hle := le_of_mem_surrogates hmem
  rw [CodePoint.units, if_neg ha] at hle
  simp only [List.length_cons, List.length_nil] at hle
  omega

/-- A text is its units and the places of its surrogates. -/
theorem eq_of_units_of_surrogates {start : Nat} {s t : Text} (hunits : units s = units t)
    (hsurrogates : surrogates start s = surrogates start t) : s = t := by
  have hne : ∀ c : CodePoint, c.units ≠ [] := by
    intro c
    rw [CodePoint.units]
    split <;> exact List.cons_ne_nil _ _
  induction s generalizing start t with
  | nil =>
      cases t with
      | nil => rfl
      | cons b t =>
          rw [units_cons] at hunits
          exact absurd (List.append_eq_nil_iff.mp hunits.symm).1 (hne b)
  | cons a s ih =>
      cases t with
      | nil =>
          rw [units_cons] at hunits
          exact absurd (List.append_eq_nil_iff.mp hunits).1 (hne a)
      | cons b t =>
          have hhead : a = b := by
            by_cases ha : a.val < 0x10000
            · by_cases hb : b.val < 0x10000
              · rw [units_cons, units_cons, CodePoint.units, if_pos ha, CodePoint.units,
                  if_pos hb] at hunits
                exact Fin.ext (List.cons.inj hunits).1
              · exact absurd hsurrogates.symm (surrogates_ne_of_units hb ha hunits.symm)
            · by_cases hb : b.val < 0x10000
              · exact absurd hsurrogates (surrogates_ne_of_units ha hb hunits)
              · rw [units_cons, units_cons, CodePoint.units, if_neg ha, CodePoint.units,
                  if_neg hb] at hunits
                obtain ⟨hfirst, hrest⟩ := List.cons.inj hunits
                have hsecond := (List.cons.inj hrest).1
                refine Fin.ext ?_
                have hdiv := Nat.div_add_mod' (a.val - 0x10000) 0x400
                have hdiv' := Nat.div_add_mod' (b.val - 0x10000) 0x400
                omega
          subst hhead
          rw [units_cons, units_cons, List.append_cancel_left_eq] at hunits
          rw [surrogates, surrogates, List.append_cancel_left_eq] at hsurrogates
          rw [ih hunits hsurrogates]

end Text

end LocaleCatalogue
