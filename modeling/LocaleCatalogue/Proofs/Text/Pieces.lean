import LocaleCatalogue.Text.Basic

/-!
# Pieces of a text

Splitting a text at a code point and joining the pieces again are the list operations of the same
name, so they undo each other.
-/

namespace LocaleCatalogue.Text

theorem splitOn_eq_listSplitOn (separator : CodePoint) (t : Text) :
    splitOn separator t = List.splitOn separator t := by
  induction t with
  | nil => rfl
  | cons c cs ih =>
      rw [List.splitOn_cons_eq_if_modifyHead, splitOn, ih]
      by_cases hc : c = separator
      · simp [hc]
      · rw [if_neg hc, if_neg (by simpa using hc)]
        cases hpieces : List.splitOn separator cs with
        | nil => exact absurd hpieces (List.splitOn_ne_nil separator cs)
        | cons piece pieces => rfl

theorem join_eq_intercalate (separator : Text) (parts : List Text) :
    join separator parts = separator.intercalate parts := by
  induction parts with
  | nil => simp [join]
  | cons part parts ih =>
      cases parts with
      | nil => simp [join]
      | cons next rest => rw [join, ih, List.intercalate_cons_cons, List.append_assoc]

/-- The code points of joined parts are those of the parts and of the separator. -/
theorem mem_join {separator : Text} {parts : List Text} {c : CodePoint}
    (h : c ∈ join separator parts) : c ∈ separator ∨ ∃ part ∈ parts, c ∈ part := by
  induction parts with
  | nil => cases h
  | cons part parts ih =>
      cases parts with
      | nil => exact .inr ⟨part, List.mem_cons_self, h⟩
      | cons next rest =>
          rw [join, List.append_assoc] at h
          rcases List.mem_append.mp h with hpart | h
          · exact .inr ⟨part, List.mem_cons_self, hpart⟩
          · rcases List.mem_append.mp h with hseparator | h
            · exact .inl hseparator
            · rcases ih h with hseparator | ⟨other, hother, hc⟩
              · exact .inl hseparator
              · exact .inr ⟨other, List.mem_cons_of_mem part hother, hc⟩

theorem mem_join_of_mem {separator part : Text} {parts : List Text} (hpart : part ∈ parts)
    {c : CodePoint} (hc : c ∈ part) : c ∈ join separator parts := by
  induction parts with
  | nil => cases hpart
  | cons first parts ih =>
      cases parts with
      | nil =>
          obtain rfl := List.mem_singleton.mp hpart
          exact hc
      | cons next rest =>
          rw [join, List.append_assoc]
          rcases List.mem_cons.mp hpart with rfl | hrest
          · exact List.mem_append_left _ hc
          · exact List.mem_append_right _ (List.mem_append_right _ (ih hrest))

theorem splitOn_ne_nil (separator : CodePoint) (t : Text) : splitOn separator t ≠ [] := by
  rw [splitOn_eq_listSplitOn]
  exact List.splitOn_ne_nil separator t

/-- Joining the pieces gives the text back. -/
theorem join_splitOn (separator : CodePoint) (t : Text) :
    join [separator] (splitOn separator t) = t := by
  rw [join_eq_intercalate, splitOn_eq_listSplitOn, List.intercalate_splitOn]

/-- Pieces without the separator are read back from their joint spelling. -/
theorem splitOn_join {separator : CodePoint} {parts : List Text}
    (hparts : ∀ part ∈ parts, separator ∉ part) (hne : parts ≠ []) :
    splitOn separator (join [separator] parts) = parts := by
  rw [join_eq_intercalate, splitOn_eq_listSplitOn, List.splitOn_intercalate separator hparts hne]

theorem not_mem_of_mem_splitOn {separator : CodePoint} {piece t : Text}
    (hpiece : piece ∈ splitOn separator t) : separator ∉ piece := by
  induction t generalizing piece with
  | nil =>
      rw [splitOn, List.mem_singleton] at hpiece
      subst hpiece
      exact List.not_mem_nil
  | cons c cs ih =>
      rw [splitOn] at hpiece
      by_cases hc : c = separator
      · rw [if_pos hc, List.mem_cons] at hpiece
        rcases hpiece with rfl | hrest
        · exact List.not_mem_nil
        · exact ih hrest
      · rw [if_neg hc] at hpiece
        cases hpieces : splitOn separator cs with
        | nil => exact absurd hpieces (splitOn_ne_nil separator cs)
        | cons first rest =>
            rw [hpieces] at hpiece
            rcases List.mem_cons.mp hpiece with rfl | hrest
            · intro hmem
              rcases List.mem_cons.mp hmem with heq | htail
              · exact hc heq.symm
              · exact ih (hpieces ▸ List.mem_cons_self) htail
            · exact ih (hpieces ▸ List.mem_cons_of_mem first hrest)

/-- Splitting a concatenation only changes the piece where the parts meet. -/
theorem splitOn_append (separator : CodePoint) (s t : Text) :
    splitOn separator (s ++ t) =
      (splitOn separator s).dropLast ++
        (splitOn separator t).modifyHead (((splitOn separator s).getLastD []) ++ ·) := by
  induction s with
  | nil =>
      cases hpieces : splitOn separator t with
      | nil => exact absurd hpieces (splitOn_ne_nil separator t)
      | cons first rest => simp [splitOn, hpieces]
  | cons c cs ih =>
      obtain ⟨first, rest, hpieces⟩ := List.exists_cons_of_ne_nil (splitOn_ne_nil separator cs)
      rw [List.cons_append, splitOn, splitOn, ih, hpieces]
      by_cases hc : c = separator
      · simp [hc]
      · rw [if_neg hc, if_neg hc]
        cases rest with
        | nil =>
            obtain ⟨u, us, hnext⟩ := List.exists_cons_of_ne_nil (splitOn_ne_nil separator t)
            simp [hnext]
        | cons second more => simp

theorem splitOn_append_cons (separator : CodePoint) (s t : Text) :
    splitOn separator (s ++ separator :: t) = splitOn separator s ++ splitOn separator t := by
  have hne := splitOn_ne_nil separator s
  have htail : splitOn separator (separator :: t) = [] :: splitOn separator t := by
    rw [splitOn, if_pos rfl]
  rw [splitOn_append, htail, List.modifyHead_cons, List.append_nil, List.append_cons,
    List.getLastD_eq_getLast?, List.getLast?_eq_some_getLast hne, Option.getD_some,
    List.append_assoc, ← List.append_assoc, List.dropLast_concat_getLast hne]

theorem splitOn_of_notMem {separator : CodePoint} {t : Text} (h : separator ∉ t) :
    splitOn separator t = [t] :=
  @splitOn_join separator [t] (fun _ hpart => List.mem_singleton.mp hpart ▸ h) (List.cons_ne_nil _ _)

end LocaleCatalogue.Text
