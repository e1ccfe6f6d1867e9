import Mathlib.Data.List.Pairwise
import Mathlib.Data.List.Lex

/-!
# Listings by address

An address is a list of positions, one for each level of a nested structure. A list of values is the
listing of what stands at which address if it holds each of these values once, in the dictionary
order of the addresses, and nothing else. The listing of a structure is put together from the
listings of its parts.
-/

namespace LocaleCatalogue

/-- The values are those that stand at some address, each once for its address, in the dictionary
order of the addresses. -/
def Listed {α : Type} (stands : List Nat → α → Prop) (values : List α) : Prop :=
  ∃ entries : List (List Nat × α), entries.map Prod.snd = values ∧
    entries.Pairwise (fun a b => a.1 < b.1) ∧
    ∀ address value, (address, value) ∈ entries ↔ stands address value

namespace Listed

variable {α : Type} {stands other : List Nat → α → Prop} {values : List α}

theorem congr (h : Listed stands values)
    (hsame : ∀ address value, stands address value ↔ other address value) :
    Listed other values := by
  obtain ⟨entries, hvalues, hsorted, hmem⟩ := h
  exact ⟨entries, hvalues, hsorted, fun address value =>
    (hmem address value).trans (hsame address value)⟩

theorem mem_iff (h : Listed stands values) {value : α} :
    value ∈ values ↔ ∃ address, stands address value := by
  obtain ⟨entries, rfl, -, hmem⟩ := h
  simp [← hmem]

/-- Nothing is listed where nothing stands. -/
theorem empty (h : ∀ address value, ¬ stands address value) : Listed stands [] :=
  ⟨[], rfl, .nil, fun address value => by simp [h]⟩

/-- One value that stands right here. -/
theorem single (value : α) : Listed (fun address v => address = [] ∧ v = value) [value] :=
  ⟨[([], value)], rfl, List.pairwise_singleton _ _, fun address v => by simp⟩

/-- The listing of a structure is the concatenation of the listings of its parts, given by their
positions from `first` on. -/
theorem flatten {parts : List (List α)} {first : Nat}
    (hparts : ∀ i part, parts[i]? = some part →
      Listed (fun address value => stands ((first + i) :: address) value) part)
    (hrange : ∀ i address value, stands (i :: address) value → i < first + parts.length) :
    Listed (fun address value => ∃ i rest, address = i :: rest ∧ first ≤ i ∧ stands address value)
      parts.flatten := by
  induction parts generalizing first with
  | nil =>
      apply Listed.empty
      rintro _ value ⟨i, rest, rfl, hfirst, hstands⟩
      have hlast := hrange i rest value hstands
      simp only [List.length_nil] at hlast
      omega
  | cons part parts ih =>
      obtain ⟨head, rfl, hheadSorted, hheadMem⟩ := hparts 0 part rfl
      obtain ⟨tail, htail, htailSorted, htailMem⟩ := @ih (first + 1)
        (fun i part hpart => by
          have hnext := hparts (i + 1) part (by simpa using hpart)
          rwa [show first + (i + 1) = first + 1 + i by omega] at hnext)
        (fun i address value hstands => by
          have hlast := hrange i address value hstands
          rw [List.length_cons] at hlast
          omega)
      -- The first part moves behind its own position. Its addresses stay in order and come before
      -- all others.
      refine ⟨head.map (fun entry => (first :: entry.1, entry.2)) ++ tail, ?_, ?_, ?_⟩
      · simp [htail, Function.comp_def]
      · refine List.pairwise_append.mpr ⟨?_, htailSorted, ?_⟩
        · refine List.pairwise_map.mpr (hheadSorted.imp ?_)
          intro a b hab
          exact List.cons_lt_cons_iff.mpr (Or.inr ⟨rfl, hab⟩)
        · intro a ha b hb
          obtain ⟨entry, -, rfl⟩ := List.mem_map.mp ha
          obtain ⟨i, rest, hb', hfirst, -⟩ := (htailMem b.1 b.2).mp hb
          rw [hb']
          exact List.cons_lt_cons_iff.mpr (Or.inl (by omega))
      · intro address value
        rw [List.mem_append, htailMem]
        constructor
        · rintro (hhead | ⟨i, rest, rfl, hfirst, hstands⟩)
          · obtain ⟨entry, hentry, heq⟩ := List.mem_map.mp hhead
            cases heq
            exact ⟨first, entry.1, rfl, le_rfl, (hheadMem entry.1 entry.2).mp hentry⟩
          · exact ⟨i, rest, rfl, by omega, hstands⟩
        · rintro ⟨i, rest, rfl, hfirst, hstands⟩
          by_cases hi : i = first
          · subst hi
            exact Or.inl (List.mem_map.mpr ⟨(rest, value), (hheadMem rest value).mpr hstands, rfl⟩)
          · exact Or.inr ⟨i, rest, rfl, by omega, hstands⟩

/-- If nothing stands at a structure itself, its listing is the concatenation of the listings of its
parts. -/
theorem of_parts {parts : List (List α)} (hroot : ∀ value, ¬ stands [] value)
    (hparts : ∀ i part, parts[i]? = some part →
      Listed (fun address value => stands (i :: address) value) part)
    (hrange : ∀ i address value, stands (i :: address) value → i < parts.length) :
    Listed stands parts.flatten := by
  have hlisted := @flatten α stands parts 0
    (fun i part hpart => by simpa only [Nat.zero_add] using hparts i part hpart)
    (fun i address value hstands => by simpa only [Nat.zero_add] using hrange i address value hstands)
  apply hlisted.congr
  intro address value
  constructor
  · rintro ⟨_, _, -, -, hstands⟩
    exact hstands
  · intro hstands
    cases address with
    | nil => exact absurd hstands (hroot value)
    | cons i rest => exact ⟨i, rest, rfl, Nat.zero_le i, hstands⟩

end Listed

end LocaleCatalogue
