import Mathlib.Data.List.Nodup
import LocaleCatalogue.Data.Value

/-!
# Entries of tables

A table is a list of entries, and a name stands for the value of its first entry. A value is put in
the place of the one that the name had, so a table that names everything once keeps doing so. Then
the order of its entries does not matter for what a name stands for.
-/

namespace LocaleCatalogue.Entries

variable {entries : List (Text × Value)} {name other : Text} {v w : Value}

theorem find?_cons (e : Text × Value) :
    find? (e :: entries) name = if e.1 = name then some e.2 else find? entries name := by
  rw [find?, List.find?_cons]
  by_cases h : e.1 = name
  · simp [h]
  · simp [h, find?]

theorem find?_put :
    find? (put entries name v) other = if name = other then some v else find? entries other := by
  induction entries with
  | nil => rw [put, find?_cons]
  | cons e entries ih =>
      obtain ⟨k, w⟩ := e
      rw [put]
      by_cases hk : k = name
      · subst hk
        simp only [if_true, find?_cons]
        split <;> rfl
      · rw [if_neg hk, find?_cons, find?_cons, ih]
        by_cases ho : k = other
        · rw [if_pos ho, if_pos ho, if_neg fun h => hk (ho.trans h.symm)]
        · rw [if_neg ho, if_neg ho]

theorem mem_of_find? (h : find? entries name = some v) : (name, v) ∈ entries := by
  obtain ⟨e, he, hv⟩ := Option.map_eq_some_iff.mp h
  have hname : e.1 = name := by simpa using List.find?_some he
  have hmem := List.mem_of_find?_eq_some he
  rwa [← hname, ← hv]

theorem find?_eq_none_iff : find? entries name = none ↔ name ∉ entries.map Prod.fst := by
  rw [find?, Option.map_eq_none_iff, List.find?_eq_none, List.mem_map]
  constructor
  · rintro h ⟨e, he, rfl⟩
    simpa using h e he
  · intro h e he hname
    exact h ⟨e, he, by simpa using hname⟩

/-- In a table that names everything once, a name stands for the value of its only entry. -/
theorem find?_eq_some_of_mem (hnodup : (entries.map Prod.fst).Nodup) (h : (name, v) ∈ entries) :
    find? entries name = some v := by
  induction entries with
  | nil => cases h
  | cons e entries ih =>
      rw [List.map_cons, List.nodup_cons] at hnodup
      rw [find?_cons]
      rcases List.mem_cons.mp h with rfl | hrest
      · rw [if_pos rfl]
      · have hne : e.1 ≠ name := by
          rintro rfl
          exact hnodup.1 (List.mem_map.mpr ⟨_, hrest, rfl⟩)
        rw [if_neg hne, ih hnodup.2 hrest]

theorem mem_put {e : Text × Value} (h : e ∈ put entries name v) : e = (name, v) ∨ e ∈ entries := by
  induction entries with
  | nil => exact Or.inl (List.mem_singleton.mp h)
  | cons a entries ih =>
      obtain ⟨k, w⟩ := a
      rw [put] at h
      split at h
      next hk =>
        rcases List.mem_cons.mp h with rfl | hrest
        · exact Or.inl (by rw [hk])
        · exact Or.inr (List.mem_cons_of_mem _ hrest)
      next =>
        rcases List.mem_cons.mp h with rfl | hrest
        · exact Or.inr List.mem_cons_self
        · exact (ih hrest).imp_right (List.mem_cons_of_mem _)

theorem names_put (entries : List (Text × Value)) (name : Text) (v : Value) :
    (put entries name v).map Prod.fst =
      if (find? entries name).isSome then entries.map Prod.fst else entries.map Prod.fst ++ [name] := by
  induction entries with
  | nil => rfl
  | cons e entries ih =>
      obtain ⟨k, w⟩ := e
      rw [put, find?_cons]
      by_cases hk : k = name
      · rw [if_pos hk, if_pos hk]
        rfl
      · rw [if_neg hk, if_neg hk, List.map_cons, ih]
        split <;> rfl

/-- A value put into a table that names everything once leaves it so. -/
theorem nodup_put (h : (entries.map Prod.fst).Nodup) : ((put entries name v).map Prod.fst).Nodup := by
  rw [names_put]
  split
  next => exact h
  next hname =>
    refine List.nodup_append.mpr ⟨h, List.nodup_singleton _, ?_⟩
    rintro a ha b hb rfl
    obtain rfl := List.mem_singleton.mp hb
    exact find?_eq_none_iff.mp (Option.not_isSome_iff_eq_none.mp hname) ha

theorem nodup_filter (keep : Text × Value → Bool) (h : (entries.map Prod.fst).Nodup) :
    ((entries.filter keep).map Prod.fst).Nodup :=
  h.sublist (List.filter_sublist.map _)

/-- What a name stands for among the entries that are kept. -/
theorem find?_filter (keep : Text × Value → Bool) (h : (entries.map Prod.fst).Nodup) :
    find? (entries.filter keep) name = (find? entries name).filter fun v => keep (name, v) := by
  induction entries with
  | nil => rfl
  | cons e entries ih =>
      rw [List.map_cons, List.nodup_cons] at h
      rw [List.filter_cons, find?_cons]
      by_cases hname : e.1 = name
      · subst hname
        rw [if_pos rfl, Option.filter_some]
        have hnone : find? (entries.filter keep) e.1 = none := by
          refine find?_eq_none_iff.mpr fun hmem => h.1 ?_
          exact (List.filter_sublist.map _).subset hmem
        split
        next => rw [find?_cons, if_pos rfl]
        next => exact hnone
      · rw [if_neg hname, ← ih h.2]
        split
        next => rw [find?_cons, if_neg hname]
        next => rfl

end LocaleCatalogue.Entries
