import Mathlib.Data.List.Forall2

/-!
# Answers that may be refused

Questions that are asked one after the other are answered if each of them is, and else with the first
refusal. So what is known about the joint answer is traced back to the single ones: to the two steps
of a composite question, and to the members of a list that is asked about.
-/

namespace LocaleCatalogue

variable {ε α β : Type}

/-! ## Two questions -/

theorem map_eq_ok_iff {answer : Except ε α} {f : α → β} {b : β} :
    answer.map f = .ok b ↔ ∃ a, answer = .ok a ∧ f a = b := by
  cases answer with
  | ok a => simp [Except.map]
  | error e => simp [Except.map]

theorem map_eq_error_iff {answer : Except ε α} {f : α → β} {e : ε} :
    answer.map f = .error e ↔ answer = .error e := by
  cases answer with
  | ok a => simp [Except.map]
  | error e' => simp [Except.map]

theorem bind_eq_ok_iff {answer : Except ε α} {f : α → Except ε β} {b : β} :
    (answer >>= f) = .ok b ↔ ∃ a, answer = .ok a ∧ f a = .ok b := by
  cases answer with
  | ok a => simp [bind, Except.bind]
  | error e => simp [bind, Except.bind]

theorem bind_eq_error_iff {answer : Except ε α} {f : α → Except ε β} {e : ε} :
    (answer >>= f) = .error e ↔ answer = .error e ∨ ∃ a, answer = .ok a ∧ f a = .error e := by
  cases answer with
  | ok a => simp [bind, Except.bind]
  | error e' => simp [bind, Except.bind]

/-! ## A question about each member of a list -/

/-- Asking about each member of a list succeeds exactly if every question does. -/
theorem mapM_eq_ok_iff {f : α → Except ε β} {as : List α} {bs : List β} :
    as.mapM f = .ok bs ↔ List.Forall₂ (fun a b => f a = .ok b) as bs := by
  induction as generalizing bs with
  | nil => cases bs <;> simp [pure, Except.pure]
  | cons a as ih =>
      rw [List.mapM_cons, bind_eq_ok_iff]
      constructor
      · rintro ⟨b, hb, h⟩
        obtain ⟨rest, hrest, h⟩ := bind_eq_ok_iff.mp h
        cases h
        exact .cons hb (ih.mp hrest)
      · rintro (_ | ⟨hb, hrest⟩)
        exact ⟨_, hb, bind_eq_ok_iff.mpr ⟨_, ih.mpr hrest, rfl⟩⟩

/-- A refusal about a list is a refusal about one of its members. -/
theorem exists_of_mapM_error {f : α → Except ε β} {as : List α} {e : ε} (h : as.mapM f = .error e) :
    ∃ a ∈ as, f a = .error e := by
  induction as with
  | nil => cases h
  | cons a as ih =>
      rw [List.mapM_cons] at h
      rcases bind_eq_error_iff.mp h with ha | ⟨b, -, h⟩
      · exact ⟨a, List.mem_cons_self, ha⟩
      rcases bind_eq_error_iff.mp h with has | ⟨bs, -, h⟩
      · obtain ⟨other, hother, hrefused⟩ := ih has
        exact ⟨other, List.mem_cons_of_mem a hother, hrefused⟩
      · cases h

theorem exists_mem_of_forall₂ {R : α → β → Prop} {as : List α} {bs : List β}
    (h : List.Forall₂ R as bs) {a : α} (ha : a ∈ as) : ∃ b ∈ bs, R a b := by
  obtain ⟨i, hi, rfl⟩ := List.mem_iff_getElem.mp ha
  have hi' : i < bs.length := h.length_eq ▸ hi
  exact ⟨bs[i], List.getElem_mem hi', h.get hi hi'⟩

/-- What is in the joined answers is in the answer about some member. -/
theorem mem_flatten_iff_of_answers {f : α → Except ε (List β)} {as : List α} {founds : List (List β)}
    (h : List.Forall₂ (fun a found => f a = .ok found) as founds) {b : β} :
    b ∈ founds.flatten ↔ ∃ a ∈ as, ∃ found, f a = .ok found ∧ b ∈ found := by
  induction h with
  | nil => simp
  | cons hfound _ ih => simp [hfound, ih]

theorem exists_mem_iff_of_forall₂ {R : α → β → Prop} {as : List α} {bs : List β}
    (h : List.Forall₂ R as bs) {p : α → Prop} {q : β → Prop}
    (hpq : ∀ a ∈ as, ∀ b ∈ bs, R a b → (p a ↔ q b)) : (∃ a ∈ as, p a) ↔ ∃ b ∈ bs, q b := by
  induction h with
  | nil => simp
  | cons hab _ ih =>
      rw [List.exists_mem_cons_iff, List.exists_mem_cons_iff]
      refine or_congr (hpq _ List.mem_cons_self _ List.mem_cons_self hab) (ih fun a ha b hb => ?_)
      exact hpq a (List.mem_cons_of_mem _ ha) b (List.mem_cons_of_mem _ hb)

/-! ## What is kept of a list -/

theorem filterMapM_cons_eq_ok_iff {f : α → Except ε (Option β)} {a : α} {as : List α} {bs : List β} :
    (a :: as).filterMapM f = .ok bs ↔
      ∃ kept rest, f a = .ok kept ∧ as.filterMapM f = .ok rest ∧ bs = kept.toList ++ rest := by
  rw [List.filterMapM_cons, bind_eq_ok_iff]
  constructor
  · rintro ⟨kept, ha, h⟩
    cases kept with
    | none => exact ⟨none, bs, ha, h, rfl⟩
    | some b =>
        obtain ⟨rest, hrest, h⟩ := bind_eq_ok_iff.mp h
        cases h
        exact ⟨some b, rest, ha, hrest, rfl⟩
  · rintro ⟨kept, rest, ha, hrest, rfl⟩
    refine ⟨kept, ha, ?_⟩
    cases kept with
    | none => exact hrest
    | some b => exact bind_eq_ok_iff.mpr ⟨rest, hrest, rfl⟩

/-- What is kept of a list is what its members answer with. -/
theorem mem_filterMapM {f : α → Except ε (Option β)} {as : List α} {bs : List β}
    (h : as.filterMapM f = .ok bs) {b : β} : b ∈ bs ↔ ∃ a ∈ as, f a = .ok (some b) := by
  induction as generalizing bs with
  | nil =>
      cases h
      simp
  | cons a as ih =>
      obtain ⟨kept, rest, ha, hrest, rfl⟩ := filterMapM_cons_eq_ok_iff.mp h
      simp [ih hrest, ha]

theorem exists_of_filterMapM_error {f : α → Except ε (Option β)} {as : List α} {e : ε}
    (h : as.filterMapM f = .error e) : ∃ a ∈ as, f a = .error e := by
  induction as with
  | nil => cases h
  | cons a as ih =>
      have hcases : f a = .error e ∨ as.filterMapM f = .error e := by
        rw [List.filterMapM_cons] at h
        rcases bind_eq_error_iff.mp h with ha | ⟨kept, -, h⟩
        · exact .inl ha
        cases kept with
        | none => exact .inr h
        | some b =>
            rcases bind_eq_error_iff.mp h with has | ⟨rest, -, h⟩
            · exact .inr has
            · cases h
      rcases hcases with ha | has
      · exact ⟨a, List.mem_cons_self, ha⟩
      · obtain ⟨other, hother, hrefused⟩ := ih has
        exact ⟨other, List.mem_cons_of_mem a hother, hrefused⟩

end LocaleCatalogue
