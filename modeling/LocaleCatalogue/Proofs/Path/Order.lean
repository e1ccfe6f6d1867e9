import LocaleCatalogue.Proofs.Path.Reading
import Mathlib.Data.List.Lex
import Mathlib.Order.Fin.Basic

/-!
# The order of paths

Paths are compared component by component, and components code point by code point. On paths that
consist of names this is a linear order: a path is determined by its components.
-/

namespace LocaleCatalogue

theorem Text.le_iff {s t : Text} : Text.le s t = true ↔ s ≤ t := by
  induction s generalizing t with
  | nil => exact iff_of_true rfl (not_lt.mp (List.not_lt_nil t))
  | cons a s ih =>
      cases t with
      | nil => simp [Text.le]
      | cons b t =>
          rw [Text.le, ← not_lt, List.cons_lt_cons_iff, not_or, not_and]
          simp only [← Fin.lt_def]
          rcases lt_trichotomy a b with hlt | rfl | hgt
          · simp [hlt, hlt.le, hlt.ne']
          · simp [ih]
          · simp [hgt, hgt.le]

namespace Path

theorem namesLe_iff {s t : List Text} : namesLe s t = true ↔ s ≤ t := by
  induction s generalizing t with
  | nil => exact iff_of_true rfl (not_lt.mp (List.not_lt_nil t))
  | cons a s ih =>
      cases t with
      | nil => simp [namesLe]
      | cons b t =>
          rw [namesLe, ← not_lt, List.cons_lt_cons_iff, not_or, not_and]
          by_cases heq : a = b
          · simp [heq, ih]
          · rw [if_neg heq, Text.le_iff, not_lt]
            exact (and_iff_left fun h => absurd h.symm heq).symm

/-- The order of paths is the dictionary order of their components. -/
theorem le_iff {p q : Path} : p.le q = true ↔ p.components ≤ q.components := namesLe_iff

/-- A path that consists of names is determined by its components. -/
theorem eq_of_components_eq {p q : Path} (hp : p.Plain) (hq : q.Plain)
    (h : p.components = q.components) : p = q := by
  -- No name is an anchor, because an anchor is made of slashes.
  have hanchor : ∀ (anchor : Anchor) (names names' : List Text), anchor ≠ .relative →
      Plain ⟨.relative, names'⟩ → anchor.text :: names ≠ names' := by
    rintro anchor names _ hne hplain rfl
    apply (hplain anchor.text List.mem_cons_self).2.2
    cases anchor with
    | relative => exact absurd rfl hne
    | root => exact List.mem_cons_self
    | doubleRoot => exact List.mem_cons_self
  obtain ⟨anchor, names⟩ := p
  obtain ⟨anchor', names'⟩ := q
  cases anchor <;> cases anchor' <;> simp only [components] at h
  case relative.relative => rw [h]
  case relative.root => exact absurd h.symm (hanchor .root _ _ (by simp) hp)
  case relative.doubleRoot => exact absurd h.symm (hanchor .doubleRoot _ _ (by simp) hp)
  case root.relative => exact absurd h (hanchor .root _ _ (by simp) hq)
  case doubleRoot.relative => exact absurd h (hanchor .doubleRoot _ _ (by simp) hq)
  case root.root => rw [(List.cons.inj h).2]
  case doubleRoot.doubleRoot => rw [(List.cons.inj h).2]
  case root.doubleRoot => exact absurd (List.cons.inj h).1 (by decide)
  case doubleRoot.root => exact absurd (List.cons.inj h).1 (by decide)

/-- Different spellings belong to different paths. -/
theorem toText_injective {p q : Path} (hp : p.Plain) (hq : q.Plain) (h : p.toText = q.toText) :
    p = q := by
  rw [← ofText_toText hp, ← ofText_toText hq, h]

/-- Different paths that are sorted are strictly sorted. -/
theorem strictly_sorted {paths : List Path} (hplain : ∀ p ∈ paths, p.Plain) (hnodup : paths.Nodup) :
    (paths.mergeSort le).Pairwise fun p q => p.components < q.components := by
  have htrans : ∀ p q r : Path, p.le q = true → q.le r = true → p.le r = true :=
    fun p q r hpq hqr => le_iff.mpr (le_trans (le_iff.mp hpq) (le_iff.mp hqr))
  have htotal : ∀ p q : Path, (p.le q || q.le p) = true := fun p q => by
    simpa only [Bool.or_eq_true, le_iff] using le_total p.components q.components
  have hsorted := List.pairwise_mergeSort htrans htotal paths
  have hperm := List.mergeSort_perm paths le
  have hdistinct : (paths.mergeSort le).Pairwise fun p q => p ≠ q := hperm.symm.nodup hnodup
  refine (hsorted.and hdistinct).imp_of_mem ?_
  intro p q hp hq ⟨hle, hne⟩
  refine lt_of_le_of_ne (le_iff.mp hle) fun heq => hne ?_
  exact eq_of_components_eq (hplain p (hperm.mem_iff.mp hp)) (hplain q (hperm.mem_iff.mp hq)) heq

end Path

end LocaleCatalogue
