import LocaleCatalogue.Proofs.Files.Passing

/-!
# What can be told about a path

Asking what a path leads to gets an answer unless a name of the path, or its whole spelling, is too
long for the file system. Everything else that keeps a path from leading anywhere only means that
nothing is there.
-/

namespace LocaleCatalogue.Files

open LocaleCatalogue.Path

variable {fs : Files} {place : Place} {names : List Text} {cause : Obstacle}

/-- A way down opens no file and lists no directory, so it meets none of the obstacles to that. -/
theorem descend_obstacle {follow : Place → Text → List Text → Except Obstacle Place}
    (hfollow : ∀ place target rest cause, follow place target rest = .error cause →
      cause ≠ .denied ∧ cause ≠ .isDirectory)
    (h : fs.descend follow place names = .error cause) :
    cause ≠ .denied ∧ cause ≠ .isDirectory := by
  induction names generalizing place with
  | nil => cases h
  | cons name rest ih =>
      rw [descend] at h
      split at h
      · exact ih h
      split at h
      · exact ih h
      split at h
      · cases h
        decide
      split at h
      · cases h
        decide
      · split at h
        · cases h
        · cases h
          decide
      · exact ih h
      · exact hfollow _ _ _ _ h

theorem walk_obstacle {links : Nat} (h : fs.walk links place names = .error cause) :
    cause ≠ .denied ∧ cause ≠ .isDirectory := by
  induction links generalizing place names cause with
  | zero =>
      refine descend_obstacle ?_ h
      rintro _ _ _ _ ⟨⟩
      decide
  | succ links ih =>
      refine descend_obstacle ?_ h
      intro place target rest cause h
      split at h
      · cases h
        decide
      · exact ih h

/-- What a path leads to cannot be told only because something is too long. -/
theorem eq_nameTooLong_of_reach {path : Path} {fault : Fault} (h : fs.reach path = .error fault) :
    fault = .obstacle .nameTooLong := by
  rw [reach] at h
  split at h
  · cases h
  next cause hlocate =>
    obtain ⟨hpresent, heq⟩ : ¬ cause.isAbsence = true ∧ cause = fault := by
      split at h
      · cases h
      next hpresent =>
        cases h
        exact ⟨hpresent, rfl⟩
    subst heq
    rw [locate] at hlocate
    split at hlocate
    next spelling hspelling =>
      cases hlocate
      by_cases hforbidden : ∃ c ∈ path.toText, isForbidden c = true
      · obtain ⟨fault, hfault, habsence⟩ := spellingFault?_of_forbidden hforbidden
        cases hspelling.symm.trans hfault
        exact absurd habsence hpresent
      · have hpermitted : ∀ c ∈ path.toText, isForbidden c = false := by simpa using hforbidden
        rw [spellingFault?_of_permitted hpermitted] at hspelling
        split at hspelling
        · cases hspelling
          rfl
        · cases hspelling
    · split at hlocate
      · cases hlocate
      next cause hwalk =>
        cases hlocate
        obtain ⟨hdenied, hdirectory⟩ := walk_obstacle hwalk
        cases cause with
        | nameTooLong => rfl
        | denied => exact absurd rfl hdenied
        | isDirectory => exact absurd rfl hdirectory
        | missing => exact absurd rfl hpresent
        | notDirectory => exact absurd rfl hpresent
        | tooManyLinks => exact absurd rfl hpresent

/-- Whatever is asked about a path cannot be told only because something is too long. -/
theorem eq_nameTooLong_of_map {α : Type} {f : Option Place → α} {path : Path} {fault : Fault}
    (h : (fs.reach path).map f = .error fault) : fault = .obstacle .nameTooLong := by
  cases hreach : fs.reach path with
  | error fault' =>
      rw [hreach] at h
      cases h
      exact eq_nameTooLong_of_reach hreach
  | ok place? =>
      rw [hreach] at h
      cases h

end LocaleCatalogue.Files
