import LocaleCatalogue.Catalogue.Spread
import LocaleCatalogue.Proofs.Path.Reading

/-!
# Files and the places they stand at

A regular file is known by its place. So whether a path is probed or opened, and under which
spelling, it leads to the same file as soon as it leads to the same place.
-/

namespace LocaleCatalogue

namespace Files

variable {fs : Files}

/-- What stands at a place is listed, unless it is the root. -/
theorem mem_entries_of_entry? {place : Place} {entry : Entry} (h : fs.entry? place = some entry) :
    (place = [] ∧ entry = .directory) ∨ (place, entry) ∈ fs.entries := by
  unfold entry? at h
  split at h
  next hroot =>
    cases h
    exact .inl ⟨hroot, rfl⟩
  · obtain ⟨e, hfound, rfl⟩ := Option.map_eq_some_iff.mp h
    have hplace : e.1 = place := by simpa using List.find?_some hfound
    exact .inr (hplace ▸ List.mem_of_find?_eq_some hfound)

theorem fileAt?_place (file : fs.Found) : fs.fileAt? file.place = some file := by
  obtain ⟨place, content, present⟩ := file
  rw [fileAt?]
  split
  next content' h =>
    rw [present] at h
    cases h
    rfl
  next hnone => exact absurd present (hnone content)

theorem eq_of_fileAt?_eq_some {place : Place} {file : fs.Found} (h : fs.fileAt? place = some file) :
    place = file.place := by
  rw [fileAt?] at h
  split at h
  next content present =>
    cases h
    rfl
  next => cases h

theorem fileAt?_eq_none {place : Place} (h : ∀ content, fs.entry? place ≠ some (.file content)) :
    fs.fileAt? place = none := by
  cases hfile : fs.fileAt? place with
  | none => rfl
  | some file => exact absurd (eq_of_fileAt?_eq_some hfile ▸ file.present) (h file.content)

/-- A path leads to a file exactly if it leads to the place of the file. -/
theorem found_eq_ok_iff {path : Path} {file : fs.Found} :
    fs.found path = .ok file ↔ fs.locate path = .ok file.place := by
  rw [found]
  cases hlocate : fs.locate path with
  | error fault => simp
  | ok place =>
      simp only [Except.ok.injEq]
      constructor
      · intro h
        cases hfile : fs.fileAt? place with
        | none => simp [hfile] at h
        | some other =>
            simp only [hfile, Except.ok.injEq] at h
            subst h
            exact eq_of_fileAt?_eq_some hfile
      · rintro rfl
        rw [fileAt?_place]

/-- A probe finds a file exactly if the path leads to the place of the file. -/
theorem regular?_eq_some_iff {path : Path} {file : fs.Found} :
    fs.regular? path = .ok (some file) ↔ fs.locate path = .ok file.place := by
  rw [regular?, reach]
  cases hlocate : fs.locate path with
  | error fault =>
      by_cases habsence : fault.isAbsence = true <;> simp [habsence, Except.map]
  | ok place =>
      simp only [Except.map, Except.ok.injEq, Option.bind_some]
      constructor
      · exact eq_of_fileAt?_eq_some
      · rintro rfl
        exact fileAt?_place file

/-- The target of a probe is one of the candidates, and it leads to the file found. -/
theorem firstRegular?_eq_some {paths : List Path} {target : Target fs}
    (h : fs.firstRegular? paths = .ok (some target)) :
    target.path ∈ paths ∧ fs.locate target.path = .ok target.file.place := by
  induction paths with
  | nil => cases h
  | cons path rest ih =>
      rw [firstRegular?] at h
      split at h
      · cases h
      next file hfile =>
        cases h
        exact ⟨List.mem_cons_self, regular?_eq_some_iff.mp hfile⟩
      · obtain ⟨hmem, hplace⟩ := ih h
        exact ⟨List.mem_cons_of_mem path hmem, hplace⟩

/-! ## Answers without the file -/

/-- What the file at a path holds, if it can be had. -/
def contents (fs : Files) (path : Path) : Except Fault Bytes := (fs.access path).map (·.content)

/-- The place of the regular file that a path leads to, if it does. -/
def regularPlace? (fs : Files) (path : Path) : Except Fault (Option Place) :=
  (fs.regular? path).map (Option.map (·.place))

/-- What a file says when it is opened. -/
theorem contents_eq (fs : Files) (path : Path) :
    fs.contents path =
      match fs.locate path with
      | .error fault => .error fault
      | .ok place =>
        match fs.entry? place with
        | some (.file content) =>
          if fs.unreadable.contains place then .error (.obstacle .denied) else .ok content
        | _ => .error (.obstacle .isDirectory) := by
  rw [contents, access, found]
  cases fs.locate path with
  | error fault => rfl
  | ok place =>
      by_cases hfile : ∃ content, fs.entry? place = some (.file content)
      · obtain ⟨content, hentry⟩ := hfile
        simp only [fileAt?_place ⟨place, content, hentry⟩, hentry, Found.octets]
        by_cases hdenied : fs.unreadable.contains place = true
        · rw [if_pos hdenied, if_pos hdenied]
          rfl
        · rw [if_neg hdenied, if_neg hdenied]
          rfl
      · have hother := not_exists.mp hfile
        simp only [fileAt?_eq_none hother]
        rfl

/-- What a probe says of a path. -/
theorem regularPlace?_eq (fs : Files) (path : Path) :
    fs.regularPlace? path =
      match fs.locate path with
      | .error fault => if fault.isAbsence then .ok none else .error fault
      | .ok place =>
        match fs.entry? place with
        | some (.file _) => .ok (some place)
        | _ => .ok none := by
  rw [regularPlace?, regular?, reach]
  cases fs.locate path with
  | error fault =>
      dsimp only
      split <;> rfl
  | ok place =>
      simp only [Except.map, Option.bind_some]
      by_cases hfile : ∃ content, fs.entry? place = some (.file content)
      · obtain ⟨content, hentry⟩ := hfile
        rw [fileAt?_place ⟨place, content, hentry⟩, hentry]
        rfl
      · have hother := not_exists.mp hfile
        rw [fileAt?_eq_none hother]
        split
        next content hentry => exact absurd hentry (hother content)
        · rfl

end Files

/-- Candidates are paths that were read from a spelling. -/
theorem plain_of_mem_candidatePaths {base : Text} {path : Path} (h : path ∈ candidatePaths base) :
    path.Plain := by
  obtain ⟨ending, -, rfl⟩ := List.mem_map.mp h
  exact Path.plain_ofText _

end LocaleCatalogue
