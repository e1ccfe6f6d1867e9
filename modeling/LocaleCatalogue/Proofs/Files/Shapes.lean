import LocaleCatalogue.Catalogue.Spread
import LocaleCatalogue.Proofs.Catalogue.Alike
import LocaleCatalogue.Proofs.Files.Found

/-!
# File systems of one shape

Which file a path leads to depends on names, directories and links, and not on what the files hold.
So two file systems that differ in the contents of regular files only have the same places, and every
search ends in both of them at the same place or with the same fault.
-/

namespace LocaleCatalogue.Files

/-- Two entries are the same, or both are regular files. -/
inductive SameKind : Entry → Entry → Prop
  | file {content content' : Bytes} : SameKind (.file content) (.file content')
  | directory : SameKind .directory .directory
  | link {target : Text} : SameKind (.link target) (.link target)

instance : (e e' : Entry) → Decidable (SameKind e e')
  | .file _, .file _ => isTrue .file
  | .directory, .directory => isTrue .directory
  | .link target, .link target' =>
    if h : target = target' then isTrue (h ▸ .link) else isFalse fun hsame => by cases hsame; exact h rfl
  | .file _, .directory => isFalse nofun
  | .file _, .link _ => isFalse nofun
  | .directory, .file _ => isFalse nofun
  | .directory, .link _ => isFalse nofun
  | .link _, .file _ => isFalse nofun
  | .link _, .directory => isFalse nofun

/-- Two file systems differ in the contents of regular files only. -/
structure SameShape (fs fs' : Files) : Prop where
  working : fs'.working = fs.working
  unreadable : fs'.unreadable = fs.unreadable
  entries : List.Forall₂ (fun e e' => e'.1 = e.1 ∧ SameKind e.2 e'.2) fs.entries fs'.entries

variable {fs fs' : Files}

namespace SameShape

theorem entry? (h : fs.SameShape fs') (place : Place) :
    Option.Rel SameKind (fs.entry? place) (fs'.entry? place) := by
  rw [Files.entry?, Files.entry?]
  split
  · exact .some .directory
  · have hentries := h.entries
    generalize fs.entries = entries, fs'.entries = entries' at hentries ⊢
    induction hentries with
    | nil => exact .none
    | @cons e e' _ _ he _ ih =>
        rw [List.find?_cons, List.find?_cons, he.1]
        cases decide (e.1 = place) with
        | true => exact .some he.2
        | false => exact ih

theorem descend (h : fs.SameShape fs') (follow : Place → Text → List Text → Except Obstacle Place)
    (place : Place) (names : List Text) :
    fs'.descend follow place names = fs.descend follow place names := by
  induction names generalizing place with
  | nil => rfl
  | cons name rest ih =>
      have hentry := h.entry? (place ++ [name])
      rw [Files.descend, Files.descend]
      simp only [ih]
      generalize fs.entry? (place ++ [name]) = entry, fs'.entry? (place ++ [name]) = entry' at hentry ⊢
      cases hentry with
      | none => rfl
      | some hkind =>
          cases hkind <;> rfl

theorem walk (h : fs.SameShape fs') (links : Nat) (place : Place) (names : List Text) :
    fs'.walk links place names = fs.walk links place names := by
  induction links generalizing place names with
  | zero => exact h.descend _ place names
  | succ links ih =>
      rw [Files.walk, Files.walk]
      simp only [ih]
      exact h.descend _ place names

theorem locate (h : fs.SameShape fs') (path : Path) : fs'.locate path = fs.locate path := by
  have horigin : fs'.origin path = fs.origin path := by rw [Files.origin, Files.origin, h.working]
  rw [Files.locate, Files.locate, horigin]
  simp only [h.walk]

theorem reach (h : fs.SameShape fs') (path : Path) : fs'.reach path = fs.reach path := by
  rw [Files.reach, Files.reach, h.locate]

end SameShape

/-- Two files at the same place. -/
def SamePlace (file : fs.Found) (file' : fs'.Found) : Prop := file'.place = file.place

/-- Two targets that are spelled alike and stand at the same place. -/
def SameTarget (target : Target fs) (target' : Target fs') : Prop :=
  target'.path = target.path ∧ SamePlace target.file target'.file

namespace SameShape

theorem fileAt? (h : fs.SameShape fs') (place : Place) :
    Option.Rel SamePlace (fs.fileAt? place) (fs'.fileAt? place) := by
  have hentry := h.entry? place
  generalize hhere : fs.entry? place = entry, hhere' : fs'.entry? place = entry' at hentry
  have hfiles {content content' : Bytes} (hcontent : fs.entry? place = some (.file content))
      (hcontent' : fs'.entry? place = some (.file content')) :
      Option.Rel SamePlace (fs.fileAt? place) (fs'.fileAt? place) := by
    rw [fileAt?_place ⟨place, content, hcontent⟩, fileAt?_place ⟨place, content', hcontent'⟩]
    exact .some rfl
  cases hentry with
  | none =>
      rw [fileAt?_eq_none (by simp [hhere]), fileAt?_eq_none (by simp [hhere'])]
      exact .none
  | some hkind =>
      cases hkind with
      | file => exact hfiles hhere hhere'
      | directory | link =>
          rw [fileAt?_eq_none (by simp [hhere]), fileAt?_eq_none (by simp [hhere'])]
          exact .none

theorem found (h : fs.SameShape fs') (path : Path) :
    EndAlike SamePlace (fs.found path) (fs'.found path) := by
  rw [Files.found, Files.found, h.locate]
  cases fs.locate path with
  | error fault => exact .error
  | ok place =>
      have hfile := h.fileAt? place
      dsimp only
      generalize fs.fileAt? place = file?, fs'.fileAt? place = file?' at hfile ⊢
      cases hfile with
      | none => exact .error
      | some hfile => exact .ok hfile

theorem regular? (h : fs.SameShape fs') (path : Path) :
    EndAlike (Option.Rel SamePlace) (fs.regular? path) (fs'.regular? path) := by
  rw [Files.regular?, Files.regular?, h.reach]
  cases fs.reach path with
  | error fault => exact .error
  | ok place? =>
      cases place? with
      | none => exact .ok .none
      | some place => exact .ok (h.fileAt? place)

theorem firstRegular? (h : fs.SameShape fs') (paths : List Path) :
    EndAlike (Option.Rel SameTarget) (fs.firstRegular? paths) (fs'.firstRegular? paths) := by
  induction paths with
  | nil => exact .ok .none
  | cons path rest ih =>
      have hregular := h.regular? path
      rw [Files.firstRegular?, Files.firstRegular?]
      generalize fs.regular? path = regular?, fs'.regular? path = regular?' at hregular ⊢
      cases hregular with
      | error => exact .error
      | ok hfile =>
          cases hfile with
          | none => exact ih
          | some hfile => exact .ok (.some ⟨rfl, hfile⟩)

/-- A spread of one name leads to the same place, as long as the import of the name is found alike. -/
theorem spreadTarget? (h : fs.SameShape fs') {path name : Text} {root root' : Syntax.Node}
    (himport : Syntax.defaultImport? root' name = Syntax.defaultImport? root name) :
    Logged.Alike (Option.Rel SameTarget) (spreadTarget? fs path name root)
      (spreadTarget? fs' path name root') := by
  rw [LocaleCatalogue.spreadTarget?, LocaleCatalogue.spreadTarget?, himport]
  refine Logged.Alike.andThen (R := Eq) ⟨rfl, ?_⟩ ?_
  · cases Syntax.defaultImport? root name with
    | ok specifier => exact .ok rfl
    | error e => exact .error
  rintro specifier _ rfl
  cases specifier with
  | none => exact .said (.done .none)
  | some specifier =>
      refine .andThen (.ofExcept (h.firstRegular? _)) fun target target' htarget => ?_
      cases htarget with
      | none => exact .said (.done .none)
      | some htarget => exact .done (.some htarget)

end SameShape

end LocaleCatalogue.Files
