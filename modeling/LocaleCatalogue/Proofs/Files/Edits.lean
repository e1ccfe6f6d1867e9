import LocaleCatalogue.Proofs.Files.Found

/-!
# Files that come, go and change

File systems that only differ in which regular files stand at some places, and in what these hold,
have the same directories and links. A walk that does not end at such a place takes the same way in
both, and where it meets one on its way it ends there: a file is passed through as little as
nothing.
-/

namespace LocaleCatalogue.Files

/-- Nothing, or a regular file. -/
def FileOrNothing (found : Option Entry) : Prop :=
  found = none ∨ ∃ content, found = some (.file content)

/-- Two file systems differ at most in regular files at the edited places: these may come and go,
hold something else, or be readable in one of them only. -/
structure EditedAt (fs fs' : Files) (edited : Place → Prop) : Prop where
  working : fs'.working = fs.working
  entry_eq : ∀ place, ¬ edited place → fs'.entry? place = fs.entry? place
  readable_iff : ∀ place content, ¬ edited place → fs.entry? place = some (.file content) →
    (place ∈ fs'.unreadable ↔ place ∈ fs.unreadable)
  before : ∀ place, edited place → FileOrNothing (fs.entry? place)
  after : ∀ place, edited place → FileOrNothing (fs'.entry? place)

variable {fs fs' : Files} {edited : Place → Prop}

/-! ## Single edits -/

/-- Leaving out entries of other places does not change what is found at a place. -/
theorem find?_filter_entries {entries : List (Place × Entry)} {keep : Place × Entry → Bool}
    {place : Place} (h : ∀ e ∈ entries, e.1 = place → keep e = true) :
    (entries.filter keep).find? (fun e => e.1 = place) = entries.find? fun e => e.1 = place := by
  induction entries with
  | nil => rfl
  | cons e rest ih =>
      have hrest := ih fun e' he' => h e' (List.mem_cons_of_mem e he')
      by_cases hplace : e.1 = place
      · rw [List.filter_cons_of_pos (h e List.mem_cons_self hplace)]
        simp [hplace]
      · by_cases hkeep : keep e = true
        · rw [List.filter_cons_of_pos hkeep]
          simp [hplace, hrest]
        · rw [List.filter_cons_of_neg hkeep, hrest]
          simp [hplace]

theorem entry?_put_of_ne {place other : Place} {entry : Entry} (hother : other ≠ place) :
    Files.entry? (fs.put place entry) other = fs.entry? other := by
  have hlast : ¬ place = other := fun hsame => hother hsame.symm
  rw [Files.entry?, Files.entry?, put]
  dsimp only
  rw [List.find?_append, find?_filter_entries fun e _ he => by simp [he, hother]]
  simp [hlast]

theorem entry?_put_self {place : Place} {entry : Entry} (hplace : place ≠ []) :
    Files.entry? (fs.put place entry) place = some entry := by
  have hnone : (fs.entries.filter fun e => e.1 ≠ place).find? (fun e => e.1 = place) = none := by
    simp
  rw [Files.entry?, if_neg hplace, put]
  dsimp only
  rw [List.find?_append, hnone]
  simp

theorem ne_nil_of_fileOrNothing {place : Place} (h : FileOrNothing (fs.entry? place)) :
    place ≠ [] := by
  rintro rfl
  rcases h with hnone | ⟨_, hfile⟩
  · cases hnone
  · cases hfile

/-- A file is written, whether it was there or not. -/
theorem editedAt_put {place : Place} (content : Bytes) (h : FileOrNothing (fs.entry? place)) :
    fs.EditedAt (fs.put place (.file content)) (· = place) := by
  refine ⟨rfl, fun other hother => entry?_put_of_ne hother, fun _ _ _ _ => Iff.rfl, ?_, ?_⟩
  · rintro _ rfl
    exact h
  · rintro _ rfl
    exact Or.inr ⟨content, entry?_put_self (ne_nil_of_fileOrNothing h)⟩

/-- A file is taken away. -/
theorem editedAt_erase {place : Place} (h : FileOrNothing (fs.entry? place))
    (hbelow : ∀ e ∈ fs.entries, place <+: e.1 → e.1 = place) :
    fs.EditedAt (fs.erase place) (· = place) := by
  have hkept : ∀ {e : Place × Entry}, e ∈ fs.entries → e.1 ≠ place →
      (!place.isPrefixOf e.1) = true := by
    intro e hmem hother
    rw [Bool.not_eq_true', Bool.eq_false_iff]
    exact fun hprefix => hother (hbelow _ hmem (List.isPrefixOf_iff_prefix.mp hprefix))
  have hplace := ne_nil_of_fileOrNothing h
  refine ⟨rfl, fun other hother => ?_, fun other content hother hentry => ?_, ?_, ?_⟩
  · rw [Files.entry?, Files.entry?, erase]
    dsimp only
    rw [find?_filter_entries fun e he hsame => hkept he (hsame ▸ hother)]
  · refine List.mem_filter.trans (and_iff_left ?_)
    rcases mem_entries_of_entry? hentry with ⟨-, hroot⟩ | hmem
    · cases hroot
    · exact hkept hmem hother
  · rintro _ rfl
    exact h
  · rintro other rfl
    refine Or.inl ?_
    rw [Files.entry?, if_neg hplace, erase, Option.map_eq_none_iff, List.find?_eq_none]
    intro e he hsame
    rw [List.mem_filter, of_decide_eq_true hsame, List.isPrefixOf_iff_prefix.mpr (List.prefix_refl _)]
      at he
    cases he.2

/-- A file can no longer be read. -/
theorem editedAt_forbid {place : Place} (h : FileOrNothing (fs.entry? place)) :
    fs.EditedAt (fs.forbid place) (· = place) := by
  refine ⟨rfl, fun _ _ => rfl, fun other _ hother _ => ?_, ?_, ?_⟩
  · exact List.mem_cons.trans (or_iff_right hother)
  · rintro _ rfl
    exact h
  · rintro _ rfl
    exact h

/-! ## Walks -/

/-- A walk ended at an edited place, or met one on its way. -/
def Diverted (edited : Place → Prop) (result : Except Obstacle Place) : Prop :=
  result = .error .missing ∨ result = .error .notDirectory ∨
    ∃ place, edited place ∧ result = .ok place

/-- Two walks end alike, or both are diverted. -/
def SameWay (edited : Place → Prop) (result result' : Except Obstacle Place) : Prop :=
  result' = result ∨ Diverted edited result ∧ Diverted edited result'

namespace EditedAt

variable {follow follow' : Place → Text → List Text → Except Obstacle Place}

/-- Going down to an edited place diverts the walk. -/
theorem diverted_of_edited {fs : Files} {place : Place} {name : Text} {rest : List Text}
    (hhere : name ≠ Path.here) (habove : name ≠ Path.above) (hsize : ¬ nameLimit < size name)
    (hedited : edited (place ++ [name])) (h : FileOrNothing (fs.entry? (place ++ [name]))) :
    Diverted edited (fs.descend follow place (name :: rest)) := by
  rw [Files.descend, if_neg hhere, if_neg habove, if_neg hsize]
  rcases h with hnone | ⟨content, hfile⟩
  · rw [hnone]
    exact Or.inl rfl
  · rw [hfile]
    dsimp only
    split
    · exact Or.inr (Or.inr ⟨_, hedited, rfl⟩)
    · exact Or.inr (Or.inl rfl)

theorem descend (h : fs.EditedAt fs' edited)
    (hfollow : ∀ place target rest,
      SameWay edited (follow place target rest) (follow' place target rest))
    (place : Place) (names : List Text) :
    SameWay edited (fs.descend follow place names) (fs'.descend follow' place names) := by
  induction names generalizing place with
  | nil => exact Or.inl rfl
  | cons name rest ih =>
      by_cases hhere : name = Path.here
      · rw [Files.descend, Files.descend, if_pos hhere, if_pos hhere]
        exact ih place
      by_cases habove : name = Path.above
      · rw [Files.descend, Files.descend, if_neg hhere, if_neg hhere, if_pos habove, if_pos habove]
        exact ih place.dropLast
      by_cases hsize : nameLimit < size name
      · rw [Files.descend, Files.descend, if_neg hhere, if_neg hhere, if_neg habove, if_neg habove,
          if_pos hsize, if_pos hsize]
        exact Or.inl rfl
      by_cases hedited : edited (place ++ [name])
      · exact Or.inr ⟨diverted_of_edited hhere habove hsize hedited (h.before _ hedited),
          diverted_of_edited hhere habove hsize hedited (h.after _ hedited)⟩
      · rw [Files.descend, Files.descend, if_neg hhere, if_neg hhere, if_neg habove, if_neg habove,
          if_neg hsize, if_neg hsize, h.entry_eq _ hedited]
        cases fs.entry? (place ++ [name]) with
        | none => exact Or.inl rfl
        | some entry =>
            cases entry with
            | file content => exact Or.inl rfl
            | directory => exact ih (place ++ [name])
            | link target => exact hfollow place target rest

theorem walk (h : fs.EditedAt fs' edited) (links : Nat) (place : Place) (names : List Text) :
    SameWay edited (fs.walk links place names) (fs'.walk links place names) := by
  induction links generalizing place names with
  | zero => exact h.descend (fun _ _ _ => Or.inl rfl) place names
  | succ links ih =>
      rw [Files.walk, Files.walk]
      refine h.descend (fun place target rest => ?_) place names
      split
      · exact Or.inl rfl
      · exact ih _ _

end EditedAt

/-! ## Answers -/

/-- A path leads nowhere, because something on it is missing or is no directory. -/
def Unreached (result : Except Fault Place) : Prop :=
  result = .error (.obstacle .missing) ∨ result = .error (.obstacle .notDirectory)

/-- A path leads to no edited place. -/
def Spares (fs : Files) (edited : Place → Prop) (path : Path) : Prop :=
  ∀ place, edited place → fs.locate path ≠ .ok place

theorem spares_place_iff {fs : Files} {place : Place} {path : Path} :
    fs.Spares (· = place) path ↔ fs.locate path ≠ .ok place :=
  forall_eq

/-- A path that leads to no edited place in either file system leads to the same place, or nowhere
in both. -/
theorem EditedAt.locate (h : fs.EditedAt fs' edited) {path : Path} (hspares : fs.Spares edited path)
    (hspares' : fs'.Spares edited path) :
    fs'.locate path = fs.locate path ∨ Unreached (fs.locate path) ∧ Unreached (fs'.locate path) := by
  have horigin : fs'.origin path = fs.origin path := by rw [origin, origin, h.working]
  have hunreached : ∀ {fs : Files}, fs.Spares edited path → spellingFault? path.toText = none →
      Diverted edited (fs.walk linkLimit (fs.origin path) path.names) → Unreached (fs.locate path) := by
    intro fs hspares hspelling hdiverted
    rw [Files.locate, hspelling]
    rcases hdiverted with hmissing | hdirectory | ⟨place, hplace, hended⟩
    · rw [hmissing]
      exact Or.inl rfl
    · rw [hdirectory]
      exact Or.inr rfl
    · refine absurd ?_ (hspares place hplace)
      rw [Files.locate, hspelling]
      simp only [hended]
  cases hspelling : spellingFault? path.toText with
  | some fault =>
      refine Or.inl ?_
      rw [Files.locate, Files.locate, hspelling]
  | none =>
      rcases h.walk linkLimit (fs.origin path) path.names with hsame | ⟨hdiverted, hdiverted'⟩
      · refine Or.inl ?_
        rw [Files.locate, Files.locate, horigin, hsame]
      · rw [← horigin] at hdiverted'
        exact Or.inr ⟨hunreached hspares hspelling hdiverted, hunreached hspares' hspelling hdiverted'⟩

/-- A probe that leads to no edited place has the same answer. -/
theorem EditedAt.regularPlace? (h : fs.EditedAt fs' edited) {path : Path}
    (hspares : fs.Spares edited path) (hspares' : fs'.Spares edited path) :
    fs'.regularPlace? path = fs.regularPlace? path := by
  rw [regularPlace?_eq, regularPlace?_eq]
  rcases h.locate hspares hspares' with hsame | ⟨hnowhere, hnowhere'⟩
  · rw [hsame]
    cases hlocate : fs.locate path with
    | error fault => rfl
    | ok place =>
        have hplace : ¬ edited place := fun hedited => hspares place hedited hlocate
        dsimp only
        rw [h.entry_eq _ hplace]
  · rcases hnowhere with hnowhere | hnowhere <;> rcases hnowhere' with hnowhere' | hnowhere' <;>
      rw [hnowhere, hnowhere'] <;> rfl

/-- A file at no edited place holds the same. -/
theorem EditedAt.contents (h : fs.EditedAt fs' edited) {path : Path}
    (hspares : fs.Spares edited path) (hsame : fs'.locate path = fs.locate path) :
    fs'.contents path = fs.contents path := by
  rw [contents_eq, contents_eq, hsame]
  cases hlocate : fs.locate path with
  | error fault => rfl
  | ok place =>
      have hplace : ¬ edited place := fun hedited => hspares place hedited hlocate
      dsimp only
      rw [h.entry_eq _ hplace]
      split
      next content hentry =>
        have hreadable : fs'.unreadable.contains place = fs.unreadable.contains place := by
          rw [Bool.eq_iff_iff, List.contains_iff_mem, List.contains_iff_mem]
          exact h.readable_iff place content hplace hentry
        rw [hreadable]
      · rfl

end LocaleCatalogue.Files
