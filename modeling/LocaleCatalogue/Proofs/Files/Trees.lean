import LocaleCatalogue.Proofs.Files.Asked
import LocaleCatalogue.Proofs.Files.Selected
import Mathlib.Algebra.GroupWithZero.Nat

/-!
# Trees of regular files and directories

Where no links are, a path below a directory leads to the place that its names spell, as long as the
file system takes the spelling of the path. How the directory itself is reached does not matter.
-/

namespace LocaleCatalogue

open LocaleCatalogue.Path (here above slash)

namespace Files

variable {fs : Files} {start place : Place} {names : List Text} {name : Text} {links : Nat}

/-! ## File systems as they are kept -/

/-- A name that a file system keeps. -/
structure Keepable (name : Text) : Prop where
  isFileName : Path.IsFileName name
  short : size name ≤ nameLimit
  permitted : ∀ c ∈ name, isForbidden c = false

/-- Every name can be kept, one thing stands at each place, and everything stands in a directory. -/
structure WellFormed (fs : Files) : Prop where
  keepable : ∀ e ∈ fs.entries, ∀ name ∈ e.1, Keepable name
  stands : ∀ e ∈ fs.entries, fs.entry? e.1 = some e.2
  inside : ∀ e ∈ fs.entries, fs.entry? e.1.dropLast = some .directory

instance (name : Text) : Decidable (Keepable name) :=
  decidable_of_iff
    (Path.IsFileName name ∧ size name ≤ nameLimit ∧ (name.all fun c => !isForbidden c) = true)
    ⟨fun h => ⟨h.1, h.2.1, by simpa using h.2.2⟩,
      fun h => ⟨h.isFileName, h.short, by simpa using h.permitted⟩⟩

instance (fs : Files) : Decidable fs.WellFormed :=
  decidable_of_iff
    ((∀ e ∈ fs.entries, ∀ name ∈ e.1, Keepable name) ∧
      (∀ e ∈ fs.entries, fs.entry? e.1 = some e.2) ∧
        ∀ e ∈ fs.entries, fs.entry? e.1.dropLast = some .directory)
    ⟨fun h => ⟨h.1, h.2.1, h.2.2⟩, fun h => ⟨h.keepable, h.stands, h.inside⟩⟩

namespace WellFormed

theorem properNames (hfs : fs.WellFormed) : fs.ProperNames := fun e he name hname =>
  (hfs.keepable e he name hname).isFileName

theorem mem_entries_iff (hfs : fs.WellFormed) {entry : Entry} :
    (place ++ [name], entry) ∈ fs.entries ↔ fs.entry? (place ++ [name]) = some entry := by
  refine ⟨hfs.stands _, fun h => ?_⟩
  rcases mem_entries_of_entry? h with ⟨hempty, -⟩ | hmem
  · simp at hempty
  · exact hmem

theorem keepable_of_entry? (hfs : fs.WellFormed) {entry : Entry} (h : fs.entry? place = some entry)
    (hname : name ∈ place) : Keepable name := by
  rcases mem_entries_of_entry? h with ⟨rfl, -⟩ | hmem
  · cases hname
  · exact hfs.keepable _ hmem name hname

/-- The children of a directory are what stands under one more name. -/
theorem mem_children_iff (hfs : fs.WellFormed) {entry : Entry} :
    (name, entry) ∈ fs.children place ↔ fs.entry? (place ++ [name]) = some entry :=
  mem_children.trans hfs.mem_entries_iff

theorem entry?_of_child (hfs : fs.WellFormed) {entry : Entry}
    (h : fs.entry? (place ++ [name]) = some entry) : fs.entry? place = some .directory := by
  simpa using hfs.inside _ (hfs.mem_entries_iff.mpr h)

/-- Whatever has something below it is a directory. -/
theorem entry?_of_append (hfs : fs.WellFormed) {more : List Text} {entry : Entry}
    (h : fs.entry? (place ++ (names ++ more)) = some entry) (hne : more ≠ []) :
    fs.entry? (place ++ names) = some .directory := by
  induction more using List.reverseRecOn generalizing entry with
  | nil => exact absurd rfl hne
  | append_singleton more name ih =>
      rw [← List.append_assoc, ← List.append_assoc] at h
      have hparent := hfs.entry?_of_child h
      by_cases hmore : more = []
      · rwa [hmore, List.append_nil] at hparent
      · exact ih (by rwa [← List.append_assoc]) hmore

end WellFormed

/-! ## Walks in a tree -/

/-- A way down to a directory goes on from there if the ways behind its links do. -/
theorem exists_links_of_descend {follow : Place → Text → List Text → Except Obstacle Place}
    (hself : ∃ left, fs.walk left = fs.descend follow)
    (hfollow : ∀ other target rest, follow other target rest = .ok place →
      ∃ left, ∀ more, follow other target (rest ++ more) = fs.walk left place more)
    (h : fs.descend follow start names = .ok place) (hplace : fs.entry? place = some .directory) :
    ∃ left, ∀ more, fs.descend follow start (names ++ more) = fs.walk left place more := by
  induction names generalizing start with
  | nil =>
      cases h
      obtain ⟨left, hleft⟩ := hself
      exact ⟨left, fun more => by rw [List.nil_append, hleft]⟩
  | cons name rest ih =>
      simp only [List.cons_append]
      rw [descend] at h
      split at h
      next hhere =>
        obtain ⟨left, hleft⟩ := ih h
        exact ⟨left, fun more => by rw [descend, if_pos hhere, hleft]⟩
      next hhere =>
        split at h
        next habove =>
          obtain ⟨left, hleft⟩ := ih h
          exact ⟨left, fun more => by rw [descend, if_neg hhere, if_pos habove, hleft]⟩
        next habove =>
          split at h
          · cases h
          next hsize =>
            split at h
            · cases h
            next hentry =>
              -- A walk that ends at a file does not end at a directory.
              split at h
              · cases h
                rw [hentry] at hplace
                cases hplace
              · cases h
            next hentry =>
              obtain ⟨left, hleft⟩ := ih h
              refine ⟨left, fun more => ?_⟩
              rw [descend, if_neg hhere, if_neg habove, if_neg hsize, hentry]
              exact hleft more
            next target hentry =>
              obtain ⟨left, hleft⟩ := hfollow _ _ _ h
              refine ⟨left, fun more => ?_⟩
              rw [descend, if_neg hhere, if_neg habove, if_neg hsize, hentry]
              exact hleft more

/-- A walk to a directory goes on from there, whatever comes after it. -/
theorem exists_links_of_walk (h : fs.walk links start names = .ok place)
    (hplace : fs.entry? place = some .directory) :
    ∃ left, ∀ more, fs.walk links start (names ++ more) = fs.walk left place more := by
  induction links generalizing start names with
  | zero => exact exists_links_of_descend ⟨0, rfl⟩ (fun _ _ _ h => nomatch h) h hplace
  | succ links ih =>
      refine exists_links_of_descend ⟨links + 1, rfl⟩ (fun other target rest h => ?_) h hplace
      split at h
      · cases h
      next htarget =>
        obtain ⟨left, hleft⟩ := ih h
        refine ⟨left, fun more => ?_⟩
        rw [if_neg htarget, ← hleft more, List.append_assoc]

/-! ## Paths into a tree -/

theorem size_eq_sum (t : Text) : size t = (t.map nameOctets).sum := by
  rw [List.sum_eq_foldl, List.foldl_map]
  rfl

theorem size_append (s t : Text) : size (s ++ t) = size s + size t := by
  simp only [size_eq_sum, List.map_append, List.sum_append]

/-- The spelling of a path is not too long. -/
def Fits (path : Path) : Prop := size path.toText ≤ pathLimit

/-- One more name makes a spelling longer by the name and at most a slash. -/
theorem size_child_le (path : Path) (name : Text) :
    size (path.child name).toText ≤ size path.toText + size name + 1 := by
  obtain ⟨anchor, names⟩ := path
  rw [Path.child, Path.toText_concat, size_append]
  by_cases hnames : names = []
  · subst hnames
    have hanchor : size anchor.text ≤ size (Path.toText ⟨anchor, []⟩) := by
      cases anchor <;> decide
    have hname : Text.join [slash] ([] ++ [name]) = name := rfl
    simp only [hname]
    omega
  · have hplain : Path.toText ⟨anchor, names⟩ = anchor.text ++ Text.join [slash] names := by
      obtain ⟨first, rest, rfl⟩ := List.exists_cons_of_ne_nil hnames
      cases anchor <;> rfl
    have hslash : size (slash :: name) = 1 + size name := size_append [slash] name
    simp only [Path.join_concat hnames, hplain, size_append, hslash]
    omega

variable {directory : Path} {entry : Entry}

/-- The spellings of what stands below a directory leave room for some more octets. -/
def LeavesRoom (fs : Files) (directory : Path) (place : Place) (room : Nat) : Prop :=
  ∀ names entry, fs.entry? (place ++ names) = some entry →
    size (directory.extend names).toText + room ≤ pathLimit

theorem LeavesRoom.fits {room : Nat} (hroom : fs.LeavesRoom directory place room)
    (h : fs.entry? (place ++ names) = some entry) : Fits (directory.extend names) :=
  (Nat.le_add_right _ room).trans (hroom names entry h)

theorem LeavesRoom.fits_child {room : Nat} (hroom : fs.LeavesRoom directory place room)
    (h : fs.entry? (place ++ names) = some entry) (hname : size name < room) :
    Fits (directory.extend (names ++ [name])) := by
  have hchild := size_child_le (directory.extend names) name
  rw [Path.child_eq_extend, Path.extend_extend] at hchild
  have hfront := hroom names entry h
  rw [Fits]
  omega

/-- It suffices to look at what is listed. -/
theorem leavesRoom_of_entries {room : Nat} (hroot : size directory.toText + room ≤ pathLimit)
    (h : ∀ e ∈ fs.entries, size (directory.extend (e.1.drop place.length)).toText + room ≤ pathLimit) :
    fs.LeavesRoom directory place room := by
  intro names entry hentry
  rcases mem_entries_of_entry? hentry with ⟨hempty, -⟩ | hmem
  · rwa [(List.append_eq_nil_iff.mp hempty).2, Path.extend_nil]
  · simpa using h _ hmem

/-- A path leads to a directory, and below it there are only regular files and directories. -/
structure TreeAt (fs : Files) (directory : Path) (place : Place) : Prop where
  wellFormed : fs.WellFormed
  reach : fs.reach directory = .ok (some place)
  isDirectory : fs.entry? place = some .directory
  linkless : ∀ names target, fs.entry? (place ++ names) ≠ some (.link target)

/-- A directory in a tree is reached through directories. -/
theorem WellFormed.passes (hfs : fs.WellFormed) (h : fs.entry? (place ++ names) = some .directory) :
    Passes fs place names (place ++ names) := by
  induction names using List.reverseRecOn with
  | nil => simpa using Passes.done
  | append_singleton names name ih =>
      have hname : Keepable name := hfs.keepable_of_entry? h (by simp)
      rw [← List.append_assoc] at h ⊢
      exact (ih (hfs.entry?_of_child h)).append (.down hname.isFileName hname.short h .done)

theorem walk_child (hname : Keepable name) (hlink : ∀ target, fs.entry? (place ++ [name]) ≠ some (.link target)) :
    fs.walk links place [name] =
      if (fs.entry? (place ++ [name])).isSome then .ok (place ++ [name]) else .error .missing := by
  obtain ⟨follow, hfollow⟩ := exists_follow fs links
  rw [hfollow, descend, if_neg hname.isFileName.isName.2.1, if_neg hname.isFileName.ne_above,
    if_neg (Nat.not_lt.mpr hname.short)]
  cases hentry : fs.entry? (place ++ [name]) with
  | none => rfl
  | some entry =>
      cases entry with
      | file content => rfl
      | directory => rfl
      | link target => exact absurd hentry (hlink target)

namespace TreeAt

variable (htree : fs.TreeAt directory place)

include htree

theorem walk_child (hname : Keepable name) (h : fs.entry? (place ++ names) = some .directory) :
    fs.walk links place (names ++ [name]) =
      if (fs.entry? (place ++ (names ++ [name]))).isSome then .ok (place ++ (names ++ [name]))
      else .error .missing := by
  rw [walk_of_passes (htree.wellFormed.passes h), Files.walk_child hname, List.append_assoc]
  intro target
  rw [List.append_assoc]
  exact htree.linkless _ target

theorem locate : fs.locate directory = .ok place := by
  have hreach := htree.reach
  rw [Files.reach] at hreach
  split at hreach
  next hlocate =>
    cases hreach
    exact hlocate
  · split at hreach <;> cases hreach

theorem spellingFault?_extend (hnames : ∀ name ∈ names, Keepable name) :
    spellingFault? (directory.extend names).toText =
      if pathLimit < size (directory.extend names).toText then some (.obstacle .nameTooLong)
      else none := by
  have hspelling : spellingFault? directory.toText = none := by
    have hlocate := htree.locate
    rw [Files.locate] at hlocate
    split at hlocate
    · cases hlocate
    next hspelling => exact hspelling
  apply spellingFault?_of_permitted
  apply permitted_toText
  refine permitted_append.mpr
    ⟨fun name hname c hc => ?_, fun name hname => (hnames name hname).permitted⟩
  exact permitted_of_spellingFault? hspelling c (mem_toText_of_mem hname hc)

theorem locate_child (hname : Keepable name) (h : fs.entry? (place ++ names) = some .directory)
    (hfits : Fits (directory.extend (names ++ [name]))) :
    fs.locate (directory.extend (names ++ [name])) =
      if (fs.entry? (place ++ (names ++ [name]))).isSome then .ok (place ++ (names ++ [name]))
      else .error (.obstacle .missing) := by
  have hnames : ∀ other ∈ names ++ [name], Keepable other := by
    intro other hother
    rcases List.mem_append.mp hother with hother | hother
    · exact htree.wellFormed.keepable_of_entry? h (List.mem_append_right place hother)
    · exact List.mem_singleton.mp hother ▸ hname
  have hlocate := htree.locate
  rw [Files.locate] at hlocate ⊢
  rw [htree.spellingFault?_extend hnames, if_neg (Nat.not_lt.mpr hfits)]
  split at hlocate
  · cases hlocate
  · split at hlocate
    next hwalk =>
      cases hlocate
      obtain ⟨left, hleft⟩ := exists_links_of_walk hwalk htree.isDirectory
      have hgo : fs.walk linkLimit (fs.origin (directory.extend (names ++ [name])))
          (directory.extend (names ++ [name])).names = fs.walk left place (names ++ [name]) :=
        hleft (names ++ [name])
      rw [hgo, htree.walk_child hname h]
      cases (fs.entry? (place ++ (names ++ [name]))).isSome <;> rfl
    · cases hlocate

/-- What stands under a name in a directory of the tree is reached under this name. -/
theorem reach_child (hname : Keepable name) (h : fs.entry? (place ++ names) = some .directory)
    (hfits : Fits (directory.extend (names ++ [name]))) :
    fs.reach (directory.extend (names ++ [name])) =
      .ok (if (fs.entry? (place ++ (names ++ [name]))).isSome then some (place ++ (names ++ [name]))
        else none) := by
  rw [Files.reach, htree.locate_child hname h hfits]
  cases (fs.entry? (place ++ (names ++ [name]))).isSome <;> rfl

/-- What stands in the tree is reached under its names. -/
theorem reach_of_entry (h : fs.entry? (place ++ names) = some entry)
    (hfits : Fits (directory.extend names)) :
    fs.reach (directory.extend names) = .ok (some (place ++ names)) := by
  rcases List.eq_nil_or_concat names with rfl | ⟨front, name, rfl⟩
  · simpa using htree.reach
  · rw [List.concat_eq_append] at h hfits ⊢
    have hname : Keepable name := htree.wellFormed.keepable_of_entry? h (by simp)
    have hfront : fs.entry? (place ++ front) = some .directory := by
      rw [← List.append_assoc] at h
      exact htree.wellFormed.entry?_of_child h
    rw [htree.reach_child hname hfront hfits, h]
    rfl

theorem fits_of_reach (hnames : ∀ name ∈ names, Keepable name) {place? : Option Place}
    (h : fs.reach (directory.extend names) = .ok place?) : Fits (directory.extend names) := by
  by_contra hlong
  rw [Files.reach, Files.locate, htree.spellingFault?_extend hnames,
    if_pos (Nat.not_le.mp hlong)] at h
  cases h

end TreeAt

end Files
end LocaleCatalogue
