import LocaleCatalogue.Proofs.Files.Trees

/-!
# What a path pattern selects in a tree

In a tree of regular files and directories, what a path pattern selects can be read off the names
that lead to it: they are cut into one piece for each name of the pattern, and each piece leads to
something that suits. The selection ends well if no spelling that it asks about is too long.
-/

namespace LocaleCatalogue

open Files (Keepable Fits TreeAt)

/-- The names of files that one name of a pattern stands for. -/
def GlobName.Admits : GlobName → List Text → Prop
  | .exactly name, added => added = [name]
  | .wild pattern, added => ∃ name : Text, added = [name] ∧ name.matchesPattern pattern = true
  | .anyDepth, _ => True

theorem GlobName.Admits.ne_nil {name : GlobName} {added : List Text} (h : name.Admits added)
    (hname : name ≠ .anyDepth) : added ≠ [] := by
  cases name with
  | exactly file =>
      cases h
      simp
  | wild wildcard =>
      obtain ⟨file, rfl, -⟩ := h
      simp
  | anyDepth => exact absurd rfl hname

namespace Glob

variable {fs : Files} {onlyDirectories : Bool} {name : GlobName} {pattern : List GlobName}
  {directory path next : Path} {paths : List Path} {place : Place} {names : List Text} {file : Text}

/-- Whether what stands at a place will do: a directory where only directories count, anything
elsewhere. -/
def suits (onlyDirectories : Bool) (found : Option Entry) : Bool :=
  if onlyDirectories then found = some .directory else found.isSome

/-- A pattern spells names that lead on from a place. -/
def Spells (fs : Files) (onlyDirectories : Bool) : List GlobName → Place → List Text → Prop
  | [], _, names => names = []
  | name :: rest, place, names => ∃ added more, names = added ++ more ∧ name.Admits added ∧
      suits (onlyDirectories || !rest.isEmpty || name = .anyDepth) (fs.entry? (place ++ added)) = true ∧
      Spells fs onlyDirectories rest (place ++ added) more

theorem exists_of_suits {found : Option Entry} (h : suits onlyDirectories found = true) :
    ∃ entry, found = some entry := by
  cases onlyDirectories with
  | false => exact Option.isSome_iff_exists.mp h
  | true => exact ⟨.directory, by simpa [suits] using h⟩

/-- Something stands wherever a pattern leads. -/
theorem Spells.exists_entry (hne : pattern ≠ []) (h : Spells fs onlyDirectories pattern place names) :
    ∃ entry, fs.entry? (place ++ names) = some entry := by
  induction pattern generalizing place names with
  | nil => exact absurd rfl hne
  | cons name rest ih =>
      obtain ⟨added, more, rfl, -, hsuits, hspells⟩ := h
      by_cases hrest : rest = []
      · subst hrest
        cases hspells
        rw [List.append_nil]
        exact exists_of_suits hsuits
      · rw [← List.append_assoc]
        exact ih hrest hspells

/-- The names can be cut into pieces that the names of a pattern stand for. -/
def Reads : List GlobName → List Text → Prop
  | [], names => names = []
  | name :: rest, names => ∃ added more, names = added ++ more ∧ name.Admits added ∧ Reads rest more

theorem Spells.reads (h : Spells fs onlyDirectories pattern place names) : Reads pattern names := by
  induction pattern generalizing place names with
  | nil => exact h
  | cons name rest ih =>
      obtain ⟨added, more, rfl, hadmits, -, hspells⟩ := h
      exact ⟨added, more, rfl, hadmits, ih hspells⟩

/-- A pattern that ends in a name reads at least one name. -/
theorem Reads.ne_nil (hne : pattern ≠ []) (hlast : pattern.getLast? ≠ some .anyDepth)
    (h : Reads pattern names) : names ≠ [] := by
  induction pattern generalizing names with
  | nil => exact absurd rfl hne
  | cons name rest ih =>
      obtain ⟨added, more, rfl, hadmits, hreads⟩ := h
      cases rest with
      | nil => exact List.append_ne_nil_of_left_ne_nil (hadmits.ne_nil (by simpa using hlast)) more
      | cons second rest =>
          rw [List.getLast?_cons_cons] at hlast
          exact List.append_ne_nil_of_right_ne_nil added (ih (List.cons_ne_nil _ _) hlast hreads)

/-- Where something stands, a pattern that ends in a name spells what it reads, since everything
above is a directory. -/
theorem Reads.spells (hfs : fs.WellFormed) {entry : Entry}
    (hentry : fs.entry? (place ++ names) = some entry)
    (hlast : pattern.getLast? ≠ some .anyDepth) (h : Reads pattern names) :
    Spells fs false pattern place names := by
  induction pattern generalizing place names with
  | nil => exact h
  | cons name rest ih =>
      obtain ⟨added, more, rfl, hadmits, hreads⟩ := h
      rw [← List.append_assoc] at hentry
      cases rest with
      | nil =>
          have hmore : more = [] := hreads
          subst hmore
          have hname : name ≠ .anyDepth := by simpa using hlast
          rw [List.append_nil] at hentry
          exact ⟨added, [], rfl, hadmits, by simp [suits, hname, hentry], rfl⟩
      | cons second rest =>
          rw [List.getLast?_cons_cons] at hlast
          have hmore := hreads.ne_nil (List.cons_ne_nil _ _) hlast
          have hdirectory := hfs.entry?_of_append (by rwa [List.append_assoc] at hentry) hmore
          exact ⟨added, more, rfl, hadmits, by simp [suits, hdirectory], ih hentry hlast hreads⟩

/-- Whatever a pattern looks up as it is can be kept. -/
def LooksUpKeepable (pattern : List GlobName) : Prop := ∀ file, .exactly file ∈ pattern → Keepable file

section Tree

variable (htree : fs.TreeAt directory place)

include htree

theorem asked_child (hfile : Keepable file) (hdirectory : fs.entry? (place ++ names) = some .directory)
    (hfits : Fits (directory.extend (names ++ [file]))) :
    (if onlyDirectories then fs.isDirectory (directory.extend (names ++ [file]))
      else fs.isPresent (directory.extend (names ++ [file]))) =
      .ok (suits onlyDirectories (fs.entry? (place ++ (names ++ [file])))) := by
  rw [Files.isDirectory, Files.isPresent, htree.reach_child hfile hdirectory hfits]
  cases hentry : fs.entry? (place ++ (names ++ [file])) <;> cases onlyDirectories <;>
    simp [Except.map, suits, hentry]

theorem eq_suits_of_asked (hfile : Keepable file)
    (hdirectory : fs.entry? (place ++ names) = some .directory) {yes : Bool}
    (h : (if onlyDirectories then fs.isDirectory (directory.extend (names ++ [file]))
      else fs.isPresent (directory.extend (names ++ [file]))) = .ok yes) :
    yes = suits onlyDirectories (fs.entry? (place ++ (names ++ [file]))) := by
  have hnames : ∀ other ∈ names ++ [file], Keepable other := by
    intro other hother
    rcases List.mem_append.mp hother with hother | hother
    · exact htree.wellFormed.keepable_of_entry? hdirectory (List.mem_append_right place hother)
    · exact List.mem_singleton.mp hother ▸ hfile
  have hreach : ∃ place?, fs.reach (directory.extend (names ++ [file])) = .ok place? := by
    split at h
    · exact (map_eq_ok_iff.mp h).imp fun _ hreach => hreach.1
    · exact (map_eq_ok_iff.mp h).imp fun _ hreach => hreach.1
  obtain ⟨place?, hreach⟩ := hreach
  have hfits := htree.fits_of_reach hnames hreach
  exact Except.ok.inj (h.symm.trans (asked_child htree hfile hdirectory hfits))

theorem mem_lookup (hfile : Keepable file) (hdirectory : fs.entry? (place ++ names) = some .directory)
    (h : step fs (.exactly file) onlyDirectories (directory.extend names) = .ok paths) :
    next ∈ paths ↔ next = directory.extend (names ++ [file]) ∧
      suits onlyDirectories (fs.entry? (place ++ (names ++ [file]))) = true := by
  simp only [step, Path.child_eq_extend, Path.extend_extend] at h
  obtain ⟨yes, hasked, rfl⟩ := map_eq_ok_iff.mp h
  rw [← eq_suits_of_asked htree hfile hdirectory (eq_ok_of_about hasked)]
  cases yes <;> simp

/-- Without links nothing has to be followed. -/
theorem counts_eq {entry : Entry} (hentry : fs.entry? (place ++ (names ++ [file])) = some entry) :
    counts fs onlyDirectories path entry = .ok (suits onlyDirectories (some entry)) := by
  cases onlyDirectories with
  | false => rfl
  | true =>
      cases entry with
      | link target => exact absurd hentry (htree.linkless _ target)
      | file content => rfl
      | directory => rfl

theorem mem_matching {wildcard : Text} (hdirectory : fs.entry? (place ++ names) = some .directory)
    (h : matching fs wildcard onlyDirectories (directory.extend names) = .ok paths) :
    next ∈ paths ↔ ∃ file : Text, file.matchesPattern wildcard = true ∧
      next = directory.extend (names ++ [file]) ∧
      suits onlyDirectories (fs.entry? (place ++ (names ++ [file]))) = true := by
  have hnames : ∀ other ∈ names, Keepable other := fun other hother =>
    htree.wellFormed.keepable_of_entry? hdirectory (List.mem_append_right place hother)
  rw [matching] at h
  cases hreach : fs.reach (directory.extend names) with
  | error fault => simp [hreach, about] at h
  | ok place? =>
      have hfits := htree.fits_of_reach hnames hreach
      cases hreach.symm.trans (htree.reach_of_entry hdirectory hfits)
      simp only [hreach, about, Path.child_eq_extend, Path.extend_extend] at h
      rw [mem_filterMapM h]
      constructor
      · rintro ⟨⟨file, entry⟩, hchild, hkept⟩
        have hentry := htree.wellFormed.mem_children_iff.mp hchild
        rw [List.append_assoc] at hentry
        dsimp only at hkept
        rw [counts_eq htree hentry, map_eq_ok_iff] at hkept
        obtain ⟨_, ⟨⟩, hkept⟩ := hkept
        split at hkept
        next hyes =>
          cases hkept
          obtain ⟨hsuits, hmatch⟩ := Bool.and_eq_true_iff.mp hyes
          exact ⟨file, hmatch, rfl, hentry ▸ hsuits⟩
        next => cases hkept
      · rintro ⟨file, hmatch, rfl, hsuits⟩
        obtain ⟨entry, hentry⟩ := exists_of_suits hsuits
        rw [hentry] at hsuits
        refine ⟨(file, entry), htree.wellFormed.mem_children_iff.mpr (by rwa [List.append_assoc]), ?_⟩
        dsimp only
        rw [counts_eq htree hentry, hsuits, hmatch]
        rfl

theorem mem_depths (hdirectory : fs.entry? (place ++ names) = some .directory)
    (h : depths fs (directory.extend names) = .ok paths) :
    next ∈ paths ↔ ∃ added, next = directory.extend (names ++ added) ∧
      fs.entry? (place ++ (names ++ added)) = some .directory := by
  have hnames : ∀ other ∈ names, Keepable other := fun other hother =>
    htree.wellFormed.keepable_of_entry? hdirectory (List.mem_append_right place hother)
  obtain ⟨place?, hreach, rfl⟩ := map_eq_ok_iff.mp h
  have hreach := eq_ok_of_about hreach
  have hfits := htree.fits_of_reach hnames hreach
  cases hreach.symm.trans (htree.reach_of_entry hdirectory hfits)
  rw [List.mem_map]
  constructor
  · rintro ⟨below, hbelow, rfl⟩
    refine ⟨below, by simp [Path.extend], ?_⟩
    rcases Files.mem_directoriesBelow.mp hbelow with rfl | ⟨hne, hmem⟩
    · simpa using hdirectory
    · rw [← List.append_assoc]
      exact htree.wellFormed.stands _ hmem
  · rintro ⟨added, rfl, hentry⟩
    refine ⟨added, Files.mem_directoriesBelow.mpr ?_, by simp [Path.extend]⟩
    rcases List.eq_nil_or_concat added with rfl | ⟨front, last, rfl⟩
    · exact .inl rfl
    · refine .inr ⟨by simp, ?_⟩
      rw [List.concat_eq_append, ← List.append_assoc] at hentry ⊢
      rw [← List.append_assoc] at hentry
      exact htree.wellFormed.mem_entries_iff.mpr hentry

/-- What one name of a pattern selects in a directory of the tree. -/
theorem mem_step (hkeepable : ∀ file, name = .exactly file → Keepable file)
    (hdirectory : fs.entry? (place ++ names) = some .directory)
    (h : step fs name onlyDirectories (directory.extend names) = .ok paths) :
    next ∈ paths ↔ ∃ added, next = directory.extend (names ++ added) ∧ name.Admits added ∧
      suits (onlyDirectories || name = .anyDepth) (fs.entry? (place ++ (names ++ added))) = true := by
  cases name with
  | exactly file => simp [mem_lookup htree (hkeepable file rfl) hdirectory h, GlobName.Admits]
  | wild wildcard =>
      rw [mem_matching htree hdirectory h]
      simp only [GlobName.Admits]
      constructor
      · rintro ⟨file, hmatch, rfl, hsuits⟩
        exact ⟨[file], rfl, ⟨file, rfl, hmatch⟩, by simpa using hsuits⟩
      · rintro ⟨_, rfl, ⟨file, rfl, hmatch⟩, hsuits⟩
        exact ⟨file, hmatch, rfl, by simpa using hsuits⟩
  | anyDepth => simp [mem_depths htree hdirectory h, GlobName.Admits, suits]

/-- What a pattern selects below a directory of the tree is what it spells. -/
theorem mem_selectNames_iff (hkeepable : LooksUpKeepable pattern)
    (hdirectory : pattern ≠ [] → fs.entry? (place ++ names) = some .directory)
    (h : selectNames fs onlyDirectories pattern (directory.extend names) = .ok paths) :
    path ∈ paths ↔ ∃ more, path = directory.extend (names ++ more) ∧
      Spells fs onlyDirectories pattern (place ++ names) more := by
  induction pattern generalizing names paths with
  | nil =>
      cases h
      simp [Spells]
  | cons name rest ih =>
      have hname : ∀ file, name = .exactly file → Keepable file := by
        rintro file rfl
        exact hkeepable file List.mem_cons_self
      have hrest : LooksUpKeepable rest := fun file hfile =>
        hkeepable file (List.mem_cons_of_mem name hfile)
      obtain ⟨nexts, founds, hstep, hfounds, rfl⟩ := selectNames_cons_eq_ok.mp h
      have hnexts := fun next => @mem_step _ _ name _ next _ _ _ htree hname (hdirectory (by simp)) hstep
      -- Where the pattern goes on, only directories count.
      have hdeeper : ∀ added, suits (onlyDirectories || !rest.isEmpty || name = .anyDepth)
          (fs.entry? (place ++ (names ++ added))) = true → rest ≠ [] →
            fs.entry? (place ++ (names ++ added)) = some .directory := by
        intro added hsuits hne
        simpa [suits, hne] using hsuits
      rw [mem_flatten_iff_of_answers hfounds]
      simp only [Spells, List.append_assoc]
      constructor
      · rintro ⟨next, hnext, found, hfound, hpath⟩
        obtain ⟨added, rfl, hadmits, hsuits⟩ := (hnexts next).mp hnext
        obtain ⟨more, rfl, hspells⟩ := (ih hrest (hdeeper added hsuits) hfound).mp hpath
        exact ⟨added ++ more, by rw [List.append_assoc], added, more, rfl, hadmits, hsuits, hspells⟩
      · rintro ⟨_, rfl, added, more, rfl, hadmits, hsuits, hspells⟩
        have hnext := (hnexts _).mpr ⟨added, rfl, hadmits, hsuits⟩
        obtain ⟨found, -, hfound⟩ := exists_mem_of_forall₂ hfounds hnext
        refine ⟨_, hnext, found, hfound, ?_⟩
        exact (ih hrest (hdeeper added hsuits) hfound).mpr ⟨more, by rw [List.append_assoc], hspells⟩

/-- A selection that looks up short names ends well where the spellings leave room for one. -/
theorem step_eq_ok {room : Nat} (hroom : fs.LeavesRoom directory place room)
    (hshort : ∀ file, name = .exactly file → Keepable file ∧ Files.size file < room)
    (hdirectory : fs.entry? (place ++ names) = some .directory) :
    ∃ paths, step fs name onlyDirectories (directory.extend names) = .ok paths := by
  have hreach := htree.reach_of_entry hdirectory (hroom.fits hdirectory)
  cases name with
  | exactly file =>
      obtain ⟨hfile, hsize⟩ := hshort file rfl
      have hfits := hroom.fits_child hdirectory hsize
      simp only [step, Path.child_eq_extend, Path.extend_extend,
        asked_child htree hfile hdirectory hfits]
      exact ⟨_, rfl⟩
  | anyDepth =>
      simp only [step, depths, hreach]
      exact ⟨_, rfl⟩
  | wild wildcard =>
      cases hstep : step fs (.wild wildcard) onlyDirectories (directory.extend names) with
      | ok paths => exact ⟨paths, rfl⟩
      | error failed =>
          rw [step, matching, hreach] at hstep
          obtain ⟨⟨file, entry⟩, hmem, hfile⟩ := exists_of_filterMapM_error hstep
          have hentry := htree.wellFormed.mem_children_iff.mp hmem
          rw [List.append_assoc] at hentry
          have hcounts := map_eq_error_iff.mp hfile
          rw [counts_eq htree hentry] at hcounts
          cases hcounts

theorem selectNames_eq_ok {room : Nat} (hroom : fs.LeavesRoom directory place room)
    (hshort : ∀ file, .exactly file ∈ pattern → Keepable file ∧ Files.size file < room)
    (hdirectory : pattern ≠ [] → fs.entry? (place ++ names) = some .directory) :
    ∃ paths, selectNames fs onlyDirectories pattern (directory.extend names) = .ok paths := by
  induction pattern generalizing names with
  | nil => exact ⟨_, rfl⟩
  | cons name rest ih =>
      have hname : ∀ file, name = .exactly file → Keepable file ∧ Files.size file < room := by
        rintro file rfl
        exact hshort file List.mem_cons_self
      have hhere := hdirectory (List.cons_ne_nil name rest)
      obtain ⟨nexts, hstep⟩ :=
        @step_eq_ok fs (onlyDirectories || !rest.isEmpty) _ _ _ _ htree _ hroom hname hhere
      cases hselect : selectNames fs onlyDirectories (name :: rest) (directory.extend names) with
      | ok paths => exact ⟨paths, rfl⟩
      | error failed =>
          rw [selectNames, hstep] at hselect
          obtain ⟨next, hnext, hfailed⟩ := exists_of_mapM_error (map_eq_error_iff.mp hselect)
          obtain ⟨added, rfl, -, hsuits⟩ :=
            (mem_step htree (fun file heq => (hname file heq).1) hhere hstep).mp hnext
          obtain ⟨paths, hpaths⟩ := ih
            (fun file hfile => hshort file (List.mem_cons_of_mem name hfile))
            (fun hne => by simpa [suits, hne] using hsuits)
          cases hpaths.symm.trans hfailed

end Tree

end Glob

end LocaleCatalogue
