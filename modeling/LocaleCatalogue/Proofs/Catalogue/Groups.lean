import LocaleCatalogue.Catalogue.Discovery
import LocaleCatalogue.Proofs.Catalogue.Outcome
import LocaleCatalogue.Proofs.Files.Asked
import LocaleCatalogue.Proofs.Files.Found
import LocaleCatalogue.Proofs.Files.Selected
import LocaleCatalogue.Proofs.Path.Order
import Mathlib.Data.List.Nodup
import Mathlib.Data.List.Permutation
import Mathlib.Data.Nat.Find

/-!
# Groups of found files

The group of a pattern holds the files that the pattern yields, that are wanted, and that no earlier
pattern yields. Which files are wanted does not depend on the patterns, so the paths found before
can be told from the patterns before, and all groups together hold the same files in whatever order
the patterns are tried.
-/

namespace LocaleCatalogue

variable {fs : Files} {settings : Settings} {directory path : Path} {pattern : Text}
  {before found paths files : List Path} {patterns : List Text} {groups : List (List Path)}
  {failure : Failure}

/-! ## What is looked for -/

/-- A pattern can be read, and its selection below a directory ends well. -/
def Accepted (fs : Files) (directory : Path) (pattern : Text) : Prop :=
  ∃ glob paths, Glob.read pattern = .ok glob ∧ Glob.select fs glob directory = .ok paths

theorem accepted_iff :
    Accepted fs directory pattern ↔ ((Glob.read pattern).toOption.bind fun glob =>
      (Glob.select fs glob directory).toOption).isSome = true := by
  rw [Accepted]
  cases Glob.read pattern with
  | error fault => simp [Except.toOption]
  | ok glob => cases hselect : Glob.select fs glob directory <;> simp [Except.toOption, hselect]

instance (fs : Files) (directory : Path) (pattern : Text) : Decidable (Accepted fs directory pattern) :=
  decidable_of_iff _ accepted_iff.symm

/-- A pattern yields a path below a directory. -/
def Yields (fs : Files) (directory : Path) (pattern : Text) (path : Path) : Prop :=
  ∃ glob paths, Glob.read pattern = .ok glob ∧ Glob.select fs glob directory = .ok paths ∧
    path ∈ paths

/-- Whether a file is at a path cannot be told, because something is too long for the file system.
-/
def TooLong (fs : Files) (path : Path) : Prop := fs.regular? path = .error (.obstacle .nameTooLong)

/-- The names that lead from the searched directory to a path are left out: one of them is hidden
and hidden names do not count, or an exclude pattern matches them joined by slashes. -/
def LeftOut (settings : Settings) (names : List Text) : Prop :=
  (settings.showsHidden = false ∧ ∃ name ∈ names, name.head? = some Path.dot) ∨
    ∃ pattern ∈ settings.excludePatterns,
      (Path.mk .relative names).toText.matchesPattern pattern = true

theorem isExcluded_iff {names : List Text} :
    isExcluded settings ⟨.relative, names⟩ = true ↔ LeftOut settings names := by
  simp [isExcluded, LeftOut, Path.components]

/-- A path leads to a regular file, and its names below a directory are not left out. -/
def Wanted (fs : Files) (settings : Settings) (directory path : Path) : Prop :=
  (∃ file, fs.regular? path = .ok (some file)) ∧
    ∃ names, path = directory.extend names ∧ ¬ LeftOut settings names

/-! ## One group -/

theorem regularOnes_ok (h : regularOnes fs paths = .ok files) :
    files.Sublist paths ∧ (∀ path ∈ paths, ¬ TooLong fs path) ∧
      ∀ path, path ∈ files ↔ path ∈ paths ∧ ∃ file, fs.regular? path = .ok (some file) := by
  induction paths generalizing files with
  | nil =>
      cases h
      simp
  | cons first rest ih =>
      rw [regularOnes] at h
      split at h
      · cases h
      next answer hanswer =>
        obtain ⟨more, hrest, rfl⟩ := map_eq_ok_iff.mp h
        obtain ⟨hsublist, htold, hmem⟩ := ih hrest
        refine ⟨?_, List.forall_mem_cons.mpr ⟨by simp [TooLong, hanswer], htold⟩, fun path => ?_⟩
        · split
          · exact hsublist.cons_cons first
          · exact hsublist.cons first
        · cases answer with
          | none =>
              have hfirst : path = first → ¬ ∃ file, fs.regular? path = .ok (some file) := by
                rintro rfl
                simp [hanswer]
              rw [if_neg (by simp), List.mem_cons, hmem]
              tauto
          | some file =>
              have hfirst : path = first → ∃ file, fs.regular? path = .ok (some file) := by
                rintro rfl
                exact ⟨file, hanswer⟩
              rw [if_pos (by simp), List.mem_cons, List.mem_cons, hmem]
              tauto

theorem regularOnes_error (h : regularOnes fs paths = .error failure) :
    ∃ path ∈ paths, TooLong fs path ∧ failure = .lookup path (.obstacle .nameTooLong) := by
  induction paths with
  | nil => cases h
  | cons first rest ih =>
      rw [regularOnes] at h
      split at h
      next fault hanswer =>
        cases h
        cases Files.eq_nameTooLong_of_map hanswer
        exact ⟨first, List.mem_cons_self, hanswer, rfl⟩
      · obtain ⟨path, hpath, hfailure⟩ := ih (map_eq_error_iff.mp h)
        exact ⟨path, List.mem_cons_of_mem first hpath, hfailure⟩

/-- The selection of an accepted pattern holds what the pattern yields, once and in order. -/
theorem selected_of_accepted (hfs : fs.ProperNames) (hdirectory : directory.Plain)
    (haccepted : Accepted fs directory pattern) :
    ∃ paths, selected fs directory pattern = .ok paths ∧
      (∀ path, path ∈ paths ↔ Yields fs directory pattern path) ∧
      (∀ path ∈ paths, ∃ names, path = directory.extend names ∧ ∀ name ∈ names, Path.IsName name) ∧
      paths.Pairwise fun p q => p.components < q.components := by
  obtain ⟨glob, paths, hread, hselect⟩ := haccepted
  obtain ⟨hnodup, hnames⟩ := Glob.select_spec hfs hread hselect
  refine ⟨paths.mergeSort Path.le, by simp [selected, hread, hselect], fun path => ?_, ?_, ?_⟩
  · rw [List.mem_mergeSort]
    refine ⟨fun hmem => ⟨glob, paths, hread, hselect, hmem⟩, ?_⟩
    rintro ⟨glob', paths', hread', hselect', hmem⟩
    cases hread.symm.trans hread'
    cases hselect.symm.trans hselect'
    exact hmem
  · intro path hpath
    exact hnames path (List.mem_mergeSort.mp hpath)
  · refine Path.strictly_sorted (fun path hpath => ?_) hnodup
    obtain ⟨names, rfl, hnames⟩ := hnames path hpath
    exact hdirectory.extend hnames

theorem isNew_iff :
    (!before.contains path && !isExcluded settings (Path.below directory path)) = true ↔
      ¬ isExcluded settings (Path.below directory path) = true ∧ path ∉ before := by
  rw [Bool.and_eq_true, Bool.not_eq_true', Bool.not_eq_true', ← Bool.not_eq_true, ← Bool.not_eq_true,
    List.contains_iff_mem, and_comm]

theorem group_eq_ok (h : group fs settings directory before pattern = .ok found) :
    ∃ paths files, selected fs directory pattern = .ok paths ∧ regularOnes fs paths = .ok files ∧
      found = files.filter fun path =>
        !before.contains path && !isExcluded settings (Path.below directory path) := by
  obtain ⟨paths, hselected, h⟩ := bind_eq_ok_iff.mp h
  obtain ⟨files, hfiles, h⟩ := bind_eq_ok_iff.mp h
  exact ⟨paths, files, hselected, hfiles, (Except.ok.inj h).symm⟩

theorem group_eq_error (h : group fs settings directory before pattern = .error failure) :
    selected fs directory pattern = .error failure ∨
      ∃ paths, selected fs directory pattern = .ok paths ∧ regularOnes fs paths = .error failure := by
  rcases bind_eq_error_iff.mp h with h | ⟨paths, hselected, h⟩
  · exact .inl h
  rcases bind_eq_error_iff.mp h with h | ⟨files, -, h⟩
  · exact .inr ⟨paths, hselected, h⟩
  · cases h

theorem group_ok (hfs : fs.ProperNames) (hdirectory : directory.Plain)
    (haccepted : Accepted fs directory pattern)
    (h : group fs settings directory before pattern = .ok found) :
    (∀ path, path ∈ found ↔
        Yields fs directory pattern path ∧ Wanted fs settings directory path ∧ path ∉ before) ∧
      (∀ path, Yields fs directory pattern path → ¬ TooLong fs path) ∧
      (∀ path ∈ found, path.Plain) ∧ found.Pairwise fun p q => p.components < q.components := by
  obtain ⟨paths, hselected, hyields, hnames, hsorted⟩ :=
    selected_of_accepted hfs hdirectory haccepted
  obtain ⟨paths', files, hselected', hfiles, rfl⟩ := group_eq_ok h
  cases hselected.symm.trans hselected'
  obtain ⟨hsublist, htold, hmem⟩ := regularOnes_ok hfiles
  refine ⟨fun path => ?_, fun path hpath => htold path ((hyields path).mpr hpath), ?_,
    (hsorted.sublist hsublist).sublist List.filter_sublist⟩
  · rw [List.mem_filter, hmem, hyields, isNew_iff]
    constructor
    · rintro ⟨⟨hyield, hfile⟩, hkept, hnew⟩
      obtain ⟨names, rfl, -⟩ := hnames path ((hyields path).mpr hyield)
      rw [Path.below_extend, isExcluded_iff] at hkept
      exact ⟨hyield, ⟨hfile, names, rfl, hkept⟩, hnew⟩
    · rintro ⟨hyield, ⟨hfile, names, rfl, hkept⟩, hnew⟩
      rw [Path.below_extend, isExcluded_iff]
      exact ⟨⟨hyield, hfile⟩, hkept, hnew⟩
  · intro path hpath
    obtain ⟨names, rfl, hnames⟩ := hnames path (hsublist.subset (List.mem_of_mem_filter hpath))
    exact hdirectory.extend hnames

theorem group_error (hfs : fs.ProperNames) (hdirectory : directory.Plain)
    (haccepted : Accepted fs directory pattern)
    (h : group fs settings directory before pattern = .error failure) :
    ∃ path, Yields fs directory pattern path ∧ TooLong fs path ∧
      failure = .lookup path (.obstacle .nameTooLong) := by
  obtain ⟨paths, hselected, hyields, -, -⟩ := selected_of_accepted hfs hdirectory haccepted
  rcases group_eq_error h with hrefused | ⟨paths', hselected', hfiles⟩
  · cases hselected.symm.trans hrefused
  · cases hselected.symm.trans hselected'
    obtain ⟨path, hpath, hlong, heq⟩ := regularOnes_error hfiles
    exact ⟨path, (hyields path).mp hpath, hlong, heq⟩

/-! ## All groups -/

/-- The groups that belong to patterns, given the paths found before. -/
structure Grouping (fs : Files) (settings : Settings) (directory : Path) (before : List Path)
    (patterns : List Text) (groups : List (List Path)) : Prop where
  length_eq : groups.length = patterns.length
  mem_iff : ∀ (i : Nat) (pattern : Text) (group : List Path), patterns[i]? = some pattern →
    groups[i]? = some group → ∀ path, path ∈ group ↔
      Yields fs directory pattern path ∧ Wanted fs settings directory path ∧ path ∉ before ∧
        ∀ (j : Nat) (earlier : Text), j < i → patterns[j]? = some earlier →
          ¬ Yields fs directory earlier path
  plain : ∀ group ∈ groups, ∀ path ∈ group, path.Plain
  sorted : ∀ group ∈ groups, group.Pairwise fun p q => p.components < q.components

/-- One more group in front: what it finds is what its pattern yields of the wanted paths, so the
later groups can do without looking at it. -/
theorem Grouping.cons (hfound : ∀ path, path ∈ found ↔
      Yields fs directory pattern path ∧ Wanted fs settings directory path ∧ path ∉ before)
    (hplain : ∀ path ∈ found, path.Plain)
    (hsorted : found.Pairwise fun p q => p.components < q.components)
    (hrest : Grouping fs settings directory (before ++ found) patterns groups) :
    Grouping fs settings directory before (pattern :: patterns) (found :: groups) := by
  refine ⟨by simp [hrest.length_eq], ?_, List.forall_mem_cons.mpr ⟨hplain, hrest.plain⟩,
    List.forall_mem_cons.mpr ⟨hsorted, hrest.sorted⟩⟩
  intro i other group hother hgroup path
  cases i with
  | zero =>
      cases hother
      cases hgroup
      rw [hfound]
      simp
  | succ i =>
      rw [hrest.mem_iff i other group hother hgroup path, List.mem_append, not_or, hfound]
      constructor
      · rintro ⟨hyield, hwanted, ⟨hbefore, hnot⟩, hearlier⟩
        refine ⟨hyield, hwanted, hbefore, fun j earlier hj hat => ?_⟩
        cases j with
        | zero =>
            cases hat
            exact fun hyield' => hnot ⟨hyield', hwanted, hbefore⟩
        | succ j => exact hearlier j earlier (Nat.lt_of_succ_lt_succ hj) hat
      · rintro ⟨hyield, hwanted, hbefore, hearlier⟩
        refine ⟨hyield, hwanted, ⟨hbefore, fun h => ?_⟩, fun j earlier hj hat => ?_⟩
        · exact hearlier 0 pattern (Nat.succ_pos i) rfl h.1
        · exact hearlier (j + 1) earlier (Nat.succ_lt_succ hj) hat

theorem groupsFrom_ok (hfs : fs.ProperNames) (hdirectory : directory.Plain)
    (haccepted : ∀ pattern ∈ patterns, Accepted fs directory pattern)
    (h : (groupsFrom fs settings directory before patterns).result = .ok groups) :
    Grouping fs settings directory before patterns groups ∧
      ∀ pattern ∈ patterns, ∀ path, Yields fs directory pattern path → ¬ TooLong fs path := by
  induction patterns generalizing before groups with
  | nil =>
      cases h
      exact ⟨⟨rfl, by simp, by simp, by simp⟩, by simp⟩
  | cons pattern rest ih =>
      obtain ⟨haccepted, hrest⟩ := List.forall_mem_cons.mp haccepted
      obtain ⟨found, hfound, h⟩ := Logged.andThen_result_eq_ok.mp h
      rw [Logged.bind_eq, Logged.say_andThen_result] at h
      obtain ⟨more, hmore, h⟩ := Logged.andThen_result_eq_ok.mp h
      cases h
      obtain ⟨hmem, htold, hplain, hsorted⟩ := group_ok hfs hdirectory haccepted hfound
      obtain ⟨hgrouping, htolds⟩ := ih hrest hmore
      exact ⟨.cons hmem hplain hsorted hgrouping, List.forall_mem_cons.mpr ⟨htold, htolds⟩⟩

theorem groupsFrom_error (hfs : fs.ProperNames) (hdirectory : directory.Plain)
    (haccepted : ∀ pattern ∈ patterns, Accepted fs directory pattern)
    (h : (groupsFrom fs settings directory before patterns).result = .error failure) :
    ∃ pattern ∈ patterns, ∃ path, Yields fs directory pattern path ∧ TooLong fs path ∧
      failure = .lookup path (.obstacle .nameTooLong) := by
  induction patterns generalizing before with
  | nil => cases h
  | cons pattern rest ih =>
      obtain ⟨haccepted, hrest⟩ := List.forall_mem_cons.mp haccepted
      rcases Logged.andThen_result_eq_error.mp h with hfail | ⟨found, hfound, h⟩
      · exact ⟨pattern, List.mem_cons_self, group_error hfs hdirectory haccepted hfail⟩
      · rw [Logged.bind_eq, Logged.say_andThen_result] at h
        rcases Logged.andThen_result_eq_error.mp h with hfail | ⟨more, hmore, h⟩
        · obtain ⟨other, hother, hfailure⟩ := ih hrest hfail
          exact ⟨other, List.mem_cons_of_mem pattern hother, hfailure⟩
        · cases h

/-- Where discovery ends well, every pattern was accepted. -/
theorem accepted_of_groupsFrom_ok
    (h : (groupsFrom fs settings directory before patterns).result = .ok groups) :
    ∀ pattern ∈ patterns, Accepted fs directory pattern := by
  induction patterns generalizing before groups with
  | nil => simp
  | cons pattern rest ih =>
      obtain ⟨found, hfound, h⟩ := Logged.andThen_result_eq_ok.mp h
      rw [Logged.bind_eq, Logged.say_andThen_result] at h
      obtain ⟨more, hmore, -⟩ := Logged.andThen_result_eq_ok.mp h
      refine List.forall_mem_cons.mpr ⟨?_, ih hmore⟩
      obtain ⟨_, _, hselected, -⟩ := group_eq_ok hfound
      rw [selected] at hselected
      split at hselected
      · cases hselected
      next glob hread =>
        split at hselected
        · cases hselected
        next paths hselect => exact ⟨glob, paths, hread, hselect⟩

/-- Where every pattern can be read, discovery fails only because something is too long. -/
theorem eq_lookup_of_groupsFrom_error (hread : ∀ pattern ∈ patterns, ∃ glob, Glob.read pattern = .ok glob)
    (h : (groupsFrom fs settings directory before patterns).result = .error failure) :
    ∃ path, failure = .lookup path (.obstacle .nameTooLong) := by
  induction patterns generalizing before with
  | nil => cases h
  | cons pattern rest ih =>
      obtain ⟨⟨glob, hglob⟩, hread⟩ := List.forall_mem_cons.mp hread
      rcases Logged.andThen_result_eq_error.mp h with hfail | ⟨found, hfound, h⟩
      · rcases group_eq_error hfail with hselected | ⟨paths, -, hfiles⟩
        · rw [selected, hglob] at hselected
          dsimp only at hselected
          split at hselected
          next path fault hselect =>
            cases hselected
            cases Glob.eq_nameTooLong_of_select hselect
            exact ⟨path, rfl⟩
          · cases hselected
        · obtain ⟨path, -, -, heq⟩ := regularOnes_error hfiles
          exact ⟨path, heq⟩
      · rw [Logged.bind_eq, Logged.say_andThen_result] at h
        rcases Logged.andThen_result_eq_error.mp h with hfail | ⟨more, hmore, h⟩
        · exact ih hread hfail
        · cases h

namespace Grouping

/-- All groups together hold the wanted paths that some pattern yields. -/
theorem mem_flatten (h : Grouping fs settings directory before patterns groups) :
    path ∈ groups.flatten ↔ (∃ pattern ∈ patterns, Yields fs directory pattern path) ∧
      Wanted fs settings directory path ∧ path ∉ before := by
  constructor
  · intro hpath
    obtain ⟨group, hgroup, hpath⟩ := List.mem_flatten.mp hpath
    obtain ⟨i, hi, rfl⟩ := List.mem_iff_getElem.mp hgroup
    have hi' : i < patterns.length := h.length_eq ▸ hi
    obtain ⟨hyield, hwanted, hnew, -⟩ := (h.mem_iff i patterns[i] groups[i]
      (List.getElem?_eq_getElem hi') (List.getElem?_eq_getElem hi) path).mp hpath
    exact ⟨⟨patterns[i], List.getElem_mem hi', hyield⟩, hwanted, hnew⟩
  · rintro ⟨⟨pattern, hpattern, hyield⟩, hwanted, hnew⟩
    have hsome : ∃ i, ∃ (hi : i < patterns.length), Yields fs directory patterns[i] path := by
      obtain ⟨i, hi, rfl⟩ := List.mem_iff_getElem.mp hpattern
      exact ⟨i, hi, hyield⟩
    -- The group of the first pattern that yields the path holds it.
    classical
    obtain ⟨hi, hfirst⟩ := Nat.find_spec hsome
    have hi' : Nat.find hsome < groups.length := by rwa [h.length_eq]
    refine List.mem_flatten.mpr ⟨groups[Nat.find hsome], List.getElem_mem hi', ?_⟩
    refine (h.mem_iff _ _ _ (List.getElem?_eq_getElem hi) (List.getElem?_eq_getElem hi') path).mpr
      ⟨hfirst, hwanted, hnew, fun j earlier hj hat hyield' => ?_⟩
    obtain ⟨hj', rfl⟩ := List.getElem?_eq_some_iff.mp hat
    exact Nat.find_min hsome hj ⟨hj', hyield'⟩

theorem nodup_flatten (h : Grouping fs settings directory before patterns groups) :
    groups.flatten.Nodup := by
  refine List.nodup_flatten.mpr ⟨fun group hgroup => ?_, ?_⟩
  · exact (h.sorted group hgroup).imp fun hlt heq => hlt.ne (congrArg Path.components heq)
  · rw [List.pairwise_iff_getElem]
    intro i j hi hj hij path hfirst hsecond
    have hi' : i < patterns.length := h.length_eq ▸ hi
    have hj' : j < patterns.length := h.length_eq ▸ hj
    obtain ⟨hyield, -⟩ := (h.mem_iff i patterns[i] groups[i] (List.getElem?_eq_getElem hi')
      (List.getElem?_eq_getElem hi) path).mp hfirst
    obtain ⟨-, -, -, hearlier⟩ := (h.mem_iff j patterns[j] groups[j] (List.getElem?_eq_getElem hj')
      (List.getElem?_eq_getElem hj) path).mp hsecond
    exact hearlier i patterns[i] hij (List.getElem?_eq_getElem hi') hyield

/-- The spellings of the paths are as different as the paths. -/
theorem nodup_texts (h : Grouping fs settings directory before patterns groups) :
    (groups.map fun paths => paths.map Path.toText).flatten.Nodup := by
  rw [← List.map_flatten]
  refine h.nodup_flatten.map_on fun p hp q hq heq => ?_
  obtain ⟨group, hgroup, hp⟩ := List.mem_flatten.mp hp
  obtain ⟨group', hgroup', hq⟩ := List.mem_flatten.mp hq
  exact Path.toText_injective (h.plain group hgroup p hp) (h.plain group' hgroup' q hq) heq

end Grouping

/-! ## Discovery -/

/-- The spellings of the paths in groups. -/
def textsOf (groups : List (List Path)) : List (List Text) :=
  groups.map fun paths => paths.map Path.toText

theorem discover_result {root : Text} (hroot : fs.isDirectory (Path.ofText root) = .ok true) :
    (discover fs settings root).result =
      (groupsFrom fs settings (Path.ofText root) [] settings.localePatterns).result.map textsOf := by
  rw [discover]
  simp only [hroot, Logged.bind_eq, Logged.andThen]
  cases (groupsFrom fs settings (Path.ofText root) [] settings.localePatterns).result <;> rfl

theorem discover_of_told (hfs : fs.ProperNames) {root : Text}
    (hroot : fs.isDirectory (Path.ofText root) = .ok true)
    (haccepted : ∀ pattern ∈ settings.localePatterns, Accepted fs (Path.ofText root) pattern)
    (htold : ∀ pattern ∈ settings.localePatterns, ∀ path,
      Yields fs (Path.ofText root) pattern path → ¬ TooLong fs path) :
    ∃ groups, (discover fs settings root).result = .ok (textsOf groups) ∧
      Grouping fs settings (Path.ofText root) [] settings.localePatterns groups := by
  cases h : (groupsFrom fs settings (Path.ofText root) [] settings.localePatterns).result with
  | error failure =>
      obtain ⟨pattern, hpattern, path, hyield, hlong, -⟩ :=
        groupsFrom_error hfs (Path.plain_ofText root) haccepted h
      exact absurd hlong (htold pattern hpattern path hyield)
  | ok groups =>
      refine ⟨groups, by rw [discover_result hroot, h]; rfl, ?_⟩
      exact (groupsFrom_ok hfs (Path.plain_ofText root) haccepted h).1

theorem discover_of_tooLong (hfs : fs.ProperNames) {root : Text}
    (hroot : fs.isDirectory (Path.ofText root) = .ok true)
    (haccepted : ∀ pattern ∈ settings.localePatterns, Accepted fs (Path.ofText root) pattern)
    (hpattern : pattern ∈ settings.localePatterns)
    (hyield : Yields fs (Path.ofText root) pattern path) (hlong : TooLong fs path) :
    ∃ other ∈ settings.localePatterns, ∃ first, Yields fs (Path.ofText root) other first ∧
      TooLong fs first ∧
      (discover fs settings root).result = .error (.lookup first (.obstacle .nameTooLong)) := by
  cases h : (groupsFrom fs settings (Path.ofText root) [] settings.localePatterns).result with
  | error failure =>
      obtain ⟨other, hother, first, hyields, htooLong, rfl⟩ :=
        groupsFrom_error hfs (Path.plain_ofText root) haccepted h
      exact ⟨other, hother, first, hyields, htooLong, by rw [discover_result hroot, h]; rfl⟩
  | ok groups =>
      exact absurd hlong ((groupsFrom_ok hfs (Path.plain_ofText root) haccepted h).2 pattern hpattern
        path hyield)

/-- Discovery groups the wanted files by the first pattern that yields them, sorts each group, finds
nothing twice and finds the same files whatever the order of the patterns; but it fails if a pattern
yields a path that is too long to be asked about. -/
theorem discover_groups (hfs : fs.ProperNames) {root : Text}
    (hroot : fs.isDirectory (Path.ofText root) = .ok true)
    (haccepted : ∀ pattern ∈ settings.localePatterns, Accepted fs (Path.ofText root) pattern) :
    ((∀ pattern ∈ settings.localePatterns, ∀ path,
        Yields fs (Path.ofText root) pattern path → ¬ TooLong fs path) →
      ∃ groups, (discover fs settings root).result = .ok (textsOf groups) ∧
        Grouping fs settings (Path.ofText root) [] settings.localePatterns groups ∧
        (textsOf groups).flatten.Nodup ∧
        ∀ patterns, patterns.Perm settings.localePatterns →
          ∃ groups', (discover fs { settings with localePatterns := patterns } root).result =
              .ok (textsOf groups') ∧
            Grouping fs settings (Path.ofText root) [] patterns groups' ∧
            ∀ path, path ∈ groups'.flatten ↔ path ∈ groups.flatten) ∧
      ((∃ pattern ∈ settings.localePatterns, ∃ path,
          Yields fs (Path.ofText root) pattern path ∧ TooLong fs path) →
        ∃ pattern ∈ settings.localePatterns, ∃ path, Yields fs (Path.ofText root) pattern path ∧
          TooLong fs path ∧
          (discover fs settings root).result = .error (.lookup path (.obstacle .nameTooLong))) := by
  refine ⟨fun htold => ?_, ?_⟩
  · obtain ⟨groups, hgroups, hgrouping⟩ := discover_of_told hfs hroot haccepted htold
    refine ⟨groups, hgroups, hgrouping, hgrouping.nodup_texts, fun patterns hperm => ?_⟩
    obtain ⟨groups', hgroups', hgrouping'⟩ :=
      @discover_of_told fs { settings with localePatterns := patterns } hfs root hroot
        (fun pattern hpattern => haccepted pattern (hperm.mem_iff.mp hpattern))
        (fun pattern hpattern => htold pattern (hperm.mem_iff.mp hpattern))
    -- Which paths are wanted does not depend on the file patterns.
    have hsame : Grouping fs settings (Path.ofText root) [] patterns groups' :=
      ⟨hgrouping'.length_eq, hgrouping'.mem_iff, hgrouping'.plain, hgrouping'.sorted⟩
    refine ⟨groups', hgroups', hsame, fun path => ?_⟩
    rw [hsame.mem_flatten, hgrouping.mem_flatten]
    simp only [hperm.mem_iff]
  · rintro ⟨pattern, hpattern, path, hyield, hlong⟩
    exact discover_of_tooLong hfs hroot haccepted hpattern hyield hlong

/-- A file, links to it and to nothing, a hidden file, a declaration file and a file further down.
-/
def assorted : Files where
  working := ["w"]
  entries := [
    (["w"], .directory), (["w", "b.ts"], .file []), (["w", "a.ts"], .link "b.ts"),
    (["w", "dangling.ts"], .link "nowhere"), (["w", ".hidden.ts"], .file []),
    (["w", "b.d.ts"], .file []), (["w", "c.ts"], .directory), (["w", "c.ts", "d.ts"], .file [])]

theorem discover_groups_assorted :
    let settings := { Settings.standard with localePatterns := ["*.ts", "**/*.ts"] }
    ∃ groups, textsOf groups = ([["a.ts", "b.ts"], ["c.ts/d.ts"]] : List (List Text)) ∧
      Grouping assorted settings (Path.ofText ".") [] settings.localePatterns groups ∧
      ∃ groups', textsOf groups' = ([["a.ts", "b.ts", "c.ts/d.ts"], []] : List (List Text)) ∧
        ∀ path, path ∈ groups'.flatten ↔ path ∈ groups.flatten := by
  intro settings
  have hfs : assorted.ProperNames := by decide +kernel
  have hroot : assorted.isDirectory (Path.ofText ".") = .ok true := by decide +kernel
  have haccepted : ∀ pattern ∈ settings.localePatterns, Accepted assorted (Path.ofText ".") pattern := by
    decide +kernel
  have hresult : (discover assorted settings ".").result =
      .ok ([["a.ts", "b.ts"], ["c.ts/d.ts"]] : List (List Text)) := by cbv
  have hswapped : (discover assorted { settings with localePatterns := ["**/*.ts", "*.ts"] } ".").result =
      .ok ([["a.ts", "b.ts", "c.ts/d.ts"], []] : List (List Text)) := by cbv
  obtain ⟨hgroups, hfailure⟩ := discover_groups hfs hroot haccepted
  obtain ⟨groups, hfound, hgrouping, -, hperm⟩ := hgroups fun pattern hpattern path hyield hlong => by
    obtain ⟨_, _, _, _, _, herror⟩ := hfailure ⟨pattern, hpattern, path, hyield, hlong⟩
    cases hresult.symm.trans herror
  obtain ⟨groups', hfound', -, hsame⟩ := hperm ["**/*.ts", "*.ts"] (List.Perm.swap _ _ [])
  exact ⟨groups, Except.ok.inj (hfound.symm.trans hresult), hgrouping, groups',
    Except.ok.inj (hfound'.symm.trans hswapped), hsame⟩

/-- A file beside a link whose target has a name that no file system takes. -/
def longLink : Files where
  working := ["w"]
  entries := [
    (["w"], .directory), (["w", "a.ts"], .link (List.replicate 256 0x78)), (["w", "b.ts"], .file [])]

set_option maxRecDepth 4000 in
/-- Accepted patterns do not suffice: a link may lead to something that cannot be asked about. -/
theorem discover_longLink :
    let settings := { Settings.standard with localePatterns := ["*.ts"] }
    longLink.ProperNames ∧ longLink.isDirectory (Path.ofText ".") = .ok true ∧
      (∀ pattern ∈ settings.localePatterns, Accepted longLink (Path.ofText ".") pattern) ∧
      (discover longLink settings ".").result =
        .error (.lookup (Path.ofText "a.ts") (.obstacle .nameTooLong)) ∧
      ¬ ∃ groups, (discover longLink settings ".").result = .ok (textsOf groups) ∧
        Grouping longLink settings (Path.ofText ".") [] settings.localePatterns groups := by
  intro settings
  have hresult : (discover longLink settings ".").result =
      .error (.lookup (Path.ofText "a.ts") (.obstacle .nameTooLong)) := by cbv
  refine ⟨by decide +kernel, by decide +kernel, by decide +kernel, hresult, ?_⟩
  rintro ⟨groups, hgroups, -⟩
  cases hresult.symm.trans hgroups

end LocaleCatalogue
