import LocaleCatalogue.Files.Glob
import LocaleCatalogue.Proofs.Files.Answers
import LocaleCatalogue.Proofs.Files.Asked
import LocaleCatalogue.Proofs.Path.Lexical

/-!
# What a path pattern selects

A pattern goes from path to path, one name at a time. What it selects is said here as a relation
between a path and those that it leads to, so that nothing else depends on the order in which the
selection is computed. Every path that is selected lies below the directory where the selection
began, and it consists of names if the names of the files do.
-/

namespace LocaleCatalogue

theorem nodup_eraseDups {α : Type} [BEq α] [LawfulBEq α] (as : List α) : as.eraseDups.Nodup := by
  induction hlength : as.length using Nat.strong_induction_on generalizing as with
  | _ n ih =>
      cases as with
      | nil => exact List.nodup_nil
      | cons a as =>
          rw [List.eraseDups_cons, List.nodup_cons]
          refine ⟨fun hmem => ?_, ih _ ?_ _ rfl⟩
          · have hfilter := List.mem_eraseDups.mp hmem
            simp at hfilter
          · rw [← hlength]
            exact Nat.lt_succ_of_le (List.length_filter_le _ as)

/-! ## The names of files -/

namespace Files

variable {fs : Files} {place below : Place} {name : Text} {entry : Entry}

/-- Every name in the file system is one that a file can have. -/
def ProperNames (fs : Files) : Prop := ∀ e ∈ fs.entries, ∀ name ∈ e.1, Path.IsFileName name

instance (fs : Files) : Decidable fs.ProperNames :=
  inferInstanceAs (Decidable (∀ e ∈ fs.entries, ∀ name ∈ e.1, Path.IsFileName name))

theorem mem_children : (name, entry) ∈ fs.children place ↔ (place ++ [name], entry) ∈ fs.entries := by
  rw [children, List.mem_filterMap]
  constructor
  · rintro ⟨⟨p, kind⟩, hmem, h⟩
    rcases List.eq_nil_or_concat p with rfl | ⟨front, last, rfl⟩
    · cases h
    · simp only [List.concat_eq_append, List.getLast?_concat, List.dropLast_concat] at h hmem
      split at h
      next hfront =>
        cases h
        rwa [hfront] at hmem
      · cases h
  · intro hmem
    exact ⟨(place ++ [name], entry), hmem, by simp⟩

theorem mem_directoriesBelow :
    below ∈ fs.directoriesBelow place ↔
      below = [] ∨ below ≠ [] ∧ (place ++ below, .directory) ∈ fs.entries := by
  rw [directoriesBelow, List.mem_cons, List.mem_filterMap]
  refine or_congr_right ⟨?_, ?_⟩
  · rintro ⟨⟨p, kind⟩, hmem, h⟩
    obtain ⟨hcondition, hbelow⟩ := Option.ite_none_right_eq_some.mp h
    simp only [Bool.and_eq_true, decide_eq_true_eq, List.isPrefixOf_iff_prefix] at hcondition
    obtain ⟨⟨rfl, rest, rfl⟩, hlength⟩ := hcondition
    rw [List.drop_left] at hbelow
    cases hbelow
    refine ⟨?_, hmem⟩
    rintro rfl
    simp at hlength
  · rintro ⟨hne, hmem⟩
    refine ⟨(place ++ below, .directory), hmem, ?_⟩
    have hpos : 0 < below.length := List.length_pos_iff.mpr hne
    simp [hpos]

theorem ProperNames.of_mem_children (hfs : fs.ProperNames) (h : (name, entry) ∈ fs.children place) :
    Path.IsFileName name :=
  hfs _ (mem_children.mp h) name (by simp)

theorem ProperNames.of_mem_directoriesBelow (hfs : fs.ProperNames)
    (h : below ∈ fs.directoriesBelow place) (hname : name ∈ below) : Path.IsFileName name := by
  rcases mem_directoriesBelow.mp h with rfl | ⟨-, hmem⟩
  · cases hname
  · exact hfs _ hmem name (List.mem_append_right place hname)

end Files

/-- The path that some names below a path lead to. -/
def Path.extend (p : Path) (names : List Text) : Path := { p with names := p.names ++ names }

namespace Path

@[simp] theorem extend_nil (p : Path) : p.extend [] = p := by simp [extend]

@[simp] theorem extend_extend (p : Path) (names more : List Text) :
    (p.extend names).extend more = p.extend (names ++ more) := by simp [extend]

theorem child_eq_extend (p : Path) (name : Text) : p.child name = p.extend [name] := rfl

theorem below_extend (p : Path) (names : List Text) : below p (p.extend names) = ⟨.relative, names⟩ := by
  simp [below, extend]

theorem extend_injective {p : Path} {names more : List Text} (h : p.extend names = p.extend more) :
    names = more := by
  simpa [extend] using h

theorem Plain.extend {p : Path} (hp : p.Plain) {names : List Text}
    (hnames : ∀ name ∈ names, IsName name) : (p.extend names).Plain := by
  intro name hname
  rcases List.mem_append.mp hname with hname | hname
  · exact hp name hname
  · exact hnames name hname

end Path

/-! ## Selection as a relation -/

namespace Glob

variable {fs : Files} {onlyDirectories : Bool} {name : GlobName} {names : List GlobName}
  {path next last : Path} {paths : List Path}

/-- The names of a pattern lead from one path to another. -/
inductive Selects (fs : Files) (onlyDirectories : Bool) : List GlobName → Path → Path → Prop
  | done {path : Path} : Selects fs onlyDirectories [] path path
  | along {name : GlobName} {rest : List GlobName} {path next last : Path} {paths : List Path} :
      step fs name (onlyDirectories || !rest.isEmpty) path = .ok paths → next ∈ paths →
      Selects fs onlyDirectories rest next last →
      Selects fs onlyDirectories (name :: rest) path last

theorem selectNames_cons_eq_ok :
    selectNames fs onlyDirectories (name :: names) path = .ok paths ↔
      ∃ nexts founds, step fs name (onlyDirectories || !names.isEmpty) path = .ok nexts ∧
        List.Forall₂ (fun next found => selectNames fs onlyDirectories names next = .ok found)
          nexts founds ∧
        paths = founds.flatten := by
  rw [selectNames]
  constructor
  · intro h
    split at h
    · cases h
    next nexts hstep =>
      obtain ⟨founds, hfounds, rfl⟩ := map_eq_ok_iff.mp h
      exact ⟨nexts, founds, hstep, mapM_eq_ok_iff.mp hfounds, rfl⟩
  · rintro ⟨nexts, founds, hstep, hfounds, rfl⟩
    simp only [hstep, mapM_eq_ok_iff.mpr hfounds, Except.map]

/-- The paths that are selected are those that the names lead to. -/
theorem mem_selectNames (h : selectNames fs onlyDirectories names path = .ok paths) :
    last ∈ paths ↔ Selects fs onlyDirectories names path last := by
  induction names generalizing path paths with
  | nil =>
      cases h
      constructor
      · intro hlast
        rw [List.mem_singleton.mp hlast]
        exact .done
      · rintro ⟨⟩
        exact List.mem_cons_self
  | cons name rest ih =>
      obtain ⟨nexts, founds, hstep, hfounds, rfl⟩ := selectNames_cons_eq_ok.mp h
      rw [mem_flatten_iff_of_answers hfounds]
      constructor
      · rintro ⟨next, hnext, found, hfound, hlast⟩
        exact .along hstep hnext ((ih hfound).mp hlast)
      · intro hselects
        cases hselects with
        | along hstep' hnext hselects =>
            cases hstep.symm.trans hstep'
            obtain ⟨found, -, hfound⟩ := exists_mem_of_forall₂ hfounds hnext
            exact ⟨_, hnext, found, hfound, (ih hfound).mpr hselects⟩

/-- The names that one name of a pattern adds to a path. -/
theorem exists_names_of_step {deeper : Bool} (h : step fs name deeper path = .ok paths)
    (hnext : next ∈ paths) :
    ∃ added, next = path.extend added ∧ ∀ other ∈ added,
      name = .exactly other ∨ (∃ place entry, (other, entry) ∈ fs.children place) ∨
        ∃ place below, below ∈ fs.directoriesBelow place ∧ other ∈ below := by
  cases name with
  | exactly name =>
      obtain ⟨yes, -, rfl⟩ := map_eq_ok_iff.mp h
      split at hnext
      · rw [List.mem_singleton.mp hnext]
        exact ⟨[name], rfl, by simp⟩
      · cases hnext
  | wild pattern =>
      simp only [step, matching] at h
      split at h
      · cases h
      · cases h
        cases hnext
      next place hplace =>
        obtain ⟨⟨name, entry⟩, hentry, hkept⟩ := (mem_filterMapM h).mp hnext
        refine ⟨[name], ?_, fun other hother => ?_⟩
        · obtain ⟨yes, -, hkept⟩ := map_eq_ok_iff.mp hkept
          split at hkept
          · cases hkept
            rfl
          · cases hkept
        · rw [List.mem_singleton.mp hother]
          exact Or.inr (Or.inl ⟨place, entry, hentry⟩)
  | anyDepth =>
      obtain ⟨place?, -, rfl⟩ := map_eq_ok_iff.mp h
      cases place? with
      | none => cases hnext
      | some place =>
          obtain ⟨below, hbelow, rfl⟩ := List.mem_map.mp hnext
          exact ⟨below, rfl, fun other hother => Or.inr (Or.inr ⟨place, below, hbelow, hother⟩)⟩

/-- Whatever is selected lies below where the selection began. -/
theorem Selects.exists_names (hfs : fs.ProperNames)
    (hnames : ∀ name, .exactly name ∈ names → Path.IsName name)
    (h : Selects fs onlyDirectories names path last) :
    ∃ added, last = path.extend added ∧ ∀ name ∈ added, Path.IsName name := by
  induction h with
  | done => exact ⟨[], by simp, by simp⟩
  | along hstep hnext _ ih =>
      obtain ⟨first, rfl, hfirst⟩ := exists_names_of_step hstep hnext
      obtain ⟨rest, rfl, hrest⟩ := ih fun name hname => hnames name (List.mem_cons_of_mem _ hname)
      refine ⟨first ++ rest, by simp, fun name hname => ?_⟩
      rcases List.mem_append.mp hname with hname | hname
      · rcases hfirst name hname with rfl | ⟨place, entry, hmem⟩ | ⟨place, below, hmem, hbelow⟩
        · exact hnames name List.mem_cons_self
        · exact (hfs.of_mem_children hmem).isName
        · exact (hfs.of_mem_directoriesBelow hmem hbelow).isName
      · exact hrest name hname

/-- The names that a pattern looks up as they are consist of names. -/
theorem isName_of_read {pattern : Text} {glob : Glob} (h : read pattern = .ok glob) {name : Text}
    (hname : .exactly name ∈ glob.names) : Path.IsName name := by
  rw [read] at h
  split at h
  · cases h
  split at h
  · cases h
  split at h
  · cases h
  obtain ⟨found, hread, rfl⟩ := map_eq_ok_iff.mp h
  obtain ⟨i, hi, hat⟩ := List.mem_iff_getElem.mp hname
  have hall := mapM_eq_ok_iff.mp hread
  have hi' : i < (Path.ofText pattern).names.length := hall.length_eq ▸ hi
  have hsame : readName (Path.ofText pattern).names[i] = .ok (.exactly name) := hat ▸ hall.get hi' hi
  have heq : (Path.ofText pattern).names[i] = name := by
    rw [readName] at hsame
    split at hsame
    · cases hsame
    split at hsame
    · cases hsame
    split at hsame
    · cases hsame
    · cases hsame
      rfl
  exact heq ▸ Path.plain_ofText pattern _ (List.getElem_mem hi')

/-- A pattern selects different paths below the directory, and each consists of names if the
directory does. -/
theorem select_spec (hfs : fs.ProperNames) {pattern : Text} {glob : Glob}
    (hread : read pattern = .ok glob) {directory : Path}
    (h : select fs glob directory = .ok paths) :
    paths.Nodup ∧ ∀ path ∈ paths, ∃ added, path = directory.extend added ∧
      ∀ name ∈ added, Path.IsName name := by
  rw [select] at h
  split at h
  · cases h
  · cases h
    exact ⟨List.nodup_nil, fun _ hpath => absurd hpath List.not_mem_nil⟩
  · obtain ⟨found, hselect, rfl⟩ := map_eq_ok_iff.mp h
    refine ⟨nodup_eraseDups found, fun path hpath => ?_⟩
    exact ((mem_selectNames hselect).mp (List.mem_eraseDups.mp hpath)).exists_names hfs
      fun name hname => isName_of_read hread hname

/-! ## Selections that fail -/

theorem eq_error_of_about {α : Type} {answer : Except Files.Fault α} {failed : Path × Files.Fault}
    (h : about path answer = .error failed) : answer = .error failed.2 := by
  cases answer with
  | ok a => cases h
  | error fault =>
      cases h
      rfl

theorem eq_ok_of_about {α : Type} {answer : Except Files.Fault α} {a : α}
    (h : about path answer = .ok a) : answer = .ok a := by
  cases answer with
  | ok a' =>
      cases h
      rfl
  | error fault => cases h

theorem eq_nameTooLong_of_counts {entry : Entry} {failed : Path × Files.Fault}
    (h : counts fs onlyDirectories path entry = .error failed) : failed.2 = .obstacle .nameTooLong := by
  cases onlyDirectories with
  | false => cases h
  | true =>
      cases entry with
      | link target => exact Files.eq_nameTooLong_of_map (eq_error_of_about h)
      | file content => cases h
      | directory => cases h

theorem eq_nameTooLong_of_step {failed : Path × Files.Fault}
    (h : step fs name onlyDirectories path = .error failed) :
    failed.2 = .obstacle .nameTooLong := by
  cases name with
  | exactly file =>
      have hasked := eq_error_of_about (map_eq_error_iff.mp h)
      split at hasked
      · exact Files.eq_nameTooLong_of_map hasked
      · exact Files.eq_nameTooLong_of_map hasked
  | wild wildcard =>
      rw [step, matching] at h
      split at h
      next hfailed =>
        cases h
        exact Files.eq_nameTooLong_of_reach (eq_error_of_about hfailed)
      · cases h
      · obtain ⟨_, -, hfile⟩ := exists_of_filterMapM_error h
        exact eq_nameTooLong_of_counts (map_eq_error_iff.mp hfile)
  | anyDepth => exact Files.eq_nameTooLong_of_reach (eq_error_of_about (map_eq_error_iff.mp h))

theorem eq_nameTooLong_of_selectNames {failed : Path × Files.Fault}
    (h : selectNames fs onlyDirectories names path = .error failed) :
    failed.2 = .obstacle .nameTooLong := by
  induction names generalizing path with
  | nil => cases h
  | cons name rest ih =>
      rw [selectNames] at h
      split at h
      next hstep =>
        cases h
        exact eq_nameTooLong_of_step hstep
      next nexts hstep =>
        obtain ⟨next, -, hnext⟩ := exists_of_mapM_error (map_eq_error_iff.mp h)
        exact ih hnext

/-- A selection fails only because something is too long. -/
theorem eq_nameTooLong_of_select {glob : Glob} {directory : Path} {failed : Path × Files.Fault}
    (h : select fs glob directory = .error failed) : failed.2 = .obstacle .nameTooLong := by
  rw [select] at h
  split at h
  next hfailed =>
    cases h
    exact Files.eq_nameTooLong_of_map (eq_error_of_about hfailed)
  · cases h
  · exact eq_nameTooLong_of_selectNames (map_eq_error_iff.mp h)

end Glob

end LocaleCatalogue
