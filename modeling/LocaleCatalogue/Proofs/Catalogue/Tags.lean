import LocaleCatalogue.Catalogue.Language
import LocaleCatalogue.Proofs.Catalogue.Groups

/-!
# Language tags of found files

The tag of a file is cut from its name at the first dot, and the name of a found file does not begin
with a dot as long as hidden files are left out. This is asked of the names below the searched
directory only, so nothing is known about the names above it. But these give a tag only as they are,
whole, and only if there are any.
-/

namespace LocaleCatalogue

open LocaleCatalogue.Path (dot slash)

variable {fs : Files} {settings : Settings} {directory path : Path} {name : Text}

/-- A text that can stand for a language: not empty, and without a slash. -/
def IsTag (t : Text) : Prop := t ≠ [] ∧ slash ∉ t

theorem Path.IsName.isTag (h : Path.IsName name) : IsTag name := ⟨h.1, h.2.2⟩

/-- What stands before the first dot of a name, unless the name begins with the dot. -/
theorem Path.IsName.isTag_stem (h : Path.IsName name) (hvisible : name.head? ≠ some dot) :
    IsTag (name.takeWhile (· ≠ dot)) := by
  obtain ⟨c, cs, rfl⟩ := List.exists_cons_of_ne_nil h.1
  have hc : c ≠ dot := fun heq => hvisible (congrArg some heq)
  refine ⟨?_, fun hslash => h.2.2 ((List.takeWhile_sublist _).subset hslash)⟩
  rw [List.takeWhile_cons, if_pos (by simpa using hc)]
  exact List.cons_ne_nil _ _

theorem Path.Plain.isName_lastName (h : path.Plain) (hne : path.lastName ≠ []) :
    Path.IsName path.lastName := by
  rcases List.eq_nil_or_concat path.names with hnames | ⟨front, last, hnames⟩
  · exact absurd (by rw [Path.lastName, hnames]; rfl) hne
  · rw [Path.lastName, hnames, List.concat_eq_append, List.getLastD_concat]
    exact h last (by simp [hnames])

theorem Path.Plain.parent (h : path.Plain) : path.parent.Plain :=
  fun name hname => h name (List.dropLast_subset _ hname)

/-- A path of names whose last name is not hidden has a tag. -/
theorem isTag_languageTag (hpath : path.Plain) (hname : path.lastName ≠ [])
    (hvisible : path.lastName.head? ≠ some dot) : IsTag (languageTag path.toText) := by
  rw [languageTag, Path.ofText_toText hpath]
  split
  next hindex =>
    rw [Bool.and_eq_true, Bool.not_eq_true', List.isEmpty_eq_false_iff] at hindex
    exact (hpath.parent.isName_lastName hindex.2).isTag
  · exact (hpath.isName_lastName hname).isTag_stem hvisible

/-- A path does not lead to a directory and to a regular file. -/
theorem Files.regular?_ne_of_isDirectory (h : fs.isDirectory path = .ok true) (file : fs.Found) :
    fs.regular? path ≠ .ok (some file) := by
  intro hfile
  have hlocate := regular?_eq_some_iff.mp hfile
  rw [isDirectory, reach, hlocate] at h
  simp [Except.map, file.present] at h

/-- Where hidden files are left out, a wanted file has a name below the searched directory, and the
name does not begin with a dot. -/
theorem Wanted.lastName (hdirectory : fs.isDirectory directory = .ok true)
    (hhidden : settings.showsHidden = false) (h : Wanted fs settings directory path) :
    path.lastName ∈ path.names ∧ path.lastName.head? ≠ some dot := by
  obtain ⟨⟨file, hfile⟩, names, rfl, hkept⟩ := h
  rcases List.eq_nil_or_concat names with rfl | ⟨front, last, rfl⟩
  · rw [Path.extend_nil] at hfile
    exact absurd hfile (Files.regular?_ne_of_isDirectory hdirectory file)
  · have hlast : (directory.extend (front.concat last)).lastName = last := by
      rw [Path.lastName, Path.extend, List.concat_eq_append, ← List.append_assoc,
        List.getLastD_concat]
    rw [hlast]
    exact ⟨by simp [Path.extend], fun hdot => hkept (.inl ⟨hhidden, last, by simp, hdot⟩)⟩

/-- A search ends well only in a directory. -/
theorem isDirectory_of_discover_ok {root : Text} {groups : List (List Text)}
    (h : (discover fs settings root).result = .ok groups) :
    fs.isDirectory (Path.ofText root) = .ok true := by
  rw [discover] at h
  split at h
  · cases h
  · cases h
  · assumption

/-- Where hidden files are left out, every file that is found has a tag, wherever the search began.
-/
theorem discover_tagged (hfs : fs.ProperNames) (hhidden : settings.showsHidden = false)
    {root : Text} {groups : List (List Text)} (h : (discover fs settings root).result = .ok groups) :
    ∀ group ∈ groups, ∀ file ∈ group, IsTag (languageTag file) := by
  have hroot := isDirectory_of_discover_ok h
  rw [discover_result hroot] at h
  obtain ⟨found, hfound, rfl⟩ := map_eq_ok_iff.mp h
  have haccepted := accepted_of_groupsFrom_ok hfound
  have hgrouping := (groupsFrom_ok hfs (Path.plain_ofText root) haccepted hfound).1
  intro group hgroup file hfile
  obtain ⟨paths, hpaths, rfl⟩ := List.mem_map.mp hgroup
  obtain ⟨path, hpath, rfl⟩ := List.mem_map.mp hfile
  have hplain := hgrouping.plain paths hpaths path hpath
  obtain ⟨-, hwanted, -⟩ := hgrouping.mem_flatten.mp (List.mem_flatten.mpr ⟨paths, hpaths, hpath⟩)
  obtain ⟨hname, hvisible⟩ := hwanted.lastName hroot hhidden
  exact isTag_languageTag hplain (hplain _ hname).1 hvisible

example : languageTag ".ts" = [] := by decide

/-- Index files at the top and below, and names with several dots, one of them in front. -/
def scattered : Files where
  working := ["w"]
  entries := [
    (["w"], .directory), (["w", "index.ts"], .file []), (["w", "de"], .directory),
    (["w", "de", "index.ts"], .file []), (["w", "en.locale.v2.ts"], .file []),
    (["w", ".index.ts"], .file []), (["w", ".git"], .directory), (["w", ".git", "x.ts"], .file []),
    (["index.ts"], .file [])]

theorem discover_tagged_scattered :
    let settings := { Settings.standard with localePatterns := ["*.ts", "*/*.ts"] }
    let here : List (List Text) := [["en.locale.v2.ts", "index.ts"], ["de/index.ts"]]
    let above : List (List Text) := [["../index.ts"], ["../w/en.locale.v2.ts", "../w/index.ts"]]
    scattered.ProperNames ∧ settings.showsHidden = false ∧
      (discover scattered settings ".").result = .ok here ∧
      (discover scattered settings "..").result = .ok above ∧
      (∀ group ∈ here, ∀ file ∈ group, IsTag (languageTag file)) ∧
      (∀ group ∈ above, ∀ file ∈ group, IsTag (languageTag file)) ∧
      here.flatten.map languageTag = (["en", "index", "de"] : List Text) ∧
      above.flatten.map languageTag = (["..", "en", "w"] : List Text) := by
  intro settings here above
  have hfs : scattered.ProperNames := by decide +kernel
  have hhidden : settings.showsHidden = false := by decide +kernel
  have hhere : (discover scattered settings ".").result = .ok here := by cbv
  have habove : (discover scattered settings "..").result = .ok above := by cbv
  refine ⟨hfs, hhidden, hhere, habove, discover_tagged hfs hhidden hhere,
    discover_tagged hfs hhidden habove, ?_, ?_⟩
  · decide +kernel
  · decide +kernel

end LocaleCatalogue
