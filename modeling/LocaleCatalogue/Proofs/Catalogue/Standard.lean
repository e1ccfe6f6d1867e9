import LocaleCatalogue.Proofs.Catalogue.Groups
import LocaleCatalogue.Proofs.Files.Spelled
import LocaleCatalogue.Proofs.Path.Wildcards

/-!
# What the standard settings find

With the standard settings, in a tree of regular files and directories, whether a file is found can
be read off its names: it stands in a directory for locales or in one directory of such a directory,
and no name hides it, makes it part of something built or installed, or ends like a declaration or a
test. What file patterns select is read name by name, what exclude patterns match is read off the
joined names.
-/

namespace LocaleCatalogue

open LocaleCatalogue.Path (slash dot)
open Files (Keepable)

variable {fs : Files} {directory path : Path} {place : Place} {names : List Text}

/-! ## The law -/

/-- Names of a file that stands in a directory for locales, or is the index of a directory in one. -/
def InLocales (names : List Text) : Prop :=
  (∃ front last, names = front ++ [Text.ofString "locales", last] ∧
    (Text.ofString ".ts" <:+ last ∨ Text.ofString ".js" <:+ last)) ∨
  ∃ front language last, names = front ++ [Text.ofString "locales", language, last] ∧
    (last = Text.ofString "index.ts" ∨ last = Text.ofString "index.js")

/-- Names of a file that the standard settings find. -/
structure Standard (names : List Text) : Prop where
  inLocales : InLocales names
  visible : ∀ name ∈ names, name.head? ≠ some dot
  own : Text.ofString "node_modules" ∉ names.dropLast
  source : names.head? ≠ some (Text.ofString "dist") ∧ names.head? ≠ some (Text.ofString "build")
  plain : ∀ last, names.getLast? = some last → ¬ Text.ofString ".d.ts" <:+ last ∧
    ¬ Text.ofString ".test.ts" <:+ last ∧ ¬ Text.ofString ".spec.ts" <:+ last

/-- The law for directories for locales, read from the end of the names. -/
theorem inLocales_iff : InLocales names ↔
    (names.reverse[1]? = some (Text.ofString "locales") ∧
      (Text.ofString ".ts" <:+ names.getLastD [] ∨ Text.ofString ".js" <:+ names.getLastD [])) ∨
    names.reverse[2]? = some (Text.ofString "locales") ∧
      (names.getLastD [] = Text.ofString "index.ts" ∨ names.getLastD [] = Text.ofString "index.js") := by
  constructor
  · rintro (⟨front, last, rfl, hlast⟩ | ⟨front, language, last, rfl, hlast⟩)
    · exact .inl ⟨by simp, by simpa using hlast⟩
    · exact .inr ⟨by simp, by simpa using hlast⟩
  · obtain ⟨reversed, rfl⟩ : ∃ reversed : List Text, names = reversed.reverse :=
      ⟨names.reverse, by simp⟩
    rw [List.reverse_reverse]
    rintro (⟨hfolder, hlast⟩ | ⟨hfolder, hlast⟩)
    · match reversed, hfolder with
      | last :: folder :: above, hfolder =>
        cases hfolder
        exact .inl ⟨above.reverse, last, by simp, by simpa using hlast⟩
    · match reversed, hfolder with
      | last :: language :: folder :: above, hfolder =>
        cases hfolder
        exact .inr ⟨above.reverse, language, last, by simp, by simpa using hlast⟩

instance (names : List Text) : Decidable (InLocales names) :=
  decidable_of_iff' _ inLocales_iff

instance (names : List Text) : Decidable (Standard names) :=
  decidable_of_iff
    (InLocales names ∧ (∀ name ∈ names, name.head? ≠ some dot) ∧
      Text.ofString "node_modules" ∉ names.dropLast ∧
      (names.head? ≠ some (Text.ofString "dist") ∧ names.head? ≠ some (Text.ofString "build")) ∧
      ∀ last ∈ names.getLast?, ¬ Text.ofString ".d.ts" <:+ last ∧ ¬ Text.ofString ".test.ts" <:+ last ∧
        ¬ Text.ofString ".spec.ts" <:+ last)
    ⟨fun ⟨h₁, h₂, h₃, h₄, h₅⟩ => ⟨h₁, h₂, h₃, h₄, h₅⟩,
      fun h => ⟨h.inLocales, h.visible, h.own, h.source, h.plain⟩⟩

/-! ## What is left out -/

section LeftOut

variable {name last : Text} {front : List Text}

theorem toText_concat_relative :
    (Path.mk .relative (front ++ [last])).toText = Text.join [slash] (front ++ [last]) :=
  (Path.toText_concat .relative front last).trans (List.nil_append _)

theorem isWildcard_append_slash (h : name.isWildcard = false) :
    Text.isWildcard (name ++ [slash]) = false := by
  rw [Text.isWildcard, List.any_append, Bool.or_eq_false_iff]
  exact ⟨h, by decide⟩

theorem matches_first_iff (hliteral : name.isWildcard = false) (hname : slash ∉ name)
    (hnames : ∀ other ∈ front ++ [last], slash ∉ other) :
    (Path.mk .relative (front ++ [last])).toText.matchesPattern (name ++ [slash] ++ [0x2A]) = true ↔
      front.head? = some name := by
  have hwhole := isWildcard_append_slash hliteral
  rw [Text.matchesPattern_append_star hwhole, toText_concat_relative,
    Path.prefix_join_iff hname hnames, List.dropLast_concat]

theorem matches_somewhere_iff (hliteral : name.isWildcard = false) (hname : slash ∉ name)
    (hnames : ∀ other ∈ front ++ [last], slash ∉ other) :
    (Path.mk .relative (front ++ [last])).toText.matchesPattern (name ++ [slash] ++ [0x2A]) = true ∨
      (Path.mk .relative (front ++ [last])).toText.matchesPattern
        (0x2A :: (slash :: (name ++ [slash]) ++ [0x2A])) = true ↔ name ∈ front := by
  have hwhole := isWildcard_append_slash hliteral
  have hinner : Text.isWildcard (slash :: (name ++ [slash])) = false := by
    rw [Text.isWildcard, List.any_cons, Bool.or_eq_false_iff]
    exact ⟨by decide, hwhole⟩
  have hwithin := Path.infix_join_iff hname hnames
  rw [List.infix_cons_iff, List.cons_prefix_cons, and_iff_right rfl, List.dropLast_concat] at hwithin
  rw [Text.matchesPattern_append_star hwhole, Text.matchesPattern_star_append_star hinner,
    toText_concat_relative, hwithin]

theorem matches_ending_iff {ending : Text} (hliteral : ending.isWildcard = false)
    (hending : slash ∉ ending) :
    (Path.mk .relative (front ++ [last])).toText.matchesPattern (0x2A :: ending) = true ↔
      ending <:+ last := by
  rw [Text.matchesPattern_star_append hliteral, toText_concat_relative,
    Path.suffix_join_concat_iff hending]

/-- The standard exclude patterns, with the names they are about set apart. -/
theorem excludePatterns_standard : Settings.standard.excludePatterns = [
    Text.ofString "node_modules" ++ [slash] ++ [0x2A],
    0x2A :: (slash :: (Text.ofString "node_modules" ++ [slash]) ++ [0x2A]),
    Text.ofString "dist" ++ [slash] ++ [0x2A], Text.ofString "build" ++ [slash] ++ [0x2A],
    Text.ofString ".git" ++ [slash] ++ [0x2A], 0x2A :: Text.ofString ".d.ts",
    0x2A :: Text.ofString ".test.ts", 0x2A :: Text.ofString ".spec.ts"] := by
  decide

/-- What the standard settings leave out, read name by name. -/
theorem leftOut_standard_iff (hnames : ∀ other ∈ front ++ [last], slash ∉ other) :
    LeftOut Settings.standard (front ++ [last]) ↔
      (∃ name ∈ front ++ [last], name.head? = some dot) ∨ Text.ofString "node_modules" ∈ front ∨
        front.head? = some (Text.ofString "dist") ∨ front.head? = some (Text.ofString "build") ∨
        Text.ofString ".d.ts" <:+ last ∨ Text.ofString ".test.ts" <:+ last ∨
        Text.ofString ".spec.ts" <:+ last := by
  have hmodules := @matches_somewhere_iff (Text.ofString "node_modules") last front (by decide)
    (by decide) hnames
  have hdist := @matches_first_iff (Text.ofString "dist") last front (by decide) (by decide) hnames
  have hbuild := @matches_first_iff (Text.ofString "build") last front (by decide) (by decide) hnames
  have hgit := @matches_first_iff (Text.ofString ".git") last front (by decide) (by decide) hnames
  have hdeclared := @matches_ending_iff last front (Text.ofString ".d.ts") (by decide) (by decide)
  have htest := @matches_ending_iff last front (Text.ofString ".test.ts") (by decide) (by decide)
  have hspec := @matches_ending_iff last front (Text.ofString ".spec.ts") (by decide) (by decide)
  -- Whatever begins with the name of the repository is hidden.
  have hhidden : front.head? = some (Text.ofString ".git") →
      ∃ name ∈ front ++ [last], name.head? = some dot := by
    intro hhead
    obtain ⟨rest, rfl⟩ := List.head?_eq_some_iff.mp hhead
    exact ⟨_, List.mem_cons_self, by decide⟩
  have hpatterns : (∃ pattern ∈ Settings.standard.excludePatterns,
      (Path.mk .relative (front ++ [last])).toText.matchesPattern pattern = true) ↔
        Text.ofString "node_modules" ∈ front ∨ front.head? = some (Text.ofString "dist") ∨
        front.head? = some (Text.ofString "build") ∨ front.head? = some (Text.ofString ".git") ∨
        Text.ofString ".d.ts" <:+ last ∨ Text.ofString ".test.ts" <:+ last ∨
        Text.ofString ".spec.ts" <:+ last := by
    rw [← hmodules, ← hdist, ← hbuild, ← hgit, ← hdeclared, ← htest, ← hspec,
      excludePatterns_standard]
    simp only [List.exists_mem_cons_iff, List.not_mem_nil, false_and, exists_false, or_false,
      or_assoc]
  have hshown : Settings.standard.showsHidden = false := rfl
  rw [LeftOut, hpatterns, hshown, and_iff_right rfl]
  constructor
  · rintro (h | h | h | h | h | h)
    · exact .inl h
    · exact .inr (.inl h)
    · exact .inr (.inr (.inl h))
    · exact .inr (.inr (.inr (.inl h)))
    · exact .inl (hhidden h)
    · exact .inr (.inr (.inr (.inr h)))
  · rintro (h | h | h | h | h)
    · exact .inl h
    · exact .inr (.inl h)
    · exact .inr (.inr (.inl h))
    · exact .inr (.inr (.inr (.inl h)))
    · exact .inr (.inr (.inr (.inr (.inr h))))

end LeftOut

/-! ## What is selected -/

/-- The names of the standard file patterns. -/
def standardGlobs : List (List GlobName) := [
  [.anyDepth, .exactly (Text.ofString "locales"), .wild (0x2A :: Text.ofString ".ts")],
  [.anyDepth, .exactly (Text.ofString "locales"), .wild (0x2A :: Text.ofString ".js")],
  [.anyDepth, .exactly (Text.ofString "locales"), .wild [0x2A],
    .exactly (Text.ofString "index.ts")],
  [.anyDepth, .exactly (Text.ofString "locales"), .wild [0x2A],
    .exactly (Text.ofString "index.js")]]

theorem read_standard : List.Forall₂ (fun pattern names => Glob.read pattern = .ok ⟨names, false⟩)
    Settings.standard.localePatterns standardGlobs := by
  refine .cons ?_ (.cons ?_ (.cons ?_ (.cons ?_ .nil))) <;> decide +kernel

theorem keepable_standard {pattern : List GlobName} (hpattern : pattern ∈ standardGlobs) :
    ∀ file, .exactly file ∈ pattern → Keepable file ∧ Files.size file < 9 := by
  have hall : ∀ file ∈ [Text.ofString "locales", Text.ofString "index.ts", Text.ofString "index.js"],
      Keepable file ∧ Files.size file < 9 := by decide +kernel
  intro file hfile
  apply hall
  simp only [standardGlobs, List.mem_cons, List.not_mem_nil, or_false] at hpattern
  rcases hpattern with rfl | rfl | rfl | rfl <;>
    simp only [List.mem_cons, reduceCtorEq, GlobName.exactly.injEq, List.not_mem_nil, false_or,
      or_false] at hfile ⊢
  · exact .inl hfile
  · exact .inl hfile
  · exact hfile.imp_right .inl
  · exact hfile.imp_right .inr

section Selected

variable (htree : fs.TreeAt directory place)

include htree

theorem isDirectory_root : fs.isDirectory directory = .ok true := by
  simp [Files.isDirectory, htree.reach, Except.map, htree.isDirectory]

/-- In a tree, a pattern yields the paths whose names it spells. -/
theorem yields_iff {pattern : Text} {globs : List GlobName} (hread : Glob.read pattern = .ok ⟨globs, false⟩)
    (hkeepable : Glob.LooksUpKeepable globs) (haccepted : Accepted fs directory pattern) :
    Yields fs directory pattern path ↔
      ∃ names, path = directory.extend names ∧ Glob.Spells fs false globs place names := by
  obtain ⟨glob, paths, hread', hselect⟩ := haccepted
  cases hread.symm.trans hread'
  have hyields : Yields fs directory pattern path ↔ path ∈ paths := by
    constructor
    · rintro ⟨_, _, hread', hselect', hpath⟩
      cases hread.symm.trans hread'
      cases hselect.symm.trans hselect'
      exact hpath
    · exact fun hpath => ⟨_, _, hread, hselect, hpath⟩
  rw [Glob.select, isDirectory_root htree] at hselect
  simp only [Glob.about] at hselect
  obtain ⟨found, hnames, rfl⟩ := map_eq_ok_iff.mp hselect
  have hmem := @Glob.mem_selectNames_iff fs false globs directory path found place [] htree hkeepable
    (fun _ => by simpa using htree.isDirectory) (by simpa using hnames)
  rw [hyields, List.mem_eraseDups, hmem]
  simp

theorem reach_of_told {entry : Entry} (hentry : fs.entry? (place ++ names) = some entry)
    (htold : ¬ TooLong fs (directory.extend names)) :
    fs.reach (directory.extend names) = .ok (some (place ++ names)) := by
  have hnames : ∀ name ∈ names, Keepable name := fun name hname =>
    htree.wellFormed.keepable_of_entry? hentry (List.mem_append_right place hname)
  cases hreach : fs.reach (directory.extend names) with
  | ok place? =>
      exact hreach ▸ htree.reach_of_entry hentry (htree.fits_of_reach hnames hreach)
  | error fault =>
      refine absurd ?_ htold
      rw [TooLong, Files.regular?, hreach, Files.eq_nameTooLong_of_reach hreach]
      rfl

/-- Whether a path in a tree is wanted depends on what stands at its names. -/
theorem wanted_iff {settings : Settings} {entry : Entry} (hentry : fs.entry? (place ++ names) = some entry)
    (htold : ¬ TooLong fs (directory.extend names)) :
    Wanted fs settings directory (directory.extend names) ↔
      (∃ content, entry = .file content) ∧ ¬ LeftOut settings names := by
  have hregular : (∃ file, fs.regular? (directory.extend names) = .ok (some file)) ↔
      ∃ content, entry = .file content := by
    rw [Files.regular?, reach_of_told htree hentry htold]
    simp only [Except.map, Option.bind_some, Except.ok.injEq]
    constructor
    · rintro ⟨file, hfile⟩
      have hpresent := file.present
      rw [← Files.eq_of_fileAt?_eq_some hfile, hentry] at hpresent
      exact ⟨file.content, Option.some.inj hpresent⟩
    · rintro ⟨content, rfl⟩
      let file : fs.Found := ⟨place ++ names, content, hentry⟩
      exact ⟨file, Files.fileAt?_place file⟩
  rw [Wanted, hregular]
  refine and_congr_right fun _ => ⟨?_, fun hkept => ⟨names, rfl, hkept⟩⟩
  rintro ⟨other, heq, hkept⟩
  rwa [Path.extend_injective heq]

end Selected

/-! ## What the standard patterns read -/

theorem reads_within_iff {folder wildcard : Text} :
    Glob.Reads [.anyDepth, .exactly folder, .wild wildcard] names ↔
      ∃ front last, names = front ++ [folder, last] ∧ Text.matchesPattern last wildcard = true := by
  constructor
  · rintro ⟨front, _, rfl, -, _, _, rfl, rfl, _, _, rfl, ⟨last, rfl, hmatch⟩, rfl⟩
    exact ⟨front, last, rfl, hmatch⟩
  · rintro ⟨front, last, rfl, hmatch⟩
    exact ⟨front, _, rfl, trivial, [folder], _, rfl, rfl, [last], [], rfl, ⟨last, rfl, hmatch⟩, rfl⟩

theorem reads_below_iff {folder wildcard file : Text} :
    Glob.Reads [.anyDepth, .exactly folder, .wild wildcard, .exactly file] names ↔
      ∃ front middle, names = front ++ [folder, middle, file] ∧
        Text.matchesPattern middle wildcard = true := by
  constructor
  · rintro ⟨front, _, rfl, -, _, _, rfl, rfl, _, _, rfl, ⟨middle, rfl, hmatch⟩, _, _, rfl, rfl, rfl⟩
    exact ⟨front, middle, rfl, hmatch⟩
  · rintro ⟨front, middle, rfl, hmatch⟩
    exact ⟨front, _, rfl, trivial, [folder], _, rfl, rfl, [middle], _, rfl, ⟨middle, rfl, hmatch⟩,
      [file], [], rfl, rfl, rfl⟩

/-- The standard patterns read the names of files for locales. -/
theorem reads_standard_iff : (∃ globs ∈ standardGlobs, Glob.Reads globs names) ↔ InLocales names := by
  have hts : ∀ last : Text, last.matchesPattern (0x2A :: Text.ofString ".ts") = true ↔
      Text.ofString ".ts" <:+ last := fun last => Text.matchesPattern_star_append (by decide)
  have hjs : ∀ last : Text, last.matchesPattern (0x2A :: Text.ofString ".js") = true ↔
      Text.ofString ".js" <:+ last := fun last => Text.matchesPattern_star_append (by decide)
  simp only [standardGlobs, List.exists_mem_cons_iff, List.not_mem_nil, false_and, exists_false,
    or_false, reads_within_iff, reads_below_iff, hts, hjs, Text.matchesPattern_star, and_true,
    InLocales]
  constructor
  · rintro (⟨front, last, rfl, hlast⟩ | ⟨front, last, rfl, hlast⟩ | ⟨front, middle, rfl⟩ |
      ⟨front, middle, rfl⟩)
    · exact .inl ⟨front, last, rfl, .inl hlast⟩
    · exact .inl ⟨front, last, rfl, .inr hlast⟩
    · exact .inr ⟨front, middle, _, rfl, .inl rfl⟩
    · exact .inr ⟨front, middle, _, rfl, .inr rfl⟩
  · rintro (⟨front, last, rfl, hlast | hlast⟩ | ⟨front, middle, last, rfl, rfl | rfl⟩)
    · exact .inl ⟨front, last, rfl, hlast⟩
    · exact .inr (.inl ⟨front, last, rfl, hlast⟩)
    · exact .inr (.inr (.inl ⟨front, middle, rfl⟩))
    · exact .inr (.inr (.inr ⟨front, middle, rfl⟩))

/-- The law is what the standard patterns read and the standard settings do not leave out. -/
theorem standard_iff (hnames : ∀ name ∈ names, slash ∉ name) :
    Standard names ↔ InLocales names ∧ ¬ LeftOut Settings.standard names := by
  by_cases hin : InLocales names
  · obtain ⟨first, front, last, rfl⟩ : ∃ first front last, names = first :: (front ++ [last]) := by
      rcases hin with ⟨front, last, rfl, -⟩ | ⟨front, language, last, rfl, -⟩
      · cases front with
        | nil => exact ⟨_, [], last, rfl⟩
        | cons first front => exact ⟨first, front ++ [Text.ofString "locales"], last, by simp⟩
      · cases front with
        | nil => exact ⟨_, [language], last, rfl⟩
        | cons first front =>
            exact ⟨first, front ++ [Text.ofString "locales", language], last, by simp⟩
    rw [← List.cons_append] at hnames hin ⊢
    rw [leftOut_standard_iff hnames, and_iff_right hin]
    simp only [not_or, not_exists, not_and]
    constructor
    · intro h
      obtain ⟨hdist, hbuild⟩ := h.source
      refine ⟨h.visible, ?_, hdist, hbuild, h.plain last (List.getLast?_concat ..)⟩
      simpa only [List.dropLast_concat] using h.own
    · rintro ⟨hvisible, hown, hdist, hbuild, hplain⟩
      refine ⟨hin, hvisible, by rwa [List.dropLast_concat], ⟨hdist, hbuild⟩, fun other hother => ?_⟩
      rw [List.getLast?_concat, Option.some.injEq] at hother
      exact hother ▸ hplain
  · exact iff_of_false (fun h => hin h.inLocales) fun h => hin h.1

/-! ## Discovery -/

/-- With the standard settings, the groups together hold the files that the law allows. -/
theorem mem_standard_groups (htree : fs.TreeAt directory place) {groups : List (List Path)}
    (haccepted : ∀ pattern ∈ Settings.standard.localePatterns, Accepted fs directory pattern)
    (htold : ∀ pattern ∈ Settings.standard.localePatterns, ∀ path,
      Yields fs directory pattern path → ¬ TooLong fs path)
    (hgroups : Grouping fs Settings.standard directory [] Settings.standard.localePatterns groups) :
    path ∈ groups.flatten ↔ ∃ names content, fs.entry? (place ++ names) = some (.file content) ∧
      path = directory.extend names ∧ Standard names := by
  have hslash : ∀ {names entry}, fs.entry? (place ++ names) = some entry →
      ∀ name ∈ names, slash ∉ name := fun hentry name hname =>
    (htree.wellFormed.keepable_of_entry? hentry
      (List.mem_append_right place hname)).isFileName.isName.2.2
  have hyields : (∃ pattern ∈ Settings.standard.localePatterns, Yields fs directory pattern path) ↔
      ∃ globs ∈ standardGlobs, ∃ names, path = directory.extend names ∧
        Glob.Spells fs false globs place names := by
    refine exists_mem_iff_of_forall₂ read_standard fun pattern hpattern globs hglobs hread => ?_
    exact yields_iff htree hread (fun file hfile => (keepable_standard hglobs file hfile).1)
      (haccepted pattern hpattern)
  have hshape : ∀ globs ∈ standardGlobs, globs ≠ [] ∧ globs.getLast? ≠ some .anyDepth := by decide
  rw [hgroups.mem_flatten]
  constructor
  · rintro ⟨hyield, hwanted, -⟩
    obtain ⟨globs, hglobs, names, rfl, hspells⟩ := hyields.mp hyield
    obtain ⟨pattern, hpattern, hyield⟩ := hyield
    obtain ⟨entry, hentry⟩ := hspells.exists_entry (hshape globs hglobs).1
    obtain ⟨⟨content, rfl⟩, hkept⟩ :=
      (wanted_iff htree hentry (htold pattern hpattern _ hyield)).mp hwanted
    refine ⟨names, content, hentry, rfl, (standard_iff (hslash hentry)).mpr ⟨?_, hkept⟩⟩
    exact reads_standard_iff.mp ⟨globs, hglobs, hspells.reads⟩
  · rintro ⟨names, content, hentry, rfl, hstandard⟩
    obtain ⟨hin, hkept⟩ := (standard_iff (hslash hentry)).mp hstandard
    obtain ⟨globs, hglobs, hreads⟩ := reads_standard_iff.mpr hin
    have hyield := hyields.mpr ⟨globs, hglobs, names, rfl,
      hreads.spells htree.wellFormed hentry (hshape globs hglobs).2⟩
    have hyield' := hyield
    obtain ⟨pattern, hpattern, hyield'⟩ := hyield'
    refine ⟨hyield, ?_, List.not_mem_nil⟩
    exact (wanted_iff htree hentry (htold pattern hpattern _ hyield')).mpr ⟨⟨content, rfl⟩, hkept⟩

/-- Where the spellings leave room for a short name, the standard patterns are accepted and what they
yield can be asked about. -/
theorem accepted_of_room (htree : fs.TreeAt directory place) (hroom : fs.LeavesRoom directory place 9)
    {pattern : Text} (hpattern : pattern ∈ Settings.standard.localePatterns) :
    Accepted fs directory pattern ∧ ∀ path, Yields fs directory pattern path → ¬ TooLong fs path := by
  obtain ⟨globs, hglobs, hread⟩ := exists_mem_of_forall₂ read_standard hpattern
  have hshort := keepable_standard hglobs
  obtain ⟨paths, hpaths⟩ := @Glob.selectNames_eq_ok fs false globs directory place [] htree 9 hroom
    hshort (fun _ => by simpa using htree.isDirectory)
  have haccepted : Accepted fs directory pattern := by
    refine ⟨_, paths.eraseDups, hread, ?_⟩
    rw [Path.extend_nil] at hpaths
    simp only [Glob.select, isDirectory_root htree, Glob.about, hpaths, Except.map]
  refine ⟨haccepted, fun path hyield hlong => ?_⟩
  obtain ⟨names, rfl, hspells⟩ :=
    (yields_iff htree hread (fun file hfile => (hshort file hfile).1) haccepted).mp hyield
  have hne : globs ≠ [] := by
    rintro rfl
    revert hglobs
    decide
  obtain ⟨entry, hentry⟩ := hspells.exists_entry hne
  rw [TooLong, Files.regular?, htree.reach_of_entry hentry (hroom.fits hentry)] at hlong
  cases hlong

/-- With the standard settings, a regular file in a tree without links is found exactly if the law
allows its names, and nothing else is found. Discovery ends well if every spelling leaves room for one
of the names that are looked up. Since every directory may be listed and searched, it fails only because
a spelling is too long. -/
theorem discover_standard {root : Text} (htree : fs.TreeAt (Path.ofText root) place) :
    (∀ texts, (discover fs Settings.standard root).result = .ok texts →
        (∀ names content, fs.entry? (place ++ names) = some (.file content) →
          (((Path.ofText root).extend names).toText ∈ texts.flatten ↔ Standard names)) ∧
        ∀ text ∈ texts.flatten, ∃ names content, fs.entry? (place ++ names) = some (.file content) ∧
          text = ((Path.ofText root).extend names).toText) ∧
      (fs.LeavesRoom (Path.ofText root) place 9 →
        ∃ texts, (discover fs Settings.standard root).result = .ok texts) ∧
      ∀ failure, (discover fs Settings.standard root).result = .error failure →
        ∃ path, failure = .lookup path (.obstacle .nameTooLong) := by
  have hroot := isDirectory_root htree
  have hfs := htree.wellFormed.properNames
  have hplain := Path.plain_ofText root
  have hextend : ∀ {names entry}, fs.entry? (place ++ names) = some entry →
      ((Path.ofText root).extend names).Plain := fun hentry => hplain.extend fun name hname =>
    (htree.wellFormed.keepable_of_entry? hentry (List.mem_append_right place hname)).isFileName.isName
  refine ⟨fun texts h => ?_, fun hroom => ?_, fun failure h => ?_⟩
  · rw [discover_result hroot] at h
    obtain ⟨groups, hgroups, rfl⟩ := map_eq_ok_iff.mp h
    have haccepted := accepted_of_groupsFrom_ok hgroups
    obtain ⟨hgrouping, htold⟩ := groupsFrom_ok hfs hplain haccepted hgroups
    have hmem := fun path => @mem_standard_groups _ _ path _ htree _ haccepted htold hgrouping
    have htexts : ∀ text, text ∈ (textsOf groups).flatten ↔ ∃ path ∈ groups.flatten, path.toText = text := by
      intro text
      rw [textsOf, ← List.map_flatten, List.mem_map]
    refine ⟨fun names content hentry => ?_, fun text htext => ?_⟩
    · rw [htexts]
      constructor
      · rintro ⟨path, hpath, htext⟩
        obtain ⟨other, _, hother, rfl, hstandard⟩ := (hmem path).mp hpath
        have hsame := Path.toText_injective (hextend hother) (hextend hentry) htext
        exact Path.extend_injective hsame ▸ hstandard
      · exact fun hstandard => ⟨_, (hmem _).mpr ⟨names, content, hentry, rfl, hstandard⟩, rfl⟩
    · obtain ⟨path, hpath, rfl⟩ := (htexts text).mp htext
      obtain ⟨names, content, hentry, rfl, -⟩ := (hmem path).mp hpath
      exact ⟨names, content, hentry, rfl⟩
  · obtain ⟨groups, hgroups, -⟩ := discover_of_told hfs hroot
      (fun pattern hpattern => (accepted_of_room htree hroom hpattern).1)
      (fun pattern hpattern => (accepted_of_room htree hroom hpattern).2)
    exact ⟨_, hgroups⟩
  · rw [discover_result hroot] at h
    refine eq_lookup_of_groupsFrom_error (fun pattern hpattern => ?_) (map_eq_error_iff.mp h)
    obtain ⟨globs, -, hread⟩ := exists_mem_of_forall₂ read_standard hpattern
    exact ⟨_, hread⟩

/-- A project with files for two languages, some of them left out, and a package. -/
def project : Files where
  working := ["w"]
  entries := [
    (["w"], .directory), (["w", "app"], .directory), (["w", "app", "locales"], .directory),
    (["w", "app", "locales", "en.ts"], .file []), (["w", "app", "locales", "en.d.ts"], .file []),
    (["w", "app", "locales", "de"], .directory), (["w", "app", "locales", "de", "index.js"], .file []),
    (["w", "app", "locales", "de", "more.js"], .file []), (["w", "node_modules"], .directory),
    (["w", "node_modules", "locales"], .directory),
    (["w", "node_modules", "locales", "en.ts"], .file [])]

theorem treeAt_project : project.TreeAt (Path.ofText ".") ["w"] where
  wellFormed := by decide +kernel
  reach := by decide +kernel
  isDirectory := by decide +kernel
  linkless := fun names => Files.linkless_of_entries (by simp [project]) _

theorem discover_standard_project :
    ∃ texts, (discover project Settings.standard ".").result = .ok texts ∧
      (∀ names ∈ ([["app", "locales", "en.ts"], ["app", "locales", "de", "index.js"]] : List (List Text)),
        (Path.mk .relative names).toText ∈ texts.flatten) ∧
      ∀ names ∈ ([["app", "locales", "en.d.ts"], ["app", "locales", "de", "more.js"],
          ["node_modules", "locales", "en.ts"]] : List (List Text)),
        (Path.mk .relative names).toText ∉ texts.flatten := by
  obtain ⟨hfound, hroom, -⟩ := discover_standard treeAt_project
  obtain ⟨texts, htexts⟩ := hroom (Files.leavesRoom_of_entries (by decide +kernel) (by decide +kernel))
  have hroot : Path.ofText "." = ⟨.relative, []⟩ := by decide +kernel
  have hlaw : ∀ names : List Text, project.entry? ([Text.ofString "w"] ++ names) = some (.file []) →
      ((Path.mk .relative names).toText ∈ texts.flatten ↔ Standard names) := by
    intro names hentry
    have hnames := (hfound texts htexts).1 names [] hentry
    rwa [hroot] at hnames
  -- What stands at the names and what the law says of them is decided name by name.
  have hyes : ∀ names ∈ ([["app", "locales", "en.ts"], ["app", "locales", "de", "index.js"]] :
      List (List Text)), project.entry? ([Text.ofString "w"] ++ names) = some (.file []) ∧
        Standard names := by decide +kernel
  have hno : ∀ names ∈ ([["app", "locales", "en.d.ts"], ["app", "locales", "de", "more.js"],
      ["node_modules", "locales", "en.ts"]] : List (List Text)),
        project.entry? ([Text.ofString "w"] ++ names) = some (.file []) ∧ ¬ Standard names := by
    decide +kernel
  refine ⟨texts, htexts, fun names hnames => ?_, fun names hnames hmem => ?_⟩
  · exact (hlaw names (hyes names hnames).1).mpr (hyes names hnames).2
  · exact (hno names hnames).2 ((hlaw names (hno names hnames).1).mp hmem)

/-- A directory reached by going in and out of a directory inside it again and again. -/
def roundabout : Path := ⟨.relative, (List.replicate 371 [Text.ofString "locales", Path.above]).flatten⟩

/-- A project with one file. -/
def single : Files where
  working := ["w"]
  entries := [
    (["w"], .directory), (["w", "locales"], .directory), (["w", "locales", "en.ts"], .file [])]

/-- The law does not suffice: a file that it allows is not found where looking for it asks about a
spelling that is too long. -/
theorem discover_standard_roundabout :
    single.TreeAt (Path.ofText roundabout.toText) ["w"] ∧
      single.entry? ["w", "locales", "en.ts"] = some (.file []) ∧
      Standard ["locales", "en.ts"] ∧
      ¬ ∃ texts, (discover single Settings.standard roundabout.toText).result = .ok texts ∧
        ((Path.ofText roundabout.toText).extend ["locales", "en.ts"]).toText ∈ texts.flatten := by
  have hplain : roundabout.Plain := by
    intro name hname
    simp only [roundabout, List.mem_flatten, List.mem_replicate] at hname
    obtain ⟨_, ⟨-, rfl⟩, hname⟩ := hname
    rcases List.mem_pair.mp hname with rfl | rfl
    · exact ⟨by decide, by decide, by decide⟩
    · exact Spelling.isName_above
  rw [Path.ofText_toText hplain]
  have htree : single.TreeAt roundabout ["w"] :=
    ⟨by decide +kernel, by decide +kernel, by decide +kernel,
      fun names => Files.linkless_of_entries (by simp [single]) _⟩
  refine ⟨htree, by decide +kernel, by decide +kernel, ?_⟩
  rintro ⟨texts, htexts, -⟩
  rw [discover_result (by rw [Path.ofText_toText hplain]; exact isDirectory_root htree)] at htexts
  obtain ⟨groups, hgroups, -⟩ := map_eq_ok_iff.mp htexts
  have haccepted := accepted_of_groupsFrom_ok hgroups (Text.ofString "**/locales/*.ts") (by decide +kernel)
  rw [Path.ofText_toText hplain] at haccepted
  revert haccepted
  decide +kernel

end LocaleCatalogue
