import LocaleCatalogue.Proofs.Catalogue.Inlining
import LocaleCatalogue.Proofs.Files.Passing
import Mathlib.Data.List.Nodup

/-!
# Extraction reaches every file

A file is not entered again while it is in progress. Nothing is lost by this: whatever chain of
spreads leads to a file, some simple walk leads there as well, and the file contributes its own keys
at the end of it. For this it must not matter by which path a file was reached. Without links it does
not, as long as imports are written relative to their files and end in names, because then one place
leads to one place.
-/

namespace LocaleCatalogue

open LocaleCatalogue.Path

variable (fs : Files)

/-- The real file at a place spreads a name that stands for the real file at the next place. The
path may be any that ends in the name of the file. -/
def LeadsTo (place next : Place) : Prop :=
  ∃ path i target, EndsInName path ∧ fs.realPlace path = .ok place ∧ Spreads fs path i target ∧
    fs.realPlace target = .ok next

/-- Some number of spreads lead from one real file to another. -/
def Reaches : Place → Place → Prop := Relation.ReflTransGen (LeadsTo fs)

/-- The real file at a place has a key of its own. -/
def HasKey (place : Place) (name : Text) (location : Location) : Prop :=
  ∃ path i property, EndsInName path ∧ fs.realPlace path = .ok place ∧
    Declares fs path i property ∧ property.key? = some (name, location)

/-- Among the keys is one with this name and location from the real file at this place. -/
def Returned (keys : List Key) (place : Place) (name : Text) (location : Location) : Prop :=
  ∃ key ∈ keys, fs.realPlace key.sourcePath = .ok place ∧ key.name = name ∧ key.location = location

/-- Every default import is written relative to its file and ends in a name. -/
def ImportsRelative : Prop :=
  ∀ path root source name specifier, fs.program path = .ok (root, source) →
    Syntax.defaultImport? root name = .ok (some specifier) →
    IsRelative specifier ∧ EndsInName specifier

variable {fs}
variable {origin path other target : Text} {place next start : Place} {i : Nat}

/-! ## One file under several paths -/

/-- The object that a file exports does not depend on what the file is called. -/
theorem exportedObject?_result_congr (path other : Text) (root : Syntax.Node) :
    (exportedObject? path root).result = (exportedObject? other root).result := by
  rw [exportedObject?, exportedObject?]
  cases Syntax.defaultExport? root with
  | none => rfl
  | some statement =>
      cases hexpression : (Syntax.exportedExpression? statement).map Syntax.Node.unwrapped with
      | none => simp only [hexpression]
      | some expression =>
          simp only [hexpression]
          split <;> rfl

/-- The tree of a file only depends on its dialect. -/
theorem readTree_eq_ok_of_dialectOf_eq {file : fs.Found} {program : Syntax.Node × Bytes}
    (hdialect : dialectOf path = dialectOf other) (h : readTree path file = .ok program) :
    readTree other file = .ok program := by
  have htext : ∀ {text}, readText path file = .ok text → readText other file = .ok text := by
    intro text htext
    rw [readText] at htext ⊢
    cases hoctets : file.octets with
    | error cause => simp [hoctets] at htext
    | ok octets =>
        simp only [hoctets] at htext ⊢
        cases hwritten : Utf8.decode octets with
        | error cause => simp [hwritten] at htext
        | ok written => simpa only [hwritten] using htext
  rw [readTree] at h ⊢
  split at h
  · cases h
  next text hread =>
    rw [htext hread]
    dsimp only at h ⊢
    rw [hdialect] at h
    split at h
    · cases h
    next hflagged => rwa [if_neg hflagged]

/-- A file is read in the same dialect under all paths that end in its name. -/
theorem dialectOf_congr (hlinks : fs.Linkless) (hpath : EndsInName path) (hother : EndsInName other)
    (hplace : fs.realPlace path = .ok place) (hsame : fs.realPlace other = .ok place) :
    dialectOf path = dialectOf other := by
  obtain ⟨directory, rfl, -⟩ := Files.exists_directory hlinks hpath hplace
  obtain ⟨directory', heq, -⟩ := Files.exists_directory hlinks hother hsame
  have hlast := (List.append_inj' heq rfl).2
  rw [dialectOf, dialectOf, suffix, suffix, lastName, lastName, hpath.names_eq, hother.names_eq,
    List.getLastD_concat, List.getLastD_concat, List.cons.inj hlast |>.1]

/-- A file exports the same under all paths that end in its name. -/
theorem exported_congr (hlinks : fs.Linkless) (hpath : EndsInName path) (hother : EndsInName other)
    (hplace : fs.realPlace path = .ok place) (hsame : fs.realPlace other = .ok place)
    {e : Export} (h : fs.exported path = some e) : fs.exported other = some e := by
  have hdialect := dialectOf_congr hlinks hpath hother hplace hsame
  have hprogram : fs.program other = .ok (e.root, e.source) := by
    have hread := exists_program_of_exported h
    rw [Files.program, Files.found, show fs.locate (ofText path) = .ok place from hplace] at hread
    rw [Files.program, Files.found, show fs.locate (ofText other) = .ok place from hsame]
    cases hfile : fs.fileAt? place with
    | none => simp [hfile] at hread
    | some file =>
        simp only [hfile] at hread ⊢
        exact readTree_eq_ok_of_dialectOf_eq hdialect hread
  rw [Files.exported, exists_program_of_exported h] at h
  rw [Files.exported, hprogram]
  dsimp only at h ⊢
  rwa [exportedObject?_result_congr other path]

/-- The file that a spread leads to ends in its name. -/
theorem Spreads.endsInName (himports : ImportsRelative fs) (hpath : EndsInName path)
    (h : Spreads fs path i target) : EndsInName target := by
  obtain ⟨e, name, found, he, -, htarget, rfl⟩ := h
  obtain ⟨specifier?, hspecifier, htarget⟩ := spreadTarget?_eq_ok_iff.mp htarget
  cases specifier? with
  | none => cases htarget
  | some specifier =>
      obtain ⟨hrelative, hname⟩ := himports _ _ _ _ _ (exists_program_of_exported he) hspecifier
      exact Files.endsInName_candidate hrelative.head?_ne hname hpath
        (Files.firstRegular?_eq_some htarget).1

/-- A spread leads from a file to the same file under whatever path it is reached, if it leads
anywhere without a fault. -/
theorem Spreads.congr (hlinks : fs.Linkless) (himports : ImportsRelative fs)
    (hpath : EndsInName path) (hplace : fs.realPlace path = .ok place)
    (hother : EndsInName other) (hsame : fs.realPlace other = .ok place)
    (h : Spreads fs path i target) (hnext : fs.realPlace target = .ok next)
    (hvisited : Visited fs origin other) :
    ∃ target', Spreads fs other i target' ∧ fs.realPlace target' = .ok next := by
  obtain ⟨e, name, found, he, hproperty, htarget, rfl⟩ := h
  have he' := exported_congr hlinks hpath hother hplace hsame he
  obtain ⟨found?, htarget'⟩ := hvisited.exists_target he' hproperty
  have hfile := (place_of_spreadTarget? htarget).2
  obtain ⟨specifier?, hspecifier, hfirst⟩ := spreadTarget?_eq_ok_iff.mp htarget
  obtain ⟨specifier?', hspecifier', hfirst'⟩ := spreadTarget?_eq_ok_iff.mp htarget'
  cases hspecifier.symm.trans hspecifier'
  cases specifier? with
  | none => cases hfirst
  | some specifier =>
      obtain ⟨hrelative, hname⟩ := himports _ _ _ _ _ (exists_program_of_exported he) hspecifier
      obtain ⟨file?, hsameFile⟩ := Files.exists_first hrelative.head?_ne hname hlinks place
        (List.Subset.refl candidateSuffixes)
      have hone := hsameFile path hpath hplace _ hfirst
      have htwo := hsameFile other hother hsame _ hfirst'
      rw [← hone] at htwo
      obtain ⟨found', rfl, heq⟩ := Option.map_eq_some_iff.mp htwo
      refine ⟨_, ⟨e, name, found', he', hproperty, htarget', rfl⟩, ?_⟩
      rw [(place_of_spreadTarget? htarget').2, heq, ← hfile, hnext]

/-! ## Walks to every reachable file -/

theorem Spreads.exists_place (h : Spreads fs path i target) :
    ∃ place, fs.realPlace target = .ok place := by
  obtain ⟨e, name, found, -, -, htarget, rfl⟩ := h
  exact ⟨_, (place_of_spreadTarget? htarget).2⟩

/-- A walk goes on along a spread of its last file. -/
theorem Walk.concat {spreads : List Nat} {stops : List Text} (h : Walk fs path spreads stops)
    (hspread : Spreads fs (stops.getLastD path) i target) :
    Walk fs path (spreads ++ [i]) (stops ++ [target]) := by
  induction h with
  | here => exact .along hspread .here
  | along hfirst _ ih =>
      rw [List.getLastD_cons] at hspread
      exact .along hfirst (ih hspread)

/-- A walk can be cut at every file that it comes to. -/
theorem Walk.exists_cut {spreads : List Nat} {stops : List Text} (h : Walk fs path spreads stops)
    {stop : Text} (hstop : stop ∈ path :: stops) :
    ∃ before spreads', before <+: stops ∧ Walk fs path spreads' before ∧
      before.getLastD path = stop := by
  induction h with
  | here =>
      obtain rfl := List.mem_singleton.mp hstop
      exact ⟨[], [], List.prefix_refl _, .here, rfl⟩
  | @along path target i spreads stops hfirst hrest ih =>
      rcases List.mem_cons.mp hstop with rfl | hstop
      · exact ⟨[], [], List.nil_prefix, .here, rfl⟩
      · obtain ⟨before, spreads', hprefix, hwalk, hlast⟩ := ih hstop
        refine ⟨target :: before, i :: spreads', ?_, .along hfirst hwalk, ?_⟩
        · exact List.cons_prefix_cons.mpr ⟨rfl, hprefix⟩
        · rw [List.getLastD_cons]
          exact hlast

/-- Every file that a walk comes to is reached by a path that ends in its name. -/
theorem Walk.endsInName (himports : ImportsRelative fs) {spreads : List Nat} {stops : List Text}
    (h : Walk fs path spreads stops) (hpath : EndsInName path) :
    EndsInName (stops.getLastD path) := by
  induction h with
  | here => exact hpath
  | along hspread _ ih =>
      rw [List.getLastD_cons]
      exact ih (hspread.endsInName himports hpath)

/-- A walk leads from place to place. -/
theorem Walk.reaches (himports : ImportsRelative fs) {spreads : List Nat} {stops : List Text}
    (h : Walk fs path spreads stops) (hpath : EndsInName path)
    (hstart : fs.realPlace path = .ok start) :
    ∃ place, fs.realPlace (stops.getLastD path) = .ok place ∧ Reaches fs start place := by
  induction h generalizing start with
  | here => exact ⟨start, hstart, .refl⟩
  | along hspread _ ih =>
      obtain ⟨next, hnext⟩ := hspread.exists_place
      obtain ⟨place, hplace, hreaches⟩ := ih (hspread.endsInName himports hpath) hnext
      rw [List.getLastD_cons]
      exact ⟨place, hplace, .head ⟨_, _, _, hpath, hstart, hspread, hnext⟩ hreaches⟩

/-- If a spread of the last file of a simple walk leads to a place, a simple walk leads there: the
walk goes on, or it has already been there. -/
theorem SimpleWalk.exists_step {spreads : List Nat} {stops : List Text}
    (h : SimpleWalk fs path spreads stops) (hspread : Spreads fs (stops.getLastD path) i target)
    (hnext : fs.realPlace target = .ok next) :
    ∃ spreads' stops', SimpleWalk fs path spreads' stops' ∧
      fs.realPlace (stops'.getLastD path) = .ok next := by
  by_cases hbefore : fs.realPlace target ∈ (path :: stops).map fs.realPlace
  · obtain ⟨stop, hstop, hplace⟩ := List.mem_map.mp hbefore
    obtain ⟨before, spreads', hprefix, hwalk, rfl⟩ := h.walk.exists_cut hstop
    have hlonger : path :: before <+: path :: stops := List.cons_prefix_cons.mpr ⟨rfl, hprefix⟩
    have hdistinct := h.distinct.sublist (hlonger.map fs.realPlace).sublist
    exact ⟨spreads', before, ⟨hwalk, hdistinct⟩, hplace.trans hnext⟩
  · refine ⟨_, _, ⟨h.walk.concat hspread, ?_⟩, ?_⟩
    · rw [← List.cons_append, List.map_append, List.map_singleton, ← List.concat_eq_append]
      exact List.Nodup.concat hbefore h.distinct
    · rw [List.getLastD_concat]
      exact hnext

/-- While the file at a path is extracted without fail, a simple walk leads to every reachable place.
-/
theorem exists_simpleWalk (hlinks : fs.Linkless) (himports : ImportsRelative fs)
    (hpath : EndsInName path) (hstart : fs.realPlace path = .ok start)
    (hvisited : ∀ spreads stops, SimpleWalk fs path spreads stops →
      Visited fs path (stops.getLastD path))
    (h : Reaches fs start place) :
    ∃ spreads stops, SimpleWalk fs path spreads stops ∧
      fs.realPlace (stops.getLastD path) = .ok place := by
  induction h with
  | refl => exact ⟨[], [], ⟨.here, by simp⟩, hstart⟩
  | tail _ hleads ih =>
      obtain ⟨spreads, stops, hwalk, hplace⟩ := ih
      obtain ⟨source, i, target, hsource, hsame, hspread, hnext⟩ := hleads
      obtain ⟨target', hspread', hnext'⟩ := hspread.congr hlinks himports hsource hsame
        (hwalk.walk.endsInName himports hpath) hplace hnext (hvisited spreads stops hwalk)
      exact hwalk.exists_step hspread' hnext'

/-- What holds of extracted keys: they are the keys at the ends of the simple walks, each of which
ends where a visit ended well. -/
theorem listed_of_extract {keys : List Key} (h : (extract fs path).result = .ok (some keys)) :
    ∃ start, fs.realPlace path = .ok start ∧ Listed (KeyAt fs path) keys ∧
      ∀ spreads stops, SimpleWalk fs path spreads stops → Visited fs path (stops.getLastD path) := by
  rcases extract_cases fs path with ⟨file, hplace, hvisit⟩ | ⟨failure, -, hfail⟩
  · rw [hvisit] at h
    have henter : Enters fs [] path file.place := ⟨hplace, List.not_mem_nil⟩
    refine ⟨file.place, hplace, (visit_listed henter id h).congr fun _ _ => keyApart_nil_above, ?_⟩
    intro spreads stops hwalk
    exact visited_of_visit henter h (walkApart_nil_above.mpr hwalk)
  · rw [hfail] at h
    cases h

theorem returned_iff (hlinks : fs.Linkless) (himports : ImportsRelative fs)
    (hpath : EndsInName path) (hstart : fs.realPlace path = .ok start) {keys : List Key}
    (h : (extract fs path).result = .ok (some keys)) {name : Text} {location : Location} :
    Returned fs keys place name location ↔
      Reaches fs start place ∧ HasKey fs place name location := by
  obtain ⟨start', hstart', hlisted, hvisited⟩ := listed_of_extract h
  cases hstart.symm.trans hstart'
  constructor
  · rintro ⟨key, hkey, hplace, rfl, rfl⟩
    obtain ⟨address, hat⟩ := hlisted.mem_iff.mp hkey
    obtain ⟨hwalk, hdeclares, hproperty⟩ := hat
    obtain ⟨place', hplace', hreaches⟩ := hwalk.walk.reaches himports hpath hstart
    cases hplace.symm.trans hplace'
    exact ⟨hreaches, _, _, _, hwalk.walk.endsInName himports hpath, hplace, hdeclares, hproperty⟩
  · rintro ⟨hreaches, source, i, property, hsource, hplace, ⟨e, he, hproperty⟩, hkey⟩
    obtain ⟨spreads, stops, hwalk, hlast⟩ :=
      exists_simpleWalk hlinks himports hpath hstart hvisited hreaches
    have hdeclares : Declares fs (stops.getLastD path) i property :=
      ⟨e, exported_congr hlinks hsource (hwalk.walk.endsInName himports hpath) hplace hlast he,
        hproperty⟩
    exact ⟨_, hlisted.mem_iff.mpr ⟨_, .mk hwalk hdeclares hkey⟩, hlast, rfl, rfl⟩

/-- The keys of a file are the keys of all files that spreads lead to, over whatever circles. So
files that lead to each other have the same keys. The chains of spreads are those that walks from the
path follow. -/
theorem extract_reaches_all (hlinks : fs.Linkless) (himports : ImportsRelative fs)
    (hpath : EndsInName path) {keys : List Key} (h : (extract fs path).result = .ok (some keys)) :
    ∃ start, fs.realPlace path = .ok start ∧
      (∀ place name location, Returned fs keys place name location ↔
        Reaches fs start place ∧ HasKey fs place name location) ∧
      (∀ place, Reaches fs start place ↔ ∃ spreads stops, Walk fs path spreads stops ∧
        fs.realPlace (stops.getLastD path) = .ok place) ∧
      ∀ (other : Text) (keys' : List Key) (start' : Place), EndsInName other →
        (extract fs other).result = .ok (some keys') → fs.realPlace other = .ok start' →
        Reaches fs start start' → Reaches fs start' start →
        ∀ place name location, Returned fs keys place name location ↔
          Returned fs keys' place name location := by
  obtain ⟨start, hstart, -, hvisited⟩ := listed_of_extract h
  refine ⟨start, hstart, fun _ _ _ => returned_iff hlinks himports hpath hstart h, ?_, ?_⟩
  · intro place
    constructor
    · intro hreaches
      obtain ⟨spreads, stops, hwalk, hplace⟩ :=
        exists_simpleWalk hlinks himports hpath hstart hvisited hreaches
      exact ⟨spreads, stops, hwalk.walk, hplace⟩
    · rintro ⟨spreads, stops, hwalk, hplace⟩
      obtain ⟨place', hplace', hreaches⟩ := hwalk.reaches himports hpath hstart
      cases hplace.symm.trans hplace'
      exact hreaches
  · intro other keys' start' hother h' hstart' hthere hback place name location
    rw [returned_iff hlinks himports hpath hstart h, returned_iff hlinks himports hother hstart' h']
    exact and_congr_left fun _ => ⟨hback.trans, hthere.trans⟩

/-! ## Checking a file system -/

/-- The specifiers of a program. -/
def specifiersOf (root : Syntax.Node) : List Text :=
  root.namedChildren.filterMap fun statement =>
    match Syntax.importSpecifier? statement with
    | .ok specifier? => specifier?
    | .error _ => none

/-- The specifiers in what stands at a place, in one dialect or the other. -/
def Entry.specifiers : Entry → List Text
  | .file content =>
    match Utf8.decode content with
    | .ok written => [Script.Dialect.typescript, .tsx].flatMap fun dialect =>
        specifiersOf (Script.parseChars dialect (unifyNewlines written))
    | .error _ => []
  | _ => []

theorem exists_statement_of_defaultImport {name specifier : Text} {statements : List Syntax.Node}
    (h : Syntax.defaultImportAmong name statements = .ok (some specifier)) :
    ∃ statement ∈ statements, Syntax.importSpecifier? statement = .ok (some specifier) := by
  induction statements with
  | nil => cases h
  | cons statement rest ih =>
      have hrest : Syntax.defaultImportAmong name rest = .ok (some specifier) →
          ∃ other ∈ statement :: rest, Syntax.importSpecifier? other = .ok (some specifier) :=
        fun h =>
          have ⟨other, hother, heq⟩ := ih h
          ⟨other, List.mem_cons_of_mem statement hother, heq⟩
      rw [Syntax.defaultImportAmong] at h
      split at h
      · split at h
        · exact hrest h
        · split at h
          · cases h
          · exact ⟨statement, List.mem_cons_self, h⟩
          · exact hrest h
      · exact hrest h

/-- Specifiers can be checked file by file. -/
theorem forall_specifier_of_entries {Allowed : Text → Prop}
    (h : ∀ e ∈ fs.entries, ∀ specifier ∈ e.2.specifiers, Allowed specifier)
    {root : Syntax.Node} {source : Bytes} {name specifier : Text}
    (hprogram : fs.program path = .ok (root, source))
    (hspecifier : Syntax.defaultImport? root name = .ok (some specifier)) : Allowed specifier := by
  obtain ⟨text, ⟨file, written, -, hwritten, rfl⟩, rfl, -, -⟩ := program_eq_ok_iff.mp hprogram
  obtain ⟨statement, hstatement, heq⟩ := exists_statement_of_defaultImport hspecifier
  have hmem : specifier ∈ specifiersOf (Script.parseChars (dialectOf path) (unifyNewlines written)) :=
    List.mem_filterMap.mpr ⟨statement, hstatement, by rw [heq]⟩
  have hentry : specifier ∈ (Entry.file file.content).specifiers := by
    rw [Entry.specifiers, hwritten]
    refine List.mem_flatMap.mpr ⟨dialectOf path, ?_, hmem⟩
    cases dialectOf path <;> decide
  rcases Files.mem_entries_of_entry? file.present with ⟨-, hdirectory⟩ | hlisted
  · cases hdirectory
  · exact h _ hlisted _ hentry

/-- Two files that spread each other, one of them by a longer spelling. -/
def rounds : Files where
  working := ["w"]
  entries := [
    (["w"], .directory),
    (["w", "a.ts"], .file (Utf8.encode
      "import b from './b'\nexport default \x7b x, ...b \x7d\n".toList)),
    (["w", "b.ts"], .file (Utf8.encode
      "import a from '../w/a.ts'\nexport default \x7b ...a, y \x7d\n".toList))]

theorem importsRelative_rounds : ImportsRelative rounds := by
  have hentries : ∀ e ∈ rounds.entries, ∀ specifier ∈ e.2.specifiers,
      IsRelative specifier ∧ EndsInName specifier := by decide +kernel
  intro path root source name specifier hprogram hspecifier
  exact forall_specifier_of_entries hentries hprogram hspecifier

theorem extract_reaches_all_rounds :
    let ofA : List Key := [⟨"x", ⟨2, 17, 2, 18⟩, "a.ts", "a.ts"⟩, ⟨"y", ⟨2, 23, 2, 24⟩, "a.ts", "b.ts"⟩]
    let ofB : List Key :=
      [⟨"x", ⟨2, 17, 2, 18⟩, "b.ts", "../w/a.ts"⟩, ⟨"y", ⟨2, 23, 2, 24⟩, "b.ts", "b.ts"⟩]
    (extract rounds "a.ts").result = .ok (some ofA) ∧ (extract rounds "b.ts").result = .ok (some ofB) ∧
      ∀ place name location, Returned rounds ofA place name location ↔
        Returned rounds ofB place name location := by
  intro ofA ofB
  have ha : (extract rounds "a.ts").result = .ok (some ofA) := by decide +kernel
  have hb : (extract rounds "b.ts").result = .ok (some ofB) := by decide +kernel
  have hlinks : rounds.Linkless := Files.linkless_of_entries (by simp [rounds])
  have hnames : EndsInName "a.ts" ∧ EndsInName "b.ts" := by decide
  obtain ⟨start, hstart, hkeysA, -, hsame⟩ :=
    extract_reaches_all hlinks importsRelative_rounds hnames.1 ha
  obtain ⟨start', hstart', hkeysB, -⟩ :=
    extract_reaches_all hlinks importsRelative_rounds hnames.2 hb
  have hplace : rounds.realPlace "../w/a.ts" = .ok start := by
    rw [← hstart]
    decide +kernel
  -- Each file returns a key of the other one, so each leads to the other one.
  have hthere := ((hkeysA start' "y" ⟨2, 23, 2, 24⟩).mp
    ⟨_, List.mem_cons_of_mem _ List.mem_cons_self, hstart', rfl, rfl⟩).1
  have hback := ((hkeysB start "x" ⟨2, 17, 2, 18⟩).mp
    ⟨_, List.mem_cons_self, hplace, rfl, rfl⟩).1
  exact ⟨ha, hb, hsame "b.ts" ofB start' hnames.2 hb hstart' hthere hback⟩

end LocaleCatalogue
