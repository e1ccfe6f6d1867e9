import LocaleCatalogue.Proofs.Catalogue.Groups
import LocaleCatalogue.Proofs.Catalogue.Shapes

/-!
# Spreads that lead nowhere

A spread whose specifier leads to no regular file contributes nothing: the catalogue is that of the
module without the spread, apart from locations. The files behind the other spreads do not notice,
because they never come back to the module while it is extracted. The one thing that gets in the way
is a candidate of which the file system cannot tell whether a regular file is there. The search fails
at the first one of them, and the extraction with it.
-/

namespace LocaleCatalogue

open Syntax (Node Property)

variable {fs fs' : Files} {origin path name : Text} {above : List Place} {file : fs.Found}

/-! ## Probing for nothing -/

/-- Of several paths that lead to no regular file, this is the first one that cannot be probed. -/
def StopsAt (fs : Files) (paths : List Path) (c : Path) (fault : Files.Fault) : Prop :=
  ∃ before after, paths = before ++ c :: after ∧ (∀ d ∈ before, fs.regular? d = .ok none) ∧
    fs.regular? c = .error fault

/-- If none of several paths leads to a regular file, probing them finds nothing, or ends at the first
path that cannot be probed. -/
theorem firstRegular?_of_none {paths : List Path}
    (h : ∀ c ∈ paths, ∀ found : fs.Found, fs.regular? c ≠ .ok (some found)) :
    (∀ c ∈ paths, fs.regular? c = .ok none) ∧ fs.firstRegular? paths = .ok none ∨
      ∃ c fault, StopsAt fs paths c fault ∧ fs.firstRegular? paths = .error (.lookup c fault) := by
  induction paths with
  | nil => exact .inl ⟨fun c hc => absurd hc List.not_mem_nil, rfl⟩
  | cons c rest ih =>
      cases hprobe : fs.regular? c with
      | error fault =>
          refine .inr ⟨c, fault, ⟨[], rest, rfl, fun d hd => absurd hd List.not_mem_nil, hprobe⟩, ?_⟩
          rw [Files.firstRegular?, hprobe]
      | ok found? =>
          cases found? with
          | some found => exact absurd hprobe (h c List.mem_cons_self found)
          | none =>
              have hskip : fs.firstRegular? (c :: rest) = fs.firstRegular? rest := by
                rw [Files.firstRegular?, hprobe]
              rw [hskip]
              rcases ih fun d hd => h d (List.mem_cons_of_mem c hd) with ⟨hall, hnone⟩ | hstops
              · exact .inl ⟨List.forall_mem_cons.mpr ⟨hprobe, hall⟩, hnone⟩
              · obtain ⟨d, fault, ⟨before, after, rfl, hbefore, hrefused⟩, hfails⟩ := hstops
                exact .inr ⟨d, fault, ⟨c :: before, after, rfl,
                  List.forall_mem_cons.mpr ⟨hprobe, hbefore⟩, hrefused⟩, hfails⟩

/-- A specifier, seen from the module at `path`, leads to no regular file, whatever is put behind it.
-/
def LeadsNowhere (fs : Files) (path specifier : Text) : Prop :=
  ∀ c ∈ candidatePaths (specifierBase path specifier), ∀ found : fs.Found,
    fs.regular? c ≠ .ok (some found)

/-- A spread whose import leads nowhere has no target, or the search for it stops at a candidate. -/
theorem spreadTarget?_of_leadsNowhere {root : Node} {specifier : Text}
    (himport : Syntax.defaultImport? root name = .ok (some specifier))
    (h : LeadsNowhere fs path specifier) :
    (∀ c ∈ candidatePaths (specifierBase path specifier), fs.regular? c = .ok none) ∧
      (spreadTarget? fs path name root).result = .ok none ∨
    ∃ c fault, StopsAt fs (candidatePaths (specifierBase path specifier)) c fault ∧
      (spreadTarget? fs path name root).result = .error (.lookup c fault) := by
  rw [spreadTarget?, himport]
  simp only [ofSyntax, Logged.bind_eq, Logged.done_andThen]
  rcases firstRegular?_of_none h with ⟨hall, hnone⟩ | ⟨c, fault, hstops, hfails⟩
  · rw [hnone]
    exact .inl ⟨hall, rfl⟩
  · rw [hfails]
    exact .inr ⟨c, fault, hstops, rfl⟩

/-! ## Visits that keep away from a module -/

/-- Two file systems differ at most in what the file at a place holds. -/
structure Files.SameBut (fs fs' : Files) (place : Place) : Prop where
  shape : fs.SameShape fs'
  entries : ∀ other, other ≠ place → fs'.entry? other = fs.entry? other

theorem Files.SameBut.octets {place : Place} (h : fs.SameBut fs' place) {file' : fs'.Found}
    (hplace : Files.SamePlace file file') (hother : file.place ≠ place) :
    file'.octets = file.octets := by
  have hcontent : file'.content = file.content := by
    have hpresent := file'.present
    rw [hplace, h.entries _ hother, file.present] at hpresent
    exact (Entry.file.inj (Option.some.inj hpresent)).symm
  rw [Files.Found.octets, Files.Found.octets, hplace, h.shape.unreadable, hcontent]

theorem readTree_congr {file' : fs'.Found} (h : file'.octets = file.octets) :
    readTree path file' = readTree path file := by
  rw [readTree, readTree, readText, readText, h]

/-- A property contributes the same in file systems of one shape, if the visits that it goes on to
are the same. -/
theorem contribution_eq (hshape : fs.SameShape fs') {file' : fs'.Found}
    (hplace : Files.SamePlace file file') {root root' : Node} {property : Property}
    (himport : ∀ name, property = .spread (some name) →
      Syntax.defaultImport? root' name = Syntax.defaultImport? root name)
    (hvisit : ∀ (target : Target fs) (target' : Target fs'), Files.SameTarget target target' →
      Enters fs (file.place :: above) target.path.toText target.file.place →
      visit fs' origin (file.place :: above) target'.file target.path.toText =
        visit fs origin (file.place :: above) target.file target.path.toText) :
    contribution fs' origin above file' path root' property =
      contribution fs origin above file path root property := by
  cases property with
  | spread name =>
      cases name with
      | none => rfl
      | some name =>
          refine Logged.Alike.eq (spread_alike hshape (himport name rfl) hplace ?_)
          exact fun target target' htarget henter => .of_eq (hvisit target target' htarget henter)
  | identifier | string | opaqueKind => rfl

/-- While a module is in progress, visits are the same whatever it holds. -/
def VisitsKept (fs' : Files) (origin : Text) (home : Place) (above : List Place) (file : fs.Found)
    (path : Text) : Prop :=
  home ∈ above → ∀ file' : fs'.Found, Files.SamePlace file file' →
    visit fs' origin above file' path = visit fs origin above file path

/-- The induction is on the visits that a visit goes on to; the module stays in progress. -/
theorem visit_kept {home : Place} (hfs : fs.SameBut fs' home)
    (henter : Enters fs above path file.place) : VisitsKept fs' origin home above file path := by
  refine visit_induction (motive := VisitsKept fs' origin home) (fun above file path henter ih => ?_)
    henter
  intro hbusy file' hplace
  have hother : file.place ≠ home := fun hsame => henter.idle (hsame ▸ hbusy)
  have hnode : ∀ e : Export, nodeContribution fs' origin above file' path e =
      nodeContribution fs origin above file path e := by
    intro e
    funext node
    rw [nodeContribution, nodeContribution]
    congr 1
    funext property
    exact contribution_eq hfs.shape hplace (fun _ _ => rfl) fun target target' htarget htargetEnter =>
      ih target htargetEnter (List.mem_cons_of_mem _ hbusy) target'.file htarget.2
  rw [visit_eq, visit_eq, readTree_congr (hfs.octets hplace hother)]
  simp only [hnode]

/-! ## Modules without a spread -/

/-- A property wherever it stands. -/
def Syntax.Property.unplaced : Property → Property
  | .identifier name _ => .identifier name ⟨0, 0, 0, 0⟩
  | .string value _ => .string value ⟨0, 0, 0, 0⟩
  | property => property

/-- What a key says apart from its location. -/
def Key.label (k : Key) : Text × Text × Text := (k.name, k.filePath, k.sourcePath)

/-- What keys say apart from their locations. -/
def labels (result : Except Failure (List Key)) : Except Failure (List (Text × Text × Text)) :=
  result.map (List.map Key.label)

namespace Export

/-- The properties of an object, wherever they stand. -/
def outline (e : Export) : List (Except Syntax.Fault Property) :=
  e.nodes.map fun node => (Property.ofNode node e.source).map Property.unplaced

/-- The second module is the first one without the property at a position: it declares the others in
order, and the spreads among them are imported from where they were. -/
structure Omits (e e' : Export) (i : Nat) : Prop where
  outline : e'.outline = e.outline.eraseIdx i
  imports : ∀ name, .ok (.spread (some name)) ∈ e'.outline →
    Syntax.defaultImport? e'.root name = Syntax.defaultImport? e.root name

end Export

/-- What a property contributes, once it is read. -/
def contributed (fs : Files) (origin : Text) (above : List Place) (file : fs.Found) (path : Text)
    (root : Node) (property : Except Syntax.Fault Property) : Except Failure (List Key) :=
  ((ofSyntax property).andThen (contribution fs origin above file path root)).result

/-- What a property contributes does not depend on where it stands, but for the location. -/
theorem labels_contributed (root : Node) (property : Except Syntax.Fault Property) :
    labels (contributed fs origin above file path root (property.map Property.unplaced)) =
      labels (contributed fs origin above file path root property) := by
  cases property with
  | error fault => rfl
  | ok property =>
      cases property with
      | identifier name location | string name location =>
          change labels (.ok (if name.isEmpty then [] else _)) = labels (.ok (if name.isEmpty then [] else _))
          split <;> rfl
      | spread | opaqueKind => rfl

/-- The labels of an object's keys are in the outline of the object. -/
theorem labels_gather (e : Export) :
    labels (Logged.gather (nodeContribution fs origin above file path e) e.nodes).result =
      Logged.joined (e.outline.map fun property =>
        labels (contributed fs origin above file path e.root property)) := by
  rw [Logged.gather_result, labels, Logged.joined_map, List.map_map, Export.outline, List.map_map]
  congr 2
  funext node
  exact (labels_contributed e.root (Property.ofNode node e.source)).symm

/-- The labels of the keys of a module whose place is in progress nowhere else. -/
theorem labels_extract {e : Export} (hplace : fs.realPlace path = .ok file.place)
    (he : fs.exported path = some e) :
    (extract fs path).result.map (Option.map (List.map Key.label)) =
      (Logged.joined (e.outline.map fun property =>
        labels (contributed fs path [] file path e.root property))).map some := by
  have hfound := Files.found_eq_ok_iff.mpr hplace
  rw [extract, hfound, visit_result hplace, he, exists_program_of_exported he, ← labels_gather]
  dsimp only
  cases (Logged.gather (nodeContribution fs path [] file path e) e.nodes).result <;> rfl

/-- A property of the smaller module contributes what it contributes in the other one. -/
theorem contributed_kept (hfs : fs.SameBut fs' file.place) {file' : fs'.Found}
    (hplace : Files.SamePlace file file') {e e' : Export} {i : Nat} (homits : e.Omits e' i)
    {property : Except Syntax.Fault Property} (hproperty : property ∈ e'.outline) :
    contributed fs' path [] file' path e'.root property =
      contributed fs path [] file path e.root property := by
  cases property with
  | error fault => rfl
  | ok property =>
      have hsame := @contribution_eq fs fs' path path [] file hfs.shape file' hplace e.root e'.root
        property (fun name hspread => homits.imports name (hspread ▸ hproperty))
        fun target target' htarget henter =>
          visit_kept hfs henter (List.mem_singleton.mpr rfl) target'.file htarget.2
      exact congrArg Logged.result hsame

/-- A spread without a target is passed over. -/
theorem contributed_of_no_target {root : Node}
    (h : (spreadTarget? fs path name root).result = .ok none) :
    contributed fs origin above file path root (.ok (.spread (some name))) = .ok [] :=
  Logged.andThen_result_eq_ok.mpr ⟨_, rfl, Logged.andThen_result_eq_ok.mpr ⟨none, h, rfl⟩⟩

/-- Leaving out a spread without a target leaves the keys as they are. -/
theorem joined_omits {e e' : Export} {i : Nat} (homits : e.Omits e' i)
    (hspread : e.property? i = some (.ok (.spread (some name))))
    (htarget : (spreadTarget? fs path name e.root).result = .ok none) :
    Logged.joined (e'.outline.map fun property =>
        labels (contributed fs origin above file path e.root property)) =
      Logged.joined (e.outline.map fun property =>
        labels (contributed fs origin above file path e.root property)) := by
  obtain ⟨node, hnode, hread⟩ := Option.map_eq_some_iff.mp hspread
  have houtline : e.outline[i]? = some (.ok (.spread (some name))) := by
    rw [Export.outline, List.getElem?_map, hnode, Option.map_some, hread]
    rfl
  rw [homits.outline, ← List.eraseIdx_map]
  refine Logged.joined_eraseIdx ?_
  rw [List.getElem?_map, houtline, Option.map_some, contributed_of_no_target htarget]
  rfl

/-- The place of a module and the file there. -/
theorem exists_file_of_exported {e : Export} (he : fs.exported path = some e) :
    ∃ file : fs.Found, fs.realPlace path = .ok file.place ∧
      extract fs path = visit fs path [] file path := by
  rcases extract_cases fs path with hfile | ⟨failure, hfails, -⟩
  · exact hfile
  · rw [exists_program_of_exported he] at hfails
    cases hfails

/-- A spread whose import leads nowhere contributes nothing: the search for its target finds none, and
the module has the keys that it has without the spread. Only a candidate that cannot be probed gets in
the way. Then the search fails with the first such candidate, and no extraction of the module ends
well. -/
theorem extract_without_spread {e : Export} {i : Nat} {specifier : Text}
    (he : fs.exported path = some e) (hspread : e.property? i = some (.ok (.spread (some name))))
    (himport : Syntax.defaultImport? e.root name = .ok (some specifier))
    (hnowhere : LeadsNowhere fs path specifier) :
    ((∀ c ∈ candidatePaths (specifierBase path specifier), ∀ fault, fs.regular? c ≠ .error fault) →
      (spreadTarget? fs path name e.root).result = .ok none ∧
      ∀ (fs' : Files) (e' : Export) (place : Place), fs.realPlace path = .ok place →
        fs.SameBut fs' place → fs'.exported path = some e' → e.Omits e' i →
        (extract fs' path).result.map (Option.map (List.map Key.label)) =
          (extract fs path).result.map (Option.map (List.map Key.label))) ∧
    ((∃ c ∈ candidatePaths (specifierBase path specifier), ∃ fault, fs.regular? c = .error fault) →
      (∃ c fault, StopsAt fs (candidatePaths (specifierBase path specifier)) c fault ∧
        (spreadTarget? fs path name e.root).result = .error (.lookup c fault)) ∧
      ∀ found, (extract fs path).result ≠ .ok found) := by
  have hprobe := spreadTarget?_of_leadsNowhere himport hnowhere
  obtain ⟨file, hfile, hextract⟩ := exists_file_of_exported he
  constructor
  · intro hprobed
    obtain ⟨-, hnone⟩ | ⟨c, fault, ⟨before, after, hpaths, -, hrefused⟩, -⟩ := hprobe
    · refine ⟨hnone, fun fs' e' place hplace hfs he' homits => ?_⟩
      obtain rfl : file.place = place := Except.ok.inj (hfile.symm.trans hplace)
      obtain ⟨file', hfile', -⟩ := exists_file_of_exported he'
      have hsame : Files.SamePlace file file' := by
        rw [Files.realPlace, hfs.shape.locate] at hfile'
        exact (Except.ok.inj (hfile.symm.trans hfile')).symm
      rw [labels_extract hfile he, labels_extract hfile' he', ← joined_omits homits hspread hnone]
      congr 2
      exact List.map_congr_left fun property hproperty =>
        congrArg labels (contributed_kept hfs hsame homits hproperty)
    · exact absurd hrefused (hprobed c (hpaths ▸ by simp) fault)
  · rintro ⟨c, hc, fault, hrefused⟩
    obtain ⟨hall, -⟩ | hfails := hprobe
    · cases hrefused.symm.trans (hall c hc)
    · refine ⟨hfails, fun found hfound => ?_⟩
      have hvisited : Visited fs path path := ⟨[], file, found, hfile, hextract ▸ hfound⟩
      obtain ⟨target?, htarget⟩ := hvisited.exists_target he hspread
      obtain ⟨_, _, -, herror⟩ := hfails
      rw [htarget] at herror
      cases herror

/-- A module that spreads what is not there and a module that spreads it in turn. -/
def dangling (text : List Char) : Files where
  working := ["w"]
  entries := [
    (["w"], .directory), (["w", "a.ts"], .file (Utf8.encode text)),
    (["w", "c.ts"], .file (Utf8.encode "import a from './a'\nexport default \x7b k, ...a \x7d".toList))]

theorem sameBut_dangling (text text' : List Char) :
    (dangling text).SameBut (dangling text') ["w", "a.ts"] := by
  refine ⟨⟨rfl, rfl, .cons ⟨rfl, .directory⟩ (.cons ⟨rfl, .file⟩ (.cons ⟨rfl, .file⟩ .nil))⟩,
    fun other hother => ?_⟩
  have hne : ¬ ([("w" : Text), "a.ts"] : Place) = other := fun hsame => hother hsame.symm
  simp only [Files.entry?, dangling, List.find?_cons, hne, decide_false]

/-- A specifier with a name that no file can have. -/
def overlong : Text := 0x2E :: 0x2F :: List.replicate 300 0x78

theorem extract_without_spread_dangling :
    let fs := dangling "import b from './b'\nimport c from './c'\nexport default \x7b x, ...b, ...c \x7d".toList
    let fs' := dangling "import b from './b'\nimport c from './c'\nexport default \x7b x, ...c \x7d".toList
    let long := dangling ("import b from './".toList ++ List.replicate 300 'x'
      ++ "'\nexport default \x7b x, ...b \x7d".toList)
    LeadsNowhere fs "a.ts" "./b" ∧
      (extract fs' "a.ts").result.map (Option.map (List.map Key.label)) =
        .ok (some [("x", "a.ts", "a.ts"), ("k", "a.ts", "c.ts")]) ∧
      (extract fs' "a.ts").result.map (Option.map (List.map Key.label)) =
        (extract fs "a.ts").result.map (Option.map (List.map Key.label)) ∧
      LeadsNowhere long "a.ts" overlong ∧ ∀ found, (extract long "a.ts").result ≠ .ok found := by
  intro fs fs' long
  have hprobes : ∀ c ∈ candidatePaths (specifierBase "a.ts" "./b"),
      (fs.regular? c).map (Option.map (·.place)) = .ok none := by decide +kernel
  have hnowhere : LeadsNowhere fs "a.ts" "./b" := by
    intro c hc found hfound
    have hprobe := hprobes c hc
    rw [hfound] at hprobe
    cases hprobe
  have hprobed : ∀ c ∈ candidatePaths (specifierBase "a.ts" "./b"), ∀ fault,
      fs.regular? c ≠ .error fault := by
    intro c hc fault hrefused
    have hprobe := hprobes c hc
    rw [hrefused] at hprobe
    cases hprobe
  have hspread : (fs.exported "a.ts").bind (·.property? 1) = some (.ok (.spread (some "b"))) := by
    decide +kernel
  have hmodule : (fs.exported "a.ts").map (fun e =>
      (e.outline, Syntax.defaultImport? e.root "b", Syntax.defaultImport? e.root "c")) = some (
        [.ok (.identifier "x" ⟨0, 0, 0, 0⟩), .ok (.spread (some "b")), .ok (.spread (some "c"))],
        .ok (some "./b"), .ok (some "./c")) := by decide +kernel
  have hmodule' : (fs'.exported "a.ts").map (fun e => (e.outline, Syntax.defaultImport? e.root "c")) =
      some ([.ok (.identifier "x" ⟨0, 0, 0, 0⟩), .ok (.spread (some "c"))], .ok (some "./c")) := by
    decide +kernel
  obtain ⟨e, he, hfacts⟩ := Option.map_eq_some_iff.mp hmodule
  obtain ⟨e', he', hfacts'⟩ := Option.map_eq_some_iff.mp hmodule'
  simp only [Prod.mk.injEq] at hfacts hfacts'
  obtain ⟨houtline, himport, hother⟩ := hfacts
  obtain ⟨houtline', hother'⟩ := hfacts'
  rw [he, Option.bind_some] at hspread
  have homits : e.Omits e' 1 := by
    refine ⟨by rw [houtline, houtline']; rfl, fun name hname => ?_⟩
    rw [houtline'] at hname
    obtain rfl : name = "c" := by simpa using hname
    rw [hother, hother']
  have hplace : fs.realPlace "a.ts" = .ok ["w", "a.ts"] := by decide +kernel
  obtain ⟨-, hsame⟩ := (extract_without_spread he hspread himport hnowhere).1 hprobed
  have hrefused : ∀ c ∈ candidatePaths (specifierBase "a.ts" overlong),
      (long.regular? c).map (Option.map (·.place)) = .error (.obstacle .nameTooLong) := by
    decide +kernel
  have hnowhere' : LeadsNowhere long "a.ts" overlong := by
    intro c hc found hfound
    have hprobe := hrefused c hc
    rw [hfound] at hprobe
    cases hprobe
  have hmodule'' : (long.exported "a.ts").map (fun e =>
      (e.property? 1, Syntax.defaultImport? e.root "b")) = some (
        some (.ok (.spread (some "b"))), .ok (some overlong)) := by decide +kernel
  obtain ⟨e'', he'', hfacts''⟩ := Option.map_eq_some_iff.mp hmodule''
  obtain ⟨hspread'', himport''⟩ := Prod.mk.inj hfacts''
  obtain ⟨-, hfails⟩ := (extract_without_spread he'' hspread'' himport'' hnowhere').2
    ⟨_, List.mem_cons_self, _, map_eq_error_iff.mp (hrefused _ List.mem_cons_self)⟩
  exact ⟨hnowhere, by decide +kernel, hsame fs' e' _ hplace (sameBut_dangling _ _) he' homits,
    hnowhere', hfails⟩

end LocaleCatalogue
