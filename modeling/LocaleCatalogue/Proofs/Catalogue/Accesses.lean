import LocaleCatalogue.Proofs.Catalogue.Shapes
import LocaleCatalogue.Proofs.Catalogue.Sources

/-!
# What an extraction looks at

An extraction opens files and probes candidates, and which ones depends on what it found so far.
The accesses are read off the extraction itself: up to the first property that fails, each spread
probes candidates up to the first regular file, and the file found is opened unless it is in
progress. Where two file systems agree on these accesses, and on the place of the file itself, the
extraction is the same in both.
-/

namespace LocaleCatalogue

open Syntax (Node Property)

/-- Something that is asked of a file system: what a file holds, or whether a candidate is a regular
file. -/
inductive Access where
  | opening (path : Text)
  | probing (candidate : Path)
deriving DecidableEq, Repr

namespace Files

variable (fs fs' : Files)

/-- Two file systems give the same answer. -/
def AgreeOn : Access → Prop
  | .opening path => fs'.contents (Path.ofText path) = fs.contents (Path.ofText path)
  | .probing candidate => fs'.regularPlace? candidate = fs.regularPlace? candidate

instance : (access : Access) → Decidable (fs.AgreeOn fs' access)
  | .opening path =>
    inferInstanceAs (Decidable (fs'.contents (Path.ofText path) = fs.contents (Path.ofText path)))
  | .probing candidate =>
    inferInstanceAs (Decidable (fs'.regularPlace? candidate = fs.regularPlace? candidate))

/-- The candidates that are probed: all up to the first that is a regular file or cannot be told. -/
def probed : List Path → List Path
  | [] => []
  | candidate :: rest =>
    candidate :: if fs.regularPlace? candidate = .ok none then probed rest else []

end Files

/-- The members that are come to: all up to the first that fails. -/
def Logged.reached {α β : Type} (f : α → Logged β) : List α → List α
  | [] => []
  | a :: rest => a :: if (f a).result.isOk then reached f rest else []

/-- What a visit asks of the file system, also behind the spreads that it follows. -/
def asked (fs : Files) (origin : Text) (above : List Place) (file : fs.Found) (path : Text) :
    List Access :=
  .opening path ::
    match fs.exported path with
    | none => []
    | some e =>
      (Logged.reached (nodeContribution fs origin above file path e) e.nodes).flatMap fun node =>
        match Property.ofNode node e.source with
        | .ok (.spread (some name)) =>
          match Syntax.defaultImport? e.root name with
          | .ok (some specifier) =>
            (fs.probed (candidatePaths (specifierBase path specifier))).map .probing ++
              match fs.firstRegular? (candidatePaths (specifierBase path specifier)) with
              | .ok (some target) =>
                if _busy : (file.place :: above).contains target.file.place then []
                else asked fs origin (file.place :: above) target.file target.path.toText
              | _ => []
          | _ => []
        | _ => []
termination_by (idle fs.filePlaces (file.place :: above)).length
decreasing_by
  exact idle_cons_length_lt (Files.mem_filePlaces target.file.present) (Bool.eq_false_iff.2 ‹_›)

/-- What an extraction asks of the file system. -/
def Files.askedFor (fs : Files) (path : Text) : List Access :=
  match fs.found (Path.ofText path) with
  | .ok file => asked fs path [] file path
  | .error _ => [.opening path]

variable {fs fs' : Files} {origin path : Text} {above : List Place} {file : fs.Found}

/-! ## The accesses of a visit -/

theorem opening_mem_asked : .opening path ∈ asked fs origin above file path := by
  rw [asked]
  exact List.mem_cons_self

theorem opening_mem_askedFor : .opening path ∈ fs.askedFor path := by
  rw [Files.askedFor]
  split
  · exact opening_mem_asked
  · exact List.mem_singleton.mpr rfl

/-- A spread that is come to. -/
structure ComesTo (fs : Files) (origin : Text) (above : List Place) (file : fs.Found) (path : Text)
    (e : Export) (node : Node) (name specifier : Text) : Prop where
  exported : fs.exported path = some e
  reached : node ∈ Logged.reached (nodeContribution fs origin above file path e) e.nodes
  spread : Property.ofNode node e.source = .ok (.spread (some name))
  imported : Syntax.defaultImport? e.root name = .ok (some specifier)

/-- Behind the file itself, accesses are probes for a spread that is come to, or accesses behind it.
-/
theorem mem_asked_iff {access : Access} :
    access ∈ asked fs origin above file path ↔ access = .opening path ∨
      ∃ e node name specifier, ComesTo fs origin above file path e node name specifier ∧
        ((∃ candidate ∈ fs.probed (candidatePaths (specifierBase path specifier)),
          access = .probing candidate) ∨
        ∃ target,
          fs.firstRegular? (candidatePaths (specifierBase path specifier)) = .ok (some target) ∧
          target.file.place ∉ file.place :: above ∧
          access ∈ asked fs origin (file.place :: above) target.file target.path.toText) := by
  rw [asked, List.mem_cons]
  refine or_congr_right ⟨fun h => ?_, ?_⟩
  · split at h
    · cases h
    next e he =>
      obtain ⟨node, hnode, h⟩ := List.mem_flatMap.mp h
      split at h
      next name hspread =>
        split at h
        next specifier himport =>
          refine ⟨e, node, name, specifier, ⟨he, hnode, hspread, himport⟩, ?_⟩
          rcases List.mem_append.mp h with h | h
          · obtain ⟨candidate, hcandidate, rfl⟩ := List.mem_map.mp h
            exact Or.inl ⟨candidate, hcandidate, rfl⟩
          · split at h
            next target htarget =>
              split at h
              · cases h
              next hidle => exact Or.inr ⟨target, htarget, by simpa using hidle, h⟩
            · cases h
        · cases h
      · cases h
  · rintro ⟨e, node, name, specifier, ⟨he, hnode, hspread, himport⟩, h⟩
    rw [he]
    refine List.mem_flatMap.mpr ⟨node, hnode, ?_⟩
    simp only [hspread, himport]
    rcases h with ⟨candidate, hcandidate, rfl⟩ | ⟨target, htarget, hidle, h⟩
    · exact List.mem_append_left _ (List.mem_map_of_mem hcandidate)
    · refine List.mem_append_right _ ?_
      have hbusy : ¬ (file.place :: above).contains target.file.place = true := by simpa using hidle
      simp only [htarget]
      rw [dif_neg hbusy]
      exact h

/-! ## Agreement -/

theorem Files.program_congr (h : fs.AgreeOn fs' (.opening path)) :
    fs'.program path = fs.program path := by
  rw [program_eq_of_access, program_eq_of_access]
  have hcontents : fs'.contents (Path.ofText path) = fs.contents (Path.ofText path) := h
  rw [Files.contents, Files.contents] at hcontents
  generalize fs.access (Path.ofText path) = found, fs'.access (Path.ofText path) = found'
    at hcontents ⊢
  cases found with
  | error fault =>
      cases found' with
      | error fault' =>
          obtain rfl : fault' = fault := Except.error.inj hcontents
          cases fault' <;> rfl
      | ok file' => cases hcontents
  | ok file =>
      cases found' with
      | error fault' => cases hcontents
      | ok file' =>
          have hsame : file'.content = file.content := Except.ok.inj hcontents
          dsimp only
          rw [hsame]

theorem Files.regular?_alike {candidate : Path} (h : fs.AgreeOn fs' (.probing candidate)) :
    EndAlike (Option.Rel Files.SamePlace) (fs.regular? candidate) (fs'.regular? candidate) := by
  have hprobe : fs'.regularPlace? candidate = fs.regularPlace? candidate := h
  rw [Files.regularPlace?, Files.regularPlace?] at hprobe
  generalize fs.regular? candidate = found, fs'.regular? candidate = found' at hprobe ⊢
  cases found with
  | error fault =>
      cases found' with
      | error fault' =>
          rw [Except.error.inj hprobe]
          exact .error
      | ok file'? => cases hprobe
  | ok file? =>
      cases found' with
      | error fault' => cases hprobe
      | ok file'? =>
          have hplaces := Except.ok.inj hprobe
          refine .ok ?_
          cases file? with
          | none =>
              cases file'? with
              | none => exact .none
              | some file' => cases hplaces
          | some file =>
              cases file'? with
              | none => cases hplaces
              | some file' => exact .some (Option.some.inj hplaces)

/-- Agreement on the candidates that are probed is agreement on the target. -/
theorem Files.firstRegular?_alike {candidates : List Path}
    (h : ∀ candidate ∈ fs.probed candidates, fs.AgreeOn fs' (.probing candidate)) :
    EndAlike (Option.Rel Files.SameTarget) (fs.firstRegular? candidates)
      (fs'.firstRegular? candidates) := by
  induction candidates with
  | nil => exact .ok .none
  | cons candidate rest ih =>
      rw [probed] at h
      have hfirst := regular?_alike (h candidate List.mem_cons_self)
      rw [firstRegular?, firstRegular?]
      rw [regularPlace?] at h
      generalize fs.regular? candidate = found, fs'.regular? candidate = found' at hfirst h ⊢
      cases hfirst with
      | error => exact .error
      | ok hfile =>
          cases hfile with
          | none => exact ih fun other hother => h other (List.mem_cons_of_mem _ hother)
          | some hplace => exact .ok (.some ⟨rfl, hplace⟩)

theorem targets_alike {name : Text} {root : Node}
    (h : ∀ specifier, Syntax.defaultImport? root name = .ok (some specifier) →
      ∀ candidate ∈ fs.probed (candidatePaths (specifierBase path specifier)),
        fs.AgreeOn fs' (.probing candidate)) :
    Logged.Alike (Option.Rel Files.SameTarget) (spreadTarget? fs path name root)
      (spreadTarget? fs' path name root) := by
  rw [spreadTarget?, spreadTarget?]
  cases himport : Syntax.defaultImport? root name with
  | error fault => exact .fail
  | ok specifier? =>
      simp only [ofSyntax, Logged.bind_eq, Logged.done_andThen]
      cases specifier? with
      | none => exact .said (.done .none)
      | some specifier =>
          refine .andThen (.ofExcept (Files.firstRegular?_alike (h specifier himport))) ?_
          intro target target' htarget
          cases htarget with
          | none => exact .said (.done .none)
          | some htarget => exact .done (.some htarget)

/-- Analyses of one list are the same if those that are come to are. -/
theorem Logged.gather_congr {α β : Type} {f g : α → Logged (List β)} {as : List α}
    (h : ∀ a ∈ Logged.reached f as, g a = f a) : gather g as = gather f as := by
  induction as with
  | nil => rfl
  | cons a rest ih =>
      rw [reached] at h
      rw [gather, gather, h a List.mem_cons_self]
      cases hended : (f a).result with
      | error failure => simp only [andThen, hended]
      | ok found =>
          have hgoes : (Except.ok found : Except Failure (List β)).isOk = true := rfl
          rw [hended, if_pos hgoes] at h
          rw [ih fun b hb => h b (List.mem_cons_of_mem a hb)]

/-! ## Locality -/

/-- Where a second file system agrees on what a visit asks, the visit is the same there. -/
def VisitsLocal (fs' : Files) (origin : Text) (above : List Place) (file : fs.Found)
    (path : Text) : Prop :=
  (∀ access ∈ asked fs origin above file path, fs.AgreeOn fs' access) →
    ∀ file' : fs'.Found, Files.SamePlace file file' → fs'.realPlace path = .ok file'.place →
      visit fs' origin above file' path = visit fs origin above file path

/-- A property that is come to contributes the same. -/
theorem contribution_local {e : Export} (he : fs.exported path = some e) {node : Node}
    (hnode : node ∈ Logged.reached (nodeContribution fs origin above file path e) e.nodes)
    (hagree : ∀ access ∈ asked fs origin above file path, fs.AgreeOn fs' access)
    {file' : fs'.Found} (hplace : Files.SamePlace file file')
    (ih : ∀ target : Target fs,
      Enters fs (file.place :: above) target.path.toText target.file.place →
      VisitsLocal fs' origin (file.place :: above) target.file target.path.toText) :
    nodeContribution fs' origin above file' path e node =
      nodeContribution fs origin above file path e node := by
  rw [nodeContribution, nodeContribution]
  cases hspread : Property.ofNode node e.source with
  | error fault => rfl
  | ok property =>
      simp only [ofSyntax, Logged.done_andThen]
      cases property with
      | identifier | string | opaqueKind => rfl
      | spread name? =>
          cases name? with
          | none => rfl
          | some name =>
              have hcomes : ∀ specifier, Syntax.defaultImport? e.root name = .ok (some specifier) →
                  ComesTo fs origin above file path e node name specifier :=
                fun specifier himport => ⟨he, hnode, hspread, himport⟩
              have htargets : Logged.Alike (Option.Rel Files.SameTarget) (spreadTarget? fs path name e.root)
                  (spreadTarget? fs' path name e.root) :=
                targets_alike fun specifier himport candidate hcandidate => hagree _ (mem_asked_iff.mpr
                  (Or.inr ⟨_, _, _, _, hcomes specifier himport, Or.inl ⟨candidate, hcandidate, rfl⟩⟩))
              refine Logged.Alike.eq (spread_alike_of_targets htargets hplace ?_)
              intro target target' htarget henter hplace' hended
              obtain ⟨specifier?, himport, hfirst⟩ := spreadTarget?_eq_ok_iff.mp hended
              cases specifier? with
              | none => cases hfirst
              | some specifier =>
                  refine .of_eq
                    (ih target henter (fun access haccess => ?_) target'.file htarget.2 hplace')
                  exact hagree access (mem_asked_iff.mpr (Or.inr ⟨_, _, _, _, hcomes specifier himport,
                    Or.inr ⟨target, hfirst, henter.idle, haccess⟩⟩))

/-- The induction is on the visits that a visit goes on to. -/
theorem visit_local (henter : Enters fs above path file.place) :
    VisitsLocal fs' origin above file path := by
  refine visit_induction (motive := VisitsLocal fs' origin)
    (fun above file path henter ih => ?_) henter
  intro hagree file' hplace hplace'
  have hprogram := Files.program_congr (hagree _ opening_mem_asked)
  rw [program_eq_readTree hplace', program_eq_readTree henter.place_eq] at hprogram
  rw [visit_eq, visit_eq, hprogram]
  refine Logged.andThen_congr fun program hread => ?_
  obtain ⟨root, source⟩ := program
  refine Logged.andThen_congr fun object? hobject => ?_
  cases object? with
  | none => rfl
  | some object =>
      have he : fs.exported path = some ⟨root, source, object⟩ := by
        have hread : readTree path file = .ok (root, source) := hread
        rw [Files.exported, program_eq_readTree henter.place_eq, hread]
        simp only [hobject]
      exact congrArg (Logged.andThen · _)
        (Logged.gather_congr fun node hnode => contribution_local he hnode hagree hplace ih)

/-- Where there is no program, the extraction fails because of that. -/
theorem extract_of_no_program {failure : Failure} (h : fs.program path = .error failure) :
    extract fs path = .fail failure := by
  rw [extract]
  rw [Files.program] at h
  cases hfound : fs.found (Path.ofText path) with
  | ok file =>
      rw [hfound] at h
      have hread : readTree path file = .error failure := h
      simp only [visit_eq, hread]
      rfl
  | error fault =>
      rw [hfound] at h
      cases fault <;> cases h <;> rfl

/-- Where a second file system agrees on all that an extraction asks, and the path leads to the same
place if it leads to files in both, the extraction is the same there. -/
theorem extract_of_agreement
    (hself : ∀ (file : fs.Found) (file' : fs'.Found), fs.found (Path.ofText path) = .ok file →
      fs'.found (Path.ofText path) = .ok file' → file'.place = file.place)
    (hagree : ∀ access ∈ fs.askedFor path, fs.AgreeOn fs' access) :
    extract fs' path = extract fs path := by
  have hprogram := Files.program_congr (hagree _ opening_mem_askedFor)
  cases hread : fs.program path with
  | error failure =>
      rw [hread] at hprogram
      rw [extract_of_no_program hread, extract_of_no_program hprogram]
  | ok program =>
      rw [hread] at hprogram
      have hfile : ∀ {fs : Files}, fs.program path = .ok program →
          ∃ file, fs.found (Path.ofText path) = .ok file := by
        intro fs h
        rw [Files.program] at h
        split at h
        next file hfound => exact ⟨file, hfound⟩
        · cases h
        · cases h
      obtain ⟨file, hfound⟩ := hfile hread
      obtain ⟨file', hfound'⟩ := hfile hprogram
      rw [Files.askedFor, hfound] at hagree
      rw [extract, extract, hfound, hfound']
      exact visit_local ⟨Files.found_eq_ok_iff.mp hfound, List.not_mem_nil⟩ hagree file'
        (hself file file' hfound hfound') (Files.found_eq_ok_iff.mp hfound')

end LocaleCatalogue
