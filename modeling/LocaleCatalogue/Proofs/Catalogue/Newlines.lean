import LocaleCatalogue.Proofs.Catalogue.Shapes
import LocaleCatalogue.Proofs.Text.Newlines

/-!
# Line ends do not change a catalogue

Line ends are unified before a file is read, and places are counted only then. So if the files of a
file system are given other styles of line ends, each its own, an extraction makes the same remarks
and finds the same keys at the same places, or it fails in the same way about the same file. Only the
position of malformed octets moves with the octets before them, so failures are compared with that
position blurred.
-/

namespace LocaleCatalogue

open Syntax (Node Property)

/-! ### Failures but for a position -/

/-- A failure without the position of malformed octets. -/
def Failure.blurred : Failure → Failure
  | .access path (.malformed cause) => .access path (.malformed { cause with position := 0 })
  | failure => failure

/-- Two ends of an analysis are the same, but perhaps for the position of malformed octets. -/
inductive SameEnd {α : Type} : Except Failure α → Except Failure α → Prop
  | same (r : Except Failure α) : SameEnd r r
  | malformed (path : Text) (cause : Utf8.Malformed) (position : Nat) :
      SameEnd (.error (.access path (.malformed cause)))
        (.error (.access path (.malformed { cause with position })))

theorem sameEnd_of_blurred {α : Type} {failure failure' : Failure}
    (h : failure'.blurred = failure.blurred) :
    SameEnd (.error failure : Except Failure α) (.error failure') := by
  unfold Failure.blurred at h
  split at h
  next path' cause' =>
    split at h
    next path cause =>
      obtain ⟨hpath, hcause⟩ := Failure.access.inj h
      have hcause := AccessFault.malformed.inj hcause
      have hsame : cause' = { cause with position := cause'.position } := by
        cases cause
        cases cause'
        cases hcause
        rfl
      rw [hpath, hsame]
      exact .malformed path cause _
    next hother => exact absurd h.symm (hother _ _)
  next hother' =>
    split at h
    next => exact absurd h (hother' _ _)
    next =>
      rw [h]
      exact .same _

namespace Logged

variable {α β : Type}

/-- An analysis with its failure blurred. -/
def blurred (x : Logged α) : Logged α := ⟨x.remarks, x.result.mapError Failure.blurred⟩

theorem blurred_andThen (x : Logged α) (f : α → Logged β) :
    (x.andThen f).blurred = x.blurred.andThen fun a => (f a).blurred := by
  rw [andThen, andThen, blurred, blurred]
  cases x.result <;> rfl

theorem blurred_gather (f : α → Logged (List β)) (as : List α) :
    (gather f as).blurred = gather (fun a => (f a).blurred) as := by
  induction as with
  | nil => rfl
  | cons a as ih =>
      rw [gather, gather, blurred_andThen]
      congr 1
      funext found
      rw [blurred_andThen, ih]
      rfl

theorem sameEnd {x y : Logged α} (h : y.blurred = x.blurred) : SameEnd x.result y.result := by
  have hresult := congrArg Logged.result h
  simp only [blurred] at hresult
  generalize x.result = r, y.result = r' at hresult ⊢
  cases r with
  | error failure =>
      cases r' with
      | error failure' => exact sameEnd_of_blurred (Except.error.inj hresult)
      | ok b => cases hresult
  | ok a =>
      cases r' with
      | error failure' => cases hresult
      | ok b =>
          cases hresult
          exact .same _

end Logged

theorem blurred_of_firstRegular? {fs : Files} {paths : List Path} {failure : Failure}
    (h : fs.firstRegular? paths = .error failure) : failure.blurred = failure := by
  induction paths with
  | nil => cases h
  | cons path rest ih =>
      rw [Files.firstRegular?] at h
      split at h
      next =>
        cases h
        rfl
      next => cases h
      next => exact ih h

/-- Looking for the target of a spread never finds malformed octets. -/
theorem blurred_spreadTarget? (fs : Files) (path name : Text) (root : Node) :
    (spreadTarget? fs path name root).blurred = spreadTarget? fs path name root := by
  rw [spreadTarget?]
  cases Syntax.defaultImport? root name with
  | error fault => rfl
  | ok specifier? =>
      cases specifier? with
      | none => rfl
      | some specifier =>
          simp only [Logged.bind_eq, ofSyntax, Logged.done_andThen]
          rw [Logged.blurred_andThen]
          cases hfirst : fs.firstRegular? (candidatePaths (specifierBase path specifier)) with
          | error failure =>
              simp only [Logged.ofExcept, Logged.blurred, Except.mapError, blurred_of_firstRegular? hfirst]
              rfl
          | ok target? => cases target? <;> rfl

theorem blurred_contributionBy {fs : Files} (enter : List Place → fs.Found → Text → Logged (Option (List Key)))
    (origin : Text) (above : List Place) (file : fs.Found) (path : Text) (root : Node) (property : Property) :
    (contributionBy enter origin above file path root property).blurred =
      contributionBy (fun above file path => (enter above file path).blurred) origin above file path root
        property := by
  cases property with
  | spread name =>
      cases name with
      | none => rfl
      | some name =>
          rw [contributionBy, contributionBy, Logged.blurred_andThen, blurred_spreadTarget?]
          congr 1
          funext target?
          cases target? with
          | none => rfl
          | some target =>
              dsimp only
              split
              next => rfl
              next =>
                rw [Logged.blurred_andThen]
                rfl
  | _ => rfl

/-! ### File systems in other styles -/

/-- What stands at a place, with the line ends of a file in a style. -/
def Entry.respelled (style : NewlineStyle) : Entry → Entry
  | .file content => .file (style.spellOctets content)
  | entry => entry

namespace Files

/-- The file system with the line ends of every file in a style of its own. -/
def respelled (fs : Files) (styles : Place → NewlineStyle) : Files :=
  { fs with entries := fs.entries.map fun e => (e.1, e.2.respelled (styles e.1)) }

/-- All line ends in the files are line feeds. -/
def HasLineFeeds (fs : Files) : Prop :=
  ∀ place content, fs.entry? place = some (.file content) → 0x0D ∉ content

variable {fs : Files}

theorem sameShape_respelled (fs : Files) (styles : Place → NewlineStyle) :
    fs.SameShape (fs.respelled styles) := by
  refine ⟨rfl, rfl, ?_⟩
  rw [respelled, List.forall₂_map_right_iff, List.forall₂_same]
  rintro ⟨place, entry⟩ -
  refine ⟨rfl, ?_⟩
  cases entry with
  | file content => exact .file
  | directory => exact .directory
  | link target => exact .link

theorem entry?_respelled (styles : Place → NewlineStyle) (place : Place) :
    Files.entry? (fs.respelled styles) place = (fs.entry? place).map (Entry.respelled (styles place)) := by
  unfold Files.entry?
  split
  next => rfl
  next =>
    rw [respelled, List.find?_map, Option.map_map, Option.map_map]
    change Option.map _ (fs.entries.find? fun e => decide (e.1 = place)) = _
    cases hfind : fs.entries.find? fun e => decide (e.1 = place) with
    | none => rfl
    | some e =>
        have hplace : e.1 = place := by simpa using List.find?_some hfind
        subst hplace
        rfl

theorem hasLineFeeds_of_entries
    (h : fs.entries.all (fun e => match e.2 with
      | .file content => !content.contains 0x0D
      | _ => true) = true) : fs.HasLineFeeds := by
  intro place content hentry
  unfold Files.entry? at hentry
  split at hentry
  next => cases hentry
  next =>
    obtain ⟨e, hfind, hfile⟩ := Option.map_eq_some_iff.mp hentry
    have hfeeds := List.all_eq_true.mp h e (List.mem_of_find?_eq_some hfind)
    rw [hfile] at hfeeds
    simpa using hfeeds

theorem content_of_samePlace {styles : Place → NewlineStyle} {file : fs.Found}
    {file' : (fs.respelled styles).Found} (h : SamePlace file file') :
    file'.content = (styles file.place).spellOctets file.content := by
  have hpresent := file'.present
  rw [h, entry?_respelled, file.present] at hpresent
  exact (Entry.file.inj (Option.some_inj.mp hpresent)).symm

end Files

variable {fs : Files} {styles : Place → NewlineStyle} {origin path : Text}

theorem readText_respelled (hfs : fs.HasLineFeeds) {file : fs.Found} {file' : (fs.respelled styles).Found}
    (h : Files.SamePlace file file') :
    (readText path file').mapError Failure.blurred = (readText path file).mapError Failure.blurred := by
  have hplace : file'.place = file.place := h
  have hunreadable : (fs.respelled styles).unreadable = fs.unreadable := rfl
  rw [readText, readText, Files.Found.octets, Files.Found.octets, hplace, hunreadable,
    Files.content_of_samePlace h]
  cases fs.unreadable.contains file.place with
  | true => rfl
  | false =>
      -- decoding keeps the style, and unifying the line ends takes it away
      have hdecoding := NewlineStyle.decode_spellOctets (styles file.place) (hfs _ _ file.present)
      simp only [Bool.false_eq_true, if_false]
      generalize Utf8.decode file.content = decoded,
        Utf8.decode ((styles file.place).spellOctets file.content) = decoded' at hdecoding ⊢
      cases hdecoding with
      | @characters cs hcs =>
          have hplain : unifyNewlines cs = cs := by
            simpa [unifyNewlines] using Written.unifyNewlines_append_of_not_mem hcs []
          dsimp only
          rw [NewlineStyle.unifyNewlines_spell hcs, hplain]
      | malformed position => rfl

theorem readTree_respelled (hfs : fs.HasLineFeeds) {file : fs.Found} {file' : (fs.respelled styles).Found}
    (h : Files.SamePlace file file') :
    (readTree path file').mapError Failure.blurred = (readTree path file).mapError Failure.blurred := by
  have htext : (readText path file').mapError Failure.blurred =
      (readText path file).mapError Failure.blurred := readText_respelled hfs h
  rw [readTree, readTree]
  generalize readText path file = text, readText path file' = text' at htext ⊢
  cases text with
  | error failure =>
      cases text' with
      | error failure' => exact congrArg Except.error (Except.error.inj htext)
      | ok cs' => cases htext
  | ok cs =>
      cases text' with
      | error failure' => cases htext
      | ok cs' =>
          cases htext
          rfl

/-- Visits to the place of a file are the same in both file systems. -/
def VisitsSame (fs' : Files) (origin : Text) (above : List Place) (file : fs.Found) (path : Text) : Prop :=
  ∀ file' : fs'.Found, Files.SamePlace file file' →
    (visit fs' origin above file' path).blurred = (visit fs origin above file path).blurred

theorem contribution_respelled {above : List Place} {file : fs.Found} {file' : (fs.respelled styles).Found}
    (hplace : Files.SamePlace file file') (root : Node)
    (hvisit : ∀ target : Target fs, Enters fs (file.place :: above) target.path.toText target.file.place →
      VisitsSame (fs.respelled styles) origin (file.place :: above) target.file target.path.toText)
    (property : Property) :
    (contribution (fs.respelled styles) origin above file' path root property).blurred =
      (contribution fs origin above file path root property).blurred := by
  rw [contribution, contribution, blurred_contributionBy, blurred_contributionBy]
  cases property with
  | spread name =>
      cases name with
      | none => rfl
      | some name =>
          refine Logged.Alike.eq (spread_alike (fs.sameShape_respelled styles) rfl hplace ?_)
          exact fun target target' htarget henter => .of_eq (hvisit target henter target'.file htarget.2)
  | _ => rfl

/-- Visits to the same place are the same. The induction is on the visits that a visit goes on to. -/
theorem visit_respelled (hfs : fs.HasLineFeeds) {above : List Place} {file : fs.Found}
    (henter : Enters fs above path file.place) : VisitsSame (fs.respelled styles) origin above file path := by
  refine visit_induction (motive := VisitsSame (fs.respelled styles) origin)
    (fun above file path henter ih => ?_) henter
  intro file' hplace
  have hread : (Logged.ofExcept (readTree path file')).blurred = (Logged.ofExcept (readTree path file)).blurred :=
    congrArg (Logged.mk []) (readTree_respelled hfs hplace)
  -- a blurred visit is composed of blurred analyses; only reading and spreading are not the same
  rw [visit_eq, visit_eq, Logged.blurred_andThen, Logged.blurred_andThen, hread]
  congr 1
  funext ⟨root, source⟩
  rw [Logged.blurred_andThen, Logged.blurred_andThen]
  congr 1
  funext object?
  cases object? with
  | none => rfl
  | some object =>
      dsimp only
      rw [Logged.blurred_andThen, Logged.blurred_andThen, Logged.blurred_gather, Logged.blurred_gather]
      congr 2
      funext node
      rw [nodeContribution, nodeContribution, Logged.blurred_andThen, Logged.blurred_andThen]
      congr 1
      funext property
      exact contribution_respelled hplace root ih property

/-- Line ends in other styles change neither the remarks of an extraction nor its end, but for the
position of malformed octets. -/
theorem extract_respelled (hfs : fs.HasLineFeeds) (styles : Place → NewlineStyle) (path : Text) :
    (extract (fs.respelled styles) path).remarks = (extract fs path).remarks ∧
      SameEnd (extract fs path).result (extract (fs.respelled styles) path).result := by
  have hfound := (fs.sameShape_respelled styles).found (Path.ofText path)
  have hsame : (extract (fs.respelled styles) path).blurred = (extract fs path).blurred := by
    rw [extract, extract]
    generalize hhere : fs.found (Path.ofText path) = found,
      (fs.respelled styles).found (Path.ofText path) = found' at hfound ⊢
    cases hfound with
    | @error fault => cases fault <;> rfl
    | @ok file file' hplace =>
        have henter : Enters fs [] path file.place := ⟨Files.found_eq_ok_iff.mp hhere, List.not_mem_nil⟩
        exact visit_respelled hfs henter file' hplace
  have hremarks : (extract (fs.respelled styles) path).blurred.remarks = (extract fs path).blurred.remarks :=
    congrArg Logged.remarks hsame
  exact ⟨hremarks, Logged.sameEnd hsame⟩

/-- A module with a text of several lines before a spread of another module. -/
def severalLines : Files where
  working := ["w"]
  entries := [
    (["w"], .directory),
    (["w", "a.ts"], .file (Utf8.encode
      "import b from './b';\nexport default \x7b\n  t: `x\ny`, c: 1,\n  ...b \x7d;\n".toList)),
    (["w", "b.ts"], .file (Utf8.encode "export default \x7b\n k: 1 \x7d;\n".toList))]

theorem extract_respelled_severalLines :
    (extract (severalLines.respelled fun place =>
      if place = ["w", "a.ts"] then .pair else .carriageReturn) "a.ts").result = .ok (some [
        ⟨"t", ⟨3, 2, 3, 3⟩, "a.ts", "a.ts"⟩, ⟨"c", ⟨4, 4, 4, 5⟩, "a.ts", "a.ts"⟩,
        ⟨"k", ⟨2, 1, 2, 2⟩, "a.ts", "b.ts"⟩]) := by
  have hfeeds : severalLines.HasLineFeeds := Files.hasLineFeeds_of_entries (by decide +kernel)
  have hplain : (extract severalLines "a.ts").result = .ok (some [
      ⟨"t", ⟨3, 2, 3, 3⟩, "a.ts", "a.ts"⟩, ⟨"c", ⟨4, 4, 4, 5⟩, "a.ts", "a.ts"⟩,
      ⟨"k", ⟨2, 1, 2, 2⟩, "a.ts", "b.ts"⟩]) := by decide +kernel
  obtain ⟨-, hend⟩ := extract_respelled hfeeds
    (fun place => if place = ["w", "a.ts"] then .pair else .carriageReturn) "a.ts"
  rw [hplain] at hend
  generalize (extract (severalLines.respelled _) _).result = r at hend ⊢
  cases hend
  rfl

end LocaleCatalogue
