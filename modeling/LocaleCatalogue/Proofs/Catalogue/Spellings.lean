import LocaleCatalogue.Proofs.Catalogue.Reachable
import LocaleCatalogue.Proofs.Files.Named

/-!
# One file under two spellings

The targets of spreads are found by working on the spelling of a path, and which files are in
progress is told by their places. Without links, and as long as specifiers end in proper names, the
first depends on the spelling no more than the second does. So two extractions of one file stay on
the same files, until one of them comes to a candidate whose spelling the file system does not take.
-/

namespace LocaleCatalogue

open LocaleCatalogue.Path
open Syntax (Node Property)

variable {fs : Files} {origin origin' path other : Text} {above : List Place} {file : fs.Found}

/-- Every default import ends in a proper name, whatever slashes come behind it. -/
def ImportsNamed (fs : Files) : Prop :=
  ∀ path root source name specifier, fs.program path = .ok (root, source) →
    Syntax.defaultImport? root name = .ok (some specifier) → IsNamed specifier

/-- Two paths lead to the same place. -/
def Coincide (fs : Files) (path other : Text) : Prop :=
  ∃ place, fs.realPlace path = .ok place ∧ fs.realPlace other = .ok place

/-- Two failures have the same cause at the same file: the file under one path and under the other,
or a candidate for one specifier seen from there. -/
inductive SameFailure (fs : Files) : Failure → Failure → Prop
  | obstacle {path other : Text} {cause : Files.Obstacle} : Coincide fs path other →
      SameFailure fs (.access path (.obstacle (ofText path) cause))
        (.access other (.obstacle (ofText other) cause))
  | malformed {path other : Text} {cause : Utf8.Malformed} : Coincide fs path other →
      SameFailure fs (.access path (.malformed cause)) (.access other (.malformed cause))
  | rejected {path other : Text} {dialect : Script.Dialect} {diagnosis : String} :
      Coincide fs path other →
      SameFailure fs (.rejected path dialect diagnosis) (.rejected other dialect diagnosis)
  | lookup {path other specifier ending : Text} {fault : Files.Fault} : Coincide fs path other →
      SameFailure fs (.lookup (ofText (specifierBase path specifier ++ ending)) fault)
        (.lookup (ofText (specifierBase other specifier ++ ending)) fault)
  | literal {cause : Syntax.Fault} : SameFailure fs (.literal cause) (.literal cause)

/-- A candidate could not be probed because its spelling is too long. -/
def Overruns (failure : Failure) : Prop :=
  ∃ candidate, Files.Overlong candidate ∧ failure = .lookup candidate (.obstacle .nameTooLong)

/-- Two computations end with values that correspond or with the same failure, unless one of them
comes to a spelling that is too long. -/
inductive Corresponds {α β : Type} (fs : Files) (R : α → β → Prop) :
    Except Failure α → Except Failure β → Prop
  | values {a : α} {b : β} : R a b → Corresponds fs R (.ok a) (.ok b)
  | failures {failure failure' : Failure} : SameFailure fs failure failure' →
      Corresponds fs R (.error failure) (.error failure')
  | overruns {failure : Failure} {result : Except Failure β} : Overruns failure →
      Corresponds fs R (.error failure) result
  | overruns' {result : Except Failure α} {failure : Failure} : Overruns failure →
      Corresponds fs R result (.error failure)

/-- A key is found under both spellings, and its token lies in the same file. -/
structure SameKey (fs : Files) (path other : Text) (key key' : Key) : Prop where
  name : key'.name = key.name
  location : key'.location = key.location
  filePath : key.filePath = path
  filePath' : key'.filePath = other
  sources : Coincide fs key.sourcePath key'.sourcePath

namespace Corresponds

variable {α β γ δ : Type} {R : α → β → Prop} {S : γ → δ → Prop}

/-- What corresponds is what the computations end with. -/
theorem ended {r : Except Failure α} {s : Except Failure β} (h : Corresponds fs R r s) :
    Corresponds fs (fun a b => R a b ∧ r = .ok a ∧ s = .ok b) r s := by
  cases h with
  | values h => exact .values ⟨h, rfl, rfl⟩
  | failures h => exact .failures h
  | overruns h => exact .overruns h
  | overruns' h => exact .overruns' h

theorem andThen {x : Logged α} {y : Logged β} {f : α → Logged γ} {g : β → Logged δ}
    (hxy : Corresponds fs R x.result y.result)
    (hfg : ∀ a b, R a b → Corresponds fs S (f a).result (g b).result) :
    Corresponds fs S (x.andThen f).result (y.andThen g).result := by
  rw [Logged.andThen, Logged.andThen]
  generalize x.result = r, y.result = s at hxy ⊢
  cases hxy with
  | values h => exact hfg _ _ h
  | failures h => exact .failures h
  | overruns h => exact .overruns h
  | overruns' h => exact .overruns' h

theorem gather {f g : γ → Logged (List α)} {R : α → α → Prop} {as : List γ}
    (h : ∀ a ∈ as, Corresponds fs (List.Forall₂ R) (f a).result (g a).result) :
    Corresponds fs (List.Forall₂ R) (Logged.gather f as).result (Logged.gather g as).result := by
  induction as with
  | nil => exact .values .nil
  | cons a rest ih =>
      refine (h a List.mem_cons_self).andThen fun found found' hfound => ?_
      refine (ih fun b hb => h b (List.mem_cons_of_mem a hb)).andThen fun more more' hmore => ?_
      exact .values (List.rel_append hfound hmore)

theorem ofSyntax (r : Except Syntax.Fault α) :
    Corresponds fs Eq (LocaleCatalogue.ofSyntax r).result (LocaleCatalogue.ofSyntax r).result := by
  cases r with
  | error fault => exact .failures .literal
  | ok a => exact .values rfl

end Corresponds

/-! ## What a file holds -/

theorem readTree_corresponds (hdialect : dialectOf path = dialectOf other)
    (hcoincide : Coincide fs path other) :
    Corresponds fs Eq (readTree path file) (readTree other file) := by
  rw [readTree, readTree, readText, readText, ← hdialect]
  cases file.octets with
  | error cause => exact .failures (.obstacle hcoincide)
  | ok octets =>
      cases hwritten : Utf8.decode octets with
      | error cause =>
          simp only [hwritten]
          exact .failures (.malformed hcoincide)
      | ok written =>
          simp only [hwritten]
          split
          · exact .failures (.rejected hcoincide)
          · exact .values rfl

/-! ## What a spread leads to -/

/-- Two targets are the same file, and both are spelled up to its name. -/
structure SameGoal (target target' : Target fs) : Prop where
  file_eq : target'.file = target.file
  endsInName : EndsInName target.path.toText
  endsInName' : EndsInName target'.path.toText

theorem firstRegular?_corresponds (hlinks : fs.Linkless) (hpath : EndsInName path)
    (hother : EndsInName other) {place : Place} (hplace : fs.realPlace path = .ok place)
    (hsame : fs.realPlace other = .ok place) {specifier : Text} (hspecifier : IsNamed specifier)
    {endings : List Text} (hendings : endings ⊆ candidateSuffixes) :
    Corresponds fs (Option.Rel SameGoal)
      (fs.firstRegular? (endings.map fun ending => ofText (specifierBase path specifier ++ ending)))
      (fs.firstRegular?
        (endings.map fun ending => ofText (specifierBase other specifier ++ ending))) := by
  induction endings with
  | nil => exact .values .none
  | cons ending rest ih =>
      obtain ⟨hending, hrest⟩ := List.cons_subset.mp hendings
      obtain ⟨found, hfound⟩ := Files.exists_answer hspecifier hlinks place hending
      have hname : ∀ {path}, EndsInName path →
          EndsInName (ofText (specifierBase path specifier ++ ending)).toText := fun hpath =>
        Files.endsInName_of_mem_candidatePaths hspecifier hpath (List.mem_map_of_mem hending)
      rw [List.map_cons, List.map_cons, Files.firstRegular?, Files.firstRegular?]
      rcases hfound path hpath hplace with hhere | ⟨hlong, hhere⟩
      · rcases hfound other hother hsame with hthere | ⟨hlong, hthere⟩
        · rw [hhere, hthere]
          cases found with
          | error fault => exact .failures (.lookup ⟨place, hplace, hsame⟩)
          | ok file? =>
              cases file? with
              | none => exact ih hrest
              | some file => exact .values (.some ⟨rfl, hname hpath, hname hother⟩)
        · rw [hthere]
          exact .overruns' ⟨_, hlong, rfl⟩
      · rw [hhere]
        exact .overruns ⟨_, hlong, rfl⟩

theorem spreadTarget?_corresponds (hlinks : fs.Linkless) (himports : ImportsNamed fs)
    (hpath : EndsInName path) (hother : EndsInName other) {place : Place}
    (hplace : fs.realPlace path = .ok place) (hsame : fs.realPlace other = .ok place)
    {root : Node} {source : Bytes} (hprogram : fs.program path = .ok (root, source)) (name : Text) :
    Corresponds fs (Option.Rel SameGoal) (spreadTarget? fs path name root).result
      (spreadTarget? fs other name root).result := by
  rw [spreadTarget?, spreadTarget?]
  refine (Corresponds.ofSyntax (Syntax.defaultImport? root name)).ended.andThen ?_
  rintro specifier? _ ⟨rfl, himport, -⟩
  cases specifier? with
  | none => exact .values .none
  | some specifier =>
      have hspecifier := himports _ _ _ _ _ hprogram (ofSyntax_result_eq_ok.mp himport)
      refine Corresponds.andThen (x := Logged.ofExcept _) (y := Logged.ofExcept _)
        (firstRegular?_corresponds hlinks hpath hother hplace hsame hspecifier
          (List.Subset.refl candidateSuffixes)) ?_
      rintro target target' (htarget | _)
      · exact .values (.some htarget)
      · exact .values .none

/-! ## What a visit finds -/

theorem sameKey_declared (hcoincide : Coincide fs path other) (hpath : EndsInName path)
    (hother : EndsInName other) (name : Text) (location : Location) :
    SameKey fs origin origin' (Key.declared name location origin path)
      (Key.declared name location origin' other) := by
  have hsource : ∀ {origin path : Text}, EndsInName path →
      (Key.declared name location origin path).sourcePath = path := by
    intro origin path hpath
    obtain ⟨c, hlast, -⟩ := hpath.exists_last
    cases path with
    | nil => cases hlast
    | cons first rest => rfl
  refine ⟨rfl, rfl, rfl, rfl, ?_⟩
  rw [hsource hpath, hsource hother]
  exact hcoincide

theorem declared_corresponds (hcoincide : Coincide fs path other) (hpath : EndsInName path)
    (hother : EndsInName other) (name : Text) (location : Location) :
    Corresponds fs (List.Forall₂ (SameKey fs origin origin'))
      (.ok (if name.isEmpty then [] else [Key.declared name location origin path]))
      (.ok (if name.isEmpty then [] else [Key.declared name location origin' other])) := by
  refine .values ?_
  split
  · exact .nil
  · exact .cons (sameKey_declared hcoincide hpath hother name location) .nil

/-- A visit to a file under one spelling corresponds to one under any other. -/
def VisitsCorrespond (fs : Files) (origin origin' : Text) (above : List Place) (file : fs.Found)
    (path : Text) : Prop :=
  EndsInName path → ∀ other, EndsInName other → fs.realPlace other = .ok file.place →
    Corresponds fs (Option.Rel (List.Forall₂ (SameKey fs origin origin')))
      (visit fs origin above file path).result (visit fs origin' above file other).result

theorem spread_corresponds (hlinks : fs.Linkless) (himports : ImportsNamed fs)
    (hplace : fs.realPlace path = .ok file.place) (hpath : EndsInName path)
    (hsame : fs.realPlace other = .ok file.place) (hother : EndsInName other) {root : Node}
    {source : Bytes} (hprogram : fs.program path = .ok (root, source))
    (ih : ∀ target : Target fs,
      Enters fs (file.place :: above) target.path.toText target.file.place →
      VisitsCorrespond fs origin origin' (file.place :: above) target.file target.path.toText)
    (name : Text) :
    Corresponds fs (List.Forall₂ (SameKey fs origin origin'))
      (contribution fs origin above file path root (.spread (some name))).result
      (contribution fs origin' above file other root (.spread (some name))).result := by
  refine (spreadTarget?_corresponds hlinks himports hpath hother hplace hsame hprogram
    name).ended.andThen ?_
  rintro target? target?' ⟨htarget, hended, hended'⟩
  cases htarget with
  | none => exact .values .nil
  | @some target target' htarget =>
      dsimp only
      rw [htarget.file_eq]
      split
      · exact .values .nil
      next hidle =>
        have henter : Enters fs (file.place :: above) target.path.toText target.file.place :=
          ⟨(place_of_spreadTarget? hended).2, by simpa using hidle⟩
        have hplace' := (place_of_spreadTarget? hended').2
        rw [htarget.file_eq] at hplace'
        refine (ih target henter htarget.endsInName _ htarget.endsInName' hplace').andThen ?_
        rintro found found' (hkeys | _)
        · exact .values hkeys
        · exact .values .nil

theorem nodeContribution_corresponds (hcoincide : Coincide fs path other) (hpath : EndsInName path)
    (hother : EndsInName other) {e : Export}
    (hspread : ∀ name, Corresponds fs (List.Forall₂ (SameKey fs origin origin'))
      (contribution fs origin above file path e.root (.spread (some name))).result
      (contribution fs origin' above file other e.root (.spread (some name))).result)
    (node : Node) :
    Corresponds fs (List.Forall₂ (SameKey fs origin origin'))
      (nodeContribution fs origin above file path e node).result
      (nodeContribution fs origin' above file other e node).result := by
  rw [nodeContribution, nodeContribution]
  refine (Corresponds.ofSyntax (Property.ofNode node e.source)).andThen ?_
  rintro property _ rfl
  cases property with
  | identifier name location => exact declared_corresponds hcoincide hpath hother name location
  | string name location => exact declared_corresponds hcoincide hpath hother name location
  | opaqueKind kind => exact .values .nil
  | spread name? =>
      cases name? with
      | none => exact .values .nil
      | some name => exact hspread name

theorem visit_corresponds (hlinks : fs.Linkless) (himports : ImportsNamed fs)
    (henter : Enters fs above path file.place) :
    VisitsCorrespond fs origin origin' above file path := by
  refine visit_induction (motive := VisitsCorrespond fs origin origin')
    (fun above file path henter ih => ?_) henter
  intro hpath other hother hsame
  have hplace := henter.place_eq
  have hdialect := dialectOf_congr hlinks hpath hother hplace hsame
  rw [visit_eq, visit_eq]
  refine Corresponds.andThen (x := Logged.ofExcept _) (y := Logged.ofExcept _)
    (readTree_corresponds hdialect ⟨_, hplace, hsame⟩).ended ?_
  rintro ⟨root, source⟩ _ ⟨rfl, hread, -⟩
  have hprogram := (program_eq_readTree hplace).trans hread
  have hobject : Corresponds fs Eq (exportedObject? path root).result
      (exportedObject? other root).result := by
    obtain ⟨object?, hobject⟩ := exportedObject?_result path root
    rw [exportedObject?_result_congr other path, hobject]
    exact .values rfl
  refine hobject.andThen ?_
  rintro object? _ rfl
  cases object? with
  | none => exact .values .none
  | some object =>
      let e : Export := ⟨root, source, object⟩
      have hnodes : ∀ node ∈ e.nodes,
          Corresponds fs (List.Forall₂ (SameKey fs origin origin'))
            (nodeContribution fs origin above file path e node).result
            (nodeContribution fs origin' above file other e node).result := fun node _ =>
        nodeContribution_corresponds ⟨_, hplace, hsame⟩ hpath hother
          (spread_corresponds hlinks himports hplace hpath hsame hother hprogram ih) node
      exact (Corresponds.gather hnodes).andThen fun keys keys' hkeys => .values (.some hkeys)

/-- Where there are no links and all specifiers end in proper names, two spellings that end in the
name of a file and lead to it have corresponding extractions: the same keys at the same locations in
the same files, nothing under both, or the same failure. The one exception is that a candidate is
spelled too long for the file system under one of them. -/
theorem extract_however_spelled (hlinks : fs.Linkless) (himports : ImportsNamed fs) {place : Place}
    (hpath : EndsInName path) (hplace : fs.realPlace path = .ok place)
    (hother : EndsInName other) (hsame : fs.realPlace other = .ok place) :
    Corresponds fs (Option.Rel (List.Forall₂ (SameKey fs path other)))
      (extract fs path).result (extract fs other).result := by
  have hlocate : fs.locate (ofText path) = .ok place := hplace
  have hlocate' : fs.locate (ofText other) = .ok place := hsame
  rw [extract, extract, Files.found, Files.found]
  cases hfile : fs.fileAt? place with
  | none =>
      simp only [hlocate, hlocate', hfile]
      exact .failures (.obstacle ⟨place, hplace, hsame⟩)
  | some file =>
      simp only [hlocate, hlocate', hfile]
      obtain rfl := Files.eq_of_fileAt?_eq_some hfile
      exact visit_corresponds hlinks himports ⟨hplace, List.not_mem_nil⟩ hpath other hother hsame

/-- A module in a directory, which spreads one beside the directory. -/
def outward : Files where
  working := ["w"]
  entries := [
    (["w"], .directory), (["w", "x"], .directory),
    (["w", "x", "a.ts"], .file (Utf8.encode
      "import b from '..//b/'\nexport default \x7b k, ...b \x7d\n".toList)),
    (["w", "b.ts"], .file (Utf8.encode "export default \x7b m \x7d\n".toList))]

theorem extract_however_spelled_outward :
    let keys : List Key :=
      [⟨"k", ⟨2, 17, 2, 18⟩, "x/a.ts", "x/a.ts"⟩, ⟨"m", ⟨1, 17, 1, 18⟩, "x/a.ts", "b.ts"⟩]
    let keys' : List Key :=
      [⟨"k", ⟨2, 17, 2, 18⟩, "/w/x/..//./x/a.ts", "/w/x/..//./x/a.ts"⟩,
        ⟨"m", ⟨1, 17, 1, 18⟩, "/w/x/..//./x/a.ts", "/w/b.ts"⟩]
    (extract outward "x/a.ts").result = .ok (some keys) ∧
      (extract outward "/w/x/..//./x/a.ts").result = .ok (some keys') ∧
      List.Forall₂ (SameKey outward "x/a.ts" "/w/x/..//./x/a.ts") keys keys' := by
  intro keys keys'
  have hkeys : (extract outward "x/a.ts").result = .ok (some keys) := by decide +kernel
  have hkeys' : (extract outward "/w/x/..//./x/a.ts").result = .ok (some keys') := by decide +kernel
  have hlinks : outward.Linkless := Files.linkless_of_entries (by simp [outward])
  have himports : ImportsNamed outward := fun _ _ _ _ _ =>
    forall_specifier_of_entries (by decide +kernel)
  have hplace : outward.realPlace "x/a.ts" = .ok ["w", "x", "a.ts"] := by decide +kernel
  have hplace' : outward.realPlace "/w/x/..//./x/a.ts" = .ok ["w", "x", "a.ts"] := by decide +kernel
  have hsame :=
    extract_however_spelled hlinks himports (by decide) hplace (by decide) hplace'
  rw [hkeys, hkeys'] at hsame
  cases hsame with
  | values hfound =>
      cases hfound with
      | some hfound => exact ⟨hkeys, hkeys', hfound⟩

/-- A module beside a directory. -/
def around : Files where
  working := ["w"]
  entries := [
    (["w"], .directory), (["w", "x"], .directory),
    (["w", "a.ts"], .file (Utf8.encode "export default \x7b k \x7d".toList))]

/-- The module by way of the directory, any number of times. -/
def winding (times : Nat) : Text :=
  (List.replicate times (Text.ofString "x/../")).flatten ++ Text.ofString "a.ts"

/-- A working directory whose spelling leaves room for a short name only. -/
def bottom : Place :=
  List.replicate 16 (List.replicate 63 0x1F600) ++ [List.replicate 9 0x1F600]

/-- A module at the bottom, which spreads what is not there. -/
def deep : Files where
  working := bottom
  entries :=
    (bottom ++ [Text.ofString "a.ts"], .file (Utf8.encode
      "import b from './bbbbbbbbbb'\nexport default \x7b k, ...b \x7d".toList)) ::
    (List.range 17).map fun depth => (bottom.take (depth + 1), .directory)

/-- The module at the bottom seen from the root. -/
def absolute : Text := toText ⟨.root, bottom ++ [Text.ofString "a.ts"]⟩

/-- The obstacle that an extraction fails at. -/
def obstacle? : Except Failure (Option (List Key)) → Option Files.Obstacle
  | .error (.access _ (.obstacle _ cause)) => some cause
  | .error (.lookup _ (.obstacle cause)) => some cause
  | _ => none

/-- The spelling matters where it gets too long: that of the file itself, or that of a candidate. -/
theorem extract_differently_spelled :
    (around.Linkless ∧ ImportsNamed around ∧
      (∀ times ∈ [1, 900], EndsInName (winding times) ∧
        Spelling.normalise (winding times) = "a.ts") ∧
      (extract around (winding 1)).result =
        .ok (some [⟨"k", ⟨1, 17, 1, 18⟩, winding 1, winding 1⟩]) ∧
      obstacle? (extract around (winding 900)).result = some .nameTooLong) ∧
    deep.Linkless ∧ ImportsNamed deep ∧ EndsInName "a.ts" ∧ EndsInName absolute ∧
      deep.realPlace "a.ts" = .ok (bottom ++ [Text.ofString "a.ts"]) ∧
      deep.realPlace absolute = .ok (bottom ++ [Text.ofString "a.ts"]) ∧
      (extract deep "a.ts").result = .ok (some [⟨"k", ⟨2, 17, 2, 18⟩, "a.ts", "a.ts"⟩]) ∧
      obstacle? (extract deep absolute).result = some .nameTooLong := by
  refine ⟨⟨Files.linkless_of_entries (by simp [around]),
    fun _ _ _ _ _ => forall_specifier_of_entries (by decide +kernel), by decide +kernel,
    by decide +kernel, by decide +kernel⟩, Files.linkless_of_entries (by simp [deep]),
    fun _ _ _ _ _ => forall_specifier_of_entries (by decide +kernel), by decide, by decide +kernel,
    by decide +kernel, by decide +kernel, by decide +kernel, by decide +kernel⟩

end LocaleCatalogue
