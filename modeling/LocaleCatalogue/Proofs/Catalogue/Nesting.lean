import LocaleCatalogue.Proofs.Catalogue.Visit
import Mathlib.Data.List.Dedup
import Mathlib.Data.List.Perm.Subperm

/-!
# How deep visits nest

While a file is extracted, one visit goes on to another, so there is a chain of visits in progress.
No two of them are at the same real file, by whatever paths it was reached, and each of them is at a
regular file. So the chain is never longer than there are regular files. It follows that a recursion
cut off at that depth gives the extraction, whatever it is cut off with.
-/

namespace LocaleCatalogue

open Syntax (Node)

namespace Files

variable (fs : Files)

/-- The places of the regular files, each of them once. -/
def regularPlaces : List Place := (fs.filePlaces.filter fun place => (fs.fileAt? place).isSome).dedup

variable {fs}

theorem mem_regularPlaces_iff {place : Place} :
    place ∈ fs.regularPlaces ↔ ∃ content, fs.entry? place = some (.file content) := by
  rw [regularPlaces, List.mem_dedup, List.mem_filter]
  constructor
  · rintro ⟨-, hfound⟩
    obtain ⟨file, hfile⟩ := Option.isSome_iff_exists.mp hfound
    obtain rfl := eq_of_fileAt?_eq_some hfile
    exact ⟨file.content, file.present⟩
  · rintro ⟨content, hcontent⟩
    refine ⟨mem_filePlaces hcontent, ?_⟩
    rw [fileAt?_place ⟨place, content, hcontent⟩]
    rfl

theorem place_mem_regularPlaces (file : fs.Found) : file.place ∈ fs.regularPlaces :=
  mem_regularPlaces_iff.mpr ⟨file.content, file.present⟩

end Files

/-! ## Chains of visits -/

/-- A visit in progress: the file that it is at and the path that led there. -/
structure Visiting (fs : Files) where
  file : fs.Found
  path : Text

/-- The visits in progress at some moment while the file at `start` is extracted, the last one first.
A visit goes on from a spread of its object to the file that the spread stands for, unless a visit in
progress is at that file. -/
inductive Chain (fs : Files) (start : Text) : List (Visiting fs) → Prop
  | first {file : fs.Found} :
      fs.found (Path.ofText start) = .ok file → Chain fs start [⟨file, start⟩]
  | deeper {last : Visiting fs} {others : List (Visiting fs)} {e : Export} {i : Nat} {name : Text}
      {target : Target fs} :
      Chain fs start (last :: others) →
      fs.exported last.path = some e →
      e.property? i = some (.ok (.spread (some name))) →
      (spreadTarget? fs last.path name e.root).result = .ok (some target) →
      target.file.place ∉ (last :: others).map (·.file.place) →
      Chain fs start (⟨target.file, target.path.toText⟩ :: last :: others)

variable {fs : Files} {start origin path : Text} {above : List Place} {file : fs.Found}
  {chain : List (Visiting fs)}

/-- Every path of a chain leads to the file that the visit is at. -/
theorem Chain.realPlace_eq (h : Chain fs start chain) {visiting : Visiting fs}
    (hvisiting : visiting ∈ chain) :
    fs.realPlace visiting.path = .ok visiting.file.place := by
  induction h with
  | first hfound =>
      obtain rfl := List.mem_singleton.mp hvisiting
      exact Files.found_eq_ok_iff.mp hfound
  | deeper _ _ _ htarget _ ih =>
      rcases List.mem_cons.mp hvisiting with rfl | hvisiting
      · exact (place_of_spreadTarget? htarget).2
      · exact ih hvisiting

theorem Chain.nodup_places (h : Chain fs start chain) : (chain.map (·.file.place)).Nodup := by
  induction h with
  | first _ => exact List.nodup_singleton _
  | deeper _ _ _ _ hidle ih => exact List.nodup_cons.mpr ⟨hidle, ih⟩

/-- The real places of the paths in progress are pairwise different. -/
theorem Chain.nodup_realPlaces (h : Chain fs start chain) :
    (chain.map fun visiting => fs.realPlace visiting.path).Nodup := by
  have hplaces : chain.map (fun visiting => fs.realPlace visiting.path) =
      (chain.map (·.file.place)).map Except.ok := by
    rw [List.map_map]
    exact List.map_congr_left fun visiting hvisiting => h.realPlace_eq hvisiting
  rw [hplaces]
  exact h.nodup_places.map fun _ _ => Except.ok.inj

/-- No more visits are in progress than there are regular files. -/
theorem Chain.length_le (h : Chain fs start chain) : chain.length ≤ fs.regularPlaces.length := by
  have hsubset : chain.map (·.file.place) ⊆ fs.regularPlaces := by
    intro place hplace
    obtain ⟨visiting, -, rfl⟩ := List.mem_map.mp hplace
    exact Files.place_mem_regularPlaces visiting.file
  have hle := (List.subperm_of_subset h.nodup_places hsubset).length_le
  rwa [List.length_map] at hle

/-! ## Cutting the recursion off -/

/-- A visit only depends on how it goes on to files that are not in progress. -/
theorem visitBy_congr {enter enter' : List Place → fs.Found → Text → Logged (Option (List Key))}
    (h : ∀ target : Target fs, target.file.place ∉ file.place :: above →
      enter (file.place :: above) target.file target.path.toText =
        enter' (file.place :: above) target.file target.path.toText) :
    visitBy enter origin above file path = visitBy enter' origin above file path := by
  have hproperty : ∀ root : Node, contributionBy enter origin above file path root =
      contributionBy enter' origin above file path root := by
    intro root
    funext property
    match property with
    | .identifier name location => rfl
    | .string name location => rfl
    | .opaqueKind kind => rfl
    | .spread none => rfl
    | .spread (some name) =>
      rw [contributionBy, contributionBy]
      congr 1
      funext target?
      cases target? with
      | none => rfl
      | some target =>
          dsimp only
          split
          · rfl
          next hidle => rw [h target (by simpa using hidle)]
  simp only [visitBy, hproperty]

/-- A visit that nests visits at most `depth` levels deep and goes on by `cut` below them. -/
def visitWithin (cut : List Place → fs.Found → Text → Logged (Option (List Key))) (origin : Text) :
    Nat → List Place → fs.Found → Text → Logged (Option (List Key))
  | 0 => cut
  | depth + 1 => visitBy (visitWithin cut origin depth) origin

/-- As many levels as there are files not in progress are enough. -/
theorem visitWithin_eq_visit
    (cut : List Place → fs.Found → Text → Logged (Option (List Key))) {depth : Nat}
    (hdepth : (idle fs.regularPlaces above).length ≤ depth) (hidle : file.place ∉ above) :
    visitWithin cut origin depth above file path = visit fs origin above file path := by
  induction depth generalizing above file path with
  | zero =>
      have hmem : file.place ∈ idle fs.regularPlaces above :=
        List.mem_filter.mpr ⟨Files.place_mem_regularPlaces file, by simpa using hidle⟩
      rw [List.eq_nil_of_length_eq_zero (Nat.le_zero.mp hdepth)] at hmem
      exact absurd hmem List.not_mem_nil
  | succ depth ih =>
      rw [visitWithin, visit_eq_visitBy]
      refine visitBy_congr fun target htarget => ?_
      have hless := idle_cons_length_lt (Files.place_mem_regularPlaces file)
        (by simpa using hidle : above.contains file.place = false)
      exact ih (by omega) htarget

/-- Visits in progress at the same time are at pairwise different real files, all of them regular, so
no more of them are in progress than there are regular files. A recursion of that depth gives the
extraction, whatever it would go on with below. -/
theorem nesting_bounded (fs : Files) (start : Text) :
    (∀ chain, Chain fs start chain →
      (chain.map fun visiting => fs.realPlace visiting.path).Nodup ∧
      (∀ visiting ∈ chain, fs.realPlace visiting.path = .ok visiting.file.place) ∧
      chain.length ≤ fs.regularPlaces.length) ∧
    ∀ file, fs.found (Path.ofText start) = .ok file → ∀ cut,
      visitWithin cut start fs.regularPlaces.length [] file start = extract fs start := by
  constructor
  · intro chain h
    exact ⟨h.nodup_realPlaces, fun visiting => h.realPlace_eq, h.length_le⟩
  · intro file hfound cut
    have hdepth : (idle fs.regularPlaces []).length ≤ fs.regularPlaces.length :=
      List.length_filter_le _ _
    rw [visitWithin_eq_visit cut hdepth List.not_mem_nil, extract, hfound]

/-- Two files that spread each other, one of them also itself under the name of a link. -/
def rings : Files where
  working := ["w"]
  entries := [
    (["w"], .directory),
    (["w", "a.ts"], .file (Utf8.encode ("import a from './alias'\nimport b from './b'\n".toList
      ++ "export default \x7b ...a, ...b, x \x7d\n".toList))),
    (["w", "alias.ts"], .link "a.ts"),
    (["w", "b.ts"], .file (Utf8.encode
      "import a from '../w/a.ts'\nexport default \x7b y, ...a \x7d\n".toList))]

theorem nesting_bounded_rings :
    ∃ first second : Visiting rings, Chain rings "a.ts" [second, first] ∧
      ([second, first].map fun visiting => rings.realPlace visiting.path).Nodup ∧
      rings.regularPlaces.length = 2 ∧
      visitWithin (fun _ _ _ => .done none) "a.ts" 2 [] first.file "a.ts" =
        extract rings "a.ts" := by
  have hplace : rings.realPlace "a.ts" = .ok ["w", "a.ts"] := by decide +kernel
  have hregular : (["w", "a.ts"] : Place) ∈ rings.regularPlaces := by decide +kernel
  obtain ⟨content, hcontent⟩ := Files.mem_regularPlaces_iff.mp hregular
  have hfound : rings.found (Path.ofText "a.ts") = .ok ⟨["w", "a.ts"], content, hcontent⟩ :=
    Files.found_eq_ok_iff.mpr hplace
  obtain ⟨e, he⟩ : ∃ e, rings.exported "a.ts" = some e :=
    Option.isSome_iff_exists.mp (by decide +kernel)
  have hproperty : e.property? 1 = some (.ok (.spread (some "b"))) := by
    have hbind : (rings.exported "a.ts").bind (·.property? 1) = some (.ok (.spread (some "b"))) := by
      decide +kernel
    rwa [he] at hbind
  obtain ⟨target, htarget, htargetPlace⟩ : ∃ target : Target rings,
      (spreadTarget? rings "a.ts" "b" e.root).result = .ok (some target) ∧
        target.file.place = ["w", "b.ts"] := by
    have hbind : (rings.exported "a.ts").bind (fun e =>
        (spreadTarget? rings "a.ts" "b" e.root).result.toOption.join.map (·.file.place)) =
          some (["w", "b.ts"] : Place) := by decide +kernel
    rw [he, Option.bind_some, Option.map_eq_some_iff] at hbind
    obtain ⟨target, htarget, hplace⟩ := hbind
    refine ⟨target, ?_, hplace⟩
    cases h : (spreadTarget? rings "a.ts" "b" e.root).result with
    | error failure => simp [h, Except.toOption] at htarget
    | ok target? =>
        rw [h] at htarget
        exact congrArg Except.ok htarget
  have hidle : target.file.place ∉ [(["w", "a.ts"] : Place)] := by
    rw [htargetPlace]
    decide
  have hchain := Chain.deeper (.first hfound) he hproperty htarget hidle
  have hlength : rings.regularPlaces.length = 2 := by decide +kernel
  have hbound := nesting_bounded rings "a.ts"
  refine ⟨_, _, hchain, (hbound.1 _ hchain).1, hlength, ?_⟩
  have hcut := hbound.2 _ hfound fun _ _ _ => .done none
  rwa [hlength] at hcut

end LocaleCatalogue
