import LocaleCatalogue.Proofs.Catalogue.Accesses
import LocaleCatalogue.Proofs.Files.Edits

/-!
# Locality

The catalogue of a file depends on what its extraction opens and probes, and on where the file
itself stands. So files that come, go or change elsewhere do not matter, as long as no path that is
opened or probed leads to one of them. That the path of the file itself leads to the same content is
not enough: its place decides which spreads would enter it again.
-/

namespace LocaleCatalogue

/-- The path that is opened or probed. -/
def Access.path : Access → Path
  | .opening path => Path.ofText path
  | .probing candidate => candidate

variable {fs fs' : Files} {edited : Place → Prop} {origin path : Text} {above : List Place}
  {file : fs.Found}

/-- A visit only opens paths that lead somewhere. -/
theorem exists_place_of_opening (henter : Enters fs above path file.place) :
    ∀ opened, .opening opened ∈ asked fs origin above file path →
      ∃ place, fs.realPlace opened = .ok place := by
  refine visit_induction (motive := fun above file path =>
    ∀ opened, .opening opened ∈ asked fs origin above file path →
      ∃ place, fs.realPlace opened = .ok place) ?_ henter
  intro above file path henter ih opened hopened
  rcases mem_asked_iff.mp hopened with hsame | ⟨e, node, name, specifier, hcomes, hbehind⟩
  · cases hsame
    exact ⟨file.place, henter.place_eq⟩
  rcases hbehind with ⟨candidate, -, hsame⟩ | ⟨target, htarget, hidle, hopened⟩
  · cases hsame
  · have hended := spreadTarget?_eq_ok_iff.mpr ⟨some specifier, hcomes.imported, htarget⟩
    exact ih target ⟨(place_of_spreadTarget? hended).2, hidle⟩ opened hopened

/-- Accesses that lead to no edited place in either file system have the same answers, unless a path
that is opened leads nowhere in both. -/
theorem Files.EditedAt.agreeOn (h : fs.EditedAt fs' edited) {access : Access}
    (hspares : fs.Spares edited access.path) (hspares' : fs'.Spares edited access.path) :
    fs.AgreeOn fs' access ∨ ∃ opened, access = .opening opened ∧
      Files.Unreached (fs.realPlace opened) ∧ Files.Unreached (fs'.realPlace opened) := by
  cases access with
  | probing candidate => exact Or.inl (h.regularPlace? hspares hspares')
  | opening opened =>
      rcases h.locate hspares hspares' with hsame | hnowhere
      · exact Or.inl (h.contents hspares hsame)
      · exact Or.inr ⟨opened, rfl, hnowhere⟩

/-- The extraction fails because something on its path is missing or is no directory. -/
def StopsShort (path : Text) (ended : Logged (Option (List Key))) : Prop :=
  ended = .fail (.access path (.obstacle (Path.ofText path) .missing)) ∨
    ended = .fail (.access path (.obstacle (Path.ofText path) .notDirectory))

theorem stopsShort_of_unreached (h : Files.Unreached (fs.realPlace path)) :
    StopsShort path (extract fs path) := by
  rw [extract, Files.found]
  rcases h with h | h <;> rw [Files.realPlace] at h <;> simp only [h]
  · exact Or.inl rfl
  · exact Or.inr rfl

/-- Edits that no access of an extraction leads to do not change it, unless there is no file at its
path in either file system. -/
theorem extract_of_edits (h : fs.EditedAt fs' edited)
    (hspares : ∀ access ∈ fs.askedFor path,
      fs.Spares edited access.path ∧ fs'.Spares edited access.path) :
    extract fs' path = extract fs path ∨
      StopsShort path (extract fs path) ∧ StopsShort path (extract fs' path) := by
  by_cases hnowhere : Files.Unreached (fs.realPlace path) ∧ Files.Unreached (fs'.realPlace path)
  · exact Or.inr ⟨stopsShort_of_unreached hnowhere.1, stopsShort_of_unreached hnowhere.2⟩
  refine Or.inl (extract_of_agreement ?_ fun access haccess => ?_)
  · intro file file' hfound hfound'
    obtain ⟨hself, hself'⟩ := hspares _ opening_mem_askedFor
    have hplace := Files.found_eq_ok_iff.mp hfound
    have hplace' := Files.found_eq_ok_iff.mp hfound'
    rcases h.locate hself hself' with hsame | hunreached
    · exact Except.ok.inj (hplace'.symm.trans (hsame.trans hplace))
    · exact absurd hunreached hnowhere
  · obtain ⟨hhere, hhere'⟩ := hspares access haccess
    refine (h.agreeOn hhere hhere').resolve_right ?_
    rintro ⟨opened, rfl, hunreached, hunreached'⟩
    rw [Files.askedFor] at haccess
    split at haccess
    next file hfound =>
      obtain ⟨place, hplace⟩ := exists_place_of_opening
        ⟨Files.found_eq_ok_iff.mp hfound, List.not_mem_nil⟩ opened haccess
      rw [hplace] at hunreached
      rcases hunreached with hunreached | hunreached <;> cases hunreached
    · cases List.mem_singleton.mp haccess
      exact hnowhere ⟨hunreached, hunreached'⟩

/-- Where a second file system agrees with the first one on all that an extraction opens and probes
in the first one, and the path leads to files at the same place, the extraction is the same in both.
Files that are edited elsewhere do not change it, unless there is no file at the path. -/
theorem extract_local (fs : Files) (path : Text) :
    (∀ fs' : Files,
      (∀ (file : fs.Found) (file' : fs'.Found), fs.found (Path.ofText path) = .ok file →
        fs'.found (Path.ofText path) = .ok file' → file'.place = file.place) →
      (∀ access ∈ fs.askedFor path, fs.AgreeOn fs' access) → extract fs' path = extract fs path) ∧
    ∀ fs' edited, fs.EditedAt fs' edited →
      (∀ access ∈ fs.askedFor path,
        fs.Spares edited access.path ∧ fs'.Spares edited access.path) →
      extract fs' path = extract fs path ∨
        StopsShort path (extract fs path) ∧ StopsShort path (extract fs' path) :=
  ⟨fun _ hself hagree => extract_of_agreement hself hagree,
    fun _ _ h hspares => extract_of_edits h hspares⟩

/-- The names of the keys with the paths of the files that they stand in. -/
def sourced (ended : Logged (Option (List Key))) : Except Failure (Option (List (Text × Text))) :=
  ended.result.map (Option.map (List.map fun key => (key.name, key.sourcePath)))

/-- Two modules and a third one beside them. -/
def beside : Files where
  working := ["w"]
  entries := [
    (["w"], .directory),
    (["w", "a.ts"], .file (Utf8.encode
      "import b from './b'\nexport default \x7b k, ...b \x7d".toList)),
    (["w", "b.ts"], .file (Utf8.encode "export default \x7b m \x7d".toList)),
    (["w", "c.ts"], .file (Utf8.encode "export default \x7b n \x7d".toList))]

theorem extract_local_beside :
    let other : Place := ["w", "c.ts"]
    sourced (extract beside "a.ts") = .ok (some [("k", "a.ts"), ("m", "b.ts")]) ∧
      extract (beside.put other .directory) "a.ts" = extract beside "a.ts" ∧
      extract (beside.put other (.file [0xFF])) "a.ts" = extract beside "a.ts" ∧
      extract (beside.forbid other) "a.ts" = extract beside "a.ts" ∧
      extract (beside.erase other) "a.ts" = extract beside "a.ts" := by
  intro other
  have hended : sourced (extract beside "a.ts") = .ok (some [("k", "a.ts"), ("m", "b.ts")]) := by
    decide +kernel
  have hfile : Files.FileOrNothing (beside.entry? other) := Or.inr ⟨_, rfl⟩
  have hgoes : ¬ StopsShort "a.ts" (extract beside "a.ts") := by
    rintro (hstops | hstops) <;> rw [hstops] at hended <;> cases hended
  have hedits : ∀ fs', beside.EditedAt fs' (· = other) →
      (∀ access ∈ beside.askedFor "a.ts", beside.locate access.path ≠ .ok other ∧
        fs'.locate access.path ≠ .ok other) → extract fs' "a.ts" = extract beside "a.ts" := by
    intro fs' hedited hspares
    refine ((extract_local beside "a.ts").2 fs' _ hedited ?_).resolve_right
      fun hstops => hgoes hstops.1
    simpa only [Files.spares_place_iff] using hspares
  refine ⟨hended, ?_, ?_, ?_, ?_⟩
  · refine (extract_local beside "a.ts").1 _ (fun file file' hfound hfound' => ?_)
      (by decide +kernel)
    have hsame : (beside.put other .directory).locate (Path.ofText "a.ts") =
        beside.locate (Path.ofText "a.ts") := by decide +kernel
    have hplace' := Files.found_eq_ok_iff.mp hfound'
    rw [hsame, Files.found_eq_ok_iff.mp hfound] at hplace'
    exact (Except.ok.inj hplace').symm
  · exact hedits _ (Files.editedAt_put _ hfile) (by decide +kernel)
  · exact hedits _ (Files.editedAt_forbid hfile) (by decide +kernel)
  · exact hedits _ (Files.editedAt_erase hfile (by decide +kernel)) (by decide +kernel)

/-- A module under two names: one leads to it, the other to it or to a copy. -/
def aliased (aim : Text) : Files :=
  let content := Utf8.encode "import b from './b'\nexport default \x7b k, ...b \x7d".toList
  { working := ["w"]
    entries := [
      (["w"], .directory), (["w", "a.ts"], .link aim), (["w", "b.ts"], .link "p.ts"),
      (["w", "p.ts"], .file content), (["w", "q.ts"], .file content)] }

/-- All that is opened and probed has the same answers, but the file stands at another place. -/
theorem extract_not_local_aliased :
    (∀ access ∈ (aliased "p.ts").askedFor "a.ts",
        (aliased "p.ts").AgreeOn (aliased "q.ts") access) ∧
      sourced (extract (aliased "p.ts") "a.ts") = .ok (some [("k", "a.ts")]) ∧
      sourced (extract (aliased "q.ts") "a.ts") = .ok (some [("k", "a.ts"), ("k", "b.ts")]) := by
  refine ⟨?_, ?_, ?_⟩ <;> decide +kernel

end LocaleCatalogue
