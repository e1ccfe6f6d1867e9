import LocaleCatalogue.Proofs.Catalogue.Sources
import LocaleCatalogue.Proofs.Catalogue.Visit
import Mathlib.Tactic.ByContra
import Mathlib.Tactic.Push

/-!
# Extraction is all or nothing

Keys come out only if every file on the way could be read, was UTF-8 and was a program without
errors. If a file is refused, it is the first such file in the order of the walks, so what is
reported depends neither on how deep the file lies nor on what it would have contributed.
-/

namespace LocaleCatalogue

open Syntax (Node Property)

/-- The file at a path can be read, is UTF-8, and is a program without erroneous or missing nodes.
-/
def Files.Intact (fs : Files) (path : Text) : Prop :=
  ∃ text, fs.Holds path text ∧
    ∀ n : Node, n.Within (Script.parseChars (dialectOf path) text) →
      n.erroneous = false ∧ n.missing = false

/-- The failures that refuse the file at a path: it cannot be read, it is not UTF-8, or it is broken
in the dialect that its own suffix asks for. -/
inductive Files.Refused (fs : Files) (path : Text) : Failure → Prop
  | unreadable {cause : Files.Obstacle} :
      fs.access (Path.ofText path) = .error (.obstacle cause) →
      Refused fs path (.access path (.obstacle (Path.ofText path) cause))
  | malformed {file : fs.Found} {cause : Utf8.Malformed} :
      fs.access (Path.ofText path) = .ok file → Utf8.decode file.content = .error cause →
      Refused fs path (.access path (.malformed cause))
  | broken {text : List Char} {n : Node} {diagnosis : String} :
      fs.Holds path text → n.Within (Script.parseChars (dialectOf path) text) →
      n.erroneous = true ∨ n.missing = true →
      Refused fs path (.rejected path (dialectOf path) diagnosis)

/-- The path that a failure names, if it refuses a file. -/
def Failure.refusedPath? : Failure → Option Text
  | .access path _ => some path
  | .rejected path _ _ => some path
  | _ => none

variable {fs : Files} {origin path : Text} {above : List Place} {file : fs.Found}

/-! ## Programs -/

/-- A path leads to a program exactly if its file is intact. -/
theorem program_iff_intact : (∃ program, fs.program path = .ok program) ↔ fs.Intact path := by
  constructor
  · rintro ⟨⟨root, source⟩, h⟩
    obtain ⟨text, hholds, rfl, -, haccepted⟩ := program_eq_ok_iff.mp h
    exact ⟨text, hholds, (Script.parseChars_intact_iff _ _).mp haccepted⟩
  · rintro ⟨text, hholds, hintact⟩
    exact ⟨_, program_eq_ok_iff.mpr
      ⟨text, hholds, rfl, rfl, (Script.parseChars_intact_iff _ _).mpr hintact⟩⟩

/-- Where a file is refused, the failure names the path and says why. -/
theorem refused_of_program {failure : Failure} (h : fs.program path = .error failure)
    {named : Text} (hnamed : failure.refusedPath? = some named) :
    named = path ∧ fs.Refused path failure := by
  rw [program_eq_of_access] at h
  split at h
  next cause haccess =>
    cases h
    cases hnamed
    exact ⟨rfl, .unreadable haccess⟩
  · cases h
    cases hnamed
  next file haccess =>
    split at h
    next cause hwritten =>
      cases h
      cases hnamed
      exact ⟨rfl, .malformed haccess hwritten⟩
    next written hwritten =>
      dsimp only at h
      split at h
      next hflagged =>
        cases h
        cases hnamed
        refine ⟨rfl, ?_⟩
        have hbroken : ∃ n : Node,
            n.Within (Script.parseChars (dialectOf path) (unifyNewlines written)) ∧
              (n.erroneous = true ∨ n.missing = true) := by
          by_contra hnone
          push Not at hnone
          have haccepted := (Script.parseChars_intact_iff _ _).mpr fun n hn => by
            simpa using hnone n hn
          rw [haccepted] at hflagged
          cases hflagged
        obtain ⟨n, hwithin, hfault⟩ := hbroken
        exact .broken ⟨file, written, haccess, hwritten, rfl⟩ hwithin hfault
      · cases h

/-! ## Visits that fail -/

theorem refusedPath?_of_ofSyntax {α : Type} {r : Except Syntax.Fault α} {failure : Failure}
    (h : (ofSyntax r).result = .error failure) : failure.refusedPath? = none := by
  cases r with
  | error fault =>
      cases h
      rfl
  | ok a => cases h

theorem refusedPath?_of_firstRegular? {paths : List Path} {failure : Failure}
    (h : fs.firstRegular? paths = .error failure) : failure.refusedPath? = none := by
  induction paths with
  | nil => cases h
  | cons path rest ih =>
      rw [Files.firstRegular?] at h
      split at h
      · cases h
        rfl
      · cases h
      · exact ih h

/-- The search for the target of a spread refuses no file. -/
theorem refusedPath?_of_spreadTarget? {name : Text} {root : Node} {failure : Failure}
    (h : (spreadTarget? fs path name root).result = .error failure) :
    failure.refusedPath? = none := by
  simp only [spreadTarget?, Logged.bind_eq, Logged.pure_eq] at h
  rcases Logged.andThen_result_eq_error.mp h with hfail | ⟨specifier?, -, h⟩
  · exact refusedPath?_of_ofSyntax hfail
  · cases specifier? with
    | none => cases h
    | some specifier =>
        rcases Logged.andThen_result_eq_error.mp h with hfail | ⟨target?, -, h⟩
        · exact refusedPath?_of_firstRegular? hfail
        · cases target? <;> cases h

/-- The failure is the one at the end of the first walk, in dictionary order, that leads to no
program. -/
def FirstRefusal (fs : Files) (above : List Place) (path : Text) (failure : Failure) : Prop :=
  ∃ spreads stops, WalkApart fs above path spreads stops ∧
    fs.program (stops.getLastD path) = .error failure ∧
    ∀ spreads' stops', WalkApart fs above path spreads' stops' → spreads' < spreads →
      ∃ program, fs.program (stops'.getLastD path) = .ok program

/-- If a property fails by refusing a file, it is a spread, and its target refuses that file first.
-/
theorem first_refusal_of_contribution {e : Export} {i : Nat} {node : Node}
    (he : fs.exported path = some e) (hnode : e.nodes[i]? = some node) {failure : Failure}
    {named : Text}
    (hnamed : failure.refusedPath? = some named)
    (ih : ∀ target : Target fs,
      Enters fs (file.place :: above) target.path.toText target.file.place →
      (visit fs origin (file.place :: above) target.file target.path.toText).result =
        .error failure →
        FirstRefusal fs (file.place :: above) target.path.toText failure)
    (h : (nodeContribution fs origin above file path e node).result = .error failure) :
    ∃ target, Spreads fs path i target ∧ FirstRefusal fs (file.place :: above) target failure := by
  have hproperty? := Export.property?_of_node hnode
  rcases Logged.andThen_result_eq_error.mp h with hfail | ⟨property, hproperty, h⟩
  · rw [refusedPath?_of_ofSyntax hfail] at hnamed
    cases hnamed
  · rw [ofSyntax_result_eq_ok.mp hproperty] at hproperty?
    -- Only a spread goes on to another file; the other properties contribute without fail.
    obtain ⟨name, rfl⟩ : ∃ name, property = .spread (some name) := by
      cases property with
      | identifier name location => cases h
      | string value location => cases h
      | opaqueKind kind => cases h
      | spread name? =>
          cases name? with
          | none => cases h
          | some name => exact ⟨name, rfl⟩
    rcases Logged.andThen_result_eq_error.mp h with hfail | ⟨target?, htarget, h⟩
    · rw [refusedPath?_of_spreadTarget? hfail] at hnamed
      cases hnamed
    · cases target? with
      | none => cases h
      | some target =>
          dsimp only at h
          split at h
          · cases h
          next hidle =>
            rcases Logged.andThen_result_eq_error.mp h with hfail | ⟨found, -, h⟩
            · have hplace := (place_of_spreadTarget? htarget).2
              exact ⟨_, ⟨e, name, target, he, hproperty?, htarget, rfl⟩,
                ih target ⟨hplace, by simpa using hidle⟩ hfail⟩
            · cases h

/-- A visit that refuses a file refuses the first one in the order of the walks. -/
theorem first_refusal_of_visit (henter : Enters fs above path file.place) {failure : Failure}
    {named : Text} (hnamed : failure.refusedPath? = some named)
    (h : (visit fs origin above file path).result = .error failure) :
    FirstRefusal fs above path failure := by
  refine visit_induction (motive := fun above file path =>
    (visit fs origin above file path).result = .error failure → FirstRefusal fs above path failure)
    ?_ henter h
  intro above file path henter ih h
  rcases (visit_result_eq_error henter.place_eq).mp h with hprogram | ⟨e, he, hgather⟩
  · refine ⟨[], [], walkApart_here henter, hprogram, ?_⟩
    intro spreads' stops' _ hlt
    exact absurd hlt (List.not_lt_nil spreads')
  · obtain ⟨i, node, hnode, hfail, hbefore⟩ := Logged.exists_first_of_gather hgather
    obtain ⟨target, hspread, spreads, stops, hwalk, hprogram, hfirst⟩ :=
      first_refusal_of_contribution he hnode hnamed ih hfail
    refine ⟨i :: spreads, target :: stops, ?_, ?_, ?_⟩
    · exact (walkApart_along henter).mpr ⟨target, stops, rfl, hspread, hwalk⟩
    · rwa [List.getLastD_cons]
    · intro spreads' stops' hwalk' hlt
      cases spreads' with
      | nil =>
          cases hwalk'.walk
          exact ⟨_, exists_program_of_exported he⟩
      | cons j spreads' =>
          obtain ⟨other, rest, rfl, hother, hrest⟩ := (walkApart_along henter).mp hwalk'
          -- An earlier walk takes an earlier spread, which contributed, or goes on behind the same
          -- one.
          rcases List.cons_lt_cons_iff.mp hlt with hj | ⟨rfl, hbehind⟩
          · obtain ⟨e', _, _, he', hproperty, -⟩ := hother
            cases he.symm.trans he'
            obtain ⟨earlier, hearlier, -⟩ := Option.map_eq_some_iff.mp hproperty
            obtain ⟨part, hpart⟩ := hbefore j earlier hj hearlier
            exact (visited_of_contribution henter he hearlier hpart hwalk').exists_program
          · rw [hother.target_unique hspread] at hrest ⊢
            rw [List.getLastD_cons]
            exact hfirst spreads' rest hrest hbehind

/-- Extraction is all or nothing. If it ends well, the file at the end of every simple walk is
intact. If it refuses a file, that is the file at the end of a simple walk, and all files before it
in the order of the walks are intact. -/
theorem extract_all_or_nothing (fs : Files) (path : Text) :
    (∀ found, (extract fs path).result = .ok found →
      ∀ spreads stops, SimpleWalk fs path spreads stops → fs.Intact (stops.getLastD path)) ∧
    ∀ failure named, (extract fs path).result = .error failure → failure.refusedPath? = some named →
      ∃ spreads stops, SimpleWalk fs path spreads stops ∧ named = stops.getLastD path ∧
        fs.Refused named failure ∧
        ∀ spreads' stops', SimpleWalk fs path spreads' stops' → spreads' < spreads →
          fs.Intact (stops'.getLastD path) := by
  have hrefused : ∀ (failure : Failure) (named : Text) (stops : List Text),
      failure.refusedPath? = some named → fs.program (stops.getLastD path) = .error failure →
        named = stops.getLastD path ∧ fs.Refused named failure := by
    intro failure named stops hnamed hprogram
    obtain ⟨rfl, hrefused⟩ := refused_of_program hprogram hnamed
    exact ⟨rfl, hrefused⟩
  rcases extract_cases fs path with ⟨file, hplace, hvisit⟩ | ⟨failure, hprogram, hfail⟩
  · rw [hvisit]
    constructor
    · intro found h spreads stops hwalk
      exact program_iff_intact.mp
        (visited_of_visit ⟨hplace, List.not_mem_nil⟩ h (walkApart_nil_above.mpr hwalk)).exists_program
    · intro failure named h hnamed
      obtain ⟨spreads, stops, hwalk, hprogram, hfirst⟩ :=
        first_refusal_of_visit ⟨hplace, List.not_mem_nil⟩ hnamed h
      obtain ⟨hend, hreason⟩ := hrefused failure named stops hnamed hprogram
      refine ⟨spreads, stops, walkApart_nil_above.mp hwalk, hend, hreason, ?_⟩
      intro spreads' stops' hwalk' hlt
      exact program_iff_intact.mp (hfirst spreads' stops' (walkApart_nil_above.mpr hwalk') hlt)
  · rw [hfail]
    constructor
    · intro found h
      cases h
    · intro failure' named h hnamed
      cases h
      obtain ⟨hend, hreason⟩ := hrefused failure named [] hnamed hprogram
      refine ⟨[], [], ⟨.here, by simp⟩, hend, hreason, ?_⟩
      intro spreads' stops' _ hlt
      exact absurd hlt (List.not_lt_nil spreads')

/-- Two spreads away from the first file stands a broken one, and behind it a file that may not be
read. One file is as it should be. -/
def blocked : Files where
  working := ["w"]
  entries := [
    (["w"], .directory),
    (["w", "a.ts"], .file (Utf8.encode ("import b from './b'\nimport e from './e'\n".toList
      ++ "export default \x7b ...b, ...e \x7d\n".toList))),
    (["w", "b.ts"], .file (Utf8.encode
      "import c from './c.js'\nexport default \x7b ...c \x7d\n".toList)),
    (["w", "c.js"], .file (Utf8.encode "f(\n".toList)),
    (["w", "d.ts"], .file (Utf8.encode "export default 1\n".toList)),
    (["w", "e.ts"], .file [])]
  unreadable := [["w", "e.ts"]]

theorem extract_all_or_nothing_blocked :
    blocked.Intact "d.ts" ∧
    ∃ spreads stops, SimpleWalk blocked "a.ts" spreads stops ∧
      Text.ofString "c.js" = stops.getLastD "a.ts" ∧
      blocked.Refused "c.js" (.rejected "c.js" .tsx "unexpected syntax at line 1, column 0") ∧
      ∀ spreads' stops', SimpleWalk blocked "a.ts" spreads' stops' → spreads' < spreads →
        blocked.Intact (stops'.getLastD "a.ts") := by
  have hnone : (extract blocked "d.ts").result = .ok none := by decide +kernel
  have hbroken : (extract blocked "a.ts").result =
      .error (.rejected "c.js" .tsx "unexpected syntax at line 1, column 0") := by decide +kernel
  constructor
  · exact (extract_all_or_nothing blocked "d.ts").1 none hnone [] [] ⟨.here, by simp⟩
  · exact (extract_all_or_nothing blocked "a.ts").2 _ _ hbroken rfl

end LocaleCatalogue
