import LocaleCatalogue.Proofs.Catalogue.Outcome
import LocaleCatalogue.Proofs.Catalogue.Walks
import LocaleCatalogue.Proofs.Files.Found

/-!
# What a visit does

One visit reads a file, looks for its object and goes through the properties. Each property
contributes on its own, and only a spread into a file that is not in progress goes on to another
visit. This module says that once, and says the same of the walks that a visit can still take, so
that later proofs neither unfold the visit nor take a walk apart.
-/

namespace LocaleCatalogue

open Syntax (Node Property)

variable {fs : Files} {origin path : Text} {above : List Place} {file : fs.Found}

/-- What a property contributes to the keys of a file on the way. A spread into a file that is not in
progress goes on by `enter`. -/
def contributionBy (enter : List Place → fs.Found → Text → Logged (Option (List Key)))
    (origin : Text) (above : List Place) (file : fs.Found) (path : Text) (root : Node) :
    Property → Logged (List Key)
  | .identifier name location =>
    .done (if name.isEmpty then [] else [Key.declared name location origin path])
  | .string name location =>
    .done (if name.isEmpty then [] else [Key.declared name location origin path])
  | .opaqueKind kind => (Logged.say (.skippedProperty path kind)).andThen fun _ => .done []
  | .spread none => .done []
  | .spread (some name) =>
    (spreadTarget? fs path name root).andThen fun
      | none => .done []
      | some target =>
        if (file.place :: above).contains target.file.place then
          (Logged.say (.reentered path name target.path.toText)).andThen fun _ => .done []
        else
          (enter (file.place :: above) target.file target.path.toText).andThen
            fun found => .done (found.getD [])

/-- One visit. Where it meets a file that is not in progress it goes on by `enter`. -/
def visitBy (enter : List Place → fs.Found → Text → Logged (Option (List Key)))
    (origin : Text) (above : List Place) (file : fs.Found) (path : Text) :
    Logged (Option (List Key)) :=
  (Logged.ofExcept (readTree path file)).andThen fun (root, source) =>
    (exportedObject? path root).andThen fun
      | none => .done none
      | some object =>
        (Logged.gather (fun node => (ofSyntax (Property.ofNode node source)).andThen
            (contributionBy enter origin above file path root))
          (Syntax.objectProperties object)).andThen fun keys => .done (some keys)

/-- What a property contributes, when a spread goes on by a visit. -/
def contribution (fs : Files) (origin : Text) (above : List Place) (file : fs.Found) (path : Text)
    (root : Node) : Property → Logged (List Key) :=
  contributionBy (visit fs origin) origin above file path root

/-- What the property at a node contributes. -/
def nodeContribution (fs : Files) (origin : Text) (above : List Place) (file : fs.Found)
    (path : Text) (e : Export) (node : Node) : Logged (List Key) :=
  (ofSyntax (Property.ofNode node e.source)).andThen (contribution fs origin above file path e.root)

/-- A visit goes on by visits. -/
theorem visit_eq_visitBy (fs : Files) (origin : Text) :
    visit fs origin = visitBy (visit fs origin) origin := by
  funext above file path
  rw [visit]
  rfl

theorem visit_eq (fs : Files) (origin : Text) (above : List Place) (file : fs.Found) (path : Text) :
    visit fs origin above file path =
      (Logged.ofExcept (readTree path file)).andThen fun (root, source) =>
        (exportedObject? path root).andThen fun
          | none => .done none
          | some object =>
            (Logged.gather (nodeContribution fs origin above file path ⟨root, source, object⟩)
              (Syntax.objectProperties object)).andThen fun keys => .done (some keys) := by
  rw [visit_eq_visitBy]
  rfl

/-- Looking for the object never fails. -/
theorem exportedObject?_result (path : Text) (root : Node) :
    ∃ object?, (exportedObject? path root).result = .ok object? := by
  rw [exportedObject?]
  split
  · exact ⟨none, rfl⟩
  · split
    · exact ⟨none, rfl⟩
    · split
      · exact ⟨some _, rfl⟩
      · exact ⟨none, rfl⟩

/-- A path that leads to the place of a file leads to the program of the file. -/
theorem program_eq_readTree (hplace : fs.realPlace path = .ok file.place) :
    fs.program path = readTree path file := by
  rw [Files.program, Files.found_eq_ok_iff.mpr hplace]

theorem ofSyntax_result_eq_ok {α : Type} {r : Except Syntax.Fault α} {a : α} :
    (ofSyntax r).result = .ok a ↔ r = .ok a := by
  cases r <;> simp [ofSyntax]

theorem Export.property?_of_node {e : Export} {i : Nat} {node : Node}
    (hnode : e.nodes[i]? = some node) :
    e.property? i = some (Property.ofNode node e.source) := by
  rw [Export.property?, hnode, Option.map_some]

/-- Where a node contributes, its property can be read, and the property contributes for it. -/
theorem exists_property_of_nodeContribution {e : Export} {i : Nat} {node : Node}
    (hnode : e.nodes[i]? = some node) {part : List Key}
    (h : (nodeContribution fs origin above file path e node).result = .ok part) :
    ∃ property, e.property? i = some (.ok property) ∧
      nodeContribution fs origin above file path e node =
        contribution fs origin above file path e.root property := by
  obtain ⟨property, hread, -⟩ := Logged.andThen_result_eq_ok.mp h
  have hread := ofSyntax_result_eq_ok.mp hread
  refine ⟨property, ?_, ?_⟩
  · rw [Export.property?_of_node hnode, hread]
  · rw [nodeContribution, hread]
    rfl

/-! ## How a visit ends -/

/-- A visit ends with the program at its path and the contributions of the object that the file
exports. -/
theorem visit_result (hplace : fs.realPlace path = .ok file.place) :
    (visit fs origin above file path).result =
      match fs.program path, fs.exported path with
      | .error failure, _ => .error failure
      | .ok _, none => .ok none
      | .ok _, some e =>
        (Logged.gather (nodeContribution fs origin above file path e) e.nodes).result.map some := by
  rw [visit_eq, Files.exported, program_eq_readTree hplace]
  cases hread : readTree path file with
  | error failure => rfl
  | ok program =>
      obtain ⟨root, source⟩ := program
      obtain ⟨object?, hobject⟩ := exportedObject?_result path root
      simp only [Logged.andThen, Logged.ofExcept, hobject]
      cases object? with
      | none => rfl
      | some object =>
          simp only [Export.nodes]
          cases (Logged.gather (nodeContribution fs origin above file path ⟨root, source, object⟩)
            (Syntax.objectProperties object)).result with
          | error failure => rfl
          | ok keys => rfl

/-- An export comes from a program. -/
theorem exists_program_of_exported {e : Export} (h : fs.exported path = some e) :
    fs.program path = .ok (e.root, e.source) := by
  rw [Files.exported] at h
  split at h
  · cases h
  next root source hprogram =>
    split at h
    · cases h
      exact hprogram
    · cases h

/-- A visit finds keys exactly if the file exports an object and every property of it contributes.
-/
theorem visit_result_eq_some (hplace : fs.realPlace path = .ok file.place) {keys : List Key} :
    (visit fs origin above file path).result = .ok (some keys) ↔
      ∃ e, fs.exported path = some e ∧
        (Logged.gather (nodeContribution fs origin above file path e) e.nodes).result =
          .ok keys := by
  rw [visit_result hplace]
  cases hexported : fs.exported path with
  | none => cases fs.program path <;> simp
  | some e =>
      rw [exists_program_of_exported hexported]
      simp only [Option.some.injEq, exists_eq_left']
      cases (Logged.gather (nodeContribution fs origin above file path e) e.nodes).result <;>
        simp [Except.map]

/-- A visit fails because there is no program at the path, or because a property of the object
fails. -/
theorem visit_result_eq_error (hplace : fs.realPlace path = .ok file.place) {failure : Failure} :
    (visit fs origin above file path).result = .error failure ↔
      fs.program path = .error failure ∨
        ∃ e, fs.exported path = some e ∧
          (Logged.gather (nodeContribution fs origin above file path e) e.nodes).result
            = .error failure := by
  rw [visit_result hplace]
  cases hexported : fs.exported path with
  | none => cases fs.program path <;> simp
  | some e =>
      rw [exists_program_of_exported hexported]
      simp only [Option.some.injEq, reduceCtorEq, false_or, exists_eq_left']
      cases (Logged.gather (nodeContribution fs origin above file path e) e.nodes).result <;>
        simp [Except.map]

/-- A visit that finds nothing was to a file without an object. -/
theorem exported_eq_none_of_visit (hplace : fs.realPlace path = .ok file.place)
    (h : (visit fs origin above file path).result = .ok none) : fs.exported path = none := by
  cases hexported : fs.exported path with
  | none => rfl
  | some e =>
      rw [visit_result hplace, hexported, exists_program_of_exported hexported] at h
      cases hkeys : (Logged.gather
          (nodeContribution fs origin above file path e) e.nodes).result with
      | error failure => simp [hkeys, Except.map] at h
      | ok keys => simp [hkeys, Except.map] at h

/-- A visit that ends well has read the program at its path. -/
theorem exists_program_of_visit (hplace : fs.realPlace path = .ok file.place)
    {found : Option (List Key)} (h : (visit fs origin above file path).result = .ok found) :
    ∃ program, fs.program path = .ok program := by
  cases hprogram : fs.program path with
  | error failure =>
      rw [visit_result hplace, hprogram] at h
      cases h
  | ok program => exact ⟨program, rfl⟩

/-- An extraction is a visit to the file at its path, or there is no program at the path. -/
theorem extract_cases (fs : Files) (path : Text) :
    (∃ file : fs.Found, fs.realPlace path = .ok file.place ∧
      extract fs path = visit fs path [] file path) ∨
      ∃ failure, fs.program path = .error failure ∧ (extract fs path).result = .error failure := by
  cases hfound : fs.found (Path.ofText path) with
  | ok file =>
      refine Or.inl ⟨file, Files.found_eq_ok_iff.mp hfound, ?_⟩
      simp only [extract, hfound]
  | error fault =>
      right
      rw [Files.program, extract, hfound]
      cases fault <;> exact ⟨_, rfl, rfl⟩

/-! ## Spreads -/

/-- What a spread name leads to, by its specifier. -/
theorem spreadTarget?_eq_ok_iff {name : Text} {root : Node} {target? : Option (Target fs)} :
    (spreadTarget? fs path name root).result = .ok target? ↔
      ∃ specifier?, Syntax.defaultImport? root name = .ok specifier? ∧
        match specifier? with
        | none => target? = none
        | some specifier =>
          fs.firstRegular? (candidatePaths (specifierBase path specifier)) = .ok target? := by
  simp only [spreadTarget?, Logged.bind_eq, Logged.pure_eq]
  rw [Logged.andThen_result_eq_ok]
  simp only [ofSyntax_result_eq_ok]
  refine exists_congr fun specifier? => and_congr_right fun _ => ?_
  cases specifier? with
  | none =>
      rw [Logged.say_andThen_result, Logged.done_result, Except.ok.injEq, eq_comm]
  | some specifier =>
      rw [Logged.andThen_result_eq_ok]
      constructor
      · rintro ⟨found?, hfound, h⟩
        cases found? <;> cases h <;> exact hfound
      · intro hfound
        exact ⟨target?, hfound, by cases target? <;> rfl⟩

/-- The target of a spread is spelled plainly and leads to its file. -/
theorem place_of_spreadTarget? {name : Text} {root : Node} {target : Target fs}
    (h : (spreadTarget? fs path name root).result = .ok (some target)) :
    target.path.Plain ∧ fs.realPlace target.path.toText = .ok target.file.place := by
  simp only [spreadTarget?, Logged.bind_eq, Logged.pure_eq] at h
  obtain ⟨specifier?, -, h⟩ := Logged.andThen_result_eq_ok.mp h
  cases specifier? with
  | none => cases h
  | some specifier =>
      obtain ⟨target?, hfirst, h⟩ := Logged.andThen_result_eq_ok.mp h
      cases target? with
      | none => cases h
      | some found =>
          cases h
          obtain ⟨hmem, hplace⟩ := Files.firstRegular?_eq_some hfirst
          have hplain := plain_of_mem_candidatePaths hmem
          refine ⟨hplain, ?_⟩
          -- The key is told the spelling of the target, not the path that was probed. Both lead to
          -- one place.
          rw [Files.realPlace, Path.ofText_toText hplain]
          exact hplace

/-- What a spread leads to is determined by the file and the position. -/
theorem Spreads.target_unique {i : Nat} {target target' : Text} (h : Spreads fs path i target)
    (h' : Spreads fs path i target') : target = target' := by
  obtain ⟨e, name, found, he, hproperty, htarget, rfl⟩ := h
  obtain ⟨e', name', found', he', hproperty', htarget', rfl⟩ := h'
  cases he.symm.trans he'
  cases hproperty.symm.trans hproperty'
  cases htarget.symm.trans htarget'
  rfl

/-! ## Visits behind visits -/

/-- What holds of a visit as soon as it holds of the visits that it goes on to holds of every visit.
-/
theorem visit_induction {motive : List Place → fs.Found → Text → Prop}
    (hvisit : ∀ above file path, Enters fs above path file.place →
      (∀ target : Target fs, Enters fs (file.place :: above) target.path.toText target.file.place →
        motive (file.place :: above) target.file target.path.toText) → motive above file path)
    (henter : Enters fs above path file.place) : motive above file path := by
  induction above, file, path using visit.induct fs with
  | _ above file path ih =>
      apply hvisit above file path henter
      intro target htarget
      exact ih target (by simpa using htarget.idle) htarget

/-! ## Visits that end well -/

/-- Some visit to a path ends well. -/
def Visited (fs : Files) (origin path : Text) : Prop :=
  ∃ (above : List Place) (file : fs.Found) (found : Option (List Key)),
    fs.realPlace path = .ok file.place ∧ (visit fs origin above file path).result = .ok found

theorem Visited.exists_program (h : Visited fs origin path) :
    ∃ program, fs.program path = .ok program := by
  obtain ⟨above, file, found, hplace, hvisit⟩ := h
  exact exists_program_of_visit hplace hvisit

/-- If a visit to an object ends well, every property of it contributed. -/
theorem exists_contribution_of_visit (hplace : fs.realPlace path = .ok file.place)
    {found : Option (List Key)} (h : (visit fs origin above file path).result = .ok found)
    {e : Export} (he : fs.exported path = some e) {i : Nat} {node : Node}
    (hnode : e.nodes[i]? = some node) :
    ∃ part, (nodeContribution fs origin above file path e node).result = .ok part := by
  cases found with
  | none =>
      rw [exported_eq_none_of_visit hplace h] at he
      cases he
  | some keys =>
      obtain ⟨e', he', hkeys⟩ := (visit_result_eq_some hplace).mp h
      cases he.symm.trans he'
      obtain ⟨parts, -, hlength, hparts⟩ := Logged.exists_parts_of_gather hkeys
      have hi : i < parts.length := hlength ▸ (List.getElem?_eq_some_iff.mp hnode).1
      exact ⟨_, hparts i node _ hnode (List.getElem?_eq_getElem hi)⟩

/-- Where a visit ended well, the search for the target of every spread did. -/
theorem Visited.exists_target (h : Visited fs origin path) {e : Export}
    (he : fs.exported path = some e) {i : Nat} {name : Text}
    (hproperty : e.property? i = some (.ok (.spread (some name)))) :
    ∃ target?, (spreadTarget? fs path name e.root).result = .ok target? := by
  obtain ⟨above, file, found, hplace, hvisit⟩ := h
  obtain ⟨node, hnode, -⟩ := Option.map_eq_some_iff.mp hproperty
  obtain ⟨part, hpart⟩ := exists_contribution_of_visit hplace hvisit he hnode
  obtain ⟨property, hread, heq⟩ := exists_property_of_nodeContribution hnode hpart
  cases hproperty.symm.trans hread
  rw [heq] at hpart
  obtain ⟨target?, htarget, -⟩ := Logged.andThen_result_eq_ok.mp hpart
  exact ⟨target?, htarget⟩

/-- Behind a property that contributed, a walk goes on from a visit that ended well. -/
theorem exists_visit_of_contribution (henter : Enters fs above path file.place) {e : Export}
    (he : fs.exported path = some e) {i : Nat} {node : Node} (hnode : e.nodes[i]? = some node)
    {part : List Key} (h : (nodeContribution fs origin above file path e node).result = .ok part)
    {spreads : List Nat} {stops : List Text}
    (hwalk : WalkApart fs above path (i :: spreads) stops) :
    ∃ (target : Target fs) (rest : List Text) (found : Option (List Key)),
      stops = target.path.toText :: rest ∧
      Enters fs (file.place :: above) target.path.toText target.file.place ∧
      (visit fs origin (file.place :: above) target.file target.path.toText).result = .ok found ∧
      WalkApart fs (file.place :: above) target.path.toText spreads rest := by
  obtain ⟨_, rest, rfl, ⟨e', name, target, he', hproperty, htarget, rfl⟩, hrest⟩ :=
    (walkApart_along henter).mp hwalk
  cases he.symm.trans he'
  obtain ⟨property, hread, heq⟩ := exists_property_of_nodeContribution hnode h
  cases hproperty.symm.trans hread
  rw [heq] at h
  obtain ⟨target?, htarget?, h⟩ := Logged.andThen_result_eq_ok.mp h
  cases htarget.symm.trans htarget?
  have hplace := (place_of_spreadTarget? htarget).2
  have hidle : target.file.place ∉ file.place :: above := fun hbusy =>
    hrest.apart _ List.mem_cons_self _ hbusy hplace
  dsimp only at h
  rw [if_neg (by simpa using hidle)] at h
  obtain ⟨found, hfound, -⟩ := Logged.andThen_result_eq_ok.mp h
  exact ⟨target, rest, found, rfl, ⟨hplace, hidle⟩, hfound, hrest⟩

/-- If a visit ends well, so does a visit to the end of every walk that it could take. -/
theorem visited_of_visit (henter : Enters fs above path file.place) {found : Option (List Key)}
    (h : (visit fs origin above file path).result = .ok found)
    {spreads : List Nat} {stops : List Text} (hwalk : WalkApart fs above path spreads stops) :
    Visited fs origin (stops.getLastD path) := by
  induction spreads generalizing above path file found stops with
  | nil =>
      cases hwalk.walk
      exact ⟨above, file, found, henter.place_eq, h⟩
  | cons i spreads ih =>
      obtain ⟨_, _, -, ⟨e, _, _, he, hproperty, -⟩, -⟩ := (walkApart_along henter).mp hwalk
      obtain ⟨node, hnode, -⟩ := Option.map_eq_some_iff.mp hproperty
      obtain ⟨part, hpart⟩ := exists_contribution_of_visit henter.place_eq h he hnode
      obtain ⟨target, rest, found, rfl, htarget, hvisit, hrest⟩ :=
        exists_visit_of_contribution henter he hnode hpart hwalk
      rw [List.getLastD_cons]
      exact ih htarget hvisit hrest

/-- If a property contributed, every walk behind it ends where a visit ended well. -/
theorem visited_of_contribution (henter : Enters fs above path file.place) {e : Export}
    (he : fs.exported path = some e) {i : Nat} {node : Node} (hnode : e.nodes[i]? = some node)
    {part : List Key} (h : (nodeContribution fs origin above file path e node).result = .ok part)
    {spreads : List Nat} {stops : List Text}
    (hwalk : WalkApart fs above path (i :: spreads) stops) :
    Visited fs origin (stops.getLastD path) := by
  obtain ⟨target, rest, found, rfl, htarget, hvisit, hrest⟩ :=
    exists_visit_of_contribution henter he hnode h hwalk
  rw [List.getLastD_cons]
  exact visited_of_visit htarget hvisit hrest

end LocaleCatalogue
