import LocaleCatalogue.Proofs.Catalogue.NonMatches

/-!
# The account of what does not match

What an extraction says is an account of what it passed over. Every non-match makes one remark that
names its file, in the order of the addresses, and there are no other remarks. The account has two
gaps: a default export that is a declaration and a spread of something other than a name are passed
over in silence.
-/

namespace LocaleCatalogue

open Syntax (Node Property)

variable {fs : Files} {origin path : Text} {above : List Place} {file : fs.Found}

/-! ## Records -/

/-- The remark that is made about a non-match, if there is one. -/
def NonMatch.record? (n : NonMatch) : Option Remark :=
  match n.cause with
  | .noExport => some (.noDefaultExport n.path)
  | .declaration => none
  | .notAnObject kind => some (.notAnObject n.path kind)
  | .unknownShape kind => some (.skippedProperty n.path kind)
  | .unnamedSpread => none
  | .unbound name => some (.unboundName n.path name)
  | .missing name specifier => some (.targetMissing n.path name specifier)
  | .reentry name target => some (.reentered n.path name target)

/-- A non-match that nothing is said about. -/
def NonMatch.IsSilent (n : NonMatch) : Prop := n.cause = .declaration ∨ n.cause = .unnamedSpread

/-- How loud the remark about a non-match has to be: only a spread that leads back is worth a warning.
-/
def NonMatch.level (n : NonMatch) : Level :=
  match n.cause with
  | .reentry .. => .warning
  | _ => .debug

/-- A remark names a file if its wording begins with the path of the file. -/
def Remark.Names (r : Remark) (path : Text) : Prop := path ++ Text.ofString ": " <+: r.message

theorem NonMatch.record?_eq_none_iff {n : NonMatch} : n.record? = none ↔ n.IsSilent := by
  obtain ⟨path, cause⟩ := n
  cases cause <;> simp [record?, IsSilent]

theorem NonMatch.record?_level {n : NonMatch} {r : Remark} (h : n.record? = some r) :
    r.level = n.level := by
  obtain ⟨path, cause⟩ := n
  cases cause <;> cases h <;> rfl

/-- The remark about a non-match names the file in which it was met. -/
theorem NonMatch.record?_names {n : NonMatch} {r : Remark} (h : n.record? = some r) :
    r.Names n.path := by
  obtain ⟨path, cause⟩ := n
  cases cause <;> cases h <;>
    simp [Remark.Names, Remark.message, Text.ofString, Text.ofChars, toString]

/-! ## Accounts -/

/-- Remarks give an account of what stands at which address: they are the records of all these
non-matches in the order of the addresses. -/
def Accounts (stands : List Nat → NonMatch → Prop) (remarks : List Remark) : Prop :=
  ∃ met, Listed stands met ∧ remarks = met.filterMap NonMatch.record?

theorem Accounts.congr {stands other : List Nat → NonMatch → Prop} {remarks : List Remark}
    (h : Accounts stands remarks) (hsame : ∀ address n, stands address n ↔ other address n) :
    Accounts other remarks := by
  obtain ⟨met, hlisted, hremarks⟩ := h
  exact ⟨met, hlisted.congr hsame, hremarks⟩

/-- Where nothing stands there is nothing to say. -/
theorem accounts_empty {stands : List Nat → NonMatch → Prop} (h : ∀ address n, ¬ stands address n) :
    Accounts stands [] := ⟨[], .empty h, rfl⟩

theorem accounts_single {stands : List Nat → NonMatch → Prop} {n : NonMatch}
    (h : ∀ address m, stands address m ↔ address = [] ∧ m = n) :
    Accounts stands n.record?.toList := by
  refine ⟨[n], (Listed.single n).congr fun address m => (h address m).symm, ?_⟩
  rw [List.filterMap_cons, List.filterMap_nil]
  cases n.record? <;> rfl

/-! ## Files -/

/-- What looking for the object says is the record of what the file lacks. -/
theorem exportedObject?_lacks {root : Node} {source : Bytes} (hprogram : fs.program path = .ok (root, source))
    (hnone : fs.exported path = none) :
    ∃ cause, FileLacks fs path cause ∧
      (exportedObject? path root).remarks = (NonMatch.mk path cause).record?.toList := by
  cases hdefault : Syntax.defaultExport? root with
  | none =>
      refine ⟨.noExport, .noExport hprogram hdefault, ?_⟩
      simp only [exportedObject?, hdefault]
      rfl
  | some statement =>
      cases hexpression : Syntax.exportedExpression? statement with
      | none =>
          refine ⟨.declaration, .declaration hprogram hdefault hexpression, ?_⟩
          simp only [exportedObject?, hdefault, hexpression]
          rfl
      | some expression =>
          have hkind : expression.unwrapped.kind ≠ "object" := by
            intro hkind
            rw [Files.exported, hprogram] at hnone
            simp only [exportedObject?, hdefault, hexpression, Option.map_some, if_pos hkind] at hnone
            cases hnone
          refine ⟨_, .notAnObject hprogram hdefault hexpression hkind, ?_⟩
          simp only [exportedObject?, hdefault, hexpression, Option.map_some, if_neg hkind]
          rfl

/-- Nothing is said while the object of a file is found. -/
theorem exportedObject?_of_exported {e : Export} (he : fs.exported path = some e) :
    exportedObject? path e.root = .done (some e.object) := by
  have hlacks := fun cause (h : FileLacks fs path cause) => he.symm.trans h.exported_eq_none
  have hprogram := exists_program_of_exported he
  rw [Files.exported, hprogram] at he
  cases hdefault : Syntax.defaultExport? e.root with
  | none => cases hlacks _ (.noExport hprogram hdefault)
  | some statement =>
      cases hexpression : Syntax.exportedExpression? statement with
      | none => cases hlacks _ (.declaration hprogram hdefault hexpression)
      | some expression =>
          by_cases hkind : expression.unwrapped.kind = "object"
          · simp only [exportedObject?, hdefault, hexpression, Option.map_some, if_pos hkind] at he ⊢
            exact congrArg (fun e => Logged.done (some e.object)) (Option.some.inj he)
          · cases hlacks _ (.notAnObject hprogram hdefault hexpression hkind)

/-- A file lacks its object for one reason only. -/
theorem FileLacks.unique {cause cause' : NonMatch.Cause} (h : FileLacks fs path cause)
    (h' : FileLacks fs path cause') : cause = cause' := by
  cases h <;> cases h' <;> simp_all

/-! ## Properties -/

section Property

variable {e : Export} {i : Nat} {property : Property} {n : NonMatch} {address : List Nat}

/-- What the property at a position lacks can be read off the property. -/
theorem propertyLacks_iff (he : fs.exported path = some e)
    (hproperty : e.property? i = some (.ok property)) {busy : Text → Prop} {cause : NonMatch.Cause} :
    PropertyLacks fs busy path i cause ↔
      match property with
      | .opaqueKind kind => cause = .unknownShape kind
      | .spread none => cause = .unnamedSpread
      | .spread (some name) =>
        (Syntax.defaultImport? e.root name = .ok none ∧ cause = .unbound name) ∨
        (∃ specifier, Syntax.defaultImport? e.root name = .ok (some specifier) ∧
          fs.firstRegular? (candidatePaths (specifierBase path specifier)) = .ok none ∧
          cause = .missing name specifier) ∨
        ∃ target, (spreadTarget? fs path name e.root).result = .ok (some target) ∧
          busy target.path.toText ∧ cause = .reentry name target.path.toText
      | _ => False := by
  have hspreads : ∀ {e' : Export} {name : Text}, SpreadsName fs path e' i name →
      e' = e ∧ property = .spread (some name) := by
    rintro e' name ⟨he', hname⟩
    cases he.symm.trans he'
    cases hproperty.symm.trans hname
    exact ⟨rfl, rfl⟩
  constructor
  · rintro (hdeclares | hdeclares | ⟨hname, himport⟩ | ⟨hname, himport, hfirst⟩ | ⟨hname, htarget, hbusy⟩)
    · obtain rfl := ((declares_iff he hproperty).mp hdeclares).symm
      rfl
    · obtain rfl := ((declares_iff he hproperty).mp hdeclares).symm
      rfl
    · obtain ⟨rfl, rfl⟩ := hspreads hname
      exact Or.inl ⟨himport, rfl⟩
    · obtain ⟨rfl, rfl⟩ := hspreads hname
      exact Or.inr (Or.inl ⟨_, himport, hfirst, rfl⟩)
    · obtain ⟨rfl, rfl⟩ := hspreads hname
      exact Or.inr (Or.inr ⟨_, htarget, hbusy, rfl⟩)
  · intro h
    cases property with
    | identifier | string => cases h
    | opaqueKind kind =>
        subst h
        exact .unknownShape ⟨e, he, hproperty⟩
    | spread name? =>
        cases name? with
        | none =>
            subst h
            exact .unnamedSpread ⟨e, he, hproperty⟩
        | some name =>
            rcases h with ⟨himport, rfl⟩ | ⟨specifier, himport, hfirst, rfl⟩ |
              ⟨target, htarget, hbusy, rfl⟩
            · exact .unbound ⟨he, hproperty⟩ himport
            · exact .missing ⟨he, hproperty⟩ himport hfirst
            · exact .reentry ⟨he, hproperty⟩ htarget hbusy

theorem spreads_iff (he : fs.exported path = some e) (hproperty : e.property? i = some (.ok property))
    {target : Text} : Spreads fs path i target ↔
      ∃ name found, property = .spread (some name) ∧
        (spreadTarget? fs path name e.root).result = .ok (some found) ∧ found.path.toText = target := by
  constructor
  · rintro ⟨e', name, found, he', hname, htarget, rfl⟩
    cases he.symm.trans he'
    cases hproperty.symm.trans hname
    exact ⟨name, found, rfl, htarget, rfl⟩
  · rintro ⟨name, found, rfl, htarget, rfl⟩
    exact ⟨e, name, found, he, hproperty, htarget, rfl⟩

/-- Where a property lacks one thing and leads nowhere, its only non-match is what it lacks. -/
theorem accounts_of_lacks (henter : Enters fs above path file.place) {cause : NonMatch.Cause}
    (hlacks : ∀ other, PropertyLacks fs (fun target =>
      ∃ q, fs.realPlace target = .ok q ∧ q ∈ file.place :: above) path i other ↔ other = cause)
    (hbehind : ∀ target, Spreads fs path i target →
      ∀ address n, ¬ NonMatchApart fs (file.place :: above) target address n) :
    Accounts (fun address n => NonMatchApart fs above path (i :: address) n)
      (NonMatch.mk path cause).record?.toList := by
  apply accounts_single
  intro address n
  rw [nonMatchApart_cons henter, or_iff_left fun ⟨target, hspreads, hrest⟩ =>
    hbehind target hspreads address n hrest, hlacks]
  obtain ⟨_, other⟩ := n
  rw [NonMatch.mk.injEq]

/-- No walk apart from a place begins there, so nothing stands there either. -/
theorem not_nonMatchApart_of_mem {place : Place} (hplace : fs.realPlace path = .ok place)
    (hbusy : place ∈ above) : ¬ NonMatchApart fs above path address n := by
  rintro (⟨hwalk, -⟩ | ⟨hwalk, -⟩)
  · exact hwalk.apart path List.mem_cons_self place hbusy hplace
  · exact hwalk.apart path List.mem_cons_self place hbusy hplace

/-- What is said while the target of a spread is looked for. -/
theorem spreadTarget?_remarks {name : Text} {root : Node} {target? : Option (Target fs)}
    (h : (spreadTarget? fs path name root).result = .ok target?) :
    (Syntax.defaultImport? root name = .ok none ∧ target? = none ∧
        (spreadTarget? fs path name root).remarks = [.unboundName path name]) ∨
      (∃ specifier, Syntax.defaultImport? root name = .ok (some specifier) ∧
        fs.firstRegular? (candidatePaths (specifierBase path specifier)) = .ok none ∧ target? = none ∧
        (spreadTarget? fs path name root).remarks = [.targetMissing path name specifier]) ∨
      ((∃ specifier, Syntax.defaultImport? root name = .ok (some specifier) ∧
        fs.firstRegular? (candidatePaths (specifierBase path specifier)) = .ok target?) ∧
        target?.isSome ∧ (spreadTarget? fs path name root).remarks = []) := by
  obtain ⟨specifier?, himport, hfirst⟩ := spreadTarget?_eq_ok_iff.mp h
  rw [himport]
  cases specifier? with
  | none =>
      refine Or.inl ⟨rfl, hfirst, ?_⟩
      simp only [spreadTarget?, himport, ofSyntax]
      rfl
  | some specifier =>
      dsimp only at hfirst
      cases target? with
      | none =>
          refine Or.inr (Or.inl ⟨specifier, rfl, hfirst, rfl, ?_⟩)
          simp only [spreadTarget?, himport, ofSyntax, Logged.bind_eq, Logged.done_andThen, hfirst]
          rfl
      | some target =>
          refine Or.inr (Or.inr ⟨⟨specifier, rfl, hfirst⟩, rfl, ?_⟩)
          simp only [spreadTarget?, himport, ofSyntax, Logged.bind_eq, Logged.done_andThen, hfirst]
          rfl

/-- What is said in the files that a file may still lead to is an account of what stands there. -/
def AccountsBehind (fs : Files) (origin : Text) (above : List Place) (file : fs.Found) : Prop :=
  ∀ target : Target fs, Enters fs (file.place :: above) target.path.toText target.file.place →
    ∀ found, (visit fs origin (file.place :: above) target.file target.path.toText).result = .ok found →
      Accounts (NonMatchApart fs (file.place :: above) target.path.toText)
        (visit fs origin (file.place :: above) target.file target.path.toText).remarks

/-- What a spread says is an account of what stands behind its position. -/
theorem spread_accounts (henter : Enters fs above path file.place) (he : fs.exported path = some e)
    {name : Text} (hproperty : e.property? i = some (.ok (.spread (some name))))
    (ih : AccountsBehind fs origin above file)
    {part : List Key}
    (h : (contribution fs origin above file path e.root (.spread (some name))).result = .ok part) :
    Accounts (fun address n => NonMatchApart fs above path (i :: address) n)
      (contribution fs origin above file path e.root (.spread (some name))).remarks := by
  obtain ⟨target?, htarget, h⟩ := Logged.andThen_result_eq_ok.mp h
  have hnowhere : target? = none → ∀ target, Spreads fs path i target →
      ∀ address n, ¬ NonMatchApart fs (file.place :: above) target address n := by
    rintro rfl target hspreads
    obtain ⟨_, found, ⟨⟩, hfound, -⟩ := (spreads_iff he hproperty).mp hspreads
    cases htarget.symm.trans hfound
  rw [contribution, contributionBy, Logged.andThen_remarks htarget]
  rcases spreadTarget?_remarks htarget with ⟨himport, rfl, hsaid⟩ |
    ⟨specifier, himport, hfirst, rfl, hsaid⟩ | ⟨⟨specifier, himport, hfirst⟩, hsome, hsaid⟩
  · rw [hsaid]
    refine @accounts_of_lacks fs path above file i henter (.unbound name) (fun other => ?_) (hnowhere rfl)
    rw [propertyLacks_iff he hproperty]
    simp [himport, htarget]
  · rw [hsaid]
    refine @accounts_of_lacks fs path above file i henter (.missing name specifier) (fun other => ?_)
      (hnowhere rfl)
    rw [propertyLacks_iff he hproperty]
    simp [himport, hfirst, htarget]
  · obtain ⟨target, rfl⟩ := Option.isSome_iff_exists.mp hsome
    have hplace := (place_of_spreadTarget? htarget).2
    have hspreads : ∀ other, Spreads fs path i other ↔ other = target.path.toText := by
      intro other
      rw [spreads_iff he hproperty]
      simp [htarget, eq_comm]
    rw [hsaid, List.nil_append]
    dsimp only at h ⊢
    by_cases hbusy : target.file.place ∈ file.place :: above
    · rw [if_pos (by simpa using hbusy)]
      refine @accounts_of_lacks fs path above file i henter (.reentry name target.path.toText)
        (fun other => ?_) ?_
      · rw [propertyLacks_iff he hproperty]
        simpa [himport, hfirst, htarget, hplace] using fun _ => List.mem_cons.mp hbusy
      · intro other hother address n
        rw [(hspreads other).mp hother]
        exact not_nonMatchApart_of_mem hplace hbusy
    · rw [if_neg (by simpa using hbusy)] at h ⊢
      obtain ⟨found, hfound, -⟩ := Logged.andThen_result_eq_ok.mp h
      rw [Logged.andThen_remarks hfound, Logged.done, List.append_nil]
      apply (ih target ⟨hplace, hbusy⟩ found hfound).congr
      intro address n
      have hlacks : ∀ cause, ¬ PropertyLacks fs (fun other =>
          ∃ q, fs.realPlace other = .ok q ∧ q ∈ file.place :: above) path i cause := by
        intro cause
        rw [propertyLacks_iff he hproperty]
        simpa [himport, hfirst, htarget, hplace] using fun hmem =>
          absurd (List.mem_cons.mpr hmem) hbusy
      rw [nonMatchApart_cons henter, or_iff_right fun h => hlacks _ h.2.2]
      simp [hspreads]

/-- What a property says is an account of what stands behind its position. -/
theorem contribution_accounts (henter : Enters fs above path file.place) (he : fs.exported path = some e)
    (hproperty : e.property? i = some (.ok property))
    (ih : AccountsBehind fs origin above file)
    {part : List Key}
    (h : (contribution fs origin above file path e.root property).result = .ok part) :
    Accounts (fun address n => NonMatchApart fs above path (i :: address) n)
      (contribution fs origin above file path e.root property).remarks := by
  have hbehind : (∀ name, property ≠ .spread (some name)) → ∀ target, Spreads fs path i target →
      ∀ address n, ¬ NonMatchApart fs (file.place :: above) target address n := by
    intro hspread target hspreads
    obtain ⟨name, -, heq, -⟩ := (spreads_iff he hproperty).mp hspreads
    exact absurd heq (hspread name)
  cases property with
  | identifier | string =>
      apply accounts_empty
      intro address n
      rw [nonMatchApart_cons henter, propertyLacks_iff he hproperty]
      rintro (⟨-, -, hlacks⟩ | ⟨target, hspreads, hrest⟩)
      · exact hlacks
      · exact hbehind (by simp) target hspreads address n hrest
  | opaqueKind kind =>
      exact @accounts_of_lacks fs path above file i henter (.unknownShape kind)
        (fun other => propertyLacks_iff he hproperty) (hbehind (by simp))
  | spread name? =>
      cases name? with
      | none =>
          exact @accounts_of_lacks fs path above file i henter .unnamedSpread
            (fun other => propertyLacks_iff he hproperty) (hbehind (by simp))
      | some name => exact spread_accounts henter he hproperty ih h

theorem nodeContribution_accounts (henter : Enters fs above path file.place)
    (he : fs.exported path = some e) {node : Node} (hnode : e.nodes[i]? = some node)
    (ih : AccountsBehind fs origin above file)
    {part : List Key} (h : (nodeContribution fs origin above file path e node).result = .ok part) :
    Accounts (fun address n => NonMatchApart fs above path (i :: address) n)
      (nodeContribution fs origin above file path e node).remarks := by
  obtain ⟨property, hproperty, heq⟩ := exists_property_of_nodeContribution hnode h
  rw [heq] at h ⊢
  exact contribution_accounts henter he hproperty ih h

end Property

/-! ## Extractions -/

/-- A visit to a file without an object says what the search for the object says. -/
theorem visit_remarks_of_exported_eq_none (hplace : fs.realPlace path = .ok file.place) {root : Node}
    {source : Bytes} (hprogram : fs.program path = .ok (root, source))
    (hnone : fs.exported path = none) :
    (visit fs origin above file path).remarks = (exportedObject? path root).remarks := by
  have hread := (program_eq_readTree hplace).symm.trans hprogram
  obtain ⟨object?, hobject⟩ := exportedObject?_result path root
  have hobject? : object? = none := by
    rw [Files.exported, hprogram] at hnone
    cases object? with
    | none => rfl
    | some object => simp [hobject] at hnone
  subst hobject?
  rw [visit_eq, hread, Logged.ofExcept_ok, Logged.done_andThen]
  dsimp only
  rw [Logged.andThen_remarks hobject, Logged.done, List.append_nil]

theorem exists_keys_of_visit (hplace : fs.realPlace path = .ok file.place) {found : Option (List Key)}
    (h : (visit fs origin above file path).result = .ok found) {e : Export}
    (he : fs.exported path = some e) :
    ∃ keys, (Logged.gather (nodeContribution fs origin above file path e) e.nodes).result = .ok keys := by
  rw [visit_result hplace, he, exists_program_of_exported he] at h
  cases hkeys : (Logged.gather (nodeContribution fs origin above file path e) e.nodes).result with
  | error failure => simp [hkeys, Except.map] at h
  | ok keys => exact ⟨keys, rfl⟩

/-- A visit to a file with an object says what the properties of the object say. -/
theorem visit_remarks_of_exported (hplace : fs.realPlace path = .ok file.place) {e : Export}
    (he : fs.exported path = some e) {keys : List Key}
    (hkeys : (Logged.gather (nodeContribution fs origin above file path e) e.nodes).result = .ok keys) :
    (visit fs origin above file path).remarks =
      (Logged.gather (nodeContribution fs origin above file path e) e.nodes).remarks := by
  have hread := (program_eq_readTree hplace).symm.trans (exists_program_of_exported he)
  rw [visit_eq, hread, Logged.ofExcept_ok, Logged.done_andThen]
  dsimp only
  rw [exportedObject?_of_exported he, Logged.done_andThen]
  dsimp only
  exact (Logged.andThen_remarks hkeys).trans (List.append_nil _)

/-- An address begins with the position of a property. -/
theorem nonMatchApart_lt (henter : Enters fs above path file.place) {e : Export}
    (he : fs.exported path = some e) {i : Nat} {address : List Nat} {n : NonMatch}
    (h : NonMatchApart fs above path (i :: address) n) : i < e.nodes.length := by
  rcases (nonMatchApart_cons henter).mp h with ⟨-, -, hlacks⟩ | ⟨_, ⟨e', _, _, he', hproperty, -⟩, -⟩
  · obtain ⟨e', _, he', hproperty⟩ := hlacks.exists_exported
    cases he.symm.trans he'
    exact lt_of_property? hproperty
  · cases he.symm.trans he'
    exact lt_of_property? hproperty

/-- What a visit says is an account of what stands on the walks that it can still take. -/
theorem visit_accounts (henter : Enters fs above path file.place) {found : Option (List Key)}
    (h : (visit fs origin above file path).result = .ok found) :
    Accounts (NonMatchApart fs above path) (visit fs origin above file path).remarks := by
  refine visit_induction (motive := fun above file path => ∀ found,
    (visit fs origin above file path).result = .ok found →
      Accounts (NonMatchApart fs above path) (visit fs origin above file path).remarks) ?_ henter found h
  intro above file path henter ih found h
  cases hexported : fs.exported path with
  | none =>
      obtain ⟨⟨root, source⟩, hprogram⟩ := exists_program_of_visit henter.place_eq h
      obtain ⟨cause, hlacks, hsaid⟩ := exportedObject?_lacks hprogram hexported
      rw [visit_remarks_of_exported_eq_none henter.place_eq hprogram hexported, hsaid]
      apply accounts_single
      intro address n
      cases address with
      | nil =>
          obtain ⟨_, other⟩ := n
          rw [nonMatchApart_nil henter, eq_self, true_and, NonMatch.mk.injEq]
          exact and_congr_right fun _ => ⟨fun hother => hother.unique hlacks, fun heq => heq ▸ hlacks⟩
      | cons i address =>
          rw [nonMatchApart_cons henter]
          constructor
          · rintro (⟨-, -, hproperty⟩ | ⟨_, ⟨e, _, _, he, -⟩, -⟩)
            · obtain ⟨e, _, he, -⟩ := hproperty.exists_exported
              cases hexported.symm.trans he
            · cases hexported.symm.trans he
          · rintro ⟨⟨⟩, -⟩
  | some e =>
      obtain ⟨keys, hkeys⟩ := exists_keys_of_visit henter.place_eq h hexported
      rw [visit_remarks_of_exported henter.place_eq hexported hkeys]
      obtain ⟨parts, hlength, hparts, hremarks⟩ :=
        @Logged.exists_parts_of_gather_remarks Node Key NonMatch _ _ _ hkeys
          (fun i met => Listed (fun address n => NonMatchApart fs above path (i :: address) n) met)
          NonMatch.record? (fun i node part hnode hpart =>
            nodeContribution_accounts henter hexported hnode ih hpart)
      refine ⟨parts.flatten, ?_, hremarks⟩
      -- Every property lists its part behind its position, so the file lists the parts one after
      -- another.
      refine Listed.of_parts (fun n hn => ?_) hparts
        (fun i address n hn => hlength ▸ nonMatchApart_lt henter hexported hn)
      have hnone := ((nonMatchApart_nil henter).mp hn).2.exported_eq_none
      cases hexported.symm.trans hnone

/-- What an extraction says is an account of what it passed over: every non-match makes at most one
remark, in visiting order, and there are no other remarks. A remark names the file in which the
non-match was met, as a warning if a file in progress was met again and as a detail otherwise. Only
declarations and spreads of something other than a name are passed over in silence. -/
theorem extract_accounts (fs : Files) (path : Text) {found : Option (List Key)}
    (h : (extract fs path).result = .ok found) :
    ∃ met, Listed (NonMatchAt fs path) met ∧
      (extract fs path).remarks = met.filterMap NonMatch.record? ∧
      ∀ n ∈ met, (n.record? = none ↔ n.IsSilent) ∧
        ∀ r, n.record? = some r → r.Names n.path ∧ r.level = n.level := by
  rcases extract_cases fs path with ⟨file, hplace, hvisit⟩ | ⟨failure, -, hfail⟩
  · rw [hvisit] at h ⊢
    obtain ⟨met, hlisted, hremarks⟩ := visit_accounts ⟨hplace, List.not_mem_nil⟩ h
    exact ⟨met, hlisted, hremarks, fun n _ => ⟨NonMatch.record?_eq_none_iff, fun r hr =>
      ⟨NonMatch.record?_names hr, NonMatch.record?_level hr⟩⟩⟩
  · rw [hfail] at h
    cases h

/-- A file whose spreads lead nowhere, to a declaration and back. -/
def patchy : Files where
  working := ["w"]
  entries := [
    (["w"], .directory),
    (["w", "a.ts"], .file (Utf8.encode
      ("import b from './b'\nimport c from './c'\nimport m from './m'\n".toList
      ++ "export default \x7b ...f(), ...b, [z]: 1, k, ...c, ...m, ...x \x7d\n".toList))),
    (["w", "b.ts"], .file (Utf8.encode "export default function f() \x7b\x7d\n".toList)),
    (["w", "c.ts"], .file (Utf8.encode
      "import a from './a'\nexport default \x7b ...a \x7d\n".toList))]

theorem extract_accounts_patchy :
    (extract patchy "a.ts").result = .ok (some [⟨"k", ⟨4, 39, 4, 40⟩, "a.ts", "a.ts"⟩]) ∧
    ∃ met, Listed (NonMatchAt patchy "a.ts") met ∧
      (extract patchy "a.ts").remarks = met.filterMap NonMatch.record? ∧
      ∀ n ∈ met, (n.record? = none ↔ n.IsSilent) ∧
        ∀ r, n.record? = some r → r.Names n.path ∧ r.level = n.level := by
  have hresult : (extract patchy "a.ts").result =
      .ok (some [⟨"k", ⟨4, 39, 4, 40⟩, "a.ts", "a.ts"⟩]) := by decide +kernel
  exact ⟨hresult, extract_accounts patchy "a.ts" hresult⟩

end LocaleCatalogue
