import LocaleCatalogue.Proofs.Catalogue.Alike
import LocaleCatalogue.Proofs.Syntax.Comments
import LocaleCatalogue.Syntax.Import
import LocaleCatalogue.Syntax.Property

/-!
# Analyses that see through comments

Trees that differ in comments at the harmless places have the same default export, unwrapped alike,
the same properties and the same imports, apart from columns. At the two other places a comment hides
what stands beside it: parentheses that hold it are not unwrapped, and a spread that begins with it
has no name.
-/

namespace LocaleCatalogue.Syntax

variable {region : Region} {gaps : Gaps} {n m : Node} {ns ms : List Node}

/-! ### Default exports -/

theorem namedChildren_find? {p : Node → Bool} (n : Node) :
    n.namedChildren.find? p = n.children.find? fun c => c.named && p c := by
  simp only [Node.namedChildren, List.find?_filter, Bool.decide_and, Bool.decide_eq_true]

theorem any_kind_eq (h : Interspersed Commented gaps region ns ms) {kind : String}
    (hkind : kind ≠ "comment") : (ms.any (·.kind = kind)) = ns.any (·.kind = kind) := by
  induction h with
  | nil => rfl
  | both hnode _ ih => rw [List.any_cons, List.any_cons, ih, hnode.matches_.kind]
  | comment hc _ _ ih => rw [List.any_cons, ih, hc.1, decide_eq_false hkind.symm, Bool.false_or]

theorem defaultExport?_commented (h : Commented .program n m) :
    Option.Rel (Commented .statement) (defaultExport? n) (defaultExport? m) := by
  rw [defaultExport?, defaultExport?, namedChildren_find?, namedChildren_find?]
  refine h.children.find? (fun c hc => by simp [hc.1]) fun a b hab => ?_
  rw [hab.matches_.named, hab.matches_.kind, any_kind_eq hab.children (by decide)]

theorem childByField_commented (h : Commented region n m) (field : String) :
    Option.Rel (Commented (region.below n.kind)) (n.childByField field) (m.childByField field) :=
  h.children.find? (fun c hc => by simp [hc.2.2]) fun a b hab => by rw [hab.matches_.field]

/-! ### Unwrapping -/

/-- Regions where comments directly inside parentheses are not seen through. -/
def Region.IsWrapped (region : Region) : Prop := region = .value ∨ region = .operand

theorem Region.IsWrapped.parens (h : region.IsWrapped) :
    region.below "parenthesized_expression" = region ∧ region.gaps "parenthesized_expression" = .nowhere := by
  rcases h with rfl | rfl <;> decide

theorem withoutParens_eq (n : Node) :
    n.withoutParens =
      if n.kind = "parenthesized_expression" then (soleWithoutParens n.children).getD n else n := by
  cases n
  rw [Node.withoutParens]

theorem any_named_eq {R : Node → Node → Prop} (hR : ∀ n m, R n m → m.named = n.named)
    (h : List.Forall₂ R ns ms) : ms.any (·.named) = ns.any (·.named) := by
  induction h with
  | nil => rfl
  | cons hnode _ ih => rw [List.any_cons, List.any_cons, ih, hR _ _ hnode]

mutual

/-- Without their parentheses the expressions still correspond. -/
theorem withoutParens_commented (hregion : region.IsWrapped) : (n : Node) → {m : Node} →
    Commented region n m → Commented region n.withoutParens m.withoutParens
  | ⟨kind, named, field, nodeText, startByte, stopByte, start, stop, erroneous, missing, flagged,
      children⟩, m, h => by
    rw [withoutParens_eq m, h.matches_.kind, Node.withoutParens]
    dsimp only
    split
    · next hkind =>
        have hchildren := h.children
        dsimp only at hchildren
        rw [hkind, hregion.parens.1, hregion.parens.2] at hchildren
        have hsole := soleWithoutParens_commented hregion children hchildren.forall₂_of_nowhere
        generalize soleWithoutParens children = sole, soleWithoutParens m.children = sole' at hsole
        cases hsole with
        | none => exact h
        | some hsole => exact hsole
    · exact h

theorem soleWithoutParens_commented (hregion : region.IsWrapped) : (ns : List Node) → {ms : List Node} →
    List.Forall₂ (Commented region) ns ms →
    Option.Rel (Commented region) (soleWithoutParens ns) (soleWithoutParens ms)
  | [], _, .nil => .none
  | n :: ns, _, .cons hnode hnodes => by
    have hany := any_named_eq (fun _ _ h => h.matches_.named) hnodes
    rw [soleWithoutParens, soleWithoutParens, hnode.matches_.named, hany]
    split
    · split
      · exact .none
      · exact .some (withoutParens_commented hregion n hnode)
    · exact soleWithoutParens_commented hregion ns hnodes

end

theorem operands_eq (n : Node) :
    n.namedChildren.filter (·.kind ≠ "type_arguments") = n.children.filter Node.isOperand := by
  rw [Node.namedChildren, List.filter_filter]
  exact List.filter_congr fun c _ => Bool.and_comm _ _

theorem asserted_kind {kind : String} (h : kind ∈ assertionKinds) :
    Region.below .value kind = .operand ∧
      Region.gaps .value kind = (if kind = "type_assertion" then .beforeOperand else .afterOperand) ∧
      kind ≠ "parenthesized_expression" ∧ kind ≠ "object" := by
  simp only [assertionKinds, List.mem_cons, List.not_mem_nil, or_false] at h
  rcases h with rfl | rfl | rfl <;> decide

/-- The operands of an asserted type correspond, if there are any. -/
theorem assertedOperand_commented (h : Commented .value n m) (hkind : n.kind ∈ assertionKinds) :
    Commented .operand n.assertedOperand m.assertedOperand ∨
      n.assertedOperand = n ∧ m.assertedOperand = m := by
  obtain ⟨hbelow, hgaps, -⟩ := asserted_kind hkind
  have hchildren := h.children
  rw [hbelow, hgaps] at hchildren
  simp only [Node.assertedOperand, operands_eq, h.matches_.kind]
  by_cases hleading : n.kind = "type_assertion"
  · have hlast : Option.Rel (Commented .operand) (n.children.filter Node.isOperand).getLast?
        (m.children.filter Node.isOperand).getLast? := by
      rw [if_pos hleading] at hchildren
      exact hchildren.getLast?_of_beforeOperand
    rw [if_pos hleading, if_pos hleading, List.getLastD_eq_getLast?, List.getLastD_eq_getLast?]
    generalize (n.children.filter Node.isOperand).getLast? = last,
      (m.children.filter Node.isOperand).getLast? = last' at hlast ⊢
    cases hlast with
    | none => exact .inr ⟨rfl, rfl⟩
    | some hlast => exact .inl hlast
  · have hfirst : Option.Rel (Commented .operand) (n.children.find? Node.isOperand)
        (m.children.find? Node.isOperand) := by
      rw [if_neg hleading] at hchildren
      exact hchildren.find?_of_afterOperand (fun _ => id) fun _ _ h => operand_eq h.matches_
    rw [if_neg hleading, if_neg hleading, List.headD_eq_head?_getD, List.headD_eq_head?_getD,
      List.head?_filter, List.head?_filter]
    generalize n.children.find? Node.isOperand = first, m.children.find? Node.isOperand = first'
      at hfirst ⊢
    cases hfirst with
    | none => exact .inr ⟨rfl, rfl⟩
    | some hfirst => exact .inl hfirst

theorem soleWithoutParens_of_crowded (h : 2 ≤ ns.countP Node.named) : soleWithoutParens ns = none := by
  induction ns with
  | nil => rfl
  | cons n ns ih =>
      rw [soleWithoutParens]
      by_cases hnamed : n.named = true
      · rw [List.countP_cons_of_pos hnamed] at h
        obtain ⟨other, hother, hothernamed⟩ := List.countP_pos_iff.mp (show 0 < ns.countP Node.named by omega)
        rw [if_pos hnamed, if_pos (List.any_eq_true.mpr ⟨other, hother, hothernamed⟩)]
      · rw [List.countP_cons_of_neg hnamed] at h
        rw [if_neg hnamed, ih h]

/-- Parentheses that hold a comment beside an expression are not looked through. -/
theorem unwrapped_of_crowded (hkind : n.kind = "parenthesized_expression")
    (h : 2 ≤ n.children.countP Node.named) : n.unwrapped = n := by
  have houter : n.withoutParens = n := by
    rw [withoutParens_eq, if_pos hkind, soleWithoutParens_of_crowded h, Option.getD_none]
  have hwrapper : assertionKinds.contains n.kind = false := by
    rw [hkind]
    decide
  simp only [Node.unwrapped, houter, hwrapper, Bool.false_eq_true, if_false]

/-! ### Objects -/

theorem objectProperties_commented (hregion : region.IsWrapped) (h : Commented region n m)
    (hkind : n.kind = "object") :
    List.Forall₂ (Commented .property) (objectProperties n) (objectProperties m) := by
  have hbelow : region.below n.kind = .property := by
    rcases hregion with rfl | rfl <;> rw [hkind] <;> decide
  have hchildren := h.children
  rw [hbelow] at hchildren
  simp only [objectProperties, Node.namedChildren, List.filter_filter]
  refine hchildren.filter (fun c hc => by simp [hc.1]) fun a b hab => ?_
  rw [hab.matches_.kind, hab.matches_.named]

/-- What is inside the wrappers of exported expressions is of one kind, and if it is an object, the
properties correspond. -/
theorem unwrapped_commented (h : Commented .value n m) :
    m.unwrapped.kind = n.unwrapped.kind ∧
      (n.unwrapped.kind = "object" →
        List.Forall₂ (Commented .property) (objectProperties n.unwrapped) (objectProperties m.unwrapped)) := by
  have houter := withoutParens_commented (.inl rfl) n h
  simp only [Node.unwrapped, houter.matches_.kind]
  split
  · next hkind =>
      have hkind : n.withoutParens.kind ∈ assertionKinds := List.contains_iff_mem.mp hkind
      rcases assertedOperand_commented houter hkind with hoperand | ⟨hn, hm⟩
      · have hinner := withoutParens_commented (.inr rfl) _ hoperand
        exact ⟨hinner.matches_.kind, objectProperties_commented (.inr rfl) hinner⟩
      · obtain ⟨-, -, hparens, hobject⟩ := asserted_kind hkind
        rw [hn, hm, withoutParens_eq n.withoutParens, withoutParens_eq m.withoutParens,
          houter.matches_.kind, if_neg hparens, if_neg hparens]
        exact ⟨houter.matches_.kind, fun h => absurd h hobject⟩
  · exact ⟨houter.matches_.kind, objectProperties_commented (.inl rfl) houter⟩

/-! ### Properties -/

/-- Two spans are on the same lines. -/
structure SameLines (l l' : Location) : Prop where
  start : l'.startLine = l.startLine
  stop : l'.stopLine = l.stopLine

/-- Two properties contribute the same, apart from columns. -/
inductive Property.Alike : Property → Property → Prop
  | identifier {name : Text} {l l' : Location} :
      SameLines l l' → Alike (.identifier name l) (.identifier name l')
  | string {value : Text} {l l' : Location} : SameLines l l' → Alike (.string value l) (.string value l')
  | spread {name : Option Text} : Alike (.spread name) (.spread name)
  | opaqueKind {kind : String} : Alike (.opaqueKind kind) (.opaqueKind kind)

theorem readText_commented (h : n.Matches m) (hkind : n.kind ∈ wordKinds) : m.readText = n.readText := by
  rw [Node.readText, Node.readText, Node.decodedText, Node.decodedText, h.text hkind]

theorem sameLines (h : n.Matches m) (source source' : Bytes) :
    SameLines (n.location source) (m.location source') :=
  ⟨by rw [Node.location, Node.location, h.startRow], by rw [Node.location, Node.location, h.stopRow]⟩

theorem partValue_commented (h : n.Matches m) : Literal.partValue m = Literal.partValue n := by
  rw [Literal.partValue, Literal.partValue, h.kind]
  split
  · next hkind => exact readText_commented h (by rw [hkind]; decide)
  · split
    · next hkind => rw [readText_commented h (by rw [hkind]; decide)]
    · rfl

theorem map_flatten_cons (part : Text) (parts : Except Fault (List Text)) :
    (parts >>= fun rest => pure (part :: rest)).map List.flatten =
      (parts.map List.flatten).map (part ++ ·) := by
  cases parts <;> rfl

/-- Comments add nothing to the value of a string. -/
theorem mapM_partValue_commented (h : Interspersed Commented gaps region ns ms) :
    ((ms.filter (·.named)).mapM Literal.partValue).map List.flatten =
      ((ns.filter (·.named)).mapM Literal.partValue).map List.flatten := by
  refine h.named_induction (motive := fun ns ms =>
    (ms.mapM Literal.partValue).map List.flatten =
      (ns.mapM Literal.partValue).map List.flatten) rfl ?_ ?_
  · intro region n m ns ms hnode ih
    rw [List.mapM_cons, List.mapM_cons, partValue_commented hnode.matches_]
    cases Literal.partValue n with
    | ok part =>
        change Except.map _ (_ >>= fun rest => pure (part :: rest)) =
          Except.map _ (_ >>= fun rest => pure (part :: rest))
        rw [map_flatten_cons, map_flatten_cons, ih]
    | error e => rfl
  · intro c ns ms hc ih
    have hvalue : Literal.partValue c = .ok [] := by
      simp [Literal.partValue, hc.1]
    rw [List.mapM_cons, hvalue]
    change Except.map _ (_ >>= fun rest => pure ([] :: rest)) = _
    rw [map_flatten_cons, ih]
    cases ns.mapM Literal.partValue <;> rfl

theorem value_commented (h : Commented region n m) : Literal.value m = Literal.value n :=
  mapM_partValue_commented h.children

theorem ofKey_commented (h : Commented region n m) (source source' : Bytes) :
    EndAlike Property.Alike (Property.ofKey n source) (Property.ofKey m source') := by
  rw [Property.ofKey, Property.ofKey, h.matches_.kind]
  split
  · next hkind =>
      rw [readText_commented h.matches_ (by rw [hkind]; decide)]
      cases n.readText with
      | ok name => exact .ok (.identifier (sameLines h.matches_ source source'))
      | error e => exact .error
  · split
    · rw [value_commented h]
      cases Literal.value n with
      | ok value => exact .ok (.string (sameLines h.matches_ source source'))
      | error e => exact .error
    · exact .ok .opaqueKind

theorem namedChildren_head? (n : Node) : n.namedChildren.head? = n.children.find? (·.named) := by
  rw [Node.namedChildren, List.head?_filter]

/-- Comments in a spread come behind what is spread, so what comes first in it corresponds. -/
theorem spreadArgument_commented (h : Commented .property n m) (hkind : n.kind = "spread_element") :
    Option.Rel (Commented (Region.below .property n.kind)) n.namedChildren.head?
      m.namedChildren.head? := by
  have hchildren := h.children
  rw [show Region.gaps .property n.kind = .afterOperand by rw [hkind]; decide] at hchildren
  rw [namedChildren_head?, namedChildren_head?]
  refine hchildren.find?_of_afterOperand (fun c hc => ?_) fun _ _ hab => hab.matches_.named
  rw [Node.isOperand, Bool.and_eq_true] at hc
  exact hc.1

/-- The properties of an exported object contribute alike. -/
theorem ofNode_commented (h : Commented .property n m) (source source' : Bytes) :
    EndAlike Property.Alike (Property.ofNode n source) (Property.ofNode m source') := by
  rw [Property.ofNode, Property.ofNode, h.matches_.kind]
  split
  · next hkind =>
      rw [readText_commented h.matches_ (by rw [hkind]; decide)]
      cases n.readText with
      | ok name => exact .ok (.identifier (sameLines h.matches_ source source'))
      | error e => exact .error
  split
  · have hkey := childByField_commented h "key"
    generalize n.childByField "key" = key, m.childByField "key" = key' at hkey ⊢
    cases hkey with
    | none => exact .ok .opaqueKind
    | some hkey => exact ofKey_commented hkey source source'
  split
  · next hspread =>
      have hfirst := spreadArgument_commented h hspread
      generalize n.namedChildren = found, m.namedChildren = found' at hfirst ⊢
      cases found with
      | nil =>
          cases found' with
          | nil => exact .ok .spread
          | cons _ _ => cases hfirst
      | cons argument _ =>
          cases found' with
          | nil => cases hfirst
          | cons argument' _ =>
              obtain hargument : Commented _ argument argument' := by cases hfirst; assumption
              dsimp only
              rw [hargument.matches_.kind]
              split
              · next hkind =>
                  rw [readText_commented hargument.matches_ (by rw [hkind]; decide)]
                  cases argument.readText with
                  | ok name => exact .ok .spread
                  | error e => exact .error
              · exact .ok .spread
  · exact .ok .opaqueKind

/-- A spread that begins with a comment has no name. -/
theorem ofNode_of_leading_comment {c : Node} (hkind : n.kind = "spread_element")
    (hfirst : n.namedChildren = c :: ns) (hc : c.IsComment) (source : Bytes) :
    Property.ofNode n source = .ok (.spread none) := by
  simp [Property.ofNode, hkind, hfirst, hc.1]

/-! ### Imports -/

theorem bindsName_commented (name : Text) (h : Interspersed Commented gaps region ns ms) :
    bindsName name (ms.filter (·.named)) = bindsName name (ns.filter (·.named)) := by
  refine h.named_induction (motive := fun ns ms => bindsName name ms = bindsName name ns) rfl ?_ ?_
  · intro region n m ns ms hnode ih
    rw [bindsName, bindsName, hnode.matches_.kind, ih]
    split
    · next hkind => rw [readText_commented hnode.matches_ (by rw [hkind]; decide)]
    · rfl
  · intro c ns ms hc ih
    rw [bindsName, hc.1, if_neg (by decide), ih]

theorem importSpecifier?_commented (h : Commented region n m) :
    importSpecifier? m = importSpecifier? n := by
  have hsource := childByField_commented h "source"
  rw [importSpecifier?, importSpecifier?]
  generalize n.childByField "source" = source, m.childByField "source" = source' at hsource ⊢
  cases hsource with
  | none => rfl
  | some hsource =>
      dsimp only
      rw [hsource.matches_.kind, value_commented hsource]

theorem defaultImportAmong_commented (name : Text) (h : Interspersed Commented gaps region ns ms) :
    defaultImportAmong name (ms.filter (·.named)) = defaultImportAmong name (ns.filter (·.named)) := by
  refine h.named_induction
    (motive := fun ns ms => defaultImportAmong name ms = defaultImportAmong name ns) rfl ?_ ?_
  · intro region n m ns ms hnode ih
    have hclause : Option.Rel (Commented (region.below n.kind))
        (n.namedChildren.find? (·.kind = "import_clause"))
        (m.namedChildren.find? (·.kind = "import_clause")) := by
      rw [namedChildren_find?, namedChildren_find?]
      refine hnode.children.find? (fun c hc => by simp [hc.1]) fun a b hab => ?_
      rw [hab.matches_.named, hab.matches_.kind]
    rw [defaultImportAmong, defaultImportAmong, hnode.matches_.kind, ih, importSpecifier?_commented hnode]
    generalize n.namedChildren.find? (·.kind = "import_clause") = clause,
      m.namedChildren.find? (·.kind = "import_clause") = clause' at hclause ⊢
    cases hclause with
    | none => rfl
    | some hclause =>
        dsimp only [Node.namedChildren]
        rw [bindsName_commented name hclause.children]
  · intro c ns ms hc ih
    rw [defaultImportAmong, hc.1, if_neg (by decide), ih]

/-- The same names are imported from the same modules. -/
theorem defaultImport?_commented (h : Commented .program n m) (name : Text) :
    defaultImport? m name = defaultImport? n name :=
  defaultImportAmong_commented name h.children

end LocaleCatalogue.Syntax
