import LocaleCatalogue.Proofs.Catalogue.Visit
import LocaleCatalogue.Proofs.Syntax.Standing
import LocaleCatalogue.Proofs.Syntax.Transparency

/-!
# Wrappers of exported expressions

Parentheses and asserted types wrap an expression. Any number of parentheses is looked through on
both sides of one asserted type, and the operand is told from the type by its position, whatever the
type looks like. A second asserted type is not looked through, so a file that exports an object
inside two of them exports no object at all.
-/

namespace LocaleCatalogue

namespace Syntax

/-- `outer` is `e` in a number of parentheses that hold nothing else with a name. -/
inductive Node.InParens (e : Node) : Nat → Node → Prop
  | bare : InParens e 0 e
  | around {depth : Nat} {inner outer : Node} : InParens e depth inner →
      outer.kind = "parenthesized_expression" → outer.namedChildren = [inner] →
      InParens e (depth + 1) outer

/-- A type is asserted of `operand` by a node, in one of the four ways to write this. There may be
comments `between` operand and type. -/
inductive Node.AssertedBy (operand : Node) : Node → Prop
  | asType {n type : Node} {between : List Node} : n.kind = "as_expression" →
      n.namedChildren = operand :: between ++ [type] → AssertedBy operand n
  | asConst {n : Node} {between : List Node} : n.kind = "as_expression" →
      n.namedChildren = operand :: between → AssertedBy operand n
  | satisfies {n type : Node} {between : List Node} : n.kind = "satisfies_expression" →
      n.namedChildren = operand :: between ++ [type] → AssertedBy operand n
  | angled {n type : Node} {between : List Node} : n.kind = "type_assertion" →
      type.kind = "type_arguments" → n.namedChildren = type :: between ++ [operand] →
      AssertedBy operand n

/-- An expression that is not wrapped itself. Type arguments are no expression. -/
structure Node.IsBare (e : Node) : Prop where
  not_parens : e.kind ≠ "parenthesized_expression"
  not_assertion : e.kind ∉ assertionKinds
  not_arguments : e.kind ≠ "type_arguments"

variable {e inner operand asserted outer : Node} {ns : List Node} {depth : Nat}

/-! ## Parentheses -/

/-- A node in a list is without its parentheses the only named one exactly if it is the only named
one. -/
theorem soleWithoutParens_eq_some_iff {m : Node} :
    soleWithoutParens ns = some m ↔ ∃ c, ns.filter (·.named) = [c] ∧ c.withoutParens = m := by
  induction ns with
  | nil => simp [soleWithoutParens]
  | cons n ns ih =>
      rw [soleWithoutParens]
      by_cases hnamed : n.named = true
      · rw [if_pos hnamed, List.filter_cons_of_pos hnamed]
        by_cases hothers : ns.any (·.named) = true
        · obtain ⟨other, hother, hothernamed⟩ := List.any_eq_true.mp hothers
          have hne : ns.filter (·.named) ≠ [] :=
            List.ne_nil_of_mem (List.mem_filter.mpr ⟨hother, hothernamed⟩)
          simp [hothers, hne]
        · have hnil : ns.filter (·.named) = [] := by
            simpa using hothers
          simp [hothers, hnil]
      · rw [if_neg hnamed, List.filter_cons_of_neg hnamed, ih]

theorem withoutParens_of_kind (h : e.kind ≠ "parenthesized_expression") : e.withoutParens = e := by
  rw [withoutParens_eq, if_neg h]

/-- Any number of parentheses is looked through. -/
theorem withoutParens_of_inParens (h : e.InParens depth outer) :
    outer.withoutParens = e.withoutParens := by
  induction h with
  | bare => rfl
  | around _ hkind hsole ih =>
      have hinner := soleWithoutParens_eq_some_iff.mpr ⟨_, hsole, rfl⟩
      rw [withoutParens_eq, if_pos hkind, hinner, Option.getD_some, ih]

/-- Every node is what is left without its parentheses, in that many parentheses. -/
theorem exists_inParens (n : Node) : ∃ depth, n.withoutParens.InParens depth n := by
  induction n using Node.induction with
  | node n ih =>
    rw [withoutParens_eq]
    split
    next hkind =>
      cases hsole : soleWithoutParens n.children with
      | none => exact ⟨0, .bare⟩
      | some m =>
          obtain ⟨c, hc, rfl⟩ := soleWithoutParens_eq_some_iff.mp hsole
          have hmem : c ∈ n.children := by
            apply mem_children_of_mem_namedChildren
            rw [Node.namedChildren, hc]
            exact List.mem_singleton.mpr rfl
          obtain ⟨depth, hdepth⟩ := ih c hmem
          exact ⟨depth + 1, .around hdepth hkind hc⟩
    next => exact ⟨0, .bare⟩

/-! ## Asserted types -/

/-- A node that asserts a type is of a kind of its own. -/
theorem Node.AssertedBy.kind_mem (h : operand.AssertedBy asserted) :
    asserted.kind ∈ assertionKinds := by
  cases h with
  | asType hkind _ | asConst hkind _ | satisfies hkind _ | angled hkind _ _ =>
      rw [hkind]
      decide

theorem Node.AssertedBy.kind_ne (h : operand.AssertedBy asserted) :
    asserted.kind ≠ "type_arguments" := by
  intro hkind
  have hmem := h.kind_mem
  rw [hkind] at hmem
  exact absurd hmem (by decide)

theorem assertedOperand_of_trailing {others : List Node} (hkind : asserted.kind ≠ "type_assertion")
    (hchildren : asserted.namedChildren = operand :: others)
    (hoperand : operand.kind ≠ "type_arguments") : asserted.assertedOperand = operand := by
  rw [Node.assertedOperand, if_neg hkind, hchildren,
    List.filter_cons_of_pos (by simpa using hoperand), List.headD_cons]

theorem assertedOperand_of_leading {others : List Node} (hkind : asserted.kind = "type_assertion")
    (hchildren : asserted.namedChildren = others ++ [operand])
    (hoperand : operand.kind ≠ "type_arguments") : asserted.assertedOperand = operand := by
  rw [Node.assertedOperand, if_pos hkind, hchildren, List.filter_append,
    List.filter_cons_of_pos (by simpa using hoperand), List.filter_nil, List.getLastD_concat]

/-- The operand is found by its position, never the type. -/
theorem Node.AssertedBy.assertedOperand (h : operand.AssertedBy asserted)
    (hoperand : operand.kind ≠ "type_arguments") : asserted.assertedOperand = operand := by
  cases h with
  | asType hkind hchildren | asConst hkind hchildren | satisfies hkind hchildren =>
      exact assertedOperand_of_trailing (by rw [hkind]; decide) hchildren hoperand
  | angled hkind _ hchildren => exact assertedOperand_of_leading hkind hchildren hoperand

theorem Node.InParens.kind (h : e.InParens depth outer) :
    outer = e ∨ outer.kind = "parenthesized_expression" := by
  cases h with
  | bare => exact Or.inl rfl
  | around _ hkind _ => exact Or.inr hkind

/-- One asserted type is looked through, with parentheses on both sides of it. -/
theorem unwrapped_of_asserted {around : Nat} (hparens : e.kind ≠ "parenthesized_expression")
    (harguments : e.kind ≠ "type_arguments") (hinner : e.InParens depth inner)
    (hasserted : inner.AssertedBy asserted) (houter : asserted.InParens around outer) :
    outer.unwrapped = e := by
  obtain ⟨-, -, hnotParens, -⟩ := asserted_kind hasserted.kind_mem
  have hstripped : outer.withoutParens = asserted := by
    rw [withoutParens_of_inParens houter, withoutParens_of_kind hnotParens]
  have hoperand : inner.kind ≠ "type_arguments" := by
    rcases hinner.kind with rfl | hkind
    · exact harguments
    · rw [hkind]
      decide
  rw [Node.unwrapped, hstripped, if_pos (List.contains_iff_mem.mpr hasserted.kind_mem),
    hasserted.assertedOperand hoperand, withoutParens_of_inParens hinner,
    withoutParens_of_kind hparens]

/-- An expression in parentheses alone is what is left of them. -/
theorem unwrapped_of_inParens {around : Nat} (he : e.IsBare) (hinner : e.InParens depth inner)
    (houter : inner.InParens around outer) : outer.unwrapped = e := by
  have hstripped : outer.withoutParens = e := by
    rw [withoutParens_of_inParens houter, withoutParens_of_inParens hinner,
      withoutParens_of_kind he.not_parens]
  rw [Node.unwrapped, hstripped, if_neg (mt List.contains_iff_mem.mp he.not_assertion)]

end Syntax

open Syntax (Node)

variable {fs : Files} {path : Text}

/-- The expression that the file at a path exports by default, in its wrappers. -/
def Files.exportedValue? (fs : Files) (path : Text) : Option Node :=
  match fs.program path with
  | .ok (root, _) => (Syntax.defaultExport? root).bind Syntax.exportedExpression?
  | .error _ => none

/-- A file whose exported expression is no object inside its wrappers exports no object, but it has
a program. -/
theorem exported_eq_none_of_value {value : Node} (hvalue : fs.exportedValue? path = some value)
    (hkind : value.unwrapped.kind ≠ "object") :
    ∃ program, fs.program path = .ok program ∧ fs.exported path = none := by
  rw [Files.exportedValue?] at hvalue
  split at hvalue
  next root source hprogram =>
    obtain ⟨statement, hstatement, hexpression⟩ := Option.bind_eq_some_iff.mp hvalue
    have hobject : (exportedObject? path root).result = .ok none := by
      simp only [exportedObject?, hstatement, hexpression, Option.map_some, if_neg hkind]
      rfl
    refine ⟨(root, source), hprogram, ?_⟩
    rw [Files.exported, hprogram]
    dsimp only
    rw [hobject]
  next => cases hvalue

/-- A file with a program that exports no object has no keys. -/
theorem extract_of_exported_eq_none {program : Node × Bytes}
    (hprogram : fs.program path = .ok program) (hnone : fs.exported path = none) :
    (extract fs path).result = .ok none := by
  rcases extract_cases fs path with ⟨file, hplace, hvisit⟩ | ⟨failure, hfails, -⟩
  · rw [hvisit, visit_result hplace, hprogram, hnone]
  · rw [hprogram] at hfails
    cases hfails

/-- Parentheses and one asserted type are looked through, however many parentheses there are on
either side of the type, which of the four ways asserts it, and whatever it is. What is left is the
expression inside. A second assertion is not looked through: what is left is the one just inside the
outermost, whatever it holds, and a file that exports such an expression has no keys, be it
extracted or spread. -/
theorem unwrapped_once :
    (∀ (e inner asserted outer : Node) (m n : Nat), e.IsBare → e.InParens n inner →
      asserted = inner ∨ inner.AssertedBy asserted → asserted.InParens m outer →
      outer.unwrapped = e) ∧
    ∀ (operand second inner asserted outer : Node) (m n : Nat), operand.AssertedBy second →
      second.InParens n inner → inner.AssertedBy asserted → asserted.InParens m outer →
      outer.unwrapped = second ∧
      ∀ (fs : Files) (path : Text), fs.exportedValue? path = some outer →
        (extract fs path).result = .ok none ∧
        ∀ (origin : Text) (above : List Place) (file : fs.Found),
          fs.realPlace path = .ok file.place →
          (visit fs origin above file path).result = .ok none := by
  constructor
  · intro e inner asserted outer m n he hinner hasserted houter
    rcases hasserted with rfl | hasserted
    · exact Syntax.unwrapped_of_inParens he hinner houter
    · exact Syntax.unwrapped_of_asserted he.not_parens he.not_arguments hinner hasserted houter
  · intro operand second inner asserted outer m n hsecond hinner hasserted houter
    obtain ⟨-, -, hparens, hobject⟩ := Syntax.asserted_kind hsecond.kind_mem
    have hunwrapped : outer.unwrapped = second :=
      Syntax.unwrapped_of_asserted hparens hsecond.kind_ne hinner hasserted houter
    refine ⟨hunwrapped, ?_⟩
    intro fs path hvalue
    obtain ⟨program, hprogram, hnone⟩ := exported_eq_none_of_value hvalue (hunwrapped ▸ hobject)
    refine ⟨extract_of_exported_eq_none hprogram hnone, ?_⟩
    intro origin above file hplace
    rw [visit_result hplace, hprogram, hnone]

/-- An object in one asserted type and one in two of them, with parentheses around all. -/
def clad : Files where
  working := ["w"]
  entries := [
    (["w"], .directory),
    (["w", "a.ts"], .file (Utf8.encode
      "export default ((\x7b k: 1 \x7d) satisfies Record<string, [A]>)\n".toList)),
    (["w", "b.ts"], .file (Utf8.encode
      "export default ((<A>(\x7b k: 1 \x7d as const)))\n".toList))]

theorem unwrapped_once_clad :
    (∃ value, clad.exportedValue? "a.ts" = some value ∧ value.unwrapped.kind = "object") ∧
      (extract clad "b.ts").result = .ok none := by
  constructor
  · obtain ⟨value, hvalue⟩ : ∃ value, clad.exportedValue? "a.ts" = some value :=
      Option.isSome_iff_exists.mp (by decide +kernel)
    have hkinds : (clad.exportedValue? "a.ts").map (fun v => (v.withoutParens.kind,
        v.withoutParens.namedChildren.map fun c => c.withoutParens.kind)) =
          some ("satisfies_expression", ["object", "type"]) := by decide +kernel
    rw [hvalue, Option.map_some, Option.some.injEq, Prod.mk.injEq] at hkinds
    obtain ⟨hkind, hchildren⟩ := hkinds
    obtain ⟨inner, others, hall, hobject, hothers⟩ := List.map_eq_cons_iff.mp hchildren
    obtain ⟨type, rfl, -⟩ := List.map_eq_singleton_iff.mp hothers
    obtain ⟨m, houter⟩ := Syntax.exists_inParens value
    obtain ⟨n, hinner⟩ := Syntax.exists_inParens inner
    have hbare : inner.withoutParens.IsBare := by
      constructor <;> rw [hobject] <;> decide
    have hshape : value.withoutParens.namedChildren = inner :: [] ++ [type] := hall
    have hunwrapped := unwrapped_once.1 _ inner _ value m n hbare hinner
      (Or.inr (.satisfies hkind hshape)) houter
    exact ⟨value, hvalue, hunwrapped ▸ hobject⟩
  · obtain ⟨value, hvalue⟩ : ∃ value, clad.exportedValue? "b.ts" = some value :=
      Option.isSome_iff_exists.mp (by decide +kernel)
    have hkinds : (clad.exportedValue? "b.ts").map (fun v => (v.withoutParens.kind,
        v.withoutParens.namedChildren.map fun c =>
          (c.kind, c.withoutParens.kind, c.withoutParens.namedChildren.length))) =
          some ("type_assertion", [("type_arguments", "type_arguments", 0),
            ("parenthesized_expression", "as_expression", 1)]) := by decide +kernel
    rw [hvalue, Option.map_some, Option.some.injEq, Prod.mk.injEq] at hkinds
    obtain ⟨hkind, hchildren⟩ := hkinds
    obtain ⟨type, others, hall, htype, hothers⟩ := List.map_eq_cons_iff.mp hchildren
    obtain ⟨inner, rfl, hinnerKinds⟩ := List.map_eq_singleton_iff.mp hothers
    simp only [Prod.mk.injEq] at htype hinnerKinds
    obtain ⟨operand, hoperand⟩ := List.length_eq_one_iff.mp hinnerKinds.2.2
    obtain ⟨m, houter⟩ := Syntax.exists_inParens value
    obtain ⟨n, hinner⟩ := Syntax.exists_inParens inner
    have hshape : value.withoutParens.namedChildren = type :: [] ++ [inner] := hall
    have hwrapped := unwrapped_once.2 operand _ inner _ value m n
      (.asConst hinnerKinds.2.1 hoperand) hinner (.angled hkind htype.1 hshape) houter
    exact (hwrapped.2 clad "b.ts" hvalue).1

end LocaleCatalogue
