import Mathlib.Data.List.Forall2
import Mathlib.Data.Option.Basic
import LocaleCatalogue.Syntax.Assertion

/-!
# Comments in a syntax tree

A comment is a node like any other, so it could change what the analyses count, index and filter.
This module says where it does not: everywhere but directly inside parentheses around the exported
expression and between the dots and the name of a spread. A comment never comes before the first or
after the last token of an expression, since it then belongs to what is around it. Children of trees
that differ in comments at the harmless places only are found, filtered and counted alike.
-/

namespace LocaleCatalogue.Syntax

/-! ### Trees that differ in comments -/

/-- A comment. -/
def Node.IsComment (n : Node) : Prop := n.kind = "comment" ∧ n.named = true ∧ n.field = none

instance (n : Node) : Decidable n.IsComment := inferInstanceAs (Decidable (_ ∧ _ ∧ _))

/-- A node that can be the operand of an asserted type. -/
def Node.isOperand (n : Node) : Bool := n.named && n.kind ≠ "type_arguments"

/-- What the analyses take a part of a program for: the program, one of its statements, an exported
expression, an expression whose type is asserted, a property of an exported object, or nothing. -/
inductive Region where
  | program
  | statement
  | value
  | operand
  | property
  | other
deriving DecidableEq, Repr

/-- Where comments change nothing between the children of a node. -/
inductive Gaps where
  | everywhere
  | afterOperand
  | beforeOperand
  | nowhere
deriving DecidableEq, Repr

namespace Region

/-- What the children of a node of some kind are taken for. -/
def below : Region → (kind : String) → Region
  | .program, _ => .statement
  | .statement, kind => if kind = "export_statement" then .value else .other
  | .value, kind =>
    if kind = "parenthesized_expression" then .value
    else if assertionKinds.contains kind then .operand
    else if kind = "object" then .property
    else .other
  | .operand, kind =>
    if kind = "parenthesized_expression" then .operand
    else if kind = "object" then .property
    else .other
  | .property, _ => .other
  | .other, _ => .other

/-- Where comments change nothing inside a node of some kind. -/
def gaps : Region → (kind : String) → Gaps
  | .value, kind =>
    if kind = "parenthesized_expression" then .nowhere
    else if kind = "type_assertion" then .beforeOperand
    else if assertionKinds.contains kind then .afterOperand
    else .everywhere
  | .operand, kind => if kind = "parenthesized_expression" then .nowhere else .everywhere
  | .property, kind => if kind = "spread_element" then .afterOperand else .everywhere
  | _, _ => .everywhere

end Region

namespace Gaps

/-- Where comments change nothing behind one more child. -/
def past (gaps : Gaps) (n : Node) : Gaps :=
  if gaps = .afterOperand ∧ n.isOperand then .everywhere else gaps

/-- Whether a comment changes nothing before the remaining children. -/
def Admits : Gaps → List Node → Prop
  | .everywhere, _ => True
  | .beforeOperand, ns => ns.any Node.isOperand
  | _, _ => False

instance : (gaps : Gaps) → (ns : List Node) → Decidable (gaps.Admits ns)
  | .everywhere, _ => isTrue trivial
  | .beforeOperand, ns => inferInstanceAs (Decidable (ns.any Node.isOperand = true))
  | .afterOperand, _ => isFalse id
  | .nowhere, _ => isFalse id

end Gaps

/-- The kinds of tokens whose text is read. -/
def wordKinds : List String :=
  ["identifier", "property_identifier", "shorthand_property_identifier", "string_fragment",
    "escape_sequence"]

/-- Two nodes are alike, apart from columns and from what is below them. -/
structure Node.Matches (n m : Node) : Prop where
  kind : m.kind = n.kind
  named : m.named = n.named
  field : m.field = n.field
  text : n.kind ∈ wordKinds → m.text = n.text
  startRow : m.start.row = n.start.row
  stopRow : m.stop.row = n.stop.row

instance (n m : Node) : Decidable (n.Matches m) :=
  decidable_of_iff (m.kind = n.kind ∧ m.named = n.named ∧ m.field = n.field ∧
      (n.kind ∈ wordKinds → m.text = n.text) ∧ m.start.row = n.start.row ∧ m.stop.row = n.stop.row)
    ⟨fun ⟨kind, named, field, text, startRow, stopRow⟩ => ⟨kind, named, field, text, startRow, stopRow⟩,
      fun h => ⟨h.kind, h.named, h.field, h.text, h.startRow, h.stopRow⟩⟩

/-- The second list is the first one with comments where they change nothing. -/
inductive Interspersed (R : Region → Node → Node → Prop) :
    Gaps → Region → List Node → List Node → Prop
  | nil {gaps : Gaps} {region : Region} : Interspersed R gaps region [] []
  | both {gaps : Gaps} {region : Region} {n m : Node} {ns ms : List Node} :
      R region n m → Interspersed R (gaps.past n) region ns ms →
      Interspersed R gaps region (n :: ns) (m :: ms)
  | comment {gaps : Gaps} {region : Region} {c : Node} {ns ms : List Node} :
      c.IsComment → gaps.Admits ns → Interspersed R gaps region ns ms →
      Interspersed R gaps region ns (c :: ms)

/-- The second tree is the first one with comments where they change nothing. -/
inductive Commented : Region → Node → Node → Prop
  | mk {region : Region} {n m : Node} :
      n.Matches m → Interspersed Commented (region.gaps n.kind) (region.below n.kind) n.children m.children →
      Commented region n m

variable {region : Region} {gaps : Gaps} {n m : Node} {ns ms : List Node}

theorem Commented.matches_ (h : Commented region n m) : n.Matches m := by
  cases h with
  | mk hmatches _ => exact hmatches

theorem Commented.children (h : Commented region n m) :
    Interspersed Commented (region.gaps n.kind) (region.below n.kind) n.children m.children := by
  cases h with
  | mk _ hchildren => exact hchildren

mutual

theorem Commented.refl : (n : Node) → (region : Region) → Commented region n n
  | ⟨_, _, _, _, _, _, _, _, _, _, _, children⟩, _ =>
    .mk ⟨rfl, rfl, rfl, fun _ => rfl, rfl, rfl⟩ (Interspersed.refl children _ _)

theorem Interspersed.refl : (ns : List Node) → (gaps : Gaps) → (region : Region) →
    Interspersed Commented gaps region ns ns
  | [], _, _ => .nil
  | n :: ns, gaps, region => .both (Commented.refl n region) (Interspersed.refl ns (gaps.past n) region)

end

mutual

/-- Finds out whether the second tree is the first one with comments where they change nothing. -/
def isCommented (region : Region) (n : Node) : Node → Bool
  | ⟨kind, named, field, text, startByte, stopByte, start, stop, erroneous, missing, flagged, children⟩ =>
    decide (n.Matches
      ⟨kind, named, field, text, startByte, stopByte, start, stop, erroneous, missing, flagged, children⟩) &&
      areInterspersed (region.gaps n.kind) (region.below n.kind) n.children children

/-- The same for lists. A comment is taken for an additional one first, and for one that was there
already if that fails. -/
def areInterspersed (gaps : Gaps) (region : Region) (ns : List Node) : List Node → Bool
  | [] => ns.isEmpty
  | m :: ms =>
    decide (m.IsComment ∧ gaps.Admits ns) && areInterspersed gaps region ns ms ||
      match ns with
      | [] => false
      | n :: rest => isCommented region n m && areInterspersed (gaps.past n) region rest ms

end

mutual

theorem commented_of_check : (m : Node) → {region : Region} → {n : Node} →
    isCommented region n m = true → Commented region n m
  | ⟨kind, named, field, text, startByte, stopByte, start, stop, erroneous, missing, flagged, children⟩,
      region, n, h => by
    rw [isCommented, Bool.and_eq_true, decide_eq_true_eq] at h
    exact .mk h.1 (interspersed_of_check children h.2)

theorem interspersed_of_check : (ms : List Node) → {gaps : Gaps} → {region : Region} → {ns : List Node} →
    areInterspersed gaps region ns ms = true → Interspersed Commented gaps region ns ms
  | [], gaps, region, ns, h => by
    obtain rfl := List.isEmpty_iff.mp (by simpa [areInterspersed] using h)
    exact .nil
  | m :: ms, gaps, region, ns, h => by
    unfold areInterspersed at h
    rw [Bool.or_eq_true, Bool.and_eq_true, decide_eq_true_eq] at h
    rcases h with ⟨⟨hcomment, hadmits⟩, hrest⟩ | h
    · exact .comment hcomment hadmits (interspersed_of_check ms hrest)
    · cases ns with
      | nil => cases h
      | cons n ns =>
          rw [Bool.and_eq_true] at h
          exact .both (commented_of_check m h.1) (interspersed_of_check ms h.2)

end

mutual

theorem check_of_commented : (m : Node) → {region : Region} → {n : Node} →
    Commented region n m → isCommented region n m = true
  | ⟨kind, named, field, text, startByte, stopByte, start, stop, erroneous, missing, flagged, children⟩,
      region, n, h => by
    rw [isCommented, Bool.and_eq_true, decide_eq_true_eq]
    exact ⟨h.matches_, check_of_interspersed children h.children⟩

theorem check_of_interspersed : (ms : List Node) → {gaps : Gaps} → {region : Region} → {ns : List Node} →
    Interspersed Commented gaps region ns ms → areInterspersed gaps region ns ms = true
  | [], gaps, region, ns, h => by
    cases h
    rfl
  | m :: ms, gaps, region, ns, h => by
    unfold areInterspersed
    rw [Bool.or_eq_true, Bool.and_eq_true, decide_eq_true_eq]
    cases h with
    | both hnode hrest =>
        exact .inr (Bool.and_eq_true_iff.mpr ⟨check_of_commented m hnode, check_of_interspersed ms hrest⟩)
    | comment hcomment hadmits hrest =>
        exact .inl ⟨⟨hcomment, hadmits⟩, check_of_interspersed ms hrest⟩

end

instance (region : Region) (n m : Node) : Decidable (Commented region n m) :=
  decidable_of_iff _ ⟨commented_of_check m, check_of_commented m⟩

/-! ### Looking at children -/

theorem head?_rel {R : Node → Node → Prop} (h : List.Forall₂ R ns ms) : Option.Rel R ns.head? ms.head? := by
  cases h with
  | nil => exact .none
  | cons hnode _ => exact .some hnode

theorem operand_eq (h : n.Matches m) : m.isOperand = n.isOperand := by
  rw [Node.isOperand, Node.isOperand, h.kind, h.named]

theorem Node.IsComment.isOperand {c : Node} (h : c.IsComment) : c.isOperand = true := by
  simp [Node.isOperand, h.1, h.2.1]

namespace Interspersed

/-- Children that are no comments correspond one to one. -/
theorem filter {p : Node → Bool} (hcomment : ∀ c : Node, c.IsComment → p c = false)
    (hp : ∀ n m : Node, Commented region n m → p m = p n)
    (h : Interspersed Commented gaps region ns ms) :
    List.Forall₂ (Commented region) (ns.filter p) (ms.filter p) := by
  induction h with
  | nil => exact .nil
  | @both gaps region n m ns ms hnode _ ih =>
      rw [List.filter_cons, List.filter_cons, hp n m hnode]
      split
      · exact .cons hnode (ih hp)
      · exact ih hp
  | @comment gaps region c ns ms hc _ _ ih =>
      rw [List.filter_cons_of_neg (by simp [hcomment c hc])]
      exact ih hp

/-- The first child of a kind that no comment is of corresponds to the first one of that kind. -/
theorem find? {p : Node → Bool} (hcomment : ∀ c : Node, c.IsComment → p c = false)
    (hp : ∀ n m : Node, Commented region n m → p m = p n)
    (h : Interspersed Commented gaps region ns ms) :
    Option.Rel (Commented region) (ns.find? p) (ms.find? p) := by
  rw [← List.head?_filter, ← List.head?_filter]
  exact head?_rel (h.filter hcomment hp)

/-- What holds of no nodes, and of more nodes with one more that corresponds on both sides or with a
comment on the second one, holds of the named children. -/
theorem named_induction {motive : List Node → List Node → Prop}
    (h : Interspersed Commented gaps region ns ms) (hnil : motive [] [])
    (hboth : ∀ (region : Region) (n m : Node) (ns ms : List Node),
      Commented region n m → motive ns ms → motive (n :: ns) (m :: ms))
    (hcomment : ∀ (c : Node) (ns ms : List Node), c.IsComment → motive ns ms → motive ns (c :: ms)) :
    motive (ns.filter (·.named)) (ms.filter (·.named)) := by
  induction h with
  | nil => exact hnil
  | @both gaps region n m ns ms hnode _ ih =>
      rw [List.filter_cons, List.filter_cons, hnode.matches_.named]
      split
      · exact hboth region n m _ _ hnode ih
      · exact ih
  | comment hc _ _ ih =>
      rw [List.filter_cons_of_pos hc.2.1]
      exact hcomment _ _ _ hc ih

/-- Without comments the children correspond one to one. -/
theorem forall₂_of_nowhere (h : Interspersed Commented .nowhere region ns ms) :
    List.Forall₂ (Commented region) ns ms := by
  generalize hgaps : Gaps.nowhere = gaps at h
  induction h with
  | nil => exact .nil
  | both hnode _ ih => exact .cons hnode (ih (by subst hgaps; rfl))
  | comment _ hadmits _ => subst hgaps; exact hadmits.elim

/-- If comments only come behind an operand, what comes first up to it corresponds. -/
theorem find?_of_afterOperand {p : Node → Bool} (hoperand : ∀ n : Node, n.isOperand → p n)
    (hp : ∀ n m : Node, Commented region n m → p m = p n)
    (h : Interspersed Commented .afterOperand region ns ms) :
    Option.Rel (Commented region) (ns.find? p) (ms.find? p) := by
  generalize hgaps : Gaps.afterOperand = gaps at h
  induction h with
  | nil => exact .none
  | @both gaps region n m ns ms hnode _ ih =>
      rw [List.find?_cons, List.find?_cons, hp n m hnode]
      cases hn : p n with
      | true => exact .some hnode
      | false =>
          refine ih hp ?_
          have hno : ¬ n.isOperand := fun h => by simp [hoperand n h] at hn
          rw [Gaps.past, if_neg (fun h => hno h.2), hgaps]
  | comment _ hadmits _ => subst hgaps; exact hadmits.elim

/-- If comments only come before an operand, the last operand corresponds. -/
theorem getLast?_of_beforeOperand (h : Interspersed Commented .beforeOperand region ns ms) :
    Option.Rel (Commented region) (ns.filter Node.isOperand).getLast?
      (ms.filter Node.isOperand).getLast? := by
  generalize hgaps : Gaps.beforeOperand = gaps at h
  induction h with
  | nil => exact .none
  | @both gaps region n m ns ms hnode _ ih =>
      have hlast := ih (by subst hgaps; rfl)
      rw [List.filter_cons, List.filter_cons, operand_eq hnode.matches_]
      split
      · rw [List.getLast?_cons, List.getLast?_cons]
        generalize (ns.filter Node.isOperand).getLast? = last,
          (ms.filter Node.isOperand).getLast? = last' at hlast ⊢
        cases hlast with
        | none => exact .some hnode
        | some hlast => exact .some hlast
      · exact hlast
  | @comment gaps region c ns ms hc hadmits _ ih =>
      have hlast := ih hgaps
      subst hgaps
      obtain ⟨n, hn, hoperand⟩ := List.any_eq_true.mp hadmits
      have hne : ns.filter Node.isOperand ≠ [] :=
        List.ne_nil_of_mem (List.mem_filter.mpr ⟨hn, hoperand⟩)
      rw [List.filter_cons_of_pos hc.isOperand, List.getLast?_cons]
      rw [List.getLast?_eq_some_getLast hne] at hlast ⊢
      generalize (ms.filter Node.isOperand).getLast? = last at hlast ⊢
      cases hlast with
      | some hlast => exact .some hlast

end Interspersed

end LocaleCatalogue.Syntax
