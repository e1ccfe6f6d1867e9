import LocaleCatalogue.Proofs.Script.Marks
import LocaleCatalogue.Proofs.Script.Statements
import LocaleCatalogue.Syntax.Assertion
import LocaleCatalogue.Syntax.Property

/-!
# Nodes that stand for sound trees

The analyses go from a program down to its nodes, by position, by name or by looking through
parentheses and asserted types. Wherever they arrive, the node stands for a tree that is laid out
soundly in the source.
-/

namespace LocaleCatalogue.Syntax

open Script (Tree)

variable {text : List Char} {m n : Node}

/-- The node stands for a sound tree of the text. -/
def Node.Stands (text : List Char) (n : Node) : Prop :=
  ∃ t : Tree, t.Sound text ∧ t.stop ≤ text.length ∧ n = t.place (.ofChars text)

/-- What is below a sound tree is a sound tree inside it. -/
theorem exists_tree_of_within {t : Tree} (ht : t.Sound text)
    (h : n.Within (t.place (.ofChars text))) :
    ∃ u : Tree, u.Sound text ∧ t.start ≤ u.start ∧ u.stop ≤ t.stop ∧
      n = u.place (.ofChars text) := by
  generalize hroot : t.place (.ofChars text) = root at h
  induction h with
  | self => exact ⟨t, ht, Nat.le_refl _, Nat.le_refl _, hroot.symm⟩
  | child hmem _ ih =>
      obtain ⟨u, hu, hstart, hstop, rfl⟩ := ih hroot
      rw [Script.place_children] at hmem
      obtain ⟨v, hv, rfl⟩ := List.mem_map.mp hmem
      obtain ⟨hsound, hstart', hstop'⟩ := (Script.Tree.sound_iff.mp hu).2.of_mem hv
      exact ⟨v, hsound, Nat.le_trans hstart hstart', Nat.le_trans hstop' hstop, rfl⟩

theorem Node.Stands.of_within (h : n.Stands text) (hm : m.Within n) : m.Stands text := by
  obtain ⟨t, hsound, hstop, rfl⟩ := h
  obtain ⟨u, husound, -, hle, rfl⟩ := exists_tree_of_within hsound hm
  exact ⟨u, husound, Nat.le_trans hle hstop, rfl⟩

theorem Node.Stands.of_mem_children (h : n.Stands text) (hm : m ∈ n.children) : m.Stands text :=
  h.of_within (.child hm .self)

/-- The children of an accepted program stand for sound trees. -/
theorem stands_of_mem_program {dialect : Script.Dialect}
    (haccepted : (Script.parseChars dialect text).flagged = false)
    (hn : n ∈ (Script.parseChars dialect text).children) : n.Stands text := by
  rw [Script.parseChars_children haccepted] at hn
  obtain ⟨t, ht, rfl⟩ := List.mem_map.mp hn
  obtain ⟨hsound, -, hstop⟩ := (Script.arranged_outlineOf dialect text).of_mem ht
  exact ⟨t, hsound, hstop, rfl⟩

theorem mem_children_of_mem_namedChildren (h : m ∈ n.namedChildren) : m ∈ n.children :=
  (List.mem_filter.mp h).1

theorem mem_children_of_childByField {field : String} (h : n.childByField field = some m) :
    m ∈ n.children := List.mem_of_find?_eq_some h

theorem within_of_mem_children (h : m ∈ n.children) : m.Within n := .child h .self

theorem Node.Within.trans {k : Node} (hkm : k.Within m) (hmn : m.Within n) : k.Within n := by
  induction hkm with
  | self => exact hmn
  | child hmem _ ih => exact .child hmem (ih hmn)

/-- What holds of a node whenever it holds of its children holds of every node. -/
theorem Node.induction {motive : Node → Prop}
    (node : ∀ n : Node, (∀ c ∈ n.children, motive c) → motive n) (n : Node) : motive n := by
  refine Node.rec (motive_1 := motive) (motive_2 := fun ns => ∀ c ∈ ns, motive c) ?_ ?_ ?_ n
  · intro kind named field text startByte stopByte start stop erroneous missing flagged children ih
    exact node _ ih
  · intro c hc
    cases hc
  · intro head tail hhead htail c hc
    rcases List.mem_cons.mp hc with rfl | hc
    · exact hhead
    · exact htail c hc

mutual

theorem withoutParens_within : (n : Node) → n.withoutParens.Within n
  | ⟨kind, named, field, nodeText, startByte, stopByte, start, stop, erroneous, missing, flagged,
      children⟩ => by
    rw [Node.withoutParens]
    split
    · cases hsole : soleWithoutParens children with
      | none => exact .self
      | some inner =>
          obtain ⟨c, hc, hinner⟩ := soleWithoutParens_within children hsole
          exact hinner.trans (within_of_mem_children hc)
    · exact .self

theorem soleWithoutParens_within : (ns : List Node) → {m : Node} → soleWithoutParens ns = some m →
    ∃ c ∈ ns, m.Within c
  | [], m, h => by cases h
  | c :: cs, m, h => by
    rw [soleWithoutParens] at h
    split at h
    · split at h
      · cases h
      · cases h
        exact ⟨c, List.mem_cons_self, withoutParens_within c⟩
    · obtain ⟨d, hd, hm⟩ := soleWithoutParens_within cs h
      exact ⟨d, List.mem_cons_of_mem c hd, hm⟩

end

theorem assertedOperand_within (n : Node) : n.assertedOperand.Within n := by
  have hoperands : ∀ m ∈ n.namedChildren.filter (·.kind ≠ "type_arguments"), m.Within n := by
    intro m hm
    exact within_of_mem_children (mem_children_of_mem_namedChildren (List.mem_filter.mp hm).1)
  rw [Node.assertedOperand]
  generalize n.namedChildren.filter (·.kind ≠ "type_arguments") = operands at hoperands
  split
  · rcases List.eq_nil_or_concat operands with rfl | ⟨before, last, rfl⟩
    · exact .self
    · rw [List.concat_eq_append, List.getLastD_concat]
      exact hoperands last (by simp)
  · cases operands with
    | nil => exact .self
    | cons first rest => exact hoperands first List.mem_cons_self

/-- Looking through parentheses and an asserted type leads to a node below. -/
theorem unwrapped_within (n : Node) : n.unwrapped.Within n := by
  rw [Node.unwrapped]
  split
  · exact (withoutParens_within _).trans ((assertedOperand_within _).trans (withoutParens_within n))
  · exact withoutParens_within n

/-- What a program exports by default stands for a sound tree, also behind its wrappers. -/
theorem stands_of_defaultExport {dialect : Script.Dialect} {statement value : Node}
    (haccepted : (Script.parseChars dialect text).flagged = false)
    (hstatement : defaultExport? (Script.parseChars dialect text) = some statement)
    (hvalue : exportedExpression? statement = some value) : value.unwrapped.Stands text := by
  have hmem := mem_children_of_mem_namedChildren (List.mem_of_find?_eq_some hstatement)
  have hstands := (stands_of_mem_program haccepted hmem).of_mem_children
    (mem_children_of_childByField hvalue)
  exact hstands.of_within (unwrapped_within value)

/-- The token that a property has its key from. -/
inductive Property.Token (source : Bytes) (token : Node) : Property → Prop
  | identifier {name : Text} : token.kind ∈ Script.nameKinds → token.readText = .ok name →
      Token source token (.identifier name (token.location source))
  | string {value : Text} : token.kind = "string" → Literal.value token = .ok value →
      Token source token (.string value (token.location source))

/-- Only the two kinds of properties that declare a key have one, and its token is within the
property. -/
theorem Property.exists_token {source : Bytes} {property : Property}
    (h : Property.ofNode n source = .ok property) :
    (∃ token, token.Within n ∧ property.Token source token) ∨
      (∃ name, property = .spread name) ∨ ∃ kind, property = .opaqueKind kind := by
  have hkey : ∀ key : Node, key.Within n → Property.ofKey key source = .ok property →
      (∃ token, token.Within n ∧ property.Token source token) ∨
        (∃ name, property = .spread name) ∨ ∃ kind, property = .opaqueKind kind := by
    intro key hwithin h
    rw [Property.ofKey] at h
    split at h
    next hkind =>
      split at h
      next name hread =>
        cases h
        exact Or.inl ⟨key, hwithin, .identifier (by rw [hkind]; decide) hread⟩
      · cases h
    split at h
    next hkind =>
      split at h
      next value hvalue =>
        cases h
        exact Or.inl ⟨key, hwithin, .string hkind hvalue⟩
      · cases h
    · cases h
      exact Or.inr (Or.inr ⟨_, rfl⟩)
  rw [Property.ofNode] at h
  split at h
  next hkind =>
    split at h
    next name hread =>
      cases h
      exact Or.inl ⟨n, .self, .identifier (by rw [hkind]; decide) hread⟩
    · cases h
  split at h
  · split at h
    · cases h
      exact Or.inr (Or.inr ⟨_, rfl⟩)
    next key hfield =>
      exact hkey key (within_of_mem_children (mem_children_of_childByField hfield)) h
  split at h
  · right
    left
    split at h
    · split at h
      · split at h
        · cases h
          exact ⟨_, rfl⟩
        · cases h
      · cases h
        exact ⟨_, rfl⟩
    · cases h
      exact ⟨_, rfl⟩
  · cases h
    exact Or.inr (Or.inr ⟨_, rfl⟩)

/-- A property under an identifier is spelled by a sound tree that is not empty. -/
theorem exists_tree_of_identifier {name : Text} {location : Location} (hn : n.Stands text)
    (h : Property.ofNode n (Utf8.encode text) = .ok (.identifier name location)) :
    ∃ t : Tree, t.start < t.stop ∧ t.stop ≤ text.length ∧ name = Text.ofChars (t.spelling text) ∧
      location = (t.place (.ofChars text)).location (Utf8.encode text) := by
  rcases Property.exists_token h with ⟨token, hwithin, htoken⟩ | ⟨_, hspread⟩ | ⟨_, hopaque⟩
  · obtain ⟨t, hsound, hstop, rfl⟩ := hn.of_within hwithin
    cases htoken with
    | identifier hkind hread =>
        rw [Script.place_kind] at hkind
        rw [Script.readText_place] at hread
        cases hread
        exact ⟨t, (Script.Tree.sound_iff.mp hsound).1.name hkind, hstop, rfl, rfl⟩
  · cases hspread
  · cases hopaque

/-- A property under a string has the value of a sound tree of the kind. -/
theorem exists_tree_of_string {value : Text} {location : Location} (hn : n.Stands text)
    (h : Property.ofNode n (Utf8.encode text) = .ok (.string value location)) :
    ∃ t : Tree, t.Sound text ∧ t.stop ≤ text.length ∧ t.kind = "string" ∧
      Literal.value (t.place (.ofChars text)) = .ok value ∧
      location = (t.place (.ofChars text)).location (Utf8.encode text) := by
  rcases Property.exists_token h with ⟨token, hwithin, htoken⟩ | ⟨_, hspread⟩ | ⟨_, hopaque⟩
  · obtain ⟨t, hsound, hstop, rfl⟩ := hn.of_within hwithin
    cases htoken with
    | string hkind hvalue =>
        rw [Script.place_kind] at hkind
        exact ⟨t, hsound, hstop, hkind, hvalue, rfl⟩
  · cases hspread
  · cases hopaque

end LocaleCatalogue.Syntax
