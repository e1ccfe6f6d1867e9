import LocaleCatalogue.Script.Parse

/-!
# Nodes that stand for trees

Every node of an accepted program but its root stands for a tree of the source, so a property of the
trees that the parser builds is a property of the nodes that the analyses meet. In particular no
node of an accepted program is erroneous or missing.
-/

namespace LocaleCatalogue

namespace Syntax

/-- A node of the tree below another one, or that node itself. -/
inductive Node.Within : Node → Node → Prop
  | self {n : Node} : Within n n
  | child {c n root : Node} : c ∈ n.children → Within n root → Within c root

end Syntax

namespace Script

open Syntax (Node)

theorem placeAll_eq_map (s : Source) (ts : List Tree) : placeAll s ts = ts.map (Tree.place s) := by
  induction ts with
  | nil => rfl
  | cons t ts ih => rw [placeAll, ih, List.map_cons]

section Place

variable (s : Source) (t : Tree)

@[simp] theorem place_kind : (t.place s).kind = t.kind := by cases t; rfl

@[simp] theorem place_named : (t.place s).named = t.named := by cases t; rfl

@[simp] theorem place_field : (t.place s).field = t.role := by cases t; rfl

@[simp] theorem place_text : (t.place s).text = some (s.stretch t.start t.stop) := by cases t; rfl

@[simp] theorem place_startByte : (t.place s).startByte = (s.mark t.start).byte := by cases t; rfl

@[simp] theorem place_stopByte : (t.place s).stopByte = (s.mark t.stop).byte := by cases t; rfl

@[simp] theorem place_start : (t.place s).start = (s.mark t.start).point := by cases t; rfl

@[simp] theorem place_stop : (t.place s).stop = (s.mark t.stop).point := by cases t; rfl

@[simp] theorem place_children : (t.place s).children = t.parts.map (Tree.place s) := by
  cases t
  exact placeAll_eq_map s _

@[simp] theorem place_erroneous : (t.place s).erroneous = false := by cases t; rfl

@[simp] theorem place_missing : (t.place s).missing = false := by cases t; rfl

@[simp] theorem place_flagged : (t.place s).flagged = false := by cases t; rfl

end Place

theorem not_flagged_of_placed (s : Source) (ts : List Tree) :
    (ts.map (Tree.place s)).any (·.flagged) = false := by
  simp

/-- A source is flagged exactly if it is not a program as a whole. -/
theorem parseChars_flagged (dialect : Dialect) (text : List Char) :
    (parseChars dialect text).flagged = !(outlineOf dialect text).complete := by
  rw [parseChars, programNode, placeAll_eq_map, List.any_append, not_flagged_of_placed]
  cases (outlineOf dialect text).complete <;> rfl

/-- The children of an accepted program stand for its outline. -/
theorem parseChars_children {dialect : Dialect} {text : List Char}
    (h : (parseChars dialect text).flagged = false) :
    (parseChars dialect text).children =
      (outlineOf dialect text).parts.map (Tree.place (.ofChars text)) := by
  rw [parseChars_flagged, Bool.not_eq_false'] at h
  rw [parseChars, programNode, placeAll_eq_map, if_pos h, List.append_nil]

/-- Every node below a placed tree is a placed tree itself. -/
theorem exists_tree_of_within_placed {s : Source} {t : Tree} {n : Node} (h : n.Within (t.place s)) :
    ∃ u : Tree, n = u.place s := by
  generalize hroot : t.place s = root at h
  induction h with
  | self => exact ⟨t, hroot.symm⟩
  | child hmem _ ih =>
      obtain ⟨u, rfl⟩ := ih hroot
      rw [place_children] at hmem
      obtain ⟨v, -, rfl⟩ := List.mem_map.mp hmem
      exact ⟨v, rfl⟩

/-- No node below a placed tree is erroneous or missing. -/
theorem intact_of_within_placed {s : Source} {t : Tree} {n : Node} (h : n.Within (t.place s)) :
    n.erroneous = false ∧ n.missing = false := by
  obtain ⟨u, rfl⟩ := exists_tree_of_within_placed h
  exact ⟨place_erroneous s u, place_missing s u⟩

/-- A node below another one is that node or a node below one of its children. -/
theorem within_cases {n root : Node} (h : n.Within root) :
    n = root ∨ ∃ c ∈ root.children, n.Within c := by
  induction h with
  | self => exact Or.inl rfl
  | child hmem hwithin ih =>
      rcases ih with rfl | ⟨c, hc, hbelow⟩
      · exact Or.inr ⟨_, hmem, .self⟩
      · exact Or.inr ⟨c, hc, .child hmem hbelow⟩

/-- A program is accepted exactly if none of its nodes is erroneous or missing. -/
theorem parseChars_intact_iff (dialect : Dialect) (text : List Char) :
    (parseChars dialect text).flagged = false ↔
      ∀ n : Node, n.Within (parseChars dialect text) → n.erroneous = false ∧ n.missing = false := by
  constructor
  · intro h n hn
    rcases within_cases hn with rfl | ⟨c, hc, hbelow⟩
    · exact ⟨rfl, rfl⟩
    · rw [parseChars_children h] at hc
      obtain ⟨t, -, rfl⟩ := List.mem_map.mp hc
      exact intact_of_within_placed hbelow
  · intro h
    cases hflagged : (parseChars dialect text).flagged with
    | false => rfl
    | true =>
        -- What is not a program as a whole has an erroneous child at its end.
        have hincomplete : (outlineOf dialect text).complete = false := by
          rw [parseChars_flagged] at hflagged
          simpa using hflagged
        obtain ⟨c, hc, herroneous⟩ :
            ∃ c ∈ (parseChars dialect text).children, c.erroneous = true := by
          rw [parseChars, programNode, hincomplete]
          exact ⟨_, List.mem_append_right _ List.mem_cons_self, rfl⟩
        exact absurd herroneous (by rw [(h c (.child hc .self)).1]; simp)

end Script

end LocaleCatalogue
