import LocaleCatalogue.Syntax.Node

/-!
# Diagnosis of broken trees

A rejected source is described by the first erroneous or missing node of its tree. The search keeps
the nodes that it has still to look at on a stack, the next one on top, and only goes on to nodes
that are flagged as containing one. In a round the search takes one node off the stack and puts only
nodes from below it there, so the stack holds fewer and fewer nodes of the tree and the search ends.
-/

namespace LocaleCatalogue.Syntax

namespace Node

/-- The node itself is erroneous or missing. -/
def isFault (n : Node) : Bool := n.erroneous || n.missing

/-- What is said about an erroneous or missing node. Rows are shown from one, columns from zero. -/
def complaint (n : Node) : String :=
  let problem := if n.missing then "missing " ++ n.kind else "unexpected syntax"
  problem ++ s!" at line {n.start.row + 1}, column {n.start.column}"

/-- The children that the search goes on to, in their order. -/
def suspects (n : Node) : List Node := n.children.filter fun c => c.flagged || c.missing

end Node

mutual

/-- How many nodes a tree has. -/
def Node.count : Node → Nat
  | ⟨_, _, _, _, _, _, _, _, _, _, _, children⟩ => countAll children + 1

/-- How many nodes several trees have. -/
def countAll : List Node → Nat
  | [] => 0
  | n :: ns => n.count + countAll ns

end

theorem Node.count_eq (n : Node) : n.count = countAll n.children + 1 := by
  cases n
  rfl

theorem countAll_append (ns ms : List Node) : countAll (ns ++ ms) = countAll ns + countAll ms := by
  induction ns with
  | nil => exact (Nat.zero_add _).symm
  | cons n ns ih => rw [List.cons_append, countAll, countAll, ih, Nat.add_assoc]

theorem countAll_filter_le (p : Node → Bool) (ns : List Node) :
    countAll (ns.filter p) ≤ countAll ns := by
  induction ns with
  | nil => exact Nat.le_refl 0
  | cons n ns ih =>
    rw [List.filter_cons]
    split
    · exact Nat.add_le_add_left ih _
    · exact Nat.le_trans ih (Nat.le_add_left _ _)

/-- The stack after nodes were put on it one by one; the last of them is on top. -/
def pushAll (stack nodes : List Node) : List Node := nodes.foldl (fun pushed n => n :: pushed) stack

/-- Nodes that were put on a stack from the last to the first are taken from it in their order. -/
theorem pushAll_reverse (stack nodes : List Node) : pushAll stack nodes.reverse = nodes ++ stack := by
  rw [pushAll, List.foldl_reverse, List.foldr_cons_eq_append, List.map_id']

/-- What a round of the search comes to. -/
inductive Round where
  | found (n : Node)
  | exhausted
  | onward (stack : List Node)

/-- One round: the node on top is what is looked for, or it makes way for its suspect children. -/
def searchRound : List Node → Round
  | [] => .exhausted
  | n :: below => if n.isFault then .found n else .onward (pushAll below n.suspects.reverse)

/-- Every round leaves fewer nodes to look at. -/
theorem countAll_lt_of_onward {stack next : List Node} (h : searchRound stack = .onward next) :
    countAll next < countAll stack := by
  cases stack with
  | nil => cases h
  | cons n below =>
    rw [searchRound] at h
    split at h
    · cases h
    · cases h
      have hsuspects : countAll n.suspects ≤ countAll n.children := countAll_filter_le _ n.children
      rw [pushAll_reverse, countAll_append, countAll, n.count_eq]
      omega

/-- The node that the search finds from a stack, round after round. -/
def searchFrom (stack : List Node) : Option Node :=
  match _round : searchRound stack with
  | .found n => some n
  | .exhausted => none
  | .onward next => searchFrom next
termination_by countAll stack
decreasing_by exact countAll_lt_of_onward ‹_›

/-- The erroneous or missing node that the search finds in a tree. -/
def Node.firstFault? (root : Node) : Option Node := searchFrom [root]

/-- What is said about a rejected tree. -/
def Node.diagnosis (root : Node) : String :=
  match root.firstFault? with
  | some n => n.complaint
  | none => "syntax error"

end LocaleCatalogue.Syntax
