import LocaleCatalogue.Proofs.Syntax.Standing
import LocaleCatalogue.Syntax.Diagnosis
import Mathlib.Order.OrderIsoNat

/-!
# The search finds the first fault

The search for a fault works from a stack and leaves out what is not flagged. If the flags of a tree
say exactly which nodes hold a fault, nothing that is left out holds one. So every round keeps the
first fault of the nodes on the stack and below them, taken in their order from the top, and the
node that the search finds is the first fault of the whole tree in preorder.
-/

namespace LocaleCatalogue.Syntax

namespace Node

mutual

/-- A node and the nodes below it: a node comes before its children, and each child with all that is
below it before the next one. -/
def preorder : Node → List Node
  | ⟨kind, named, field, text, startByte, stopByte, start, stop, erroneous, missing, flagged, children⟩ =>
    ⟨kind, named, field, text, startByte, stopByte, start, stop, erroneous, missing, flagged, children⟩ ::
      preorderAll children

/-- The nodes of several trees, one tree after another. -/
def preorderAll : List Node → List Node
  | [] => []
  | n :: ns => n.preorder ++ preorderAll ns

end

theorem preorderAll_eq_flatMap (ns : List Node) : preorderAll ns = ns.flatMap preorder := by
  induction ns with
  | nil => rfl
  | cons n ns ih => rw [preorderAll, ih, List.flatMap_cons]

theorem preorder_eq (n : Node) : n.preorder = n :: n.children.flatMap preorder := by
  cases n
  rw [preorder, preorderAll_eq_flatMap]

/-- The preorder of a tree holds the nodes of the tree. -/
theorem mem_preorder_iff {m n : Node} : m ∈ n.preorder ↔ m.Within n := by
  induction n using induction with
  | node n ih =>
    rw [preorder_eq, List.mem_cons, List.mem_flatMap]
    constructor
    · rintro (rfl | ⟨c, hc, hm⟩)
      · exact .self
      · exact ((ih c hc).mp hm).trans (within_of_mem_children hc)
    · intro h
      rcases Script.within_cases h with rfl | ⟨c, hc, hm⟩
      · exact Or.inl rfl
      · exact Or.inr ⟨c, hc, (ih c hc).mpr hm⟩

/-- A node is flagged exactly if the node itself or some node below it is erroneous or missing. -/
def FlagsExact (root : Node) : Prop :=
  ∀ n : Node, n.Within root → (n.flagged = true ↔ ∃ m : Node, m.Within n ∧ m.isFault = true)

variable {n root : Node}

theorem FlagsExact.of_mem_children (h : root.FlagsExact) (hn : n ∈ root.children) :
    n.FlagsExact := fun m hm => h m (hm.trans (within_of_mem_children hn))

/-- The flags are exact if each is set by the node itself and the flags of its children. -/
theorem flagsExact_iff : root.FlagsExact ↔
    ∀ n : Node, n.Within root → n.flagged = (n.isFault || n.children.any (·.flagged)) := by
  constructor
  · intro h n hn
    rw [Bool.eq_iff_iff, h n hn, Bool.or_eq_true, List.any_eq_true]
    constructor
    · rintro ⟨m, hm, hfault⟩
      rcases Script.within_cases hm with rfl | ⟨c, hc, hm⟩
      · exact Or.inl hfault
      · exact Or.inr ⟨c, hc, (h c (.child hc hn)).mpr ⟨m, hm, hfault⟩⟩
    · rintro (hfault | ⟨c, hc, hflagged⟩)
      · exact ⟨n, .self, hfault⟩
      · obtain ⟨m, hm, hfault⟩ := (h c (.child hc hn)).mp hflagged
        exact ⟨m, hm.trans (within_of_mem_children hc), hfault⟩
  · intro h n
    induction n using induction with
    | node n ih =>
      intro hn
      rw [h n hn, Bool.or_eq_true, List.any_eq_true]
      constructor
      · rintro (hfault | ⟨c, hc, hflagged⟩)
        · exact ⟨n, .self, hfault⟩
        · obtain ⟨m, hm, hfault⟩ := (ih c hc (.child hc hn)).mp hflagged
          exact ⟨m, hm.trans (within_of_mem_children hc), hfault⟩
      · rintro ⟨m, hm, hfault⟩
        rcases Script.within_cases hm with rfl | ⟨c, hc, hm⟩
        · exact Or.inl hfault
        · exact Or.inr ⟨c, hc, (ih c hc (.child hc hn)).mpr ⟨m, hm, hfault⟩⟩

/-- What is neither flagged nor missing holds no fault. -/
theorem FlagsExact.find?_eq_none (h : n.FlagsExact) (hflagged : n.flagged = false) :
    n.preorder.find? isFault = none := by
  rw [List.find?_eq_none]
  intro m hm hfault
  rw [(h n .self).mpr ⟨m, mem_preorder_iff.mp hm, hfault⟩] at hflagged
  cases hflagged

end Node

open Node (isFault preorder)

variable {stack next : List Node} {n root : Node}

/-- What a round comes to, in each of its three cases. -/
theorem searchRound_cases (stack : List Node) :
    (stack = [] ∧ searchRound stack = .exhausted) ∨
    (∃ n below, stack = n :: below ∧ n.isFault = true ∧ searchRound stack = .found n) ∨
    ∃ n below, stack = n :: below ∧ n.isFault = false ∧
      searchRound stack = .onward (n.suspects ++ below) := by
  cases stack with
  | nil => exact Or.inl ⟨rfl, rfl⟩
  | cons n below =>
    right
    cases hfault : n.isFault with
    | true => exact Or.inl ⟨n, below, rfl, hfault, by rw [searchRound, hfault, if_pos rfl]⟩
    | false =>
      refine Or.inr ⟨n, below, rfl, hfault, ?_⟩
      rw [searchRound, hfault, if_neg Bool.false_ne_true, pushAll_reverse]

/-- The search does not go on for ever, whatever it begins with. -/
theorem search_not_endless (pending : Nat → List Node) :
    ¬ ∀ i, searchRound (pending i) = .onward (pending (i + 1)) := fun hrounds =>
  not_strictAnti_of_wellFoundedLT (fun i => countAll (pending i))
    (strictAnti_nat_of_succ_lt fun i => countAll_lt_of_onward (hrounds i))

/-- The first fault among nodes and all that is below them. -/
def firstAmong (stack : List Node) : Option Node := (stack.flatMap preorder).find? isFault

/-- Leaving out nodes without a fault does not change the first one. -/
theorem firstAmong_filter {p : Node → Bool} {ns : List Node}
    (h : ∀ n ∈ ns, p n = false → n.preorder.find? isFault = none) :
    firstAmong (ns.filter p) = firstAmong ns := by
  unfold firstAmong
  induction ns with
  | nil => rfl
  | cons n ns ih =>
    have hrest := ih fun m hm => h m (List.mem_cons_of_mem n hm)
    rw [List.flatMap_cons, List.find?_append, ← hrest, List.filter_cons]
    cases hp : p n with
    | true => rw [if_pos rfl, List.flatMap_cons, List.find?_append]
    | false => rw [if_neg Bool.false_ne_true, h n List.mem_cons_self hp, Option.none_or]

theorem firstAmong_append (ns ms : List Node) :
    firstAmong (ns ++ ms) = (firstAmong ns).or (firstAmong ms) := by
  simp only [firstAmong, List.flatMap_append, List.find?_append]

/-- A round that goes on keeps the first fault of what is on the stack. -/
theorem onward_keeps_first (hflags : ∀ n ∈ stack, n.FlagsExact)
    (h : searchRound stack = .onward next) :
    (∀ n ∈ next, n.FlagsExact) ∧ firstAmong next = firstAmong stack := by
  rcases searchRound_cases stack with ⟨-, hround⟩ | ⟨n, below, -, -, hround⟩ |
    ⟨n, below, rfl, hfault, hround⟩
  · cases hround.symm.trans h
  · cases hround.symm.trans h
  cases hround.symm.trans h
  have hchildren : ∀ c ∈ n.children, c.FlagsExact := fun c hc =>
    (hflags n List.mem_cons_self).of_mem_children hc
  constructor
  · intro m hm
    rcases List.mem_append.mp hm with hm | hm
    · exact hchildren m (List.mem_filter.mp hm).1
    · exact hflags m (List.mem_cons_of_mem n hm)
  · have hsuspects : firstAmong n.suspects = firstAmong n.children := by
      refine firstAmong_filter fun c hc hinnocent => (hchildren c hc).find?_eq_none ?_
      exact (Bool.or_eq_false_iff.mp hinnocent).1
    -- The node itself is no fault, so its first fault is the first one below it.
    have hnode : n.preorder.find? isFault = firstAmong n.children := by
      rw [Node.preorder_eq, List.find?_cons_of_neg (by simp [hfault]), firstAmong]
    rw [firstAmong_append, hsuspects, ← hnode, firstAmong, firstAmong, List.flatMap_cons,
      List.find?_append]

/-- From a stack with exact flags the search finds the first fault. -/
theorem searchFrom_eq_firstAmong (stack : List Node) (hflags : ∀ n ∈ stack, n.FlagsExact) :
    searchFrom stack = firstAmong stack := by
  fun_induction searchFrom stack with
  | case1 stack n hround =>
    rcases searchRound_cases stack with ⟨-, h⟩ | ⟨m, below, rfl, hfault, h⟩ | ⟨m, below, -, -, h⟩
    · cases h.symm.trans hround
    · cases h.symm.trans hround
      rw [firstAmong, List.flatMap_cons, Node.preorder_eq, List.cons_append,
        List.find?_cons_of_pos hfault]
    · cases h.symm.trans hround
  | case2 stack hround =>
    rcases searchRound_cases stack with ⟨rfl, -⟩ | ⟨m, below, -, -, h⟩ | ⟨m, below, -, -, h⟩
    · rfl
    · cases h.symm.trans hround
    · cases h.symm.trans hround
  | case3 stack next hround ih =>
    obtain ⟨hnext, hfirst⟩ := onward_keeps_first hflags hround
    rw [ih hnext, hfirst]

theorem Node.FlagsExact.firstFault?_eq (h : root.FlagsExact) :
    root.firstFault? = root.preorder.find? isFault := by
  have hstack : ∀ n ∈ [root], n.FlagsExact := fun n hn => List.mem_singleton.mp hn ▸ h
  rw [Node.firstFault?, searchFrom_eq_firstAmong [root] hstack, firstAmong, List.flatMap_singleton]

/-- What is said about a fault is never what is said when there is none. -/
theorem complaint_ne (n : Node) : n.complaint ≠ "syntax error" := by
  intro h
  have hhead := congrArg (fun s : String => s.toList.head?) h
  cases hmissing : n.missing <;> simp [Node.complaint, hmissing, String.toList_append] at hhead

/-- The flags of the trees that the parser makes are exact. -/
theorem flagsExact_parseChars (dialect : Script.Dialect) (text : List Char) :
    (Script.parseChars dialect text).FlagsExact := by
  rw [Node.flagsExact_iff]
  intro n hn
  rcases Script.within_cases hn with rfl | ⟨c, hc, hbelow⟩
  · rfl
  · rw [Script.parseChars, Script.programNode, Script.placeAll_eq_map] at hc
    rcases List.mem_append.mp hc with hc | hc
    · obtain ⟨t, -, rfl⟩ := List.mem_map.mp hc
      obtain ⟨u, rfl⟩ := Script.exists_tree_of_within_placed hbelow
      rw [Script.place_children, Script.not_flagged_of_placed]
      simp [isFault]
    · -- The node behind the last statement has nothing below it.
      split at hc
      · cases hc
      · obtain rfl := List.mem_singleton.mp hc
        rcases Script.within_cases hbelow with rfl | ⟨c, hc, -⟩
        · rfl
        · cases hc

/-- If exactly the nodes that hold an erroneous or missing one are flagged, the search ends and
finds the first of these in the preorder of the whole tree. It is described by its kind and its
place, and that there is just some syntax error is said exactly if there is no such node, which is
exactly if the root is not flagged. The trees of the parser are flagged like that. -/
theorem diagnosis_describes_first (hflags : root.FlagsExact) :
    (∀ pending : Nat → List Node, ¬ ∀ i, searchRound (pending i) = .onward (pending (i + 1))) ∧
    root.firstFault? = root.preorder.find? isFault ∧
    (∀ n, root.preorder.find? isFault = some n →
      root.diagnosis = (if n.missing then "missing " ++ n.kind else "unexpected syntax") ++
        s!" at line {n.start.row + 1}, column {n.start.column}") ∧
    (root.diagnosis = "syntax error" ↔ ∀ n : Node, n.Within root → n.isFault = false) ∧
    (root.diagnosis = "syntax error" ↔ root.flagged = false) ∧
    ∀ dialect text, (Script.parseChars dialect text).FlagsExact := by
  have hfound := hflags.firstFault?_eq
  have hnone : root.diagnosis = "syntax error" ↔ ∀ n : Node, n.Within root → n.isFault = false := by
    rw [Node.diagnosis, hfound]
    cases hfirst : root.preorder.find? isFault with
    | none =>
      rw [List.find?_eq_none] at hfirst
      refine iff_of_true rfl fun n hn => ?_
      exact Bool.eq_false_iff.mpr (hfirst n (Node.mem_preorder_iff.mpr hn))
    | some n =>
      refine iff_of_false (complaint_ne n) fun hintact => ?_
      have hwithin := Node.mem_preorder_iff.mp (List.mem_of_find?_eq_some hfirst)
      exact absurd (List.find?_some hfirst) (Bool.eq_false_iff.mp (hintact n hwithin))
  refine ⟨search_not_endless, hfound, ?_, hnone, ?_, flagsExact_parseChars⟩
  · intro n hfirst
    rw [Node.diagnosis, hfound, hfirst]
    rfl
  · rw [hnone, ← Bool.not_eq_true, hflags root .self]
    simp only [not_exists, not_and, Bool.not_eq_true]

/-- A node that is marked in some way, over others. -/
def markedNode (kind : String) (start : Point) (erroneous missing flagged : Bool)
    (children : List Node) : Node where
  kind := kind
  named := true
  field := none
  text := none
  startByte := 0
  stopByte := 0
  start := start
  stop := start
  erroneous := erroneous
  missing := missing
  flagged := flagged
  children := children

/-- A tree with two faults. The first one in preorder is deeper than the other and follows nodes
that are not flagged. -/
def twoFaults : Node :=
  markedNode "program" ⟨0, 0⟩ false false true [
    markedNode "comment" ⟨0, 0⟩ false false false [],
    markedNode "export_statement" ⟨1, 0⟩ false false true [
      markedNode "object" ⟨1, 15⟩ false false false [markedNode "pair" ⟨1, 17⟩ false false false []],
      markedNode "statement_block" ⟨2, 0⟩ false false true [
        markedNode ";" ⟨2, 7⟩ false true true []]],
    markedNode "ERROR" ⟨3, 0⟩ true false true []]

theorem diagnosis_describes_first_twoFaults :
    twoFaults.FlagsExact ∧ twoFaults.diagnosis = "missing ; at line 3, column 7" := by
  have hflags : twoFaults.FlagsExact := by
    rw [Node.flagsExact_iff]
    intro n hn
    have hall : ∀ m ∈ twoFaults.preorder, m.flagged = (m.isFault || m.children.any (·.flagged)) := by
      decide
    exact hall n (Node.mem_preorder_iff.mpr hn)
  have hfirst : twoFaults.preorder.find? isFault =
      some (markedNode ";" ⟨2, 7⟩ false true true []) := rfl
  exact ⟨hflags, (diagnosis_describes_first hflags).2.2.1 _ hfirst⟩

end LocaleCatalogue.Syntax
