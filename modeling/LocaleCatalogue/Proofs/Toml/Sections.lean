import LocaleCatalogue.Proofs.Files.Answers
import LocaleCatalogue.Proofs.Toml.Documents

/-!
# Documents below a header

A document without headers may stand as a whole below one. Each of its entries then changes the
table of the header as it would change the document, and no mark that the header leaves is in its
way. So the two drafts stay alike line by line, and in the end the table of the header is the table
of the document.
-/

namespace LocaleCatalogue.Toml

variable {top path : KeyPath} {table : Table} {marks : List Mark} {kind : MarkKind} {d d' : Draft}
  {v : Value} {throughLists : Bool} {cs : List Char}

/-! ### Tables -/

/-- A table behind a path through tables that hold nothing else. -/
def nested : KeyPath → Table → Table
  | [], table => table
  | name :: rest, table => [(name, .table (nested rest table))]

theorem within_nested (top : KeyPath) (change : Table → Option Table) :
    within throughLists change (top ++ path) (nested top table) =
      (within throughLists change path table).map (nested top) := by
  induction top with
  | nil => exact Option.map_id'.symm
  | cons name top ih =>
      have hfind : Entries.find? (nested (name :: top) table) name = some (.table (nested top table)) := by
        rw [nested, Entries.find?_cons, if_pos rfl]
      rw [List.cons_append, within, hfind]
      dsimp only
      rw [ih, Option.map_map]
      congr 1
      funext inner
      simp [nested, Entries.put]

theorem insertAt_nested (hpath : path ≠ []) :
    insertAt throughLists (top ++ path) v (nested top table) =
      (insertAt throughLists path v table).map (nested top) := by
  rw [insertAt, insertAt, List.getLast?_append_of_ne_nil _ hpath, List.dropLast_append_of_ne_nil hpath]
  cases path.getLast? with
  | none => rfl
  | some name => exact within_nested top _

/-! ### Marks -/

/-- Whether a mark is one for a path. -/
def Mark.forbids (m : Mark) (kind : MarkKind) (path : KeyPath) : Bool :=
  m.kind = kind && (m.path = path || (kind = .frozen && m.path.isPrefixOf path))

theorem isMarked_eq (marks : List Mark) (kind : MarkKind) (path : KeyPath) :
    isMarked marks kind path = (!path.isEmpty && marks.any fun m => m.forbids kind path) := rfl

/-- A mark moved below a path. -/
def Mark.below (top : KeyPath) (m : Mark) : Mark := { m with path := top ++ m.path }

/-- Marks moved below a path that a header opened. -/
def marksBelow (top : KeyPath) (marks : List Mark) : List Mark :=
  marks.map (Mark.below top) ++ [⟨.opened, top⟩]

theorem forbids_below (m : Mark) :
    (m.below top).forbids kind (top ++ path) = m.forbids kind path := by
  have hprefix : (top ++ m.path).isPrefixOf (top ++ path) = m.path.isPrefixOf path := by
    rw [Bool.eq_iff_iff, List.isPrefixOf_iff_prefix, List.isPrefixOf_iff_prefix,
      List.prefix_append_right_inj]
  have hsame : decide (top ++ m.path = top ++ path) = decide (m.path = path) :=
    decide_eq_decide.mpr (List.append_right_inj top)
  rw [Mark.forbids, Mark.below, hprefix, hsame]
  rfl

theorem isMarked_below (hpath : path ≠ []) :
    isMarked (marksBelow top marks) kind (top ++ path) = isMarked marks kind path := by
  -- the mark of the header itself forbids its own path only
  have hheader : (Mark.mk .opened top).forbids kind (top ++ path) = false := by
    cases kind <;> simp [Mark.forbids, hpath]
  have hall : (marksBelow top marks).any (fun m => m.forbids kind (top ++ path)) =
      marks.any fun m => m.forbids kind path := by
    rw [marksBelow, List.any_append, List.any_map]
    simp [Function.comp_def, forbids_below, hheader]
  have hplain : path.isEmpty = false := List.isEmpty_eq_false_iff.mpr hpath
  have hbelow : (top ++ path).isEmpty = false :=
    List.isEmpty_eq_false_iff.mpr (List.append_ne_nil_of_right_ne_nil top hpath)
  rw [isMarked_eq, isMarked_eq, hall, hplain, hbelow]

/-- Entries do not mark the table that a header opened. -/
theorem not_isMarked_top (hmarks : ∀ m ∈ marks, m.path ≠ []) :
    isMarked (marksBelow top marks) .frozen top = false := by
  have hall : ∀ m ∈ marks, (m.below top).forbids .frozen top = false := by
    intro m hm
    have h : (m.below top).forbids .frozen (top ++ []) = m.forbids .frozen [] := forbids_below m
    rw [List.append_nil] at h
    rw [h]
    have hne := hmarks m hm
    rw [Mark.forbids]
    cases hp : m.path with
    | nil => exact absurd hp hne
    | cons => simp
  have hheader : (Mark.mk .opened top).forbids .frozen top = false := by simp [Mark.forbids]
  rw [isMarked_eq, marksBelow, List.any_append, List.any_map]
  simpa [hheader] using fun _ => hall

theorem marksBelow_marksOf :
    marksBelow top (marksOf path v ++ marks) = marksOf (top ++ path) v ++ marksBelow top marks := by
  rw [marksBelow, marksBelow, List.map_append, List.append_assoc]
  congr 1
  unfold marksOf
  split <;> rfl

theorem isMarked_frozen_below (hmarks : ∀ m ∈ marks, m.path ≠ []) :
    isMarked (marksBelow top marks) .frozen (top ++ path) = isMarked marks .frozen path := by
  cases path with
  | nil =>
      rw [List.append_nil, not_isMarked_top hmarks]
      rfl
  | cons name path => exact isMarked_below (List.cons_ne_nil name path)

/-! ### Entries -/

namespace Draft

/-- Drafts in which no header has been read. -/
structure IsTopmost (d : Draft) : Prop where
  header : d.header = []
  marks : ∀ m ∈ d.marks, m.path ≠ []

/-- The draft as it stands below a header. -/
def below (top : KeyPath) (d : Draft) : Draft where
  table := nested top d.table
  header := top
  marks := marksBelow top d.marks
  pending := d.pending.map (Mark.below top)

theorem passed_below (h : d.IsTopmost) : (d.below top).passed path = (d.passed path).map (top ++ ·) := by
  simp [passed, below, h.header]

theorem ne_nil_of_mem_passed (hpath : path ≠ []) {tables : KeyPath} (h : tables ∈ d.passed path) :
    tables ≠ [] := by
  obtain ⟨n, -, rfl⟩ := List.mem_map.mp h
  simp [hpath]

theorem add?_below (h : d.IsTopmost) (hpath : path ≠ []) :
    (d.below top).add? path v = (d.add? path v).map (below top) := by
  have hpassed : ((d.below top).passed path).any (isMarked (d.below top).marks .opened) =
      (d.passed path).any (isMarked d.marks .opened) := by
    rw [passed_below h, List.any_map]
    rw [Bool.eq_iff_iff, List.any_eq_true, List.any_eq_true]
    refine exists_congr fun tables => and_congr_right fun htables => ?_
    rw [Function.comp, below, isMarked_below (ne_nil_of_mem_passed hpath htables)]
  have hfrozen : isMarked (d.below top).marks .frozen ((d.below top).header ++ path.dropLast) =
      isMarked d.marks .frozen (d.header ++ path.dropLast) := by
    rw [h.header]
    exact isMarked_frozen_below h.marks
  have hinsert : insertAt true ((d.below top).header ++ path) v (d.below top).table =
      (insertAt true (d.header ++ path) v d.table).map (nested top) := by
    rw [h.header]
    exact insertAt_nested hpath
  -- both drafts are refused for the same reasons, and else they take the same entry
  rw [add?, add?, hpassed, hfrozen, hinsert]
  split
  next => rfl
  next =>
    split
    next => rfl
    next =>
      rw [Option.map_map, Option.map_map]
      congr 1
      funext table
      have hpending : ((d.below top).passed path).map (Mark.mk .opened) =
          ((d.passed path).map (Mark.mk .opened)).map (Mark.below top) := by
        rw [passed_below h, List.map_map, List.map_map]
        rfl
      simp only [Function.comp, below] at hpending ⊢
      rw [hpending, h.header, List.nil_append, marksBelow_marksOf, List.map_append]

theorem isTopmost_add? (h : d.IsTopmost) (hpath : path ≠ []) (hadd : d.add? path v = some d') :
    d'.IsTopmost := by
  rw [add?] at hadd
  split at hadd
  next => cases hadd
  next =>
    split at hadd
    next => cases hadd
    next =>
      obtain ⟨table, -, rfl⟩ := Option.map_eq_some_iff.mp hadd
      refine ⟨h.header, fun m hm => ?_⟩
      rcases List.mem_append.mp hm with hnew | hold
      · unfold marksOf at hnew
        split at hnew
        next =>
          rw [List.mem_singleton.mp hnew, h.header]
          exact hpath
        next => cases hnew
      · exact h.marks m hold

end Draft

/-! ### Lines -/

theorem ne_nil_of_key {fuel : Nat} {rest : List Char} (h : key fuel cs = .ok (path, rest)) : path ≠ [] := by
  cases fuel with
  | zero => cases h
  | succ fuel =>
      rw [key] at h
      split at h
      next => cases h
      next =>
        split at h
        next =>
          obtain ⟨found, -, hfound⟩ := map_eq_ok_iff.mp h
          cases hfound
          exact List.cons_ne_nil _ _
        next =>
          cases h
          exact List.cons_ne_nil _ _

theorem ne_nil_of_entry {fuel : Nat} {rest : List Char} (h : entry fuel cs = .ok ((path, v), rest)) :
    path ≠ [] := by
  cases fuel with
  | zero => cases h
  | succ fuel =>
      rw [entry] at h
      split at h
      next => cases h
      next hkey =>
        obtain ⟨found, -, hfound⟩ := map_eq_ok_iff.mp h
        cases hfound
        exact ne_nil_of_key hkey
      next => cases h

/-- Whether no line of a text, after its first line end, begins with a bracket. -/
def isHeadless : List Char → Bool
  | [] => true
  | c :: cs => !(c = '\n' && (skipBlanks cs).head? = some '[') && isHeadless cs

theorem isHeadless_of_suffix {rest : List Char} (h : isHeadless cs = true) (hrest : rest <:+ cs) :
    isHeadless rest = true := by
  induction cs with
  | nil => rwa [List.suffix_nil.mp hrest]
  | cons c cs ih =>
      rcases List.suffix_cons_iff.mp hrest with rfl | hrest
      · exact h
      · exact ih (Bool.and_eq_true_iff.mp h).2 hrest

theorem head?_of_isHeadless (h : isHeadless ('\n' :: cs) = true) : (skipBlanks cs).head? ≠ some '[' := by
  have hline := (Bool.and_eq_true_iff.mp h).1
  simpa using hline

theorem statement_eq {c : Char} {rest : List Char} (hc : c ≠ '[') :
    statement d (c :: rest) =
      if c = '#' ∨ c = '\n' then .ok (d, c :: rest)
      else
        match entry (2 * (c :: rest).length + 2) (c :: rest) with
        | .error fault => .error fault
        | .ok ((path, v), after) => (orMalformed (d.add? path v)).map fun d => (d, after) := by
  unfold statement
  split
  next h => cases h
  next h =>
    cases h
    exact absurd rfl hc
  next h =>
    cases h
    exact if_congr (by simp only [Bool.or_eq_true, decide_eq_true_eq]) rfl rfl

theorem statement_below (h : d.IsTopmost) (hcs : cs.head? ≠ some '[') :
    statement (d.below top) cs = (statement d cs).map fun (d, rest) => (d.below top, rest) := by
  cases cs with
  | nil => rfl
  | cons c rest =>
      have hc : c ≠ '[' := fun hc => hcs (congrArg some hc)
      rw [statement_eq hc, statement_eq hc]
      split
      next => rfl
      next =>
        cases hentry : entry (2 * (c :: rest).length + 2) (c :: rest) with
        | error fault => rfl
        | ok found =>
            obtain ⟨⟨path, v⟩, after⟩ := found
            dsimp only
            rw [Draft.add?_below h (ne_nil_of_entry hentry)]
            cases d.add? path v <;> rfl

theorem orMalformed_eq_ok_iff {α : Type} {step : Option α} {a : α} :
    orMalformed step = .ok a ↔ step = some a := by
  cases step <;> simp [orMalformed]

/-- A line without a header leaves the draft topmost and goes on in the text. -/
theorem isTopmost_statement {rest : List Char} (h : d.IsTopmost) (hcs : cs.head? ≠ some '[')
    (hst : statement d cs = .ok (d', rest)) : d'.IsTopmost ∧ rest <:+ cs := by
  cases cs with
  | nil =>
      cases hst
      exact ⟨h, List.suffix_rfl⟩
  | cons c tail =>
      have hc : c ≠ '[' := fun hc => hcs (congrArg some hc)
      rw [statement_eq hc] at hst
      split at hst
      next =>
        cases hst
        exact ⟨h, List.suffix_rfl⟩
      next =>
        split at hst
        next => cases hst
        next path v after hentry =>
          obtain ⟨d'', hadd, hd⟩ := map_eq_ok_iff.mp hst
          cases hd
          have hrest := (rung (2 * (c :: tail).length + 2)).entry (c :: tail)
          rw [hentry] at hrest
          have hadd := orMalformed_eq_ok_iff.mp hadd
          exact ⟨Draft.isTopmost_add? h (ne_nil_of_entry hentry) hadd, hrest.of_ok.2⟩

/-- Below a header, lines without headers give the table that they give by themselves. -/
theorem lines_below {fuel fuel' : Nat} (h : d.IsTopmost) (hcs : isHeadless ('\n' :: cs) = true)
    (hfuel : cs.length < fuel) (hfuel' : cs.length < fuel') :
    lines fuel' (d.below top) cs = (lines fuel d cs).map (nested top) := by
  induction fuel generalizing d cs fuel' with
  | zero => exact absurd hfuel (Nat.not_lt_zero _)
  | succ fuel ih =>
      obtain ⟨fuel', rfl⟩ := Nat.exists_eq_succ_of_ne_zero (Nat.ne_zero_of_lt hfuel')
      have hhead := head?_of_isHeadless hcs
      rw [lines, lines, statement_below h hhead]
      cases hst : statement d (skipBlanks cs) with
      | error fault => rfl
      | ok found =>
          obtain ⟨d', rest⟩ := found
          obtain ⟨htop, hrest⟩ := isTopmost_statement h hhead hst
          dsimp only [Except.map]
          rcases skipComment_cases (skipBlanks rest) with ⟨after, hafter, hsuffix⟩ | hbad
          · rw [hafter]
            have hend := (hsuffix.trans (skipBlanks_suffix rest)).trans (hrest.trans (skipBlanks_suffix cs))
            rcases after with _ | ⟨c, more⟩
            · rfl
            · have hlength := hend.length_le
              rw [List.length_cons] at hlength
              by_cases hc : c = '\n'
              · -- both texts have lost the line, so either fuel is enough for the rest
                subst hc
                have hmore := isHeadless_of_suffix hcs (hend.trans (List.suffix_cons '\n' cs))
                exact ih htop hmore (by omega) (by omega)
              · simp [hc]
          · rw [hbad]

end LocaleCatalogue.Toml
