import LocaleCatalogue.Proofs.Catalogue.Pool
import Mathlib.Data.List.Infix
import Mathlib.Data.List.Nodup
import Mathlib.Data.List.Perm.Subperm

/-!
# Collecting what is finished

The reports of a pool begin at some moment. What was finished by then comes first, in no particular
order; what is finished later follows in the order of its completion. So the order of completion is
kept beside the order of the reports, and the two agree only behind the positions that were finished
before the reports began. A collection is a pool with a memory: what it does is seen in the pool.
-/

namespace LocaleCatalogue

/-- Positions that wait, that are being worked on, and that are completed, in the order of their
completion; how many were completed when the reports began, if they have; and the reported positions
in the order of the reports. -/
structure Collection where
  waiting : List Nat
  running : List Nat
  completed : List Nat
  opened : Option Nat
  reported : List Nat

namespace Collection

/-- A step of a collection with some number of workers. -/
inductive Step (workers : Nat) : Collection → Collection → Prop
  | take {position : Nat} {waiting running completed reported : List Nat} {opened : Option Nat} :
      running.length < workers →
      Step workers ⟨position :: waiting, running, completed, opened, reported⟩
        ⟨waiting, position :: running, completed, opened, reported⟩
  | finish {position : Nat} {waiting before after completed reported : List Nat}
      {opened : Option Nat} :
      Step workers ⟨waiting, before ++ position :: after, completed, opened, reported⟩
        ⟨waiting, before ++ after, completed ++ [position], opened, reported⟩
  | start {waiting running completed reported : List Nat} :
      Step workers ⟨waiting, running, completed, none, reported⟩
        ⟨waiting, running, completed, some completed.length, reported⟩
  | early {position count : Nat} {waiting running completed reported : List Nat} :
      position ∈ completed.take count → position ∉ reported →
      Step workers ⟨waiting, running, completed, some count, reported⟩
        ⟨waiting, running, completed, some count, reported ++ [position]⟩
  | late {position count : Nat} {waiting running completed reported : List Nat} :
      count ≤ reported.length → completed[reported.length]? = some position →
      Step workers ⟨waiting, running, completed, some count, reported⟩
        ⟨waiting, running, completed, some count, reported ++ [position]⟩

/-- Some number of steps. -/
def Run (workers : Nat) : Collection → Collection → Prop := Relation.ReflTransGen (Step workers)

/-- The collection that has `n` positions to work on. -/
def initial (n : Nat) : Collection := ⟨List.range n, [], [], none, []⟩

/-- A collection of `n` positions that has come to its end. -/
structure Ended (workers n : Nat) (c : Collection) : Prop where
  run : Run workers (initial n) c
  stopped : ∀ next, ¬ Step workers c next

/-- The pool in a collection. -/
def pool (c : Collection) : Pool :=
  ⟨c.waiting, c.running, c.completed.reverse.filter (· ∉ c.reported), c.reported⟩

/-- Reports that began when `count` positions were completed: some of these in any order, and once
all of them are reported, the later ones in the order of their completion. -/
def Follows (count : Nat) (completed reported : List Nat) : Prop :=
  ∃ first later, reported = first ++ later ∧ first.Subperm (completed.take count) ∧
    later <+: completed.drop count ∧ (later ≠ [] → first.length = count)

/-- What every state of a collection keeps. -/
structure Kept (n : Nat) (c : Collection) : Prop where
  known : (c.waiting ++ c.running ++ c.completed).Perm (List.range n)
  unopened : c.opened = none → c.reported = []
  opened : ∀ count, c.opened = some count →
    count ≤ c.completed.length ∧ Follows count c.completed c.reported

variable {workers n count position : Nat} {c next : Collection} {completed reported : List Nat}

/-! ### Reports that follow -/

theorem nodup_of_subperm {l l' : List Nat} (h : l.Subperm l') (hnodup : l'.Nodup) : l.Nodup := by
  obtain ⟨positions, hperm, hsublist⟩ := h
  exact hperm.nodup_iff.mp (hsublist.nodup hnodup)

theorem Follows.subperm (h : Follows count completed reported) : reported.Subperm completed := by
  obtain ⟨first, later, rfl, hfirst, hlater, -⟩ := h
  have hparts := hfirst.append hlater.sublist.subperm
  rwa [List.take_append_drop] at hparts

theorem follows_nil (count : Nat) (completed : List Nat) : Follows count completed [] :=
  ⟨[], [], rfl, List.nil_subperm, List.nil_prefix, fun h => absurd rfl h⟩

/-- A completion does not disturb the reports. -/
theorem Follows.complete (h : Follows count completed reported) (hcount : count ≤ completed.length)
    (position : Nat) : Follows count (completed ++ [position]) reported := by
  obtain ⟨first, later, rfl, hfirst, hlater, hall⟩ := h
  refine ⟨first, later, rfl, ?_, ?_, hall⟩
  · rwa [List.take_append_of_le_length hcount]
  · rw [List.drop_append_of_le_length hcount]
    exact hlater.trans (List.prefix_append _ _)

/-- While not all early positions are reported, nothing later is. -/
theorem Follows.subperm_take (h : Follows count completed reported)
    (hposition : position ∈ completed.take count) (hfresh : position ∉ reported) :
    reported.Subperm (completed.take count) := by
  obtain ⟨first, later, rfl, hfirst, -, hall⟩ := h
  cases later with
  | nil => rwa [List.append_nil]
  | cons other later =>
      -- with something later all early positions are among the first, and so is this one
      have hlength : (completed.take count).length ≤ first.length := by
        rw [hall (List.cons_ne_nil _ _)]
        exact List.length_take_le _ _
      have hmem := ((hfirst.perm_of_length_le hlength).mem_iff).mpr hposition
      exact absurd (List.mem_append_left _ hmem) hfresh

theorem Follows.early (h : Follows count completed reported) (hnodup : completed.Nodup)
    (hposition : position ∈ completed.take count) (hfresh : position ∉ reported) :
    Follows count completed (reported ++ [position]) := by
  have hsub := h.subperm_take hposition hfresh
  refine ⟨reported ++ [position], [], (List.append_nil _).symm, ?_, List.nil_prefix,
    fun h => absurd rfl h⟩
  have hbefore : reported.Nodup := nodup_of_subperm (hsub.trans (List.take_sublist _ _).subperm) hnodup
  refine List.subperm_of_subset ?_ ?_
  · refine List.nodup_append.mpr ⟨hbefore, List.nodup_singleton position, ?_⟩
    rintro other hother _ hlast rfl
    exact hfresh (List.mem_singleton.mp hlast ▸ hother)
  · intro other hother
    rcases List.mem_append.mp hother with hother | hother
    · exact hsub.subset hother
    · exact List.mem_singleton.mp hother ▸ hposition

theorem Follows.late (h : Follows count completed reported) (hcount : count ≤ reported.length)
    (hposition : completed[reported.length]? = some position) :
    Follows count completed (reported ++ [position]) := by
  obtain ⟨first, later, rfl, hfirst, ⟨rest, hrest⟩, hall⟩ := h
  have hlength : first.length = count := by
    by_cases hlater : later = []
    · have hle := hfirst.length_le.trans (List.length_take_le count completed)
      rw [hlater, List.append_nil] at hcount
      omega
    · exact hall hlater
  refine ⟨first, later ++ [position], List.append_assoc _ _ _, hfirst, ?_, fun _ => hlength⟩
  have hnext : (completed.drop count)[later.length]? = some position := by
    rwa [List.getElem?_drop, ← hlength, ← List.length_append]
  rw [← hrest, List.getElem?_append_right (Nat.le_refl _), Nat.sub_self] at hnext
  cases rest with
  | nil => cases hnext
  | cons other rest =>
      cases hnext
      exact ⟨rest, by rw [← hrest, List.append_assoc]; rfl⟩

/-! ### What is kept -/

theorem kept_initial : Kept n (initial n) where
  known := .of_eq (by simp [initial])
  unopened _ := rfl
  opened _ h := nomatch h

theorem Kept.nodup (h : Kept n c) : (c.waiting ++ c.running ++ c.completed).Nodup :=
  h.known.nodup_iff.mpr List.nodup_range

theorem Kept.nodup_completed (h : Kept n c) : c.completed.Nodup := (List.nodup_append.mp h.nodup).2.1

/-- Only what is completed is reported. -/
theorem Kept.subperm (h : Kept n c) : c.reported.Subperm c.completed := by
  cases hopened : c.opened with
  | none =>
      rw [h.unopened hopened]
      exact List.nil_subperm
  | some count => exact (h.opened count hopened).2.subperm

/-- A step only moves a position. -/
theorem known_of_step (h : Step workers c next) :
    (next.waiting ++ next.running ++ next.completed).Perm
      (c.waiting ++ c.running ++ c.completed) := by
  rw [List.perm_iff_count]
  intro position
  cases h <;> simp only [List.count_append, List.count_cons, List.count_nil] <;> omega

theorem Kept.step (h : Kept n c) (hstep : Step workers c next) : Kept n next where
  known := (known_of_step hstep).trans h.known
  unopened hnone := by
    cases hstep with
    | take _ => exact h.unopened hnone
    | finish => exact h.unopened hnone
    | start => cases hnone
    | early _ _ => cases hnone
    | late _ _ => cases hnone
  opened count hcount := by
    have hnodup := h.nodup_completed
    cases hstep with
    | take _ => exact h.opened count hcount
    | finish =>
        obtain ⟨hle, hfollows⟩ := h.opened count hcount
        refine ⟨hle.trans ?_, hfollows.complete hle _⟩
        rw [List.length_append]
        exact Nat.le_add_right _ _
    | start =>
        cases hcount
        refine ⟨Nat.le_refl _, ?_⟩
        have hreported := h.unopened rfl
        dsimp only at hreported ⊢
        rw [hreported]
        exact follows_nil _ _
    | early hposition hfresh =>
        obtain ⟨hle, hfollows⟩ := h.opened count hcount
        cases hcount
        exact ⟨hle, hfollows.early hnodup hposition hfresh⟩
    | late hall hposition =>
        obtain ⟨hle, hfollows⟩ := h.opened count hcount
        cases hcount
        exact ⟨hle, hfollows.late hall hposition⟩

theorem kept_of_run (h : Run workers (initial n) c) : Kept n c := by
  induction h with
  | refl => exact kept_initial
  | tail _ hstep ih => exact ih.step hstep

/-! ### The pool in a collection -/

/-- A report takes a position that was finished out of the pool. -/
theorem exists_of_report (hnodup : completed.Nodup) (hposition : position ∈ completed)
    (hfresh : position ∉ reported) :
    ∃ before after, completed.reverse.filter (· ∉ reported) = before ++ position :: after ∧
      completed.reverse.filter (· ∉ reported ++ [position]) = before ++ after := by
  have hfinished : position ∈ completed.reverse.filter (· ∉ reported) := by
    simpa using ⟨hposition, hfresh⟩
  obtain ⟨before, after, -, hbefore, hafter⟩ := List.exists_erase_eq hfinished
  refine ⟨before, after, hbefore, ?_⟩
  have hfiltered : (completed.reverse.filter (· ∉ reported)).Nodup :=
    (List.nodup_reverse.mpr hnodup).filter _
  rw [← hafter, hfiltered.erase_eq_filter, List.filter_filter]
  refine List.filter_congr fun other _ => ?_
  simp [not_or, and_comm, bne, beq_eq_decide]

/-- A step of a collection is a step of the pool in it; only the beginning of the reports is not seen
there. -/
theorem Kept.pool_step (h : Kept n c) (hstep : Step workers c next) :
    next.pool = c.pool ∨ c.pool.Step workers next.pool := by
  have hnodup := h.nodup_completed
  cases hstep with
  | take hfree => exact .inr (.take hfree)
  | @finish position waiting before after completed reported opened =>
      have hfresh : position ∉ reported := fun hreported => by
        have hdisjoint := (List.nodup_append.mp h.nodup).2.2
        exact hdisjoint position (by simp) position (h.subperm.subset hreported) rfl
      refine .inr ?_
      simp only [pool, List.reverse_append, List.reverse_singleton, List.singleton_append,
        List.filter_cons, hfresh, not_false_eq_true, decide_true, if_true]
      exact .finish
  | start => exact .inl rfl
  | early hposition hfresh =>
      obtain ⟨before, after, hbefore, hafter⟩ :=
        exists_of_report hnodup (List.mem_of_mem_take hposition) hfresh
      refine .inr ?_
      simp only [pool, hbefore, hafter]
      exact .report
  | @late position count waiting running completed reported hall hposition =>
      obtain ⟨hle, hfollows⟩ := h.opened count rfl
      have hfresh : position ∉ reported := by
        have hmore := nodup_of_subperm (hfollows.late hall hposition).subperm hnodup
        exact fun hmem => (List.nodup_append.mp hmore).2.2 position hmem position (by simp) rfl
      obtain ⟨before, after, hbefore, hafter⟩ :=
        exists_of_report hnodup (List.mem_of_getElem? hposition) hfresh
      refine .inr ?_
      simp only [pool, hbefore, hafter]
      exact .report

/-- What a collection does is a run of the pool in it. -/
theorem pool_run (h : Run workers (initial n) c) : Pool.Run workers (Pool.initial n) c.pool := by
  induction h with
  | refl => exact .refl
  | tail hrun hstep ih =>
      rcases (kept_of_run hrun).pool_step hstep with hsame | hpool
      · rwa [hsame]
      · exact ih.tail hpool

/-! ### The end of a collection -/

/-- A collection comes to its end when everything is completed and reported. -/
theorem Ended.all (h : Ended workers n c) (hworkers : 1 ≤ workers) :
    c.waiting = [] ∧ c.running = [] ∧ (∃ count, c.opened = some count) ∧
      c.reported.length = c.completed.length := by
  have hkept := kept_of_run h.run
  obtain ⟨waiting, running, completed, opened, reported⟩ := c
  have hrunning : running = [] := by
    cases running with
    | nil => rfl
    | cons position after =>
        exact absurd (@Step.finish workers position waiting [] after _ _ _) (h.stopped _)
  have hwaiting : waiting = [] := by
    cases waiting with
    | nil => rfl
    | cons position rest =>
        refine absurd (.take ?_) (h.stopped _)
        rw [hrunning]
        exact hworkers
  cases opened with
  | none => exact absurd .start (h.stopped _)
  | some count =>
      refine ⟨hwaiting, hrunning, ⟨count, rfl⟩, ?_⟩
      have hsub : reported.Subperm completed := hkept.subperm
      by_contra hne
      have hshort : reported.length < completed.length := lt_of_le_of_ne hsub.length_le hne
      by_cases hall : count ≤ reported.length
      · exact h.stopped _ (.late hall (List.getElem?_eq_getElem hshort))
      · -- one of the early positions is not reported yet
        have hmissing : ¬ completed.take count ⊆ reported := fun hsubset => by
          have hnodup := (List.take_sublist count completed).nodup hkept.nodup_completed
          have hlength := (List.subperm_of_subset hnodup hsubset).length_le
          rw [List.length_take, Nat.min_eq_left (hkept.opened count rfl).1] at hlength
          omega
        obtain ⟨position, hposition⟩ := not_forall.mp hmissing
        obtain ⟨hearly, hfresh⟩ := Classical.not_imp.mp hposition
        exact h.stopped _ (.early hearly hfresh)

/-- Everything is completed at the end. -/
theorem Ended.perm_completed (h : Ended workers n c) (hworkers : 1 ≤ workers) :
    c.completed.Perm (List.range n) := by
  obtain ⟨hwaiting, hrunning, -, -⟩ := h.all hworkers
  have hknown := (kept_of_run h.run).known
  rwa [hwaiting, hrunning, List.nil_append, List.nil_append] at hknown

/-- The order of the reports is one that the pool can come to. -/
theorem Ended.schedule (h : Ended workers n c) (hworkers : 1 ≤ workers) :
    Pool.Schedule workers n c.reported := by
  obtain ⟨hwaiting, hrunning, -, hlength⟩ := h.all hworkers
  have hperm : c.reported.Perm c.completed :=
    (kept_of_run h.run).subperm.perm_of_length_le hlength.ge
  refine ⟨c.pool, pool_run h.run, (Pool.stopped_iff hworkers).mpr ⟨hwaiting, hrunning, ?_⟩, rfl⟩
  rw [pool, List.filter_eq_nil_iff]
  intro position hposition
  simpa using hperm.mem_iff.mpr (List.mem_reverse.mp hposition)

/-- The reports are the positions that were completed when they began, in some order, and then the
others in the order of their completion. -/
theorem Ended.reported_eq (h : Ended workers n c) (hworkers : 1 ≤ workers) :
    ∃ count first, c.opened = some count ∧ first.Perm (c.completed.take count) ∧
      c.reported = first ++ c.completed.drop count := by
  obtain ⟨-, -, ⟨count, hopened⟩, hlength⟩ := h.all hworkers
  obtain ⟨hle, first, later, hreported, hfirst, hlater, -⟩ := (kept_of_run h.run).opened count hopened
  have hfirstLength := hfirst.length_le
  have hlaterLength := hlater.length_le
  rw [List.length_take, Nat.min_eq_left hle] at hfirstLength
  rw [List.length_drop] at hlaterLength
  rw [hreported, List.length_append] at hlength
  refine ⟨count, first, hopened, hfirst.perm_of_length_le ?_, ?_⟩
  · rw [List.length_take, Nat.min_eq_left hle]
    omega
  · rw [hreported, hlater.eq_of_length_le (by rw [List.length_drop]; omega)]

/-- If at most one position was completed when the reports began, they are in the order of
completion. -/
theorem Ended.reported_eq_completed (h : Ended workers n c) (hworkers : 1 ≤ workers)
    (hopened : c.opened = some count) (hcount : count ≤ 1) : c.reported = c.completed := by
  obtain ⟨_, first, hsame, hfirst, hreported⟩ := h.reported_eq hworkers
  cases hopened.symm.trans hsame
  have hlength := List.length_take_le count c.completed
  have hequal : first = c.completed.take count := by
    match hparts : c.completed.take count with
    | [] => rwa [hparts, List.perm_nil] at hfirst
    | [position] => rwa [hparts, List.perm_singleton] at hfirst
    | _ :: _ :: _ =>
        rw [hparts] at hlength
        simp only [List.length_cons] at hlength
        omega
  rw [hreported, hequal, List.take_append_drop]

/-! ### Reports in any order -/

/-- One worker after another takes and completes everything that waits. -/
theorem run_complete_all (hworkers : 1 ≤ workers) (waiting completed : List Nat) :
    Run workers ⟨waiting, [], completed, none, []⟩ ⟨[], [], completed ++ waiting, none, []⟩ := by
  induction waiting generalizing completed with
  | nil =>
      rw [List.append_nil]
      exact .refl
  | cons position waiting ih =>
      rw [List.append_cons]
      have hfinish := @Step.finish workers position waiting [] [] completed [] none
      exact .head (.take hworkers) (.head hfinish (ih (completed ++ [position])))

/-- What is completed when the reports begin can be reported in any order. -/
theorem run_report_all {schedule : List Nat} (h : (reported ++ schedule).Perm completed)
    (hnodup : completed.Nodup) :
    Run workers ⟨[], [], completed, some completed.length, reported⟩
      ⟨[], [], completed, some completed.length, reported ++ schedule⟩ := by
  induction schedule generalizing reported with
  | nil =>
      rw [List.append_nil]
      exact .refl
  | cons position schedule ih =>
      have hmem : position ∈ completed.take completed.length := by
        rw [List.take_length]
        exact h.mem_iff.mp (by simp)
      have hfresh : position ∉ reported := fun hreported =>
        (List.nodup_append.mp (h.nodup_iff.mpr hnodup)).2.2 position hreported position (by simp) rfl
      rw [List.append_cons] at h ⊢
      exact .head (.early hmem hfresh) (ih h)

/-- Where nothing is left to do and nothing to report, a collection has come to its end. -/
theorem stopped_of_all (h : reported.Perm completed) (next : Collection) :
    ¬ Step workers ⟨[], [], completed, some completed.length, reported⟩ next := by
  intro hstep
  generalize hbefore : (⟨[], [], completed, some completed.length, reported⟩ : Collection) = c at hstep
  cases hstep with
  | take _ => simp at hbefore
  | finish => simp at hbefore
  | start => simp at hbefore
  | early hposition hfresh =>
      cases hbefore
      rw [List.take_length] at hposition
      exact hfresh (h.mem_iff.mpr hposition)
  | late _ hposition =>
      cases hbefore
      rw [h.length_eq, List.getElem?_eq_none (Nat.le_refl _)] at hposition
      cases hposition

/-- Although everything is completed in the order of the positions, every order of the reports is
possible. -/
theorem exists_ended (hworkers : 1 ≤ workers) {schedule : List Nat}
    (h : schedule.Perm (List.range n)) :
    ∃ c, Ended workers n c ∧ c.completed = List.range n ∧ c.reported = schedule := by
  have hcomplete := run_complete_all hworkers (List.range n) []
  have hreport := @run_report_all workers (List.range n) [] schedule h List.nodup_range
  exact ⟨⟨[], [], List.range n, some (List.range n).length, schedule⟩,
    ⟨(hcomplete.tail .start).trans hreport, stopped_of_all h⟩, rfl, rfl⟩

end Collection

end LocaleCatalogue
