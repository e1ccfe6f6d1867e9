import Mathlib.Data.List.Perm.Basic
import Mathlib.Logic.Relation

/-!
# A pool of workers

The positions of the files wait in a queue. A worker that is free takes the next one, may finish
before or after any other worker, and what is finished is reported in any order. The order of the
reports is the schedule that a catalogue is put together by. Nothing is assumed about which step
comes next, only that the pool does not stop while a step is possible. A pool does not remember the
order in which positions were finished; a collection, which does, runs in it.
-/

namespace LocaleCatalogue

/-- Positions that wait, that are being worked on, that are finished, and that have been reported,
the last of them in the order of the reports. -/
structure Pool where
  waiting : List Nat
  running : List Nat
  finished : List Nat
  reported : List Nat

namespace Pool

/-- A step of a pool with some number of workers. -/
inductive Step (workers : Nat) : Pool → Pool → Prop
  | take {position : Nat} {waiting running finished reported : List Nat} :
      running.length < workers →
      Step workers ⟨position :: waiting, running, finished, reported⟩
        ⟨waiting, position :: running, finished, reported⟩
  | finish {position : Nat} {waiting before after finished reported : List Nat} :
      Step workers ⟨waiting, before ++ position :: after, finished, reported⟩
        ⟨waiting, before ++ after, position :: finished, reported⟩
  | report {position : Nat} {waiting running before after reported : List Nat} :
      Step workers ⟨waiting, running, before ++ position :: after, reported⟩
        ⟨waiting, running, before ++ after, reported ++ [position]⟩

/-- Some number of steps. -/
def Run (workers : Nat) : Pool → Pool → Prop := Relation.ReflTransGen (Step workers)

/-- The pool that has `n` positions to work on. -/
def initial (n : Nat) : Pool := ⟨List.range n, [], [], []⟩

/-- No step is possible. -/
def Stopped (workers : Nat) (pool : Pool) : Prop := ∀ next, ¬ Step workers pool next

/-- The orders in which the positions of `n` files can be reported. -/
def Schedule (workers n : Nat) (schedule : List Nat) : Prop :=
  ∃ pool, Run workers (initial n) pool ∧ Stopped workers pool ∧ pool.reported = schedule

/-- All positions that a pool knows about. -/
def positions (pool : Pool) : List Nat :=
  pool.waiting ++ pool.running ++ pool.finished ++ pool.reported

variable {workers n : Nat} {pool next : Pool}

/-- A step only moves a position. -/
theorem positions_of_step (h : Step workers pool next) : next.positions.Perm pool.positions := by
  rw [List.perm_iff_count]
  intro position
  cases h <;> simp only [positions, List.count_append, List.count_cons, List.count_nil] <;> omega

theorem positions_of_run (h : Run workers pool next) : next.positions.Perm pool.positions := by
  induction h with
  | refl => exact List.Perm.refl _
  | tail _ hstep ih => exact (positions_of_step hstep).trans ih

/-- With at least one worker, the pool stops only when everything is reported. -/
theorem stopped_iff (hworkers : 1 ≤ workers) :
    Stopped workers pool ↔ pool.waiting = [] ∧ pool.running = [] ∧ pool.finished = [] := by
  obtain ⟨waiting, running, finished, reported⟩ := pool
  constructor
  · intro h
    have hfinished : finished = [] := by
      cases finished with
      | nil => rfl
      | cons position after => exact absurd (@Step.report workers position _ _ [] after _) (h _)
    have hrunning : running = [] := by
      cases running with
      | nil => rfl
      | cons position after => exact absurd (@Step.finish workers position _ [] after _ _) (h _)
    have hwaiting : waiting = [] := by
      cases waiting with
      | nil => rfl
      | cons position rest =>
          refine absurd (.take ?_) (h _)
          rw [hrunning]
          exact hworkers
    exact ⟨hwaiting, hrunning, hfinished⟩
  · rintro ⟨rfl, rfl, rfl⟩ next hstep
    generalize hpool : (⟨[], [], [], reported⟩ : Pool) = pool at hstep
    cases hstep <;> simp at hpool

/-- Every position is reported exactly once. -/
theorem perm_of_schedule (hworkers : 1 ≤ workers) {schedule : List Nat}
    (h : Schedule workers n schedule) : schedule.Perm (List.range n) := by
  obtain ⟨pool, hrun, hstopped, rfl⟩ := h
  obtain ⟨hwaiting, hrunning, hfinished⟩ := (stopped_iff hworkers).mp hstopped
  have hperm := positions_of_run hrun
  simpa [positions, initial, hwaiting, hrunning, hfinished] using hperm

end Pool

end LocaleCatalogue
