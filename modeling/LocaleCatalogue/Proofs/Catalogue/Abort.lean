import LocaleCatalogue.Proofs.Catalogue.Completion
import Mathlib.Order.OrderIsoNat

/-!
# The first failure ends the work

The files are extracted by a pool of workers, and any of them may fail. The first failure that is
reported ends the reports: nothing is announced after it, what still waits is dropped, and what is
being worked on comes to its end unseen. So whether there is a failure does not depend on the
schedule, only which of several failures is the one.
-/

namespace LocaleCatalogue

/-- Extractions that are under way: the pool, what was announced, and the failure that ended the
reports, if one did. -/
structure Work where
  pool : Pool
  notices : List Notice
  failure : Option Failure

namespace Work

/-- A step of the work. The workers go on whether or not there was a failure. Reports are taken only
until there is one, and then positions that wait are dropped, one by one. -/
inductive Step (files : List Text) (extracted : Text → Logged (Option (List Key)))
    (workers : Nat) : Work → Work → Prop
  | labour {pool next : Pool} {notices : List Notice} {failure : Option Failure} :
      pool.Step workers next → next.reported = pool.reported →
      Step files extracted workers ⟨pool, notices, failure⟩ ⟨next, notices, failure⟩
  | collect {pool next : Pool} {notices : List Notice} {position : Nat} {file : Text}
      {keys : Option (List Key)} :
      pool.Step workers next → next.reported = pool.reported ++ [position] →
      files[position]? = some file → (extracted file).result = .ok keys →
      Step files extracted workers ⟨pool, notices, none⟩ ⟨next, notices ++ [.parsed file], none⟩
  | abort {pool next : Pool} {notices : List Notice} {position : Nat} {file : Text}
      {failure : Failure} :
      pool.Step workers next → next.reported = pool.reported ++ [position] →
      files[position]? = some file → (extracted file).result = .error failure →
      Step files extracted workers ⟨pool, notices, none⟩ ⟨next, notices, some failure⟩
  | drop {position : Nat} {waiting running finished reported : List Nat} {notices : List Notice}
      {failure : Failure} :
      Step files extracted workers
        ⟨⟨position :: waiting, running, finished, reported⟩, notices, some failure⟩
        ⟨⟨waiting, running, finished, reported⟩, notices, some failure⟩

/-- The work at its beginning: every file waits, and all of them have been announced. -/
def initial (files : List Text) : Work := ⟨Pool.initial files.length, [.start files], none⟩

section

variable (files : List Text) (extracted : Text → Logged (Option (List Key))) (workers : Nat)

/-- Some number of steps. -/
def Run : Work → Work → Prop := Relation.ReflTransGen (Step files extracted workers)

/-- No step is possible. -/
def Stopped (work : Work) : Prop := ∀ next, ¬ Step files extracted workers work next

/-- What was announced and how the reports ended is told by the positions that were reported: all
but the last succeeded, and the last one as well unless it is the one that failed. -/
def Told (work : Work) : Prop :=
  ∃ order : List (Fin files.length),
    (∀ position ∈ order, ∃ keys, (extracted (files.get position)).result = .ok keys) ∧
    (work.notices = .start files :: order.map fun position => .parsed (files.get position)) ∧
    match work.failure with
    | none => work.pool.reported = order.map Fin.val
    | some failure => ∃ last : Fin files.length,
        work.pool.reported = order.map Fin.val ++ [last.val] ∧
        (extracted (files.get last)).result = .error failure

/-- What every state of the work keeps. No position is known twice, and none is lost unless there was
a failure. -/
structure Kept (work : Work) : Prop where
  told : Told files extracted work
  known : work.pool.positions.Subperm (List.range files.length)
  complete : work.failure = none → work.pool.positions.Perm (List.range files.length)

end

variable {files : List Text} {extracted : Text → Logged (Option (List Key))} {workers : Nat}
variable {work next : Work}

/-- How many steps the workers and the reports can still make. -/
def remaining (work : Work) : Nat :=
  3 * work.pool.waiting.length + 2 * work.pool.running.length + work.pool.finished.length

theorem remaining_lt_of_pool {pool after : Pool} (h : pool.Step workers after)
    (notices notices' : List Notice) (failure failure' : Option Failure) :
    remaining ⟨after, notices', failure'⟩ < remaining ⟨pool, notices, failure⟩ := by
  cases h <;> simp only [remaining, List.length_cons, List.length_append] <;> omega

/-- Every step uses up something. -/
theorem remaining_lt (h : Step files extracted workers work next) :
    next.remaining < work.remaining := by
  cases h with
  | labour hpool _ => exact remaining_lt_of_pool hpool _ _ _ _
  | collect hpool _ _ _ => exact remaining_lt_of_pool hpool _ _ _ _
  | abort hpool _ _ _ => exact remaining_lt_of_pool hpool _ _ _ _
  | drop =>
      simp only [remaining, List.length_cons]
      omega

/-- From every state some stopped state is reached. -/
theorem exists_stopped (work : Work) :
    ∃ last, Run files extracted workers work last ∧ Stopped files extracted workers last := by
  by_cases hstopped : Stopped files extracted workers work
  · exact ⟨work, .refl, hstopped⟩
  · obtain ⟨next, hstep⟩ := not_forall_not.mp hstopped
    have hless := remaining_lt hstep
    obtain ⟨last, hrun, hlast⟩ := exists_stopped next
    exact ⟨last, .head hstep hrun, hlast⟩
termination_by work.remaining

/-- No run goes on for ever. -/
theorem not_endless (states : Nat → Work) :
    ¬ ∀ i, Step files extracted workers (states i) (states (i + 1)) := fun hsteps =>
  not_strictAnti_of_wellFoundedLT (fun i => (states i).remaining)
    (strictAnti_nat_of_succ_lt fun i => remaining_lt (hsteps i))

/-- After a failure nothing is announced, and the failure stays the same one. -/
theorem failure_stays {failure : Failure} (hfailure : work.failure = some failure)
    (hrun : Run files extracted workers work next) :
    next.failure = some failure ∧ next.notices = work.notices := by
  induction hrun with
  | refl => exact ⟨hfailure, rfl⟩
  | tail _ hstep ih =>
      cases hstep with
      | labour _ _ => exact ih
      | collect _ _ _ _ => cases ih.1
      | abort _ _ _ _ => cases ih.1
      | drop => exact ih

/-- After a failure the work stops when nothing waits and nothing is being worked on. What is finished
by then is not reported. -/
theorem stopped_of_failure {finished reported : List Nat} {notices : List Notice}
    {failure : Failure} :
    Stopped files extracted workers ⟨⟨[], [], finished, reported⟩, notices, some failure⟩ := by
  intro next hstep
  cases hstep with
  | labour hpool hsame =>
      generalize hbefore : (⟨[], [], finished, reported⟩ : Pool) = pool at hpool hsame
      cases hpool <;> simp at hbefore hsame

theorem kept_initial : Kept files extracted (initial files) where
  told := ⟨[], by simp, rfl, rfl⟩
  known := (List.Perm.of_eq (by simp [initial, Pool.initial, Pool.positions])).subperm
  complete _ := .of_eq (by simp [initial, Pool.initial, Pool.positions])

/-- What is told after a step follows from what was told before it. -/
theorem Told.step (h : Told files extracted work)
    (hstep : Step files extracted workers work next) : Told files extracted next := by
  obtain ⟨order, hsucceeded, hnotices, hreported⟩ := h
  cases hstep with
  | labour _ hsame =>
      refine ⟨order, hsucceeded, hnotices, ?_⟩
      simp only [hsame]
      exact hreported
  | @collect pool next notices position file keys _ hmore hfile hkeys =>
      obtain ⟨hposition, rfl⟩ := List.getElem?_eq_some_iff.mp hfile
      refine ⟨order ++ [⟨position, hposition⟩], ?_, ?_, ?_⟩
      · intro other hother
        rcases List.mem_append.mp hother with hbefore | hlast
        · exact hsucceeded other hbefore
        · cases List.mem_singleton.mp hlast
          exact ⟨keys, hkeys⟩
      · rw [List.map_append]
        exact congrArg (· ++ [Notice.parsed files[position]]) hnotices
      · rw [List.map_append]
        exact hmore.trans (congrArg (· ++ [position]) hreported)
  | @abort pool next notices position file failure _ hmore hfile hfailure =>
      obtain ⟨hposition, rfl⟩ := List.getElem?_eq_some_iff.mp hfile
      exact ⟨order, hsucceeded, hnotices, ⟨position, hposition⟩,
        hmore.trans (congrArg (· ++ [position]) hreported), hfailure⟩
  | drop => exact ⟨order, hsucceeded, hnotices, hreported⟩

/-- A step adds no position. -/
theorem positions_of_step (hstep : Step files extracted workers work next) :
    next.pool.positions.Subperm work.pool.positions := by
  cases hstep with
  | labour hpool _ => exact (Pool.positions_of_step hpool).subperm
  | collect hpool _ _ _ => exact (Pool.positions_of_step hpool).subperm
  | abort hpool _ _ _ => exact (Pool.positions_of_step hpool).subperm
  | drop => exact (List.sublist_cons_self _ _).subperm

/-- A step from which there is no failure came from a state without one, and lost no position. -/
theorem positions_of_step_of_none (hstep : Step files extracted workers work next)
    (hnone : next.failure = none) :
    work.failure = none ∧ next.pool.positions.Perm work.pool.positions := by
  cases hstep with
  | labour hpool _ => exact ⟨hnone, Pool.positions_of_step hpool⟩
  | collect hpool _ _ _ => exact ⟨rfl, Pool.positions_of_step hpool⟩
  | abort _ _ _ _ => cases hnone
  | drop => cases hnone

theorem Kept.step (h : Kept files extracted work)
    (hstep : Step files extracted workers work next) : Kept files extracted next where
  told := h.told.step hstep
  known := (positions_of_step hstep).trans h.known
  complete hnone :=
    have ⟨hbefore, hperm⟩ := positions_of_step_of_none hstep hnone
    hperm.trans (h.complete hbefore)

theorem kept_of_run (hrun : Run files extracted workers (initial files) work) :
    Kept files extracted work := by
  induction hrun with
  | refl => exact kept_initial
  | tail _ hstep ih => exact ih.step hstep

/-- The reported positions are distinct. -/
theorem Kept.nodup_reported (h : Kept files extracted work) : work.pool.reported.Nodup := by
  obtain ⟨positions, hperm, hsublist⟩ := h.known
  have hpositions : work.pool.positions.Nodup :=
    hperm.nodup_iff.mp (hsublist.nodup List.nodup_range)
  exact (List.nodup_append.mp hpositions).2.1

theorem Kept.lt_of_mem (h : Kept files extracted work) {position : Nat}
    (hposition : position ∈ work.pool.positions) : position < files.length :=
  List.mem_range.mp (h.known.subset hposition)

/-- As long as there was no failure, a step of the pool is a step of the work. -/
theorem Kept.exists_step {pool after : Pool} {notices : List Notice}
    (h : Kept files extracted ⟨pool, notices, none⟩) (hpool : pool.Step workers after) :
    ∃ next, Step files extracted workers ⟨pool, notices, none⟩ next := by
  cases hpool with
  | take hfree => exact ⟨_, .labour (.take hfree) rfl⟩
  | finish => exact ⟨_, .labour .finish rfl⟩
  | @report position waiting running before later reported =>
      have hposition : position < files.length := h.lt_of_mem (by simp [Pool.positions])
      have hfile := List.getElem?_eq_getElem hposition
      cases hresult : (extracted files[position]).result with
      | ok keys => exact ⟨_, .collect .report rfl hfile hresult⟩
      | error failure => exact ⟨_, .abort .report rfl hfile hresult⟩

/-- If the work stops without a failure, every position has been reported. -/
theorem Kept.reported_of_stopped (h : Kept files extracted work) (hworkers : 1 ≤ workers)
    (hstopped : Stopped files extracted workers work) (hnone : work.failure = none) :
    work.pool.reported.Perm (List.range files.length) := by
  obtain ⟨pool, notices, failure⟩ := work
  cases hnone
  have hpool : pool.Stopped workers := fun after hstep =>
    have ⟨next, hnext⟩ := h.exists_step hstep
    hstopped next hnext
  obtain ⟨hwaiting, hrunning, hfinished⟩ := (Pool.stopped_iff hworkers).mp hpool
  have hperm := h.complete rfl
  simpa [Pool.positions, hwaiting, hrunning, hfinished] using hperm

/-- The catalogue that is put together from the reports is announced as the work was, and it fails as
the work did. -/
theorem Kept.assemble_eq (h : Kept files extracted work) :
    (assemble files extracted work.pool.reported).notices = work.notices ∧
      ∀ failure, (assemble files extracted work.pool.reported).outcome.result = .error failure ↔
        work.failure = some failure := by
  obtain ⟨pool, notices, ended⟩ := work
  obtain ⟨order, hsucceeded, hnotices, hreported⟩ := h.told
  cases ended with
  | none =>
      obtain ⟨filled, hafter, hresult⟩ := complete_append hsucceeded [] (files.map fun _ => [])
      rw [List.append_nil, ← show pool.reported = order.map Fin.val from hreported] at hafter hresult
      constructor
      · rw [assemble, hafter]
        exact (congrArg (List.cons _) (List.append_nil _)).trans hnotices.symm
      · intro failure
        rw [assemble_result hresult]
        simp
  | some first =>
      obtain ⟨last, hlast, hfailure⟩ := hreported
      have hfile : files[last.val]? = some (files.get last) := List.getElem?_eq_getElem last.isLt
      obtain ⟨filled, hafter, hresult⟩ :=
        complete_append hsucceeded [last.val] (files.map fun _ => [])
      obtain ⟨hnone, hfails⟩ := complete_failing hfile hfailure [] filled
      rw [← show pool.reported = order.map Fin.val ++ [last.val] from hlast] at hafter hresult
      constructor
      · rw [assemble, hafter, hnone]
        exact (congrArg (List.cons _) (List.append_nil _)).trans hnotices.symm
      · intro failure
        rw [assemble_failure (hresult.trans hfails), Except.error.injEq, Option.some.injEq]

/-- If the work stops without a failure, every file can be extracted. -/
theorem Kept.extracted_of_stopped (h : Kept files extracted work) (hworkers : 1 ≤ workers)
    (hstopped : Stopped files extracted workers work) (hnone : work.failure = none) :
    ∀ file ∈ files, ∃ keys, (extracted file).result = .ok keys := by
  have hperm := h.reported_of_stopped hworkers hstopped hnone
  obtain ⟨order, hsucceeded, -, hreported⟩ := h.told
  rw [hnone] at hreported
  intro file hfile
  obtain ⟨i, hi, rfl⟩ := List.getElem_of_mem hfile
  have hmem : i ∈ order.map Fin.val := hreported ▸ hperm.mem_iff.mpr (List.mem_range.mpr hi)
  obtain ⟨position, hposition, rfl⟩ := List.mem_map.mp hmem
  exact hsucceeded position hposition

/-- What is announced are the files, and then distinct positions whose extraction succeeded. -/
theorem Kept.announced (h : Kept files extracted work) :
    ∃ order : List (Fin files.length), order.Nodup ∧
      (∀ position ∈ order, ∃ keys, (extracted (files.get position)).result = .ok keys) ∧
      work.notices = .start files :: order.map fun position => .parsed (files.get position) := by
  obtain ⟨order, hsucceeded, hnotices, hreported⟩ := h.told
  have hsublist : (order.map Fin.val).Sublist work.pool.reported := by
    cases hended : work.failure with
    | none =>
        rw [hended] at hreported
        exact hreported ▸ List.Sublist.refl _
    | some failure =>
        rw [hended] at hreported
        obtain ⟨last, hlast, -⟩ := hreported
        exact hlast ▸ List.sublist_append_left _ _
  exact ⟨order, .of_map Fin.val (hsublist.nodup h.nodup_reported), hsucceeded, hnotices⟩

/-- A failure is the failure of one of the files. -/
theorem Kept.failing (h : Kept files extracted work) (failure : Failure)
    (hfailure : work.failure = some failure) :
    ∃ file ∈ files, (extracted file).result = .error failure := by
  obtain ⟨order, -, -, hreported⟩ := h.told
  rw [hfailure] at hreported
  obtain ⟨last, -, hfails⟩ := hreported
  exact ⟨files.get last, List.getElem_mem last.isLt, hfails⟩

end Work

/-- If already the search for files fails, nothing is announced and its failure stands. -/
theorem catalogueBelow_of_discover_error {fs : Files} {settings : Settings} {root : Text}
    {failure : Failure} (h : (discover fs settings root).result = .error failure) :
    (catalogueBelow fs settings root).notices = [] ∧
      (catalogueBelow fs settings root).outcome.result = .error failure := by
  rw [catalogueBelow, h]
  exact ⟨rfl, rfl⟩

/-- Whatever the workers do and whichever extractions fail, the files are announced first, and then
distinct positions whose extraction succeeded. A failure of the work is the failure of one of the
files; it stays, and nothing is announced after it. The work always comes to an end, and then it has
failed exactly if the extraction of some file fails; otherwise the catalogue is complete. Nothing is
announced if already the search for files fails. -/
theorem assemble_until_failure {files : List Text}
    {extracted : Text → Logged (Option (List Key))} {workers : Nat} (hworkers : 1 ≤ workers)
    {work : Work} (hrun : Work.Run files extracted workers (.initial files) work) :
    let run := assemble files extracted work.pool.reported
    (∃ order : List (Fin files.length), order.Nodup ∧
      (∀ position ∈ order, ∃ keys, (extracted (files.get position)).result = .ok keys) ∧
      work.notices = .start files :: order.map fun position => .parsed (files.get position)) ∧
    run.notices = work.notices ∧
    (∀ failure, run.outcome.result = .error failure ↔ work.failure = some failure) ∧
    (∀ failure, work.failure = some failure →
      (∃ file ∈ files, (extracted file).result = .error failure) ∧
      ∀ later, Work.Run files extracted workers work later →
        later.failure = some failure ∧ later.notices = work.notices) ∧
    (∃ last, Work.Run files extracted workers work last ∧ last.Stopped files extracted workers) ∧
    (∀ states : Nat → Work, ¬ ∀ i, Work.Step files extracted workers (states i) (states (i + 1))) ∧
    (work.Stopped files extracted workers →
      ((∃ failure, run.outcome.result = .error failure) ↔
        ∃ file ∈ files, ∃ failure, (extracted file).result = .error failure) ∧
      (work.failure = none → run.outcome.result = .ok (files.map (localeOf extracted)))) ∧
    ∀ (fs : Files) (settings : Settings) (root : Text) (failure : Failure),
      (discover fs settings root).result = .error failure →
      (catalogueBelow fs settings root).notices = [] ∧
        (catalogueBelow fs settings root).outcome.result = .error failure := by
  intro run
  have hkept := Work.kept_of_run hrun
  obtain ⟨hannounced, hresult⟩ := hkept.assemble_eq
  have hfailing : ∀ failure, work.failure = some failure →
      ∃ file ∈ files, (extracted file).result = .error failure := hkept.failing
  refine ⟨hkept.announced, hannounced, hresult, ?_, work.exists_stopped, Work.not_endless, ?_, ?_⟩
  · intro failure hfailure
    exact ⟨hfailing failure hfailure, fun later hlater => Work.failure_stays hfailure hlater⟩
  · intro hstopped
    have hcomplete := hkept.extracted_of_stopped hworkers hstopped
    constructor
    · constructor
      · rintro ⟨failure, hfailure⟩
        obtain ⟨file, hfile, hfails⟩ := hfailing failure ((hresult failure).mp hfailure)
        exact ⟨file, hfile, failure, hfails⟩
      · rintro ⟨file, hfile, failure, hfails⟩
        cases hended : work.failure with
        | none =>
            obtain ⟨keys, hkeys⟩ := hcomplete hended file hfile
            rw [hfails] at hkeys
            cases hkeys
        | some first => exact ⟨first, (hresult first).mpr hended⟩
    · intro hnone
      have hslots := complete_all (hcomplete hnone)
        (hkept.reported_of_stopped hworkers hstopped hnone) (List.length_map fun _ => [])
      exact (assemble_result hslots).trans (congrArg Except.ok localesOf_keysFound)
  · intro fs settings root failure hfails
    exact catalogueBelow_of_discover_error hfails

/-- A file with one key and a broken one. -/
def halves : Files where
  working := ["w"]
  entries := [
    (["w"], .directory),
    (["w", "a.ts"], .file (Utf8.encode "export default \x7b x \x7d".toList)),
    (["w", "b.ts"], .file (Utf8.encode "export default \x7b".toList))]

theorem halves_sound : (extract halves "a.ts").result =
    .ok (some [⟨"x", ⟨1, 17, 1, 18⟩, "a.ts", "a.ts"⟩]) := by
  decide +kernel

theorem halves_broken : ∃ failure, (extract halves "b.ts").result = .error failure := by
  have hrejected : (extract halves "b.ts").result.isOk = false := by decide +kernel
  cases hb : (extract halves "b.ts").result with
  | error failure => exact ⟨failure, rfl⟩
  | ok keys =>
      rw [hb] at hrejected
      cases hrejected

/-- Two workers take two of three files. The second report is a failure, and the third file, which is
broken as well, is dropped. -/
theorem assemble_until_failure_halves :
    let files : List Text := ["a.ts", "b.ts", "b.ts"]
    let run := assemble files (extract halves) [0, 1]
    ∃ failure, (extract halves "b.ts").result = .error failure ∧
      let last : Work := ⟨⟨[], [], [], [0, 1]⟩, [.start files, .parsed "a.ts"], some failure⟩
      Work.Run files (extract halves) 2 (.initial files) last ∧
        last.Stopped files (extract halves) 2 ∧
        run.notices = [.start files, .parsed "a.ts"] ∧ run.outcome.result = .error failure := by
  intro files run
  obtain ⟨failure, hb⟩ := halves_broken
  have hrun : Work.Run files (extract halves) 2 (.initial files)
      ⟨⟨[], [], [], [0, 1]⟩, [.start files, .parsed "a.ts"], some failure⟩ :=
    .head (.labour (.take (by decide)) rfl) <|
    .head (.labour (.take (by decide)) rfl) <|
    .head (.labour (@Pool.Step.finish 2 0 [2] [1] [] [] []) rfl) <|
    .head (.collect (@Pool.Step.report 2 0 [2] [1] [] [] []) rfl rfl halves_sound) <|
    .head (.labour (@Pool.Step.finish 2 1 [2] [] [] [] [0]) rfl) <|
    .head (.abort (@Pool.Step.report 2 1 [2] [] [] [] [0]) rfl rfl hb) <|
    .single .drop
  have hwork := assemble_until_failure (by decide) hrun
  exact ⟨failure, hb, hrun, Work.stopped_of_failure, hwork.2.1, (hwork.2.2.1 failure).mpr rfl⟩

end LocaleCatalogue
