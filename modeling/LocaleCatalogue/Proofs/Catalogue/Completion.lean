import LocaleCatalogue.Catalogue.Assembly
import LocaleCatalogue.Proofs.Catalogue.Collection
import LocaleCatalogue.Proofs.Catalogue.Outcome

/-!
# The order of completion does not matter

A report fills the slot of its file and no other. When every position has been reported, every slot
holds what its file gives alone, whichever came first. So the catalogue is the same however the work
goes; only the announcements follow the order of the reports, which is not always that of completion.
-/

namespace LocaleCatalogue

variable {files : List Text} {extracted : Text → Logged (Option (List Key))}

/-- The keys that a file gives alone; none if it exports no object. -/
def keysFound (extracted : Text → Logged (Option (List Key))) (file : Text) : List Key :=
  match (extracted file).result with
  | .ok keys => keys.getD []
  | .error _ => []

/-- The locale of a file by itself. -/
def localeOf (extracted : Text → Logged (Option (List Key))) (file : Text) : Locale :=
  ⟨languageTag file, keysFound extracted file, file⟩

/-- A completion that succeeds fills its slot, announces its file and goes on. -/
theorem complete_cons {position : Nat} {rest : List Nat} {slots : Slots} {file : Text}
    (hfile : files[position]? = some file) {keys : Option (List Key)}
    (hkeys : (extracted file).result = .ok keys) :
    let after := complete files extracted rest (slots.set position (keysFound extracted file))
    (complete files extracted (position :: rest) slots).notices = .parsed file :: after.notices ∧
      (complete files extracted (position :: rest) slots).outcome.result =
        after.outcome.result := by
  rw [complete, hfile, keysFound]
  simp only [hkeys, and_self]

/-- The slots of the completed positions are filled, the others stay. -/
theorem complete_fills (hextracted : ∀ file ∈ files, ∃ keys, (extracted file).result = .ok keys)
    (schedule : List Nat) {slots : Slots} (hlength : slots.length = files.length) :
    ∃ filled, (complete files extracted schedule slots).outcome.result = .ok filled ∧
      filled.length = files.length ∧
      ∀ (i : Nat) (file : Text), files[i]? = some file →
        filled[i]? = if i ∈ schedule then some (keysFound extracted file) else slots[i]? := by
  induction schedule generalizing slots with
  | nil => exact ⟨slots, rfl, hlength, fun i file _ => by simp⟩
  | cons position rest ih =>
      cases hfile : files[position]? with
      | none =>
          obtain ⟨filled, hresult, hfilled, hslots⟩ := ih hlength
          refine ⟨filled, ?_, hfilled, ?_⟩
          · rw [complete, hfile]
            exact hresult
          · intro i file hi
            have hne : i ≠ position := by
              rintro rfl
              rw [hfile] at hi
              cases hi
            rw [hslots i file hi]
            simp [hne]
      | some file =>
          obtain ⟨keys, hkeys⟩ := hextracted file (List.mem_of_getElem? hfile)
          obtain ⟨filled, hresult, hfilled, hslots⟩ :=
            @ih (slots.set position (keysFound extracted file)) (by rw [List.length_set, hlength])
          refine ⟨filled, (complete_cons hfile hkeys).2.trans hresult, hfilled, ?_⟩
          intro i other hi
          rw [hslots i other hi]
          -- A later completion of the same position would fill the slot with the same keys again.
          by_cases hrest : i ∈ rest
          · rw [if_pos hrest, if_pos (List.mem_cons_of_mem position hrest)]
          · rw [if_neg hrest]
            by_cases hposition : i = position
            · subst hposition
              cases hfile.symm.trans hi
              have hi' : i < slots.length := hlength ▸ (List.getElem?_eq_some_iff.mp hfile).1
              rw [if_pos List.mem_cons_self, List.getElem?_set_self hi']
            · rw [if_neg (by simp [hposition, hrest]), List.getElem?_set_ne (Ne.symm hposition)]

/-- Completions that succeed are announced one by one, and what follows goes on from the slots that
they filled. -/
theorem complete_append {order : List (Fin files.length)}
    (hsucceeded : ∀ position ∈ order, ∃ keys, (extracted (files.get position)).result = .ok keys)
    (later : List Nat) (slots : Slots) :
    ∃ filled,
      let after := complete files extracted later filled
      let run := complete files extracted (order.map Fin.val ++ later) slots
      run.notices = (order.map fun position => .parsed (files.get position)) ++ after.notices ∧
        run.outcome.result = after.outcome.result := by
  induction order generalizing slots with
  | nil => exact ⟨slots, rfl, rfl⟩
  | cons position rest ih =>
      have hfile : files[position.val]? = some (files.get position) :=
        List.getElem?_eq_getElem position.isLt
      obtain ⟨keys, hkeys⟩ := hsucceeded position List.mem_cons_self
      obtain ⟨filled, hnotices, hresult⟩ := ih
        (fun other hother => hsucceeded other (List.mem_cons_of_mem position hother))
        (slots.set position (keysFound extracted (files.get position)))
      obtain ⟨hfirst, hafter⟩ :=
        @complete_cons files extracted position (rest.map Fin.val ++ later) slots _ hfile _ hkeys
      refine ⟨filled, ?_, hafter.trans hresult⟩
      rw [hnotices] at hfirst
      exact hfirst

/-- The files are announced as they are completed. -/
theorem complete_notices (hextracted : ∀ file ∈ files, ∃ keys, (extracted file).result = .ok keys)
    (order : List (Fin files.length)) (slots : Slots) :
    (complete files extracted (order.map Fin.val) slots).notices =
      order.map fun position => .parsed files[position] := by
  have hsucceeded : ∀ position ∈ order, ∃ keys, (extracted files[position]).result = .ok keys :=
    fun position _ => hextracted _ (List.getElem_mem position.isLt)
  obtain ⟨filled, hnotices, -⟩ := complete_append hsucceeded [] slots
  rw [List.append_nil] at hnotices
  exact hnotices.trans (List.append_nil _)

/-- A completion that fails is not announced and ends the work with its failure. -/
theorem complete_failing {position : Nat} {file : Text} (hfile : files[position]? = some file)
    {failure : Failure} (hfailure : (extracted file).result = .error failure) (rest : List Nat)
    (slots : Slots) :
    (complete files extracted (position :: rest) slots).notices = [] ∧
      (complete files extracted (position :: rest) slots).outcome.result = .error failure := by
  rw [complete, hfile]
  simp only [hfailure, and_self]

/-- When every position is completed, each slot holds what its file gives alone. -/
theorem complete_all (hextracted : ∀ file ∈ files, ∃ keys, (extracted file).result = .ok keys)
    {schedule : List Nat} (hschedule : schedule.Perm (List.range files.length)) {slots : Slots}
    (hlength : slots.length = files.length) :
    (complete files extracted schedule slots).outcome.result =
      .ok (files.map (keysFound extracted)) := by
  obtain ⟨filled, hresult, hfilled, hslots⟩ := complete_fills hextracted schedule hlength
  rw [hresult, Except.ok.injEq]
  apply List.ext_getElem?
  intro i
  rw [List.getElem?_map]
  cases hfile : files[i]? with
  | none =>
      rw [Option.map_none, List.getElem?_eq_none_iff, hfilled]
      exact List.getElem?_eq_none_iff.mp hfile
  | some file =>
      have hi : i ∈ schedule :=
        hschedule.mem_iff.mpr (List.mem_range.mpr (List.getElem?_eq_some_iff.mp hfile).1)
      rw [hslots i file hfile, if_pos hi, Option.map_some]

theorem localesOf_keysFound :
    localesOf files (files.map (keysFound extracted)) = files.map (localeOf extracted) := by
  rw [localesOf, List.zipWith_map_right, List.zipWith_self]
  rfl

/-- If the completions fail, no catalogue comes out. -/
theorem assemble_failure {schedule : List Nat} {failure : Failure}
    (h : (complete files extracted schedule (files.map fun _ => [])).outcome.result =
      .error failure) :
    (assemble files extracted schedule).outcome.result = .error failure := by
  simp only [assemble, Logged.bind_eq, Logged.pure_eq, Logged.say_andThen_result]
  exact Logged.andThen_result_eq_error.mpr (.inl h)

/-- If the slots come out filled, so does the catalogue. -/
theorem assemble_result {schedule : List Nat} {slots : Slots}
    (h : (complete files extracted schedule (files.map fun _ => [])).outcome.result = .ok slots) :
    (assemble files extracted schedule).outcome.result = .ok (localesOf files slots) := by
  simp only [assemble, Logged.bind_eq, Logged.pure_eq, Logged.say_andThen_result]
  exact Logged.andThen_result_eq_ok.mpr ⟨slots, h, rfl⟩

section Schedule

variable {workers : Nat} {schedule : List Nat}

/-- Whatever the schedule, the catalogue holds the locale of each file, in the order of the files. -/
theorem assemble_locales (hextracted : ∀ file ∈ files, ∃ keys, (extracted file).result = .ok keys)
    (hworkers : 1 ≤ workers) (hschedule : Pool.Schedule workers files.length schedule) :
    (assemble files extracted schedule).outcome.result = .ok (files.map (localeOf extracted)) := by
  have hperm := Pool.perm_of_schedule hworkers hschedule
  have hslots := complete_all hextracted hperm (List.length_map fun _ => ([] : List Key))
  exact (assemble_result hslots).trans (congrArg Except.ok localesOf_keysFound)

/-- The files are announced first, and then each position in the order of the schedule. -/
theorem assemble_notices (hextracted : ∀ file ∈ files, ∃ keys, (extracted file).result = .ok keys)
    (hworkers : 1 ≤ workers) (hschedule : Pool.Schedule workers files.length schedule) :
    ∃ order : List (Fin files.length), order.map Fin.val = schedule ∧
      (assemble files extracted schedule).notices =
        .start files :: order.map fun position => .parsed files[position] := by
  have hperm := Pool.perm_of_schedule hworkers hschedule
  have hrange : ∀ position ∈ schedule, position < files.length := fun position hposition =>
    List.mem_range.mp (hperm.mem_iff.mp hposition)
  have horder : (schedule.pmap Fin.mk hrange).map Fin.val = schedule := by
    rw [List.map_pmap, List.pmap_eq_map, List.map_id']
  have hnotices :=
    complete_notices hextracted (schedule.pmap Fin.mk hrange) (files.map fun _ => [])
  rw [horder] at hnotices
  refine ⟨_, horder, ?_⟩
  exact congrArg (List.cons (.start files)) hnotices

end Schedule

/-- The catalogue of files that can all be extracted holds one locale for each file, in the order of
the files, with what the file gives alone. Neither the number of workers nor the course of the work
changes it, and of files listed one after another it is the two catalogues one after another. The
files are announced first and then each position once, in the order of the reports: the positions that
were completed when the reports began, in some order, and then the others in the order of their
completion. So the order is that of completion if at most one position was completed by then, but it
can be any order although the positions are completed one after another. -/
theorem assemble_collected {groups : List (List Text)}
    (hextracted : ∀ file ∈ groups.flatten, ∃ keys, (extracted file).result = .ok keys)
    {workers : Nat} (hworkers : 1 ≤ workers) {c : Collection}
    (hended : c.Ended workers groups.flatten.length) :
    let files := groups.flatten
    let run := assemble files extracted c.reported
    run.outcome.result = .ok (files.map (localeOf extracted)) ∧
      (∀ first second workers₁ workers₂ c₁ c₂, groups = first ++ second →
        1 ≤ workers₁ → Collection.Ended workers₁ first.flatten.length c₁ →
        1 ≤ workers₂ → Collection.Ended workers₂ second.flatten.length c₂ →
        ∃ locales₁ locales₂,
          (assemble first.flatten extracted c₁.reported).outcome.result = .ok locales₁ ∧
          (assemble second.flatten extracted c₂.reported).outcome.result = .ok locales₂ ∧
          run.outcome.result = .ok (locales₁ ++ locales₂)) ∧
      (∃ order : List (Fin files.length), order.map Fin.val = c.reported ∧
        run.notices = .start files :: order.map fun position => .parsed files[position]) ∧
      c.completed.Perm (List.range files.length) ∧ c.reported.Perm (List.range files.length) ∧
      (∃ count first, c.opened = some count ∧ first.Perm (c.completed.take count) ∧
        c.reported = first ++ c.completed.drop count) ∧
      (∀ count ≤ 1, c.opened = some count → c.reported = c.completed) ∧
      ∀ order : List Nat, order.Perm (List.range files.length) →
        ∃ c' : Collection, c'.Ended workers files.length ∧
          c'.completed = List.range files.length ∧ c'.reported = order := by
  intro files run
  have hschedule := hended.schedule hworkers
  have hlocales := assemble_locales hextracted hworkers hschedule
  refine ⟨hlocales, ?_, assemble_notices hextracted hworkers hschedule,
    hended.perm_completed hworkers, Pool.perm_of_schedule hworkers hschedule,
    hended.reported_eq hworkers, fun count hcount hopened =>
      hended.reported_eq_completed hworkers hopened hcount,
    fun order => Collection.exists_ended hworkers⟩
  rintro first second workers₁ workers₂ c₁ c₂ rfl hworkers₁ hended₁ hworkers₂ hended₂
  rw [List.flatten_append] at hextracted hlocales
  have hfirst := assemble_locales (fun file hfile =>
    hextracted file (List.mem_append_left second.flatten hfile)) hworkers₁ (hended₁.schedule hworkers₁)
  have hsecond := assemble_locales (fun file hfile =>
    hextracted file (List.mem_append_right first.flatten hfile)) hworkers₂ (hended₂.schedule hworkers₂)
  refine ⟨_, _, hfirst, hsecond, ?_⟩
  rw [← List.map_append, ← hlocales]
  simp only [run, files, List.flatten_append]

/-- A file with one key and an empty one. -/
def pair : Files where
  working := ["w"]
  entries := [
    (["w"], .directory),
    (["w", "a.ts"], .file (Utf8.encode "export default \x7b x \x7d".toList)),
    (["w", "b.ts"], .file [])]

/-- One worker completes the three files in their order, and they are reported in another. -/
theorem assemble_collected_pair :
    let files : List Text := ["b.ts", "a.ts", "a.ts"]
    ∃ c : Collection, c.Ended 1 3 ∧ c.completed = [0, 1, 2] ∧ c.reported = [2, 0, 1] ∧
      (assemble files (extract pair) c.reported).notices =
        [.start files, .parsed "a.ts", .parsed "b.ts", .parsed "a.ts"] ∧
      (assemble files (extract pair) c.reported).outcome.result = .ok [
        ⟨"b", [], "b.ts"⟩,
        ⟨"a", [⟨"x", ⟨1, 17, 1, 18⟩, "a.ts", "a.ts"⟩], "a.ts"⟩,
        ⟨"a", [⟨"x", ⟨1, 17, 1, 18⟩, "a.ts", "a.ts"⟩], "a.ts"⟩] := by
  intro files
  have hb : (extract pair "b.ts").result = .ok none := by decide +kernel
  have ha : (extract pair "a.ts").result = .ok (some [⟨"x", ⟨1, 17, 1, 18⟩, "a.ts", "a.ts"⟩]) := by
    decide +kernel
  have hextracted : ∀ file ∈ ([["b.ts", "a.ts"], ["a.ts"]] : List (List Text)).flatten,
      ∃ keys, (extract pair file).result = .ok keys := by
    intro file hfile
    simp only [List.flatten_cons, List.flatten_nil, List.cons_append, List.nil_append,
      List.mem_cons, List.not_mem_nil, or_false, or_self] at hfile
    rcases hfile with rfl | rfl
    · exact ⟨_, hb⟩
    · exact ⟨_, ha⟩
  obtain ⟨c, hended, hcompleted, hreported⟩ :=
    @Collection.exists_ended 1 3 (by decide) [2, 0, 1] (by decide)
  obtain ⟨hlocales, -, ⟨order, horder, hnotices⟩, -⟩ :=
    assemble_collected hextracted (by decide) hended
  refine ⟨c, hended, hcompleted, hreported, hnotices.trans ?_, hlocales.trans ?_⟩
  · rw [hreported] at horder
    obtain rfl : order = [⟨2, by decide⟩, ⟨0, by decide⟩, ⟨1, by decide⟩] :=
      List.map_injective_iff.mpr (fun _ _ => Fin.ext) horder
    rfl
  · simp only [List.flatten_cons, List.flatten_nil, List.cons_append, List.nil_append, List.map_cons,
      List.map_nil, localeOf, keysFound, ha, hb]
    decide +kernel

end LocaleCatalogue
