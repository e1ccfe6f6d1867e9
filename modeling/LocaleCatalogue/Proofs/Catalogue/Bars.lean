import LocaleCatalogue.Catalogue.Progress
import LocaleCatalogue.Proofs.Catalogue.Abort
import Mathlib.Data.List.TakeWhile

/-!
# Bars count completions

A display adds a bar for every event that begins new work and counts the items that are done after
it and before the next one begins. What is announced while a catalogue is put together begins work
once and then reports distinct positions, so its one bar never counts more items than there are, and
when the work has ended it is full exactly if the work succeeded.
-/

namespace LocaleCatalogue

/-- The event that tells a listener of a notice. -/
def Notice.event : Notice → Event
  | .start files => ⟨.start, .list (files.map Value.text)⟩
  | .parsed file => ⟨.parsed, .text file⟩

/-- Why an event cannot be counted, if it cannot: it begins work on something that has no items. -/
def Event.fault? (e : Event) : Option EventFault :=
  match e.kind, e.payload.itemCount? with
  | .start, none => some (.uncountable e.payload)
  | _, _ => none

/-- One bar for each event that begins work, in their order. Its total is the number of items of the
event; completed are the items that are done after it and before the next beginning. -/
def barsFor : List Event → List Bar
  | [] => []
  | e :: later =>
    match e.kind with
    | .start =>
      ⟨barLabel, e.payload.itemCount?.getD 0, (later.takeWhile (·.kind = .parsed)).length⟩ ::
        barsFor later
    | .parsed => barsFor later

namespace Display

/-- The display after an event that can be counted. -/
def on (d : Display) (e : Event) : Display :=
  match e.kind with
  | .start => d.addBar (e.payload.itemCount?.getD 0)
  | .parsed => d.advance

/-- Only an event that cannot be counted is refused. -/
theorem after_eq (d : Display) (e : Event) :
    d.after e = match e.fault? with
      | some fault => .error fault
      | none => .ok (d.on e) := by
  obtain ⟨kind, payload⟩ := e
  cases kind with
  | start =>
      rw [after, Event.fault?, on]
      cases payload.itemCount? <;> rfl
  | parsed => rfl

/-- Events are refused because of the first one that cannot be counted. -/
theorem foldlM_after (d : Display) (events : List Event) :
    events.foldlM after d = match events.findSome? Event.fault? with
      | some fault => .error fault
      | none => .ok (events.foldl on d) := by
  induction events generalizing d with
  | nil => rfl
  | cons e events ih =>
      rw [List.foldlM_cons, after_eq, List.findSome?_cons, List.foldl_cons]
      cases e.fault? with
      | some fault => rfl
      | none => exact ih (d.on e)

/-- An event that begins work adds a bar behind the current one. -/
theorem on_last_start (before : List Bar) (bar : Bar) (payload : Value) :
    on ⟨before ++ [bar], some before.length⟩ ⟨.start, payload⟩ =
      ⟨(before ++ [bar]) ++ [⟨barLabel, payload.itemCount?.getD 0, 0⟩],
        some (before ++ [bar]).length⟩ := rfl

/-- An item that is done counts towards the current bar and no other. -/
theorem on_last_parsed (before : List Bar) (bar : Bar) (payload : Value) :
    on ⟨before ++ [bar], some before.length⟩ ⟨.parsed, payload⟩ =
      ⟨before ++ [bar.advanced], some before.length⟩ := by
  simp [on, advance, List.modify_eq_take_drop]

/-- The items done before the next beginning are added to the current bar. What follows is shown by
bars of its own. -/
theorem foldl_on_last (before : List Bar) (bar : Bar) (events : List Event) :
    (events.foldl on ⟨before ++ [bar], some before.length⟩).bars =
      before ++ { bar with
        completed := bar.completed + (events.takeWhile (·.kind = .parsed)).length } ::
          barsFor events := by
  induction events generalizing before bar with
  | nil => rfl
  | cons e events ih =>
      obtain ⟨kind, payload⟩ := e
      cases kind with
      | start =>
          rw [List.foldl_cons, on_last_start, ih, List.append_assoc]
          simp [barsFor]
      | parsed =>
          rw [List.foldl_cons, on_last_parsed, ih]
          simp [barsFor, Bar.advanced, Nat.add_assoc, Nat.add_comm 1]

/-- Items that are done before any work begins leave the display blank. -/
theorem foldl_on_of_parsed {events : List Event} (h : ∀ e ∈ events, e.kind = .parsed) :
    events.foldl on blank = blank := by
  induction events with
  | nil => rfl
  | cons e events ih =>
      have hblank : blank.on e = blank := by rw [on, h e List.mem_cons_self]; rfl
      rw [List.foldl_cons, hblank]
      exact ih fun later hlater => h later (List.mem_cons_of_mem e hlater)

/-- Events of which the first begins work are shown by bars of their own, behind those that are
there. -/
theorem foldl_on_start (d : Display) (payload : Value) (later : List Event) :
    ((⟨.start, payload⟩ :: later).foldl on d).bars =
      d.bars ++ barsFor (⟨.start, payload⟩ :: later) := by
  have hlast := foldl_on_last d.bars ⟨barLabel, payload.itemCount?.getD 0, 0⟩ later
  rw [Nat.zero_add] at hlast
  exact hlast

/-- From a blank display on, the events are shown by their bars. -/
theorem foldl_on_blank (events : List Event) : (events.foldl on blank).bars = barsFor events := by
  induction events with
  | nil => rfl
  | cons e events ih =>
      obtain ⟨kind, payload⟩ := e
      cases kind with
      | start => exact foldl_on_start blank payload events
      | parsed => exact ih

end Display

/-- What events are shown by: their bars, unless one of them cannot be counted. -/
theorem ofEvents_bars (events : List Event) :
    (Display.ofEvents events).map Display.bars = match events.findSome? Event.fault? with
      | some fault => .error fault
      | none => .ok (barsFor events) := by
  rw [Display.ofEvents, Display.foldlM_after]
  cases events.findSome? Event.fault? with
  | some fault => rfl
  | none => exact congrArg Except.ok (Display.foldl_on_blank events)

/-- Items that are done before any work begins are not shown. -/
theorem ofEvents_of_parsed {events : List Event} (h : ∀ e ∈ events, e.kind = .parsed) :
    Display.ofEvents events = .ok .blank := by
  have hcounted : events.findSome? Event.fault? = none := by
    rw [List.findSome?_eq_none_iff]
    intro e he
    rw [Event.fault?, h e he]
  rw [Display.ofEvents, Display.foldlM_after, hcounted]
  exact congrArg Except.ok (Display.foldl_on_of_parsed h)

/-! ## What is announced -/

/-- Notices are never refused. -/
theorem foldlM_after_notices (before : Display) (notices : List Notice) :
    (notices.map Notice.event).foldlM Display.after before =
      .ok ((notices.map Notice.event).foldl Display.on before) := by
  have hcounted : (notices.map Notice.event).findSome? Event.fault? = none := by
    rw [List.findSome?_eq_none_iff]
    intro e he
    obtain ⟨notice, -, rfl⟩ := List.mem_map.mp he
    cases notice <;> rfl
  rw [Display.foldlM_after, hcounted]

/-- Files and then some that are done are shown by one bar, which counts these. -/
theorem barsFor_announced (files done : List Text) :
    barsFor ((.start files :: done.map Notice.parsed).map Notice.event) =
      [⟨barLabel, files.length, done.length⟩] := by
  have hdone : ∀ e ∈ (done.map Notice.parsed).map Notice.event, e.kind = .parsed := by
    intro e he
    rw [List.map_map] at he
    obtain ⟨file, -, rfl⟩ := List.mem_map.mp he
    rfl
  have hlater : barsFor ((done.map Notice.parsed).map Notice.event) = [] := by
    rw [← Display.foldl_on_blank, Display.foldl_on_of_parsed hdone]
    rfl
  rw [List.map_cons, barsFor, hlater]
  simp only [Notice.event, Value.itemCount?, List.length_map, Option.getD_some]
  rw [List.takeWhile_eq_self_iff.mpr fun e he => decide_eq_true (hdone e he)]
  simp

/-- They are shown behind the bars that are there. -/
theorem foldl_on_announced (before : Display) (files done : List Text) :
    (((.start files :: done.map Notice.parsed).map Notice.event).foldl Display.on before).bars =
      before.bars ++ [⟨barLabel, files.length, done.length⟩] := by
  rw [← barsFor_announced files done]
  exact Display.foldl_on_start before _ _

namespace Work

variable {files : List Text} {extracted : Text → Logged (Option (List Key))} {work : Work}

/-- What is announced are the files and then no more than there are that are done. When the work has
ended all of them are, unless there was a failure. -/
theorem Kept.exists_done {workers : Nat} (h : Kept files extracted work) (hworkers : 1 ≤ workers) :
    ∃ done : List Text, work.notices = .start files :: done.map Notice.parsed ∧
      done.length ≤ files.length ∧
      (Stopped files extracted workers work →
        (done.length = files.length ↔ work.failure = none)) := by
  have hreports : work.pool.reported.length ≤ files.length := by
    have hle := h.known.length_le
    rw [Pool.positions, List.length_range] at hle
    simp only [List.length_append] at hle
    omega
  obtain ⟨order, -, hnotices, hreported⟩ := h.told
  refine ⟨order.map files.get, by rw [hnotices, List.map_map]; rfl, ?_⟩
  rw [List.length_map]
  cases hended : work.failure with
  | none =>
      rw [hended] at hreported
      have hlength : order.length = work.pool.reported.length := by rw [hreported, List.length_map]
      refine ⟨hlength ▸ hreports, fun hstopped => iff_of_true ?_ rfl⟩
      have hperm := h.reported_of_stopped hworkers hstopped hended
      rw [hlength, hperm.length_eq, List.length_range]
  | some failure =>
      rw [hended] at hreported
      obtain ⟨last, hlast, -⟩ := hreported
      rw [hlast, List.length_append, List.length_map, List.length_singleton] at hreports
      exact ⟨by omega, fun _ => iff_of_false (by omega) (by simp)⟩

/-- There was no failure exactly if a catalogue is put together from the reports. -/
theorem Kept.failure_eq_none_iff (h : Kept files extracted work) :
    work.failure = none ↔
      ∃ locales, (assemble files extracted work.pool.reported).outcome.result = .ok locales := by
  have hresult := h.assemble_eq.2
  constructor
  · intro hnone
    cases hended : (assemble files extracted work.pool.reported).outcome.result with
    | ok locales => exact ⟨locales, rfl⟩
    | error failure =>
        have hfailure := (hresult failure).mp hended
        rw [hnone] at hfailure
        cases hfailure
  · rintro ⟨locales, hok⟩
    cases hfailure : work.failure with
    | none => rfl
    | some failure =>
        rw [(hresult failure).mpr hfailure] at hok
        cases hok

end Work

/-- What has been announced at some moment is shown by no bar or by one that is not overfull. -/
theorem exists_bars_of_prefix {files done : List Text} (hle : done.length ≤ files.length)
    {seen : List Notice} (hseen : seen <+: .start files :: done.map Notice.parsed)
    (before : Display) :
    ∃ added : List Bar,
      ((seen.map Notice.event).foldl Display.on before).bars = before.bars ++ added ∧
      ∀ bar ∈ added, bar.completed ≤ bar.total := by
  rcases List.prefix_cons_iff.mp hseen with rfl | ⟨later, rfl, hlater⟩
  · exact ⟨[], (List.append_nil _).symm, by simp⟩
  · obtain ⟨part, hpart, rfl⟩ := List.prefix_map_iff.mp hlater
    refine ⟨[⟨barLabel, files.length, part.length⟩], foldl_on_announced before files part, ?_⟩
    rintro bar hbar
    cases List.mem_singleton.mp hbar
    exact hpart.length_le.trans hle

/-- A display has one bar for each event that begins work, in their order. Its total is the number
of items of that event, and it counts the items done after it and before the next beginning; items
done before any beginning leave the display blank. So whatever the workers do and whichever
extractions fail, the work has one bar behind those that were there before, which counts no more
items than there are at any moment; and when the work has ended, it is full exactly if there is a
catalogue. If already the search for files fails, there is no bar. -/
theorem bars_count_completions (events : List Event) {files : List Text}
    {extracted : Text → Logged (Option (List Key))} {workers : Nat} (hworkers : 1 ≤ workers)
    {work : Work} (hrun : Work.Run files extracted workers (.initial files) work) :
    ((Display.ofEvents events).map Display.bars = match events.findSome? Event.fault? with
      | some fault => .error fault
      | none => .ok (barsFor events)) ∧
    ((∀ e ∈ events, e.kind = .parsed) → Display.ofEvents events = .ok .blank) ∧
    (∀ (before : Display) (seen : List Notice), seen <+: work.notices →
      ∃ (display : Display) (added : List Bar),
        (seen.map Notice.event).foldlM Display.after before = .ok display ∧
        display.bars = before.bars ++ added ∧ ∀ bar ∈ added, bar.completed ≤ bar.total) ∧
    (∃ done : List Text, work.notices = .start files :: done.map Notice.parsed ∧
      (∀ before : Display, ∃ display : Display,
        (work.notices.map Notice.event).foldlM Display.after before = .ok display ∧
        display.bars = before.bars ++ [⟨barLabel, files.length, done.length⟩]) ∧
      (work.Stopped files extracted workers →
        (done.length = files.length ↔
          ∃ locales, (assemble files extracted work.pool.reported).outcome.result = .ok locales))) ∧
    ∀ (fs : Files) (settings : Settings) (root : Text) (failure : Failure),
      (discover fs settings root).result = .error failure →
      (catalogueBelow fs settings root).notices = [] ∧
        (catalogueBelow fs settings root).outcome.result = .error failure := by
  have hkept := Work.kept_of_run hrun
  obtain ⟨done, hnotices, hle, hfull⟩ := hkept.exists_done hworkers
  refine ⟨ofEvents_bars events, ofEvents_of_parsed, ?_, ⟨done, hnotices, ?_, ?_⟩, ?_⟩
  · intro before seen hseen
    obtain ⟨added, hadded, hbounded⟩ := exists_bars_of_prefix hle (hnotices ▸ hseen) before
    exact ⟨_, added, foldlM_after_notices before seen, hadded, hbounded⟩
  · intro before
    exact ⟨_, foldlM_after_notices before work.notices, hnotices ▸ foldl_on_announced before _ _⟩
  · intro hstopped
    rw [hfull hstopped, hkept.failure_eq_none_iff]
  · intro fs settings root failure hfails
    exact catalogueBelow_of_discover_error hfails

/-- Items done before and between two beginnings, and a failure after one file of two. -/
theorem bars_count_completions_halves :
    let events : List Event := [⟨.parsed, .null⟩, ⟨.start, .list [.null, .null]⟩, ⟨.parsed, .null⟩,
      ⟨.start, .text "abc"⟩, ⟨.parsed, .null⟩, ⟨.parsed, .null⟩]
    let files : List Text := ["a.ts", "b.ts"]
    (Display.ofEvents events).map Display.bars = .ok [⟨barLabel, 2, 1⟩, ⟨barLabel, 3, 2⟩] ∧
    ∃ failure, (extract halves "b.ts").result = .error failure ∧
      let last : Work := ⟨⟨[], [], [], [0, 1]⟩, [.start files, .parsed "a.ts"], some failure⟩
      Work.Run files (extract halves) 2 (.initial files) last ∧
        ∃ display, (last.notices.map Notice.event).foldlM Display.after .blank = .ok display ∧
          display.bars = [⟨barLabel, 2, 1⟩] := by
  intro events files
  obtain ⟨failure, hb⟩ := halves_broken
  have hrun : Work.Run files (extract halves) 2 (.initial files)
      ⟨⟨[], [], [], [0, 1]⟩, [.start files, .parsed "a.ts"], some failure⟩ :=
    .head (.labour (.take (by decide)) rfl) <|
    .head (.labour (.take (by decide)) rfl) <|
    .head (.labour (@Pool.Step.finish 2 0 [] [1] [] [] []) rfl) <|
    .head (.collect (@Pool.Step.report 2 0 [] [1] [] [] []) rfl rfl halves_sound) <|
    .head (.labour (@Pool.Step.finish 2 1 [] [] [] [] [0]) rfl) <|
    .single (.abort (@Pool.Step.report 2 1 [] [] [] [] [0]) rfl rfl hb)
  obtain ⟨hbars, -, -, ⟨done, hdone, hshown, -⟩, -⟩ :=
    bars_count_completions events (by decide) hrun
  obtain ⟨display, hdisplay, hone⟩ := hshown .blank
  have hlength : done.length = 1 := by
    simpa using (congrArg List.length hdone).symm
  rw [hlength] at hone
  exact ⟨hbars, failure, hb, hrun, display, hdisplay, hone⟩

end LocaleCatalogue
