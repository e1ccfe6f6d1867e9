import LocaleCatalogue.Proofs.Catalogue.Pool
import LocaleCatalogue.Proofs.Settings.Resolution

/-!
# Which settings can be loaded

Loaded settings have a pattern to look for, a number of workers that is open or compares as at least
one, and some value for hidden files. Every combination of such values can be loaded. What the
environment says and what is usual is of the type of its field; the caller and the files may put
anything into a field that the checks do not look at.
-/

namespace LocaleCatalogue

theorem Value.isSet_iff {v : Value} : v.isSet = true ↔ v ≠ .null := by
  cases v <;> simp [isSet]

namespace Settings

variable {s : Sources} {settings : Settings} {layer lower upper : Layer} {field : Field} {v : Value}
  {name : Text}

/-! ### Values and where they come from -/

theorem isCount_iff :
    IsCount v ↔ (v = .null ∨ ∃ n, 1 ≤ n ∧ v = .int n) ∨ v = .bool true ∨ ∃ x, ¬ x < 1 ∧ v = .float x := by
  cases v <;> simp [IsCount, belowOne?]

/-- A field's value is one that the caller or a file put there. -/
def Sources.IsRaw (s : Sources) (field : Field) : Prop :=
  asked? s.overrides field ≠ none ∨ spoken? s.environment field = none ∧
    (stated? (chosenLayer s.diagnosis s.files s.chosenFile) field ≠ none ∨
      stated? (projectLayer s.diagnosis s.files) field ≠ none)

theorem resolved_of_not_isRaw (h : ¬ s.IsRaw field) :
    s.resolved field = (spoken? s.environment field).getD field.default := by
  rw [Sources.IsRaw, not_or, not_not] at h
  obtain ⟨hasked, hfiles⟩ := h
  rw [Sources.resolved, hasked, Option.none_or]
  cases hspoken : spoken? s.environment field with
  | some v => rfl
  | none =>
      have hnone := not_or.mp fun h => hfiles ⟨hspoken, h⟩
      rw [not_not.mp hnone.1, not_not.mp hnone.2]
      rfl

/-- What the environment says is what some word for the field is read as. -/
theorem exists_word_of_spoken? {environment : List (Text × Text)} (h : spoken? environment field = some v) :
    ∃ word, field.reading.read word = .ok (some v) := by
  obtain ⟨word, -, hword⟩ := Option.bind_eq_some_iff.mp h
  refine ⟨word, ?_⟩
  cases hread : field.reading.read word with
  | error fault =>
      rw [hread] at hword
      cases hword
  | ok found =>
      rw [hread] at hword
      exact congrArg Except.ok hword

theorem isInteger_of_read {word : Text} (h : Reading.integer.read word = .ok (some v)) :
    ∃ n, v = .int n := by
  rw [Reading.read] at h
  split at h
  next n _ =>
    cases h
    exact ⟨n, rfl⟩
  next => cases h

theorem isSwitch_of_read {word : Text} (h : Reading.switch.read word = .ok (some v)) :
    ∃ b, v = .bool b := by
  rw [Reading.read] at h
  split at h
  next =>
    cases h
    exact ⟨true, rfl⟩
  next =>
    split at h
    next =>
      cases h
      exact ⟨false, rfl⟩
    next => cases h

theorem ne_null_of_read {reading : Reading} {word : Text} (h : reading.read word = .ok (some v)) :
    v ≠ .null := by
  cases reading with
  | switch =>
      obtain ⟨b, rfl⟩ := isSwitch_of_read h
      exact nofun
  | integer =>
      obtain ⟨n, rfl⟩ := isInteger_of_read h
      exact nofun
  | text =>
      cases h
      exact nofun
  | nothing => cases h

theorem ne_null_of_asked? (h : asked? layer field = some v) : v ≠ .null := by
  unfold asked? at h
  split at h
  next =>
    cases h
    exact nofun
  next =>
    split at h
    next =>
      cases h
      exact nofun
    next => exact Value.isSet_iff.mp (Option.filter_eq_some_iff.mp h).2

theorem ne_null_of_stated? {answer : Except LoadFault Layer}
    (hproper : ∀ layer, answer = .ok layer → Toml.ProperTable layer)
    (h : stated? answer field = some v) : v ≠ .null := by
  cases answer with
  | error fault => cases h
  | ok layer => exact ((hproper layer rfl).find? h).ne_null

/-- No layer leaves a field open that it speaks about. -/
theorem resolved_ne_null (hdefault : field.default ≠ .null) : s.resolved field ≠ .null := by
  rw [Sources.resolved]
  -- nulls of the caller are dropped, and neither words nor documents can say null
  generalize hsaid : Option.or _ _ = said
  cases said with
  | none => exact hdefault
  | some v =>
      rcases Option.or_eq_some_iff.mp hsaid with hasked | ⟨-, h⟩
      · exact ne_null_of_asked? hasked
      rcases Option.or_eq_some_iff.mp h with hspoken | ⟨-, h⟩
      · obtain ⟨word, hword⟩ := exists_word_of_spoken? hspoken
        exact ne_null_of_read hword
      rcases Option.or_eq_some_iff.mp h with hchosen | ⟨-, hproject⟩
      · exact ne_null_of_stated? (fun _ => properTable_chosenLayer) hchosen
      · exact ne_null_of_stated? (fun _ => properTable_projectLayer) hproject

/-! ### Putting settings in by the caller -/

/-- The settings, said by the caller where there are no files and no environment. -/
def sourcesOf (settings : Settings) : Sources where
  files := ⟨[], [], []⟩
  environment := []
  chosenFile := none
  overrides := fields.map fun field => (field.name, settings.value field)
  diagnosis _ := []

theorem names_sourcesOf (settings : Settings) :
    (sourcesOf settings).overrides.map Prod.fst = fields.map Field.name := by
  rw [sourcesOf, List.map_map]
  rfl

theorem nodup_sourcesOf (settings : Settings) : ((sourcesOf settings).overrides.map Prod.fst).Nodup := by
  rw [names_sourcesOf]
  decide +kernel

theorem mem_names_overlay (h : name ∈ (overlay lower upper).map Prod.fst) :
    name ∈ lower.map Prod.fst ∨ name ∈ upper.map Prod.fst := by
  induction upper generalizing lower with
  | nil => exact Or.inl h
  | cons e upper ih =>
      rw [List.map_cons, List.mem_cons]
      rcases ih h with hlower | hupper
      · rw [Entries.names_put] at hlower
        split at hlower
        next => exact Or.inl hlower
        next =>
          rcases List.mem_append.mp hlower with hlower | hname
          · exact Or.inl hlower
          · exact Or.inr (Or.inl (List.mem_singleton.mp hname))
      · exact Or.inr (Or.inr hupper)

theorem flip_of_absent {switch : Text} (h : switch ∉ layer.map Prod.fst) (verbosity : Verbosity) :
    flip switch verbosity layer = layer := by
  have hall : layer.filter (fun e => decide (e.1 ≠ switch)) = layer :=
    List.filter_eq_self.mpr fun e he =>
      decide_eq_true fun hname => h (List.mem_map.mpr ⟨e, he, hname⟩)
  rw [flip, Entries.find?_eq_none_iff.mpr h]
  exact hall

theorem merged_sourcesOf (settings : Settings) :
    merged (sourcesOf settings) = .ok (overlay [] (callerLayer (sourcesOf settings).overrides)) := rfl

theorem unknownName?_sourcesOf (settings : Settings) :
    unknownName? (overlay [] (callerLayer (sourcesOf settings).overrides)) = none := by
  have habsent {switch : Text} (h : switch ∉ fields.map Field.name) :
      switch ∉ (sourcesOf settings).overrides.map Prod.fst := by
    rwa [names_sourcesOf]
  have hcaller : callerLayer (sourcesOf settings).overrides =
      (sourcesOf settings).overrides.filter fun e => e.2.isSet := by
    rw [callerLayer_eq, flip_of_absent (habsent (by decide +kernel)) .verbose,
      flip_of_absent (habsent (by decide +kernel)) .quiet]
  rw [unknownName?, List.find?_eq_none]
  intro name hname
  have hfield : name ∈ fields.map Field.name := by
    rcases mem_names_overlay hname with hnone | hcall
    · cases hnone
    · rw [hcaller] at hcall
      have hsub := (List.filter_sublist.map Prod.fst).subset hcall
      rwa [names_sourcesOf] at hsub
  obtain ⟨field, -, rfl⟩ := List.mem_map.mp hfield
  rw [fieldNamed?_name]
  exact Bool.false_ne_true

theorem asked?_sourcesOf (settings : Settings) (field : Field) :
    asked? (sourcesOf settings).overrides field = (some (settings.value field)).filter Value.isSet := by
  have hoff {switch : Text} (h : switch ∉ fields.map Field.name) :
      isOn (sourcesOf settings).overrides switch = false := by
    rw [isOn, Entries.find?_eq_none_iff.mpr (by rwa [names_sourcesOf])]
    rfl
  have hvalue : Entries.find? (sourcesOf settings).overrides field.name = some (settings.value field) :=
    Entries.find?_eq_some_of_mem (nodup_sourcesOf settings) (List.mem_map.mpr ⟨field, field.mem_fields, rfl⟩)
  rw [asked?, hoff (by decide +kernel), hoff (by decide +kernel), hvalue]
  simp

/-- The caller can say everything but that a field is open. -/
theorem resolved_sourcesOf (settings : Settings)
    (hopen : settings.value field = .null → field.default = .null) :
    (sourcesOf settings).resolved field = settings.value field := by
  have hothers : (sourcesOf settings).resolved field =
      ((asked? (sourcesOf settings).overrides field).or none).getD field.default := rfl
  rw [hothers, asked?_sourcesOf, Option.or_none]
  rw [Option.filter_some]
  split
  next => rfl
  next hset =>
    have hnull := not_not.mp fun hne => hset (Value.isSet_iff.mpr hne)
    exact (hopen hnull).trans hnull.symm

/-! ### Loaded settings -/

/-- The number of workers is open or a positive integer. -/
def HasCount (settings : Settings) : Prop :=
  settings.workers = .null ∨ ∃ n, 1 ≤ n ∧ settings.workers = .int n

/-- Settings with a pattern, a number of workers that compares as at least one, and some value for
hidden files. -/
structure IsLoadable (settings : Settings) : Prop where
  patterns : settings.localePatterns ≠ []
  workers : settings.HasCount ∨ settings.workers = .bool true ∨
    ∃ x, ¬ x < 1 ∧ settings.workers = .float x
  hidden : settings.allowHiddenFiles ≠ .null

theorem isLoadable_of_load (hoverrides : (s.overrides.map Prod.fst).Nodup) (h : load s = .ok settings) :
    IsLoadable settings := by
  obtain ⟨entries, hmerged, hcheck⟩ := load_eq_ok_iff.mp h
  obtain ⟨-, hvalue, hpatterns, hworkers⟩ := check_eq_ok_iff.mp hcheck
  have hhidden : settings.allowHiddenFiles = s.resolved .allowHiddenFiles :=
    (hvalue .allowHiddenFiles).trans (given_merged hoverrides hmerged _)
  exact ⟨hpatterns, isCount_iff.mp hworkers, hhidden ▸ resolved_ne_null nofun⟩

theorem load_sourcesOf (h : IsLoadable settings) : load (sourcesOf settings) = .ok settings := by
  refine load_eq_ok_iff.mpr ⟨_, merged_sourcesOf settings, check_eq_ok_iff.mpr
    ⟨unknownName?_sourcesOf settings, fun field => ?_, h.patterns, isCount_iff.mpr h.workers⟩⟩
  rw [given_merged (nodup_sourcesOf settings) (merged_sourcesOf settings), resolved_sourcesOf settings]
  intro hnull
  cases field with
  | workers => rfl
  | allowHiddenFiles => exact absurd hnull h.hidden
  | _ => cases hnull

theorem value_of_not_isRaw (hoverrides : (s.overrides.map Prod.fst).Nodup) (h : load s = .ok settings)
    (hraw : ¬ s.IsRaw field) :
    settings.value field = field.default ∨ ∃ word, field.reading.read word = .ok (some (settings.value field)) := by
  obtain ⟨entries, hmerged, hcheck⟩ := load_eq_ok_iff.mp h
  have hvalue := (check_eq_ok_iff.mp hcheck).2.1 field
  rw [given_merged hoverrides hmerged, resolved_of_not_isRaw hraw] at hvalue
  cases hspoken : spoken? s.environment field with
  | none =>
      rw [hspoken] at hvalue
      exact Or.inl hvalue
  | some v =>
      rw [hspoken] at hvalue
      exact Or.inr (hvalue ▸ exists_word_of_spoken? hspoken)

/-- Where neither the caller nor a file sets the workers, their number is open or positive. -/
theorem hasCount_of_not_isRaw (hoverrides : (s.overrides.map Prod.fst).Nodup)
    (h : load s = .ok settings) (hraw : ¬ s.IsRaw .workers) : settings.HasCount := by
  rcases (isLoadable_of_load hoverrides h).workers with hcount | hother
  · exact hcount
  rcases value_of_not_isRaw hoverrides h hraw with hdefault | ⟨word, hword⟩
  · exact Or.inl hdefault
  · obtain ⟨n, hn⟩ := isInteger_of_read hword
    have hworkers : settings.workers = .int n := hn
    rw [hworkers] at hother
    rcases hother with h | ⟨x, -, h⟩ <;> cases h

/-- Where neither the caller nor a file sets the switch for hidden files, it is one. -/
theorem isSwitch_of_not_isRaw (hoverrides : (s.overrides.map Prod.fst).Nodup)
    (h : load s = .ok settings) (hraw : ¬ s.IsRaw .allowHiddenFiles) :
    ∃ b, settings.allowHiddenFiles = .bool b := by
  rcases value_of_not_isRaw hoverrides h hraw with hdefault | ⟨word, hword⟩
  · exact ⟨false, hdefault⟩
  · exact isSwitch_of_read hword

/-- A pool for a number of workers that is open or positive can start one of them. -/
theorem exists_step_of_hasCount (h : settings.HasCount) (processors : Option Nat) :
    ∃ n : Nat, 1 ≤ n ∧ settings.maxWorkers processors = .int n ∧
      ∀ files, 0 < files → ∃ next, Pool.Step n (Pool.initial files) next := by
  have hstep {n : Nat} (hn : 1 ≤ n) (files : Nat) (hfiles : 0 < files) :
      ∃ next, Pool.Step n (Pool.initial files) next := by
    by_contra hstopped
    obtain ⟨hwaiting, -, -⟩ := (Pool.stopped_iff hn).mp (not_exists.mp hstopped)
    exact absurd (List.range_eq_nil.mp hwaiting) (Nat.ne_of_gt hfiles)
  rcases h with hopen | ⟨n, hn, hworkers⟩
  · have hsize : 1 ≤ min (if processors.getD 0 = 0 then 4 else processors.getD 0) 8 := by
      split <;> omega
    refine ⟨_, hsize, ?_, hstep hsize⟩
    rw [maxWorkers, hopen]
  · refine ⟨n.toNat, by omega, ?_, hstep (by omega)⟩
    rw [maxWorkers, hworkers, Int.toNat_of_nonneg (by omega)]

/-- Exactly these settings can be loaded: with a pattern, with a number of workers that is open, a
positive integer, the true switch or a fraction that is not less than one, and with any value for
hidden files. Only the caller and the files can bring in values of other types. -/
theorem load_yields (settings : Settings) :
    ((∃ s : Sources, (s.overrides.map Prod.fst).Nodup ∧ load s = .ok settings) ↔ IsLoadable settings) ∧
      (∀ s : Sources, (s.overrides.map Prod.fst).Nodup → load s = .ok settings →
        (¬ s.IsRaw .workers → settings.HasCount) ∧
          (¬ s.IsRaw .allowHiddenFiles → ∃ b, settings.allowHiddenFiles = .bool b)) ∧
      (settings.HasCount → ∀ processors, ∃ n : Nat, 1 ≤ n ∧ settings.maxWorkers processors = .int n ∧
        ∀ files, 0 < files → ∃ next, Pool.Step n (Pool.initial files) next) := by
  refine ⟨⟨?_, fun h => ⟨_, nodup_sourcesOf settings, load_sourcesOf h⟩⟩,
    fun s hoverrides hload => ⟨hasCount_of_not_isRaw hoverrides hload, isSwitch_of_not_isRaw hoverrides hload⟩,
    exists_step_of_hasCount⟩
  rintro ⟨s, hoverrides, hload⟩
  exact isLoadable_of_load hoverrides hload

/-- Settings with values of other types. -/
def mistyped : Settings := { standard with workers := .bool true, allowHiddenFiles := .text "no" }

/-- An environment that sets what it can. -/
def worded : Sources where
  files := ⟨[], [], []⟩
  environment := [("LOCALE_LENS_WORKERS", " 3 "), ("LOCALE_LENS_ALLOW_HIDDEN_FILES", "ON")]
  chosenFile := none
  overrides := [("workers", .null)]
  diagnosis _ := []

theorem load_yields_mistyped :
    (∃ s : Sources, load s = .ok mistyped) ∧
      ∃ settings, load worded = .ok settings ∧ (∃ b, settings.allowHiddenFiles = .bool b) ∧
        ∃ n : Nat, 1 ≤ n ∧ settings.maxWorkers none = .int n := by
  constructor
  · have hloadable : IsLoadable mistyped :=
      ⟨by decide +kernel, Or.inr (Or.inl rfl), nofun⟩
    obtain ⟨s, -, hload⟩ := (load_yields mistyped).1.mpr hloadable
    exact ⟨s, hload⟩
  · have hsome : (load worded).toOption.isSome = true := by decide +kernel
    cases hload : load worded with
    | error fault =>
        rw [hload] at hsome
        cases hsome
    | ok settings =>
        obtain ⟨-, htyped, hpool⟩ := load_yields settings
        obtain ⟨hcount, hhidden⟩ := htyped worded (by decide +kernel) hload
        have hraw {field : Field} (hfield : asked? worded.overrides field = none) : ¬ worded.IsRaw field := by
          rintro (h | ⟨-, h | h⟩)
          · exact h hfield
          · exact h rfl
          · exact h rfl
        obtain ⟨n, hn, hsize, -⟩ := hpool (hcount (hraw rfl)) none
        exact ⟨settings, rfl, hhidden (hraw rfl), n, hn, hsize⟩

end Settings

end LocaleCatalogue
