import LocaleCatalogue.Proofs.Files.Answers
import LocaleCatalogue.Settings.Layers

/-!
# What the checks let through

Named values become settings if each of them passes the check of its field, and then the settings
hold them as they are: a check never changes a value. Of the checks only the one for workers leaves
values that are no workers, because it compares and does not ask for an integer. A refusal is about
the value that was given for some field.
-/

namespace LocaleCatalogue

theorem Verbosity.named?_eq_some_iff {t : Text} {v : Verbosity} :
    named? t = some v ↔ t = Text.ofString v.name := by
  constructor
  · intro h
    have hname := List.find?_some h
    exact (of_decide_eq_true hname).symm
  · rintro rfl
    cases v <;> decide +kernel

namespace Settings

theorem Field.mem_fields (field : Field) : field ∈ fields := by
  cases field <;> decide

theorem fieldNamed?_name (field : Field) : fieldNamed? field.name = some field := by
  cases field <;> decide +kernel

theorem Field.name_injective {a b : Field} (h : a.name = b.name) : a = b := by
  have := fieldNamed?_name a
  rw [h, fieldNamed?_name] at this
  exact (Option.some_inj.mp this).symm

/-- The value that settings hold for a field. -/
def value (s : Settings) : Field → Value
  | .localePatterns => textList s.localePatterns
  | .excludePatterns => textList s.excludePatterns
  | .workers => s.workers
  | .allowHiddenFiles => s.allowHiddenFiles
  | .verbosity => .text s.verbosity.name

/-- Values that are taken for a number of workers. -/
def IsCount (v : Value) : Prop := v = .null ∨ belowOne? v = some false

variable {entries : Layer} {settings : Settings} {fault : Fault} {v w : Value}

/-! ### One field -/

theorem texts?_textList (ts : List Text) : texts? (textList ts) = some ts := by
  rw [textList, texts?]
  induction ts with
  | nil => rfl
  | cons t ts ih => rw [List.map_cons, List.mapM_cons, ih]; rfl

theorem texts?_eq_some_iff {ts : List Text} : texts? v = some ts ↔ v = textList ts := by
  refine ⟨fun h => ?_, fun h => h ▸ texts?_textList ts⟩
  cases v with
  | list items =>
      rw [texts?] at h
      rw [textList]
      congr 1
      induction items generalizing ts with
      | nil => cases h; rfl
      | cons item items ih =>
          rw [List.mapM_cons, Option.bind_eq_bind, Option.bind_eq_some_iff] at h
          obtain ⟨t, ht, h⟩ := h
          rw [Option.bind_eq_bind, Option.bind_eq_some_iff] at h
          obtain ⟨rest, hrest, h⟩ := h
          cases h
          cases item with
          | text u => cases ht; rw [List.map_cons, ← ih hrest]
          | _ => cases ht
  | _ => cases h

theorem checkPatterns_eq_ok_iff {field : Field} {ts : List Text} :
    checkPatterns field v = .ok ts ↔ v = textList ts := by
  rw [checkPatterns, ← texts?_eq_some_iff]
  cases texts? v <;> simp

theorem checkWorkers_eq_ok_iff : checkWorkers v = .ok w ↔ v = w ∧ IsCount v := by
  unfold checkWorkers IsCount
  split
  next => simp
  next hset =>
    have hne : v ≠ .null := hset
    split <;> simp_all

theorem checkVerbosity_eq_ok_iff {verbosity : Verbosity} :
    checkVerbosity v = .ok verbosity ↔ v = .text verbosity.name := by
  cases v with
  | text t =>
      rw [checkVerbosity, Value.text.injEq, ← Verbosity.named?_eq_some_iff]
      cases Verbosity.named? t <;> simp
  | _ => simp [checkVerbosity]

/-- Refusals of a check that show no other value than one. -/
def Fault.IsAbout (v : Value) : Fault → Prop
  | .tooLongToShow => False
  | fault => ∀ w, fault.value? = some w → w = v

theorem isAbout_of_checkPatterns {field : Field} (h : checkPatterns field v = .error fault) :
    fault.IsAbout v := by
  rw [checkPatterns] at h
  split at h
  next => cases h
  next =>
    cases h
    rintro _ ⟨⟩
    rfl

theorem isAbout_of_checkWorkers (h : checkWorkers v = .error fault) : fault.IsAbout v := by
  unfold checkWorkers at h
  split at h
  next => cases h
  next =>
    split at h
    next =>
      cases h
      exact nofun
    next =>
      cases h
      rintro _ ⟨⟩
      rfl
    next => cases h

theorem isAbout_of_checkVerbosity (h : checkVerbosity v = .error fault) : fault.IsAbout v := by
  unfold checkVerbosity at h
  split at h
  next =>
    split at h
    next => cases h
    next =>
      cases h
      rintro _ ⟨⟩
      rfl
  next =>
    cases h
    rintro _ ⟨⟩
    rfl

/-! ### All fields -/

/-- Named values pass exactly if each name is a field's and each value passes its own check. The
settings then hold the values that were given. -/
theorem check_eq_ok_iff :
    check entries = .ok settings ↔
      unknownName? entries = none ∧ (∀ field, settings.value field = given entries field) ∧
        settings.localePatterns ≠ [] ∧ IsCount settings.workers := by
  constructor
  · intro h
    rw [check] at h
    split at h
    next => cases h
    next hknown =>
      obtain ⟨localePatterns, hlocale, h⟩ := bind_eq_ok_iff.mp h
      obtain ⟨excludePatterns, hexclude, h⟩ := bind_eq_ok_iff.mp h
      dsimp only at h
      split at h
      next => cases h
      next hsome =>
        obtain ⟨workers, hworkers, h⟩ := bind_eq_ok_iff.mp h
        obtain ⟨verbosity, hverbosity, h⟩ := bind_eq_ok_iff.mp h
        cases h
        obtain ⟨hworkers, hcount⟩ := checkWorkers_eq_ok_iff.mp hworkers
        refine ⟨hknown, fun field => ?_, by simpa using hsome, hworkers ▸ hcount⟩
        cases field with
        | localePatterns => exact (checkPatterns_eq_ok_iff.mp hlocale).symm
        | excludePatterns => exact (checkPatterns_eq_ok_iff.mp hexclude).symm
        | workers => exact hworkers.symm
        | allowHiddenFiles => rfl
        | verbosity => exact (checkVerbosity_eq_ok_iff.mp hverbosity).symm
  · rintro ⟨hknown, hgiven, hsome, hcount⟩
    have hpatterns (field : Field) (ts : List Text) (h : textList ts = given entries field) :
        checkPatterns field (given entries field) = .ok ts := checkPatterns_eq_ok_iff.mpr h.symm
    have hlocale := hpatterns .localePatterns settings.localePatterns (hgiven .localePatterns)
    have hexclude := hpatterns .excludePatterns settings.excludePatterns (hgiven .excludePatterns)
    have hworkers : checkWorkers (given entries .workers) = .ok settings.workers :=
      checkWorkers_eq_ok_iff.mpr ⟨(hgiven .workers).symm, hgiven .workers ▸ hcount⟩
    have hverbosity := checkVerbosity_eq_ok_iff.mpr (hgiven .verbosity).symm
    have hempty : settings.localePatterns.isEmpty = false := by simpa using hsome
    rw [check, hknown]
    simp only [hlocale, hexclude, hworkers, hverbosity, ← hgiven .allowHiddenFiles, bind, Except.bind]
    rw [hempty]
    rfl

/-- A refusal is one of a known kind, and the value that it shows was given for some field. -/
theorem isAbout_of_check_error (h : check entries = .error fault) :
    ∃ field, fault.IsAbout (given entries field) := by
  rw [check] at h
  split at h
  next =>
    cases h
    exact ⟨.localePatterns, nofun⟩
  next =>
    rcases bind_eq_error_iff.mp h with hlocale | ⟨localePatterns, -, h⟩
    · exact ⟨.localePatterns, isAbout_of_checkPatterns hlocale⟩
    rcases bind_eq_error_iff.mp h with hexclude | ⟨excludePatterns, -, h⟩
    · exact ⟨.excludePatterns, isAbout_of_checkPatterns hexclude⟩
    dsimp only at h
    split at h
    next =>
      cases h
      exact ⟨.localePatterns, nofun⟩
    next =>
      rcases bind_eq_error_iff.mp h with hworkers | ⟨workers, -, h⟩
      · exact ⟨.workers, isAbout_of_checkWorkers hworkers⟩
      rcases bind_eq_error_iff.mp h with hverbosity | ⟨verbosity, -, h⟩
      · exact ⟨.verbosity, isAbout_of_checkVerbosity hverbosity⟩
      cases h

end Settings

end LocaleCatalogue
