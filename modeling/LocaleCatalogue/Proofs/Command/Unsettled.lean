import LocaleCatalogue.Command.Run
import LocaleCatalogue.Proofs.Settings.Failures
import LocaleCatalogue.Report.Terminal

/-!
# Commands without settings

A command whose settings cannot be had prints nothing, opens no log and ends with status one. It says
why if there is a complaint that its console can print. Where loading fails without a complaint, and
where the console cannot print the complaint, the command has nothing to say.
-/

namespace LocaleCatalogue.Command

open Settings (LoadFault FailsBare Unexplained Undocumented)

variable {w : Surroundings} {options : Options} {root : Text} {report : List Locale → Report}
  {fault : LoadFault} {console : Console}

/-- The sources of a command's settings. -/
def sources (w : Surroundings) (options : Options) : Settings.Sources :=
  ⟨w.files, w.environment, options.config, overridesOf options, w.diagnosis⟩

theorem runOn_of_load_error (hconfig : checkFile w.files true options.config = .ok ())
    (hlog : checkFile w.files false options.logFile = .ok ())
    (hload : Settings.load (sources w options) = .error fault) :
    runOn w root options report = ⟨[], (Ending.settings fault).checked w.complaints, none⟩ := by
  have hsettings : loadSettings w options = .error ((Ending.settings fault).checked w.complaints) := by
    rw [sources] at hload
    rw [loadSettings, hload]
  have hprepare : prepare w options = .error ((Ending.settings fault).checked w.complaints) := by
    rw [prepare, hconfig, hlog, hsettings]
    rfl
  rw [runOn, hprepare]

theorem status_checked (fault : LoadFault) (console : Console) :
    ((Ending.settings fault).checked console).status = 1 := by
  unfold Ending.checked
  split
  next => split <;> rfl
  next => rfl

theorem report_checked {line : Text} (h : fault.complaint?.bind (printedComplaint console) = some line) :
    ((Ending.settings fault).checked console).report console = line := by
  obtain ⟨complaint, hcomplaint, hprinted⟩ := Option.bind_eq_some_iff.mp h
  have hending : (Ending.settings fault).complaint? = some complaint := hcomplaint
  have hchecked : (Ending.settings fault).checked console = .settings fault := by
    rw [Ending.checked, hending]
    dsimp only
    rw [hprinted]
    rfl
  rw [hchecked]
  unfold Ending.report
  rw [hending]
  dsimp only
  rw [hprinted]
  rfl

theorem complaint?_checked (h : fault.complaint?.bind (printedComplaint console) = none) :
    ((Ending.settings fault).checked console).complaint? = none := by
  cases hcomplaint : fault.complaint? with
  | none =>
      have hending : (Ending.settings fault).complaint? = none := hcomplaint
      rw [Ending.checked, hending]
      exact hending
  | some complaint =>
      have hending : (Ending.settings fault).complaint? = some complaint := hcomplaint
      rw [hcomplaint, Option.bind_some] at h
      rw [Ending.checked, hending]
      dsimp only
      rw [h]
      rfl

/-- Settings are had, or their loading fails with a complaint, or one of the known causes keeps it
from being explained. There are no other causes where every directory may be searched and the reader
has room for every document. A text that is no document is complained about in the words of its reader.
A command then ends with status one, and with the complaint exactly if there is one that its console
can print. -/
theorem load_explained (s : Settings.Sources) (fault : LoadFault) :
    (FailsBare (Settings.load s) fault ↔ Unexplained s fault) ∧
      (∀ path reason, Settings.load s = .error (.notADocument path reason) →
        (path = Settings.projectFile s.files ∨ ∃ spelling ∈ s.chosenFile, path = Path.ofText spelling) ∧
          Undocumented s path reason ∧
          (LoadFault.notADocument path reason).complaint? = some (Settings.badFile path reason)) ∧
      ∀ w root options report, sources w options = s →
        checkFile w.files true options.config = .ok () →
        checkFile w.files false options.logFile = .ok () →
        Settings.load s = .error fault →
          (runOn w root options report).output = [] ∧ (runOn w root options report).log = none ∧
            (runOn w root options report).ending.status = 1 ∧
            (∀ line, fault.complaint?.bind (printedComplaint w.complaints) = some line →
              (runOn w root options report).ending.report w.complaints = line) ∧
            (fault.complaint?.bind (printedComplaint w.complaints) = none →
              (runOn w root options report).ending.complaint? = none) ∧
            (Unexplained s fault → (runOn w root options report).ending.complaint? = none) := by
  refine ⟨Settings.failsBare_load_iff, fun path reason hload => ?_,
    fun w root options report hsources hconfig hlog hload => ?_⟩
  · obtain ⟨hpath, hreason⟩ := Settings.undocumented_of_load hload
    exact ⟨hpath, hreason, rfl⟩
  · subst hsources
    rw [runOn_of_load_error hconfig hlog hload]
    refine ⟨rfl, rfl, status_checked fault _, fun line => report_checked, complaint?_checked, fun h => ?_⟩
    have hnone := (Settings.failsBare_load_iff.mpr h).2
    exact complaint?_checked (by rw [hnone, Option.bind_none])

/-- The options of a command line without options. -/
def noOptions : Options := ⟨false, false, false, none, none, none⟩

/-- What the reader says about a key without a value at the end of a text. -/
def valueExpected : Text := "Expected '=' after a key in a key/value pair (at end of document)"

/-- A project with a text in the file for its settings. -/
def configured (text : List Char) : Surroundings where
  files := {
    working := ["w"]
    entries := [(["w"], .directory), (["w", "locale-lens.toml"], .file (Utf8.encode text))] }
  environment := []
  console := terminal 120
  complaints := terminal 120
  diagnosis _ := valueExpected

/-- A number where the tables of tools belong. -/
def misplaced : Surroundings := configured "tool = 1\n".toList

/-- A key without a value. -/
def valueless : Surroundings := configured "workers".toList

theorem load_explained_configured :
    (Unexplained (sources misplaced noOptions) (.noSection (.int 1)) ∧
      (runOn misplaced "." noOptions jsonReport).ending.status = 1 ∧
      (runOn misplaced "." noOptions jsonReport).ending.complaint? = none) ∧
    (runOn valueless "." noOptions jsonReport).ending.report valueless.complaints =
      "Error: Invalid config file '/w/locale-lens.toml': " ++ valueExpected ++ "\n" := by
  constructor
  · have hfault : (match Settings.load (sources misplaced noOptions) with
        | .error (.noSection (.int 1)) => true
        | _ => false) = true := by decide +kernel
    split at hfault
    next hload =>
      obtain ⟨hbare, -, hrun⟩ := load_explained (sources misplaced noOptions) (.noSection (.int 1))
      have hunexplained := hbare.mp ⟨hload, rfl⟩
      obtain ⟨-, -, hstatus, -, -, hsilent⟩ :=
        hrun misplaced "." noOptions jsonReport rfl rfl rfl hload
      exact ⟨hunexplained, hstatus, hsilent hunexplained⟩
    next => cases hfault
  · have hfault : (match Settings.load (sources valueless noOptions) with
        | .error (.notADocument _ _) => true
        | _ => false) = true := by decide +kernel
    split at hfault
    next path reason hload =>
      obtain ⟨-, hreason, hrun⟩ :=
        load_explained (sources valueless noOptions) (.notADocument path reason)
      obtain ⟨hpath, ⟨_, _, -, -, -, rfl⟩, hcomplaint⟩ := hreason path reason hload
      obtain rfl : path = ⟨.root, ["w", "locale-lens.toml"]⟩ :=
        hpath.resolve_right fun ⟨_, hspelling, _⟩ => nomatch hspelling
      obtain ⟨-, -, -, hreport, -⟩ := hrun valueless "." noOptions jsonReport rfl rfl rfl hload
      refine hreport _ ?_
      rw [hcomplaint, Option.bind_some]
      change printedComplaint (terminal 120)
        (Settings.badFile ⟨.root, ["w", "locale-lens.toml"]⟩ valueExpected) = _
      decide +kernel
    next => cases hfault

end LocaleCatalogue.Command
