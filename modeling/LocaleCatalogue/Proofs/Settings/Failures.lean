import LocaleCatalogue.Proofs.Settings.Resolution

/-!
# Failures without a complaint

Most failures are explained by a complaint; about a text that is no document it says what the reader
of documents says. The others have one of five causes: a path that cannot be looked up, octets that
are no text, a decimal integer with more digits than are read, something else than a table under the
name of the tools, and a complaint about a value that cannot be shown. What stands in the environment
is always complained about. Here every directory may be searched, so a path cannot be looked up only
where it is too long; and there is room for every document, however deep its tables lie.
-/

namespace LocaleCatalogue.Settings

open Toml

variable {s : Sources} {fs : Files} {path : Path} {fault : LoadFault} {layer : Layer}
  {diagnosis : List Char → Text}

/-- Loading fails without a complaint. -/
def FailsBare {α : Type} (answer : Except LoadFault α) (fault : LoadFault) : Prop :=
  answer = .error fault ∧ fault.complaint? = none

/-! ### Files -/

/-- What in a file makes reading its layer fail without a complaint. -/
inductive BadContent (fs : Files) (path : Path) : LoadFault → Prop
  | octets {file : fs.Found} {cause : Utf8.Malformed} (haccess : fs.access path = .ok file)
      (hdecode : Utf8.decode file.content = .error cause) : BadContent fs path (.malformed cause)
  | integer {file : fs.Found} {text : List Char} {cause : Integer.Fault}
      (haccess : fs.access path = .ok file) (hdecode : Utf8.decode file.content = .ok text)
      (hread : Toml.read text = .error (.integer cause)) (hlong : HasLongInteger text) :
      BadContent fs path (.integer cause)
  | tool {file : fs.Found} {text : List Char} {document : Table} {v : Value}
      (haccess : fs.access path = .ok file) (hdecode : Utf8.decode file.content = .ok text)
      (hread : Toml.read text = .ok document) (htool : Entries.find? document toolName = some v)
      (hv : ∀ tools, v ≠ .table tools) : BadContent fs path (.noSection v)

/-- What about a file makes its layer fail without a complaint. -/
inductive BadFile (fs : Files) (path : Path) : LoadFault → Prop
  | lookup {cause : Files.Fault} (hpresent : fs.isPresent path = .error cause) :
      BadFile fs path (.lookup path cause)
  | content {fault : LoadFault} (hpresent : fs.isPresent path = .ok true)
      (h : BadContent fs path fault) : BadFile fs path fault

theorem failsBare_sectionOf_iff {document : Table} :
    FailsBare (sectionOf document) fault ↔
      ∃ v, Entries.find? document toolName = some v ∧ (∀ tools, v ≠ .table tools) ∧
        fault = .noSection v := by
  unfold FailsBare sectionOf
  dsimp only
  cases hfind : Entries.find? document toolName with
  | none => simp
  | some v =>
      cases v with
      | table tools =>
          dsimp only
          split <;> simp
      | _ => simp +contextual [LoadFault.complaint?, eq_comm]

theorem failsBare_fromFile_iff : FailsBare (fromFile diagnosis fs path) fault ↔ BadContent fs path fault := by
  constructor
  · rintro ⟨h, hbare⟩
    unfold fromFile at h
    split at h
    next =>
      cases h
      cases hbare
    next file haccess =>
      split at h
      next cause hdecode =>
        cases h
        exact .octets haccess hdecode
      next text hdecode =>
        split at h
        next =>
          cases h
          cases hbare
        next cause hread =>
          cases h
          have hlong := readsInto_read text
          rw [hread] at hlong
          cases hlong with
          | integer hlong => exact .integer haccess hdecode hread hlong
        next document hread =>
          obtain ⟨v, htool, hv, rfl⟩ := failsBare_sectionOf_iff.mp ⟨h, hbare⟩
          exact .tool haccess hdecode hread htool hv
  · intro h
    cases h with
    | octets haccess hdecode =>
        rw [fromFile, haccess]
        dsimp only
        rw [hdecode]
        exact ⟨rfl, rfl⟩
    | integer haccess hdecode hread _ =>
        rw [fromFile_of_decode haccess hdecode, hread]
        exact ⟨rfl, rfl⟩
    | tool haccess hdecode hread htool hv =>
        rw [fromFile_of_decode haccess hdecode, hread]
        exact failsBare_sectionOf_iff.mpr ⟨_, htool, hv, rfl⟩

theorem failsBare_fromPresent_iff {absent : Except LoadFault Layer}
    (habsent : ∀ fault, ¬ FailsBare absent fault) :
    FailsBare (isThere fs path >>= fun found => if found then fromFile diagnosis fs path else absent) fault ↔
      BadFile fs path fault := by
  rw [isThere]
  cases hpresent : fs.isPresent path with
  | error cause =>
      constructor
      · rintro ⟨⟨⟩, -⟩
        exact .lookup hpresent
      · rintro (⟨h⟩ | ⟨h, -⟩)
        · cases h.symm.trans hpresent
          exact ⟨rfl, rfl⟩
        · cases h.symm.trans hpresent
  | ok found =>
      cases found with
      | true =>
          refine failsBare_fromFile_iff.trans ⟨.content hpresent, ?_⟩
          rintro (⟨h⟩ | ⟨-, h⟩)
          · cases h.symm.trans hpresent
          · exact h
      | false =>
          refine ⟨fun h => absurd h (habsent fault), ?_⟩
          rintro (⟨h⟩ | ⟨h, -⟩)
          · cases h.symm.trans hpresent
          · cases h.symm.trans hpresent

theorem failsBare_projectLayer_iff :
    FailsBare (projectLayer diagnosis fs) fault ↔ BadFile fs (projectFile fs) fault :=
  failsBare_fromPresent_iff fun _ h => nomatch h.1

theorem failsBare_chosenLayer_iff {chosen : Option Text} :
    FailsBare (chosenLayer diagnosis fs chosen) fault ↔ ∃ spelling ∈ chosen, BadFile fs (Path.ofText spelling) fault := by
  cases chosen with
  | none => simp [chosenLayer, FailsBare]
  | some spelling =>
      have hnotFound (fault : LoadFault) : ¬ FailsBare (.error (.complaint (.plain
          ("Config file not found: " ++ (Path.ofText spelling).toText))) : Except _ Layer) fault := by
        rintro ⟨⟨⟩, ⟨⟩⟩
      exact (failsBare_fromPresent_iff hnotFound).trans (by simp)

/-! ### All layers -/

theorem failsBare_bind_iff {α β : Type} {answer : Except LoadFault α} {next : α → Except LoadFault β} :
    FailsBare (answer >>= next) fault ↔
      FailsBare answer fault ∨ ∃ a, answer = .ok a ∧ FailsBare (next a) fault := by
  cases answer <;> simp [FailsBare, bind, Except.bind]

theorem failsBare_mergedOn_iff {project : Layer} :
    FailsBare (chosenLayer s.diagnosis s.files s.chosenFile >>= fun chosen =>
        match fromEnvironment s.environment with
        | .error cause => throw (.complaint cause)
        | .ok environment =>
          return overlay (overlay (overlay project chosen) environment) (callerLayer s.overrides)) fault ↔
      ∃ spelling ∈ s.chosenFile, BadFile s.files (Path.ofText spelling) fault := by
  rw [failsBare_bind_iff, failsBare_chosenLayer_iff]
  -- behind the files there is only the environment, and it is always complained about
  refine or_iff_left ?_
  rintro ⟨chosen, -, h⟩
  split at h
  next => cases h.1; cases h.2
  next => cases h.1

theorem failsBare_merged_iff :
    FailsBare (merged s) fault ↔
      BadFile s.files (projectFile s.files) fault ∨
        ((∃ layer, projectLayer s.diagnosis s.files = .ok layer) ∧
          ∃ spelling ∈ s.chosenFile, BadFile s.files (Path.ofText spelling) fault) := by
  rw [merged, failsBare_bind_iff, failsBare_projectLayer_iff]
  refine or_congr_right ?_
  constructor
  · rintro ⟨project, hproject, h⟩
    exact ⟨⟨project, hproject⟩, failsBare_mergedOn_iff.mp h⟩
  · rintro ⟨⟨project, hproject⟩, h⟩
    exact ⟨project, hproject, failsBare_mergedOn_iff.mpr h⟩

theorem complaint?_about_eq_none_iff {fault : Fault} :
    (LoadFault.about fault).complaint? = none ↔ fault = .tooLongToShow := by
  cases fault <;> simp [LoadFault.about, LoadFault.complaint?]

theorem told_eq_tooLongToShow_iff {fault : Fault} {v : Value} (h : fault.IsAbout v) :
    fault.told = .tooLongToShow ↔ ∃ w, fault.value? = some w ∧ w.isShowable = false := by
  have hne : fault ≠ .tooLongToShow := by
    rintro rfl
    exact h
  rw [Fault.told]
  cases fault.value? with
  | none => simp [hne]
  | some w => cases hshow : w.isShowable <;> simp [hne, hshow]

theorem failsBare_check_iff {entries : Layer} :
    FailsBare ((check entries).mapError fun fault => .about fault.told) fault ↔
      fault = .tooLongToShow ∧ ∃ cause v, check entries = .error cause ∧ cause.value? = some v ∧
        v.isShowable = false := by
  cases hcheck : check entries with
  | ok settings => simp [Except.mapError, FailsBare]
  | error cause =>
      obtain ⟨field, habout⟩ := isAbout_of_check_error hcheck
      have htold := told_eq_tooLongToShow_iff habout
      constructor
      · rintro ⟨⟨⟩, hbare⟩
        have hlong := complaint?_about_eq_none_iff.mp hbare
        obtain ⟨v, hvalue, hshow⟩ := htold.mp hlong
        exact ⟨congrArg LoadFault.about hlong, cause, v, rfl, hvalue, hshow⟩
      · rintro ⟨rfl, other, v, hother, hvalue, hshow⟩
        cases hother
        have hlong := htold.mpr ⟨v, hvalue, hshow⟩
        exact ⟨congrArg (fun told => Except.error (LoadFault.about told)) hlong, rfl⟩

/-- What makes loading fail without a complaint. -/
inductive Unexplained (s : Sources) : LoadFault → Prop
  | project {fault : LoadFault} (h : BadFile s.files (projectFile s.files) fault) : Unexplained s fault
  | chosen {fault : LoadFault} {project : Layer} {spelling : Text}
      (hproject : projectLayer s.diagnosis s.files = .ok project) (hchosen : s.chosenFile = some spelling)
      (h : BadFile s.files (Path.ofText spelling) fault) : Unexplained s fault
  | value {entries : Layer} {fault : Fault} {v : Value} (hmerged : merged s = .ok entries)
      (hcheck : check entries = .error fault) (hvalue : fault.value? = some v)
      (hshow : v.isShowable = false) : Unexplained s .tooLongToShow

/-- Loading fails without a complaint for these causes only. -/
theorem failsBare_load_iff : FailsBare (load s) fault ↔ Unexplained s fault := by
  rw [load_eq, failsBare_bind_iff, failsBare_merged_iff]
  simp only [failsBare_check_iff]
  constructor
  · rintro ((h | ⟨⟨project, hproject⟩, spelling, hchosen, h⟩) | ⟨entries, hmerged, rfl, cause, v, hcheck, hvalue, hshow⟩)
    · exact .project h
    · exact .chosen hproject hchosen h
    · exact .value hmerged hcheck hvalue hshow
  · intro h
    cases h with
    | project h => exact Or.inl (Or.inl h)
    | chosen hproject hchosen h => exact Or.inl (Or.inr ⟨⟨_, hproject⟩, _, hchosen, h⟩)
    | value hmerged hcheck hvalue hshow => exact Or.inr ⟨_, hmerged, rfl, _, _, hcheck, hvalue, hshow⟩

/-! ### Texts that are no documents -/

/-- The file at a path is no document, and this is what the reader says about its text. -/
def Undocumented (s : Sources) (path : Path) (reason : Text) : Prop :=
  ∃ (file : s.files.Found) (text : List Char), s.files.access path = .ok file ∧
    Utf8.decode file.content = .ok text ∧ Toml.read text = .error .malformed ∧
    reason = s.diagnosis text

theorem undocumented_of_fromFile {path' : Path} {reason : Text}
    (h : fromFile s.diagnosis s.files path' = .error (.notADocument path reason)) :
    path = path' ∧ Undocumented s path reason := by
  unfold fromFile at h
  split at h
  next => cases h
  next file haccess =>
    split at h
    next => cases h
    next text hdecode =>
      split at h
      next hread =>
        cases h
        exact ⟨rfl, file, text, haccess, hdecode, hread, rfl⟩
      next => cases h
      next document hread =>
        unfold sectionOf at h
        dsimp only at h
        split at h
        next => cases h
        next => split at h <;> cases h
        next => cases h

theorem undocumented_of_present {path' : Path} {reason : Text} {absent : Except LoadFault Layer}
    (habsent : absent ≠ .error (.notADocument path reason))
    (h : (isThere s.files path' >>= fun found =>
      if found then fromFile s.diagnosis s.files path' else absent) = .error (.notADocument path reason)) :
    path = path' ∧ Undocumented s path reason := by
  rcases bind_eq_error_iff.mp h with hthere | ⟨found, -, h⟩
  · unfold isThere at hthere
    split at hthere <;> cases hthere
  · split at h
    next => exact undocumented_of_fromFile h
    next => exact absurd h habsent

/-- Only a file of settings is complained about as no document, and with the words of the reader. -/
theorem undocumented_of_load {reason : Text} (h : load s = .error (.notADocument path reason)) :
    (path = projectFile s.files ∨ ∃ spelling ∈ s.chosenFile, path = Path.ofText spelling) ∧
      Undocumented s path reason := by
  rw [load_eq] at h
  rcases bind_eq_error_iff.mp h with hmerged | ⟨entries, -, hcheck⟩
  · rcases bind_eq_error_iff.mp hmerged with hproject | ⟨project, -, hmerged⟩
    · have habsent : (pure [] : Except LoadFault Layer) ≠ .error (.notADocument path reason) := nofun
      obtain ⟨hpath, hreason⟩ := undocumented_of_present habsent hproject
      exact ⟨.inl hpath, hreason⟩
    rcases bind_eq_error_iff.mp hmerged with hchosen | ⟨chosen, -, hmerged⟩
    · cases hfile : s.chosenFile with
      | none =>
          rw [hfile] at hchosen
          cases hchosen
      | some spelling =>
          rw [hfile] at hchosen
          obtain ⟨hpath, hreason⟩ := undocumented_of_present (by simp) hchosen
          exact ⟨.inr ⟨spelling, rfl, hpath⟩, hreason⟩
    · split at hmerged <;> cases hmerged
  · cases hchecked : check entries with
    | ok settings =>
        rw [hchecked] at hcheck
        cases hcheck
    | error cause =>
        rw [hchecked] at hcheck
        have hcause : LoadFault.about cause.told = .notADocument path reason := Except.error.inj hcheck
        unfold LoadFault.about at hcause
        split at hcause <;> cases hcause

end LocaleCatalogue.Settings
