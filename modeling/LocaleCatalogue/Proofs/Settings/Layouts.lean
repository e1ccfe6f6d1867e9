import LocaleCatalogue.Proofs.Settings.Resolution
import LocaleCatalogue.Proofs.Text.Utf8
import LocaleCatalogue.Proofs.Toml.Sections

/-!
# Where a file writes its settings

A file writes settings at its top or in the section of the tool, and its layer is the same either
way. Every document without headers moves from the top into the section by one header line before
it. What is loaded is then the same as well, and the words for lists in the environment play no part
in it at all.
-/

namespace LocaleCatalogue.Settings

open Toml

variable {s : Sources} {settings : Settings} {text : List Char} {layer : Layer} {fs : Files} {path : Path}
  {diagnosis : List Char → Text}

/-! ### Texts -/

/-- A document has no section for the tool, but perhaps some for other tools. -/
def HasNoSection (document : Table) : Prop :=
  ∀ v, Entries.find? document toolName = some v →
    ∃ tools, v = .table tools ∧ ∀ entries, Entries.find? tools sectionName ≠ some (.table entries)

/-- The settings at the top of a document, which the sections of tools do not belong to. -/
def topOf (document : Table) : Layer :=
  document.filter fun e => e.1 ≠ toolName

theorem topOf_eq_self {document : Table} (htool : Entries.find? document toolName = none) :
    topOf document = document := by
  refine List.filter_eq_self.mpr fun e he => decide_eq_true fun hname => ?_
  exact Entries.find?_eq_none_iff.mp htool (List.mem_map.mpr ⟨e, he, hname⟩)

/-- The layer that a text writes, at its top or in the section of the tool. -/
inductive Writes (text : List Char) : Layer → Prop
  | atTop {document : Table} (hread : Toml.read text = .ok document) (hsection : HasNoSection document) :
      Writes text (topOf document)
  | inSection {document tools : Table} {layer : Layer} (hread : Toml.read text = .ok document)
      (htools : Entries.find? document toolName = some (.table tools))
      (hsection : Entries.find? tools sectionName = some (.table layer)) : Writes text layer

theorem Writes.of_read (hread : Toml.read text = .ok layer) (htool : Entries.find? layer toolName = none) :
    Writes text layer := by
  have hsection : HasNoSection layer := fun v h => nomatch htool.symm.trans h
  exact topOf_eq_self htool ▸ .atTop hread hsection

/-- The line before the section of the tool. -/
def headerLine : List Char := "[tool.locale-lens]\n".toList

theorem statement_headerLine (cs : List Char) :
    statement ⟨[], [], [], []⟩ (skipBlanks (headerLine ++ cs)) =
      .ok (Draft.below [toolName, sectionName] ⟨[], [], [], []⟩, '\n' :: cs) := rfl

theorem unifyLineEnds_append {before : List Char} (hbefore : '\r' ∉ before) (cs : List Char) :
    unifyLineEnds (before ++ cs) = before ++ unifyLineEnds cs := by
  induction before with
  | nil => rfl
  | cons c before ih =>
      have hc : c ≠ '\r' := fun h => hbefore (h ▸ List.mem_cons_self)
      rw [List.cons_append, unifyLineEnds, ih fun h => hbefore (List.mem_cons_of_mem c h)]
      · rfl
      · exact fun _ h => absurd h hc

/-- A document without headers moves into the section of the tool by the header line before it. -/
theorem read_headerLine (h : isHeadless ('\n' :: unifyLineEnds text) = true) :
    Toml.read (headerLine ++ text) = (Toml.read text).map (nested [toolName, sectionName]) := by
  have hunify : unifyLineEnds (headerLine ++ text) = headerLine ++ unifyLineEnds text :=
    unifyLineEnds_append (by decide +kernel) text
  have htop : Draft.IsTopmost ⟨[], [], [], []⟩ := ⟨rfl, fun _ hm => absurd hm List.not_mem_nil⟩
  have hlength : (unifyLineEnds text).length < (headerLine ++ unifyLineEnds text).length := by
    rw [List.length_append]
    have : 0 < headerLine.length := by decide +kernel
    omega
  -- the header line takes the first of the fuel, which leaves enough for the document
  rw [Toml.read, Toml.read, hunify, lines, statement_headerLine]
  exact lines_below htop h (Nat.lt_succ_self _) hlength

theorem Writes.behind_headerLine (hhead : isHeadless ('\n' :: unifyLineEnds text) = true)
    (hread : Toml.read text = .ok layer) : Writes (headerLine ++ text) layer := by
  have hdocument : Toml.read (headerLine ++ text) = .ok (nested [toolName, sectionName] layer) := by
    rw [read_headerLine hhead, hread]
    rfl
  have htools : Entries.find? (nested [toolName, sectionName] layer) toolName =
      some (.table (nested [sectionName] layer)) := by
    rw [nested, Entries.find?_cons, if_pos rfl]
  have hsection : Entries.find? (nested [sectionName] layer) sectionName = some (.table layer) := by
    rw [nested, Entries.find?_cons, if_pos rfl]
    rfl
  exact .inSection hdocument htools hsection

/-! ### Files -/

/-- A file is there and can be read, and it writes a layer. -/
def Holds (fs : Files) (path : Path) (layer : Layer) : Prop :=
  fs.isPresent path = .ok true ∧ ∃ file text, fs.access path = .ok file ∧
    Utf8.decode file.content = .ok text ∧ Writes text layer

theorem sectionOf_eq_ok_iff {document : Table} :
    sectionOf document = .ok layer ↔
      HasNoSection document ∧ layer = topOf document ∨
        ∃ tools, Entries.find? document toolName = some (.table tools) ∧
          Entries.find? tools sectionName = some (.table layer) := by
  unfold sectionOf HasNoSection
  dsimp only
  cases hfind : Entries.find? document toolName with
  | none => simp [topOf, eq_comm]
  | some v =>
      cases v with
      | table tools =>
          cases hsection : Entries.find? tools sectionName with
          | none => simp [topOf, eq_comm, hsection]
          | some found => cases found <;> simp [topOf, eq_comm, hsection]
      | _ => simp

/-- A file that is read gives the layer that its text writes. -/
theorem fromFile_eq_ok_iff :
    fromFile diagnosis fs path = .ok layer ↔
      ∃ file text, fs.access path = .ok file ∧ Utf8.decode file.content = .ok text ∧ Writes text layer := by
  constructor
  · intro h
    unfold fromFile at h
    split at h
    next => cases h
    next file haccess =>
      split at h
      next => cases h
      next text hdecode =>
        split at h
        next => cases h
        next => cases h
        next document hread =>
          refine ⟨file, text, haccess, hdecode, ?_⟩
          rcases sectionOf_eq_ok_iff.mp h with ⟨hsection, rfl⟩ | ⟨tools, htools, hsection⟩
          · exact .atTop hread hsection
          · exact .inSection hread htools hsection
  · rintro ⟨file, text, haccess, hdecode, hwrites⟩
    rw [fromFile_of_decode haccess hdecode]
    cases hwrites with
    | atTop hread hsection =>
        rw [hread]
        exact sectionOf_eq_ok_iff.mpr (Or.inl ⟨hsection, rfl⟩)
    | inSection hread htools hsection =>
        rw [hread]
        exact sectionOf_eq_ok_iff.mpr (Or.inr ⟨_, htools, hsection⟩)

/-- Two file systems have the same settings at a path: no file in both, or files that write the same
layer, wherever in them. -/
inductive SameSettings (fs fs' : Files) (path : Path) : Prop
  | absent (h : fs.isPresent path = .ok false) (h' : fs'.isPresent path = .ok false)
  | written {layer : Layer} (h : Holds fs path layer) (h' : Holds fs' path layer)

theorem projectLayer_congr (hworking : fs.working = s.files.working)
    (h : SameSettings s.files fs (projectFile s.files)) :
    projectLayer diagnosis fs = projectLayer diagnosis s.files := by
  have hpath : projectFile fs = projectFile s.files := by rw [projectFile, hworking, projectFile]
  rw [projectLayer, projectLayer, isThere, isThere, hpath]
  cases h with
  | absent hold hnew => rw [hold, hnew]; rfl
  | written hold hnew =>
      rw [hold.1, hnew.1]
      exact (fromFile_eq_ok_iff.mpr hnew.2).trans (fromFile_eq_ok_iff.mpr hold.2).symm

theorem chosenLayer_congr {fs' : Files} {chosen : Option Text}
    (h : ∀ spelling ∈ chosen, SameSettings fs fs' (Path.ofText spelling)) :
    chosenLayer diagnosis fs' chosen = chosenLayer diagnosis fs chosen := by
  cases chosen with
  | none => rfl
  | some spelling =>
      rw [chosenLayer, chosenLayer, isThere, isThere]
      cases h spelling rfl with
      | absent hold hnew => rw [hold, hnew]; rfl
      | written hold hnew =>
          rw [hold.1, hnew.1]
          exact (fromFile_eq_ok_iff.mpr hnew.2).trans (fromFile_eq_ok_iff.mpr hold.2).symm

theorem load_congr {s' : Sources}
    (hproject : projectLayer s'.diagnosis s'.files = projectLayer s.diagnosis s.files)
    (hchosen : chosenLayer s'.diagnosis s'.files s'.chosenFile =
      chosenLayer s.diagnosis s.files s.chosenFile)
    (henvironment : fromEnvironment s'.environment = fromEnvironment s.environment)
    (hoverrides : s'.overrides = s.overrides) : load s' = load s := by
  rw [load, load, merged, merged, hproject, hchosen, henvironment, hoverrides]

/-- What is loaded holds for each field what the highest layer says about it. Words for lists do not
matter, and neither does the place in a file where its settings stand. -/
theorem load_resolves (hoverrides : (s.overrides.map Prod.fst).Nodup) (hload : load s = .ok settings) :
    (∀ field, settings.value field = s.resolved field) ∧
      (∀ environment, (∀ field : Field, field.reading ≠ .nothing →
          wordOf? environment field = wordOf? s.environment field) →
        load { s with environment } = .ok settings) ∧
      (∀ fs, fs.working = s.files.working → SameSettings s.files fs (projectFile s.files) →
          (∀ spelling ∈ s.chosenFile, SameSettings s.files fs (Path.ofText spelling)) →
        load { s with files := fs } = .ok settings) ∧
      (∀ text layer, isHeadless ('\n' :: unifyLineEnds text) = true → Toml.read text = .ok layer →
          Entries.find? layer toolName = none →
        Writes text layer ∧ Writes (headerLine ++ text) layer) := by
  refine ⟨fun field => ?_, fun environment h => ?_, fun fs hworking hproject hchosen => ?_,
    fun text layer hhead hread htool => ⟨.of_read hread htool, .behind_headerLine hhead hread⟩⟩
  · obtain ⟨entries, hmerged, hcheck⟩ := load_eq_ok_iff.mp hload
    rw [(check_eq_ok_iff.mp hcheck).2.1 field, given_merged hoverrides hmerged]
  · rw [← hload]
    exact load_congr rfl rfl (fromEnvironmentOf_congr h fields) rfl
  · rw [← hload]
    exact load_congr (projectLayer_congr hworking hproject) (chosenLayer_congr hchosen) rfl rfl

/-- Settings that are asked for. -/
def chosenText : List Char := "exclude_patterns = ['x']\nworkers = 2\n".toList

/-- Settings of a project. -/
def projectText : List Char := "allow_hidden_files = true\nworkers = 1\n".toList

/-- Sources with all layers, and a text for the file of the project. -/
def layered (text : List Char) : Sources where
  files := {
    working := ["w"]
    entries := [
      (["w"], .directory), (["w", "locale-lens.toml"], .file (Utf8.encode text)),
      (["w", "ci.toml"], .file (Utf8.encode chosenText))] }
  environment := [("LOCALE_LENS_WORKERS", "4"), ("LOCALE_LENS_EXCLUDE_PATTERNS", "y")]
  chosenFile := some "ci.toml"
  overrides := [("workers", .null), ("verbosity", .text "quiet"), ("verbose", .bool true)]
  diagnosis _ := []

theorem holds_layered_project (h : Writes text layer) :
    Holds (layered text).files (projectFile (layered text).files) layer := by
  have haccess : (layered text).files.access (projectFile (layered text).files) =
      .ok ⟨["w", "locale-lens.toml"], Utf8.encode text, rfl⟩ := rfl
  exact ⟨rfl, _, text, haccess, Utf8.decode_encode text, h⟩

theorem holds_layered_chosen {spelling : Text} (hspelling : spelling ∈ (layered text).chosenFile)
    (h : Writes chosenText layer) : Holds (layered text).files (Path.ofText spelling) layer := by
  have haccess : (layered text).files.access (Path.ofText "ci.toml") =
      .ok ⟨["w", "ci.toml"], Utf8.encode chosenText, rfl⟩ := rfl
  cases hspelling
  exact ⟨rfl, _, chosenText, haccess, Utf8.decode_encode chosenText, h⟩

theorem load_resolves_layered :
    ∃ settings, load (layered projectText) = .ok settings ∧
      fields.map (fun field => (settings.value field).shown) =
        [(textList defaultLocalePatterns).shown, "['x']", "4", "True", "verbose"] ∧
      load { layered projectText with environment := [("LOCALE_LENS_WORKERS", "4")] } = .ok settings ∧
      load (layered (headerLine ++ projectText)) = .ok settings := by
  have hsome : (load (layered projectText)).toOption.isSome = true := by decide +kernel
  cases hload : load (layered projectText) with
  | error fault =>
      rw [hload] at hsome
      cases hsome
  | ok settings =>
      obtain ⟨hvalue, henvironment, hfiles, hwrites⟩ := load_resolves (by decide +kernel) hload
      have hwritten (text : List Char) (hhead : isHeadless ('\n' :: unifyLineEnds text) = true)
          (htext : (Toml.read text).toOption.any
            (fun layer => (Entries.find? layer toolName).isNone) = true) :
          ∃ layer, Writes text layer ∧ Writes (headerLine ++ text) layer := by
        cases hread : Toml.read text with
        | error fault =>
            rw [hread] at htext
            cases htext
        | ok layer =>
            rw [hread] at htext
            exact ⟨layer, hwrites text layer hhead hread (Option.isNone_iff_eq_none.mp htext)⟩
      obtain ⟨project, hproject⟩ := hwritten projectText (by decide +kernel) (by decide +kernel)
      obtain ⟨chosen, hchosen, -⟩ := hwritten chosenText (by decide +kernel) (by decide +kernel)
      refine ⟨settings, rfl, ?_, henvironment _ ?_, ?_⟩
      · simp only [hvalue]
        decide +kernel
      · intro field hfield
        cases field with
        | localePatterns => exact absurd rfl hfield
        | excludePatterns => exact absurd rfl hfield
        | _ => decide +kernel
      · exact hfiles (layered (headerLine ++ projectText)).files rfl
          (.written (holds_layered_project hproject.1) (holds_layered_project hproject.2))
          fun spelling hspelling =>
            .written (holds_layered_chosen hspelling hchosen) (holds_layered_chosen hspelling hchosen)

end LocaleCatalogue.Settings
