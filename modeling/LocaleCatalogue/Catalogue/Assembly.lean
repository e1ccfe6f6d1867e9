import LocaleCatalogue.Catalogue.Discovery
import LocaleCatalogue.Catalogue.Extraction

/-!
# Putting a catalogue together

The files are extracted independently, and what is completed is reported in any order. The order of
the reports is data here: each report fills the slot of its file and is announced, and the first
failure ends the work. The catalogue is read off the slots, so it follows the order of the files and
not that of the reports.
-/

namespace LocaleCatalogue

/-- What is announced while a catalogue is put together. -/
inductive Notice where
  | start (files : List Text)
  | parsed (file : Text)
deriving DecidableEq, Repr

/-- A run: what was announced, and how it ended. -/
structure Run (α : Type) where
  notices : List Notice
  outcome : Logged α

/-- The keys of each file, in the order of the files. -/
abbrev Slots : Type := List (List Key)

/-- The reports of a schedule, one after another. `extracted` is the work on one file; a report is the
position of its file. -/
def complete (files : List Text) (extracted : Text → Logged (Option (List Key))) :
    (schedule : List Nat) → Slots → Run Slots
  | [], slots => ⟨[], .done slots⟩
  | position :: rest, slots =>
    match files[position]? with
    | none => complete files extracted rest slots
    | some file =>
      match (extracted file).result with
      | .error failure => ⟨[], ⟨(extracted file).remarks, .error failure⟩⟩
      | .ok keys =>
        let after := complete files extracted rest (slots.set position (keys.getD []))
        ⟨.parsed file :: after.notices,
          ⟨(extracted file).remarks ++ after.outcome.remarks, after.outcome.result⟩⟩

/-- The locales of files with the keys found in them. -/
def localesOf (files : List Text) (slots : Slots) : List Locale :=
  List.zipWith (fun file keys => ⟨languageTag file, keys, file⟩) files slots

/-- How many keys locales hold. -/
def keyCount (locales : List Locale) : Nat := locales.foldl (fun count l => count + l.keys.length) 0

/-- The catalogue of files that are reported by a schedule. -/
def assemble (files : List Text) (extracted : Text → Logged (Option (List Key))) (schedule : List Nat) :
    Run (List Locale) :=
  let run := complete files extracted schedule (files.map fun _ => [])
  { notices := .start files :: run.notices
    outcome := do
      Logged.say (.parsingFiles files.length)
      let slots ← run.outcome
      let locales := localesOf files slots
      Logged.say (.extractedKeys (keyCount locales))
      return locales }

/-- Reports in the order of the files. -/
def inOrder (files : List Text) : List Nat := List.range files.length

/-- The catalogue of given files. -/
def catalogueOf (fs : Files) (files : List Text) : Run (List Locale) :=
  assemble files (extract fs) (inOrder files)

/-- The catalogue of the files found below a directory. Nothing is announced if the search fails. -/
def catalogueBelow (fs : Files) (settings : Settings) (root : Text) : Run (List Locale) :=
  let found := discover fs settings root
  match found.result with
  | .error failure => ⟨[], ⟨found.remarks, .error failure⟩⟩
  | .ok groups =>
    let run := catalogueOf fs groups.flatten
    ⟨run.notices, ⟨found.remarks ++ run.outcome.remarks, run.outcome.result⟩⟩

end LocaleCatalogue
