import Mathlib.Data.List.Nodup
import LocaleCatalogue.Command.Run
import LocaleCatalogue.Proofs.Json.Printed
import LocaleCatalogue.Proofs.Json.Reader

/-!
# Locales recovered from what is printed

The JSON that a scan prints says everything about its locales. A program that reads it with a standard
reader and takes the members by their names has the same locales again, in the same order and with
repeated keys. The texts of the locales may hold surrogates, but not the two halves of a pair side by
side: these are printed like the code point that they are the halves of.
-/

namespace LocaleCatalogue

/-! ## Members by name -/

namespace Value

/-- The member of a table under a name. -/
def member? : Value → Text → Option Value
  | .table entries, name => Entries.find? entries name
  | _, _ => none

/-- A value that is a text. -/
def text? : Value → Option Text
  | .text t => some t
  | _ => none

/-- A value that is a whole number. -/
def int? : Value → Option Int
  | .int n => some n
  | _ => none

/-- The items of a value that is a list. -/
def items? : Value → Option (List Value)
  | .list items => some items
  | _ => none

end Value

/-- The location that a table describes. -/
def Location.ofValue? (v : Value) : Option Location := do
  let startLine ← (← v.member? "start_line").int?
  let startColumn ← (← v.member? "start_column").int?
  let stopLine ← (← v.member? "end_line").int?
  let stopColumn ← (← v.member? "end_column").int?
  return ⟨startLine, startColumn, stopLine, stopColumn⟩

/-- The key that a table describes. -/
def Key.ofValue? (v : Value) : Option Key := do
  let name ← (← v.member? "key").text?
  let location ← Location.ofValue? (← v.member? "location")
  let filePath ← (← v.member? "file_path").text?
  let sourcePath ← (← v.member? "source_path").text?
  return ⟨name, location, filePath, sourcePath⟩

/-- The locale that a table describes. -/
def Locale.ofValue? (v : Value) : Option Locale := do
  let language ← (← v.member? "lang").text?
  let filePath ← (← v.member? "file_path").text?
  let keys ← (← (← v.member? "locale_keys").items?).mapM Key.ofValue?
  return ⟨language, keys, filePath⟩

/-- The locales that a list describes. -/
def localesOfValue? (v : Value) : Option (List Locale) := do
  (← v.items?).mapM Locale.ofValue?

theorem Key.ofValue?_toValue (k : Key) : ofValue? k.toValue = some k := rfl

theorem mapM_ofValue? {α : Type} {ofValue? : Value → Option α} {toValue : α → Value}
    (h : ∀ a, ofValue? (toValue a) = some a) (as : List α) :
    (as.map toValue).mapM ofValue? = some as := by
  induction as with
  | nil => rfl
  | cons a as ih => rw [List.map_cons, List.mapM_cons, h, ih]; rfl

theorem Locale.ofValue?_toValue (l : Locale) : ofValue? l.toValue = some l := by
  have hkeys := mapM_ofValue? Key.ofValue?_toValue l.keys
  change ((l.keys.map Key.toValue).mapM Key.ofValue?).bind
    (fun keys => some (⟨l.language, keys, l.filePath⟩ : Locale)) = some l
  rw [hkeys]
  rfl

/-- Locales are told by the members of their tables. -/
theorem localesOfValue?_list (locales : List Locale) :
    localesOfValue? (.list (locales.map Locale.toValue)) = some locales :=
  mapM_ofValue? Locale.ofValue?_toValue locales

/-! ## Texts without pairs -/

/-- No text of a key holds the two halves of a pair side by side. -/
structure Key.Unpaired (k : Key) : Prop where
  name : k.name.Unpaired
  filePath : k.filePath.Unpaired
  sourcePath : k.sourcePath.Unpaired

/-- No text of a locale or of its keys holds the two halves of a pair side by side. -/
structure Locale.Unpaired (l : Locale) : Prop where
  language : l.language.Unpaired
  filePath : l.filePath.Unpaired
  keys : ∀ k ∈ l.keys, k.Unpaired

open Json (Faithful)

/-- A table is read back if its names are distinct strings and its values are read back. -/
theorem faithful_record (names : List String) (once : names.Nodup) {entries : List (Text × Value)}
    (hnames : entries.map Prod.fst = names.map Text.ofString) (values : ∀ e ∈ entries, Faithful e.2) :
    Faithful (.table entries) := by
  refine .table ?_ ?_ values
  · intro e he
    obtain ⟨name, -, hname⟩ := List.mem_map.mp (hnames ▸ List.mem_map_of_mem he)
    rw [← hname]
    exact Text.unpaired_ofChars name.toList
  · rw [hnames]
    refine List.Nodup.map (fun a b hab => ?_) once
    have hchars := congrArg Text.toChars? hab
    simpa [Text.ofString, Text.toChars?_ofChars, String.toList_inj] using hchars

theorem Location.faithful (l : Location) : Faithful l.toValue := by
  refine faithful_record ["start_line", "start_column", "end_line", "end_column"] (by decide) rfl ?_
  simp only [List.mem_cons, List.not_mem_nil, or_false]
  rintro _ (rfl | rfl | rfl | rfl) <;> exact .int _

theorem Key.Unpaired.faithful {k : Key} (h : k.Unpaired) : Faithful k.toValue := by
  refine faithful_record ["key", "location", "file_path", "source_path"] (by decide) rfl ?_
  simp only [List.mem_cons, List.not_mem_nil, or_false]
  rintro _ (rfl | rfl | rfl | rfl)
  · exact .text h.name
  · exact k.location.faithful
  · exact .text h.filePath
  · exact .text h.sourcePath

theorem Locale.Unpaired.faithful {l : Locale} (h : l.Unpaired) : Faithful l.toValue := by
  refine faithful_record ["lang", "file_path", "locale_keys"] (by decide) rfl ?_
  simp only [List.mem_cons, List.not_mem_nil, or_false]
  rintro _ (rfl | rfl | rfl)
  · exact .text h.language
  · exact .text h.filePath
  · refine .list fun v hv => ?_
    obtain ⟨k, hk, rfl⟩ := List.mem_map.mp hv
    exact (h.keys k hk).faithful

/-! ## What a scan prints -/

/-- What a scan prints as JSON is in ASCII, and whatever standard reader reads it, the locales are
recovered. -/
theorem jsonReport_recovered {locales : List Locale} (h : ∀ l ∈ locales, l.Unpaired) :
    ∃ cs, Command.jsonReport locales = (Text.ofChars cs, .exit 0) ∧ (∀ c ∈ cs, c.toNat < 0x80) ∧
      ∀ read, Json.IsStandard read → (read cs).bind localesOfValue? = some locales := by
  have hfaithful : Faithful (.list (locales.map Locale.toValue)) := by
    refine .list fun v hv => ?_
    obtain ⟨l, hl, rfl⟩ := List.mem_map.mp hv
    exact (h l hl).faithful
  obtain ⟨cs, hwrite, hascii, hdenotes⟩ := Json.prints_write hfaithful
  refine ⟨cs ++ ['\n'], ?_, ?_, ?_⟩
  · rw [Command.jsonReport, hwrite, Text.ofChars_append]
    rfl
  · intro c hc
    rcases List.mem_append.mp hc with hc | hc
    · exact hascii c hc
    · obtain rfl := List.mem_singleton.mp hc
      decide
  · intro read hread
    have hvalue := hread Json.noGap cs ⟨['\n'], List.all_iff_forall_prop.mp (by decide)⟩ _ hdenotes
    rw [Json.noGap, List.nil_append] at hvalue
    rw [hvalue]
    exact localesOfValue?_list locales

/-- Two locales: one with a key of a lone high surrogate, a key of a quote, a control character, a low
surrogate before a high one and a character beyond the first plane, and the first key again; and one
without a language. -/
def tangledLocales : List Locale :=
  let lone : Key := ⟨[0xD83D], ⟨1, 17, 1, 25⟩, "de.ts", "de.ts"⟩
  let mixed : Key := ⟨[0x22, 0x5C, 0x07, 0xDE00, 0xD83D, 0x1F600], ⟨2, 0, 2, 9⟩, "de.ts", "base.ts"⟩
  [⟨"de", [lone, mixed, lone], "de.ts"⟩, ⟨"", [], [0xDC00, 0x7F]⟩]

theorem jsonReport_recovered_tangled : (∀ l ∈ tangledLocales, l.Unpaired) ∧
    ∃ cs, Command.jsonReport tangledLocales = (Text.ofChars cs, .exit 0) ∧
      (Json.read? cs).bind localesOfValue? = some tangledLocales := by
  have hunpaired : ∀ l ∈ tangledLocales, l.Unpaired := by
    have htexts : ∀ l ∈ tangledLocales, l.language.Unpaired ∧ l.filePath.Unpaired ∧
        ∀ k ∈ l.keys, k.name.Unpaired ∧ k.filePath.Unpaired ∧ k.sourcePath.Unpaired := by
      decide +kernel
    intro l hl
    obtain ⟨hlanguage, hfile, hkeys⟩ := htexts l hl
    exact ⟨hlanguage, hfile, fun k hk => ⟨(hkeys k hk).1, (hkeys k hk).2.1, (hkeys k hk).2.2⟩⟩
  obtain ⟨cs, hreport, -, hrecovered⟩ := jsonReport_recovered hunpaired
  exact ⟨hunpaired, cs, hreport, hrecovered Json.read? Json.isStandard_read?⟩

end LocaleCatalogue
