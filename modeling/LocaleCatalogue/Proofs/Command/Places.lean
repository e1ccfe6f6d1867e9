import LocaleCatalogue.Command.Run
import LocaleCatalogue.Proofs.Report.Terminal
import LocaleCatalogue.Proofs.Text.Decimal

/-!
# Two reports about one catalogue

The command that lists catalogues and the one that finds a key put the same catalogue together. The
first one writes all of it, the second one a line for each key of the name, in the same order. The
lines pass the console, which interprets markup in them: a line that the markup does not touch is shown
as it is, and a line that cannot be shown ends the command.
-/

namespace LocaleCatalogue.Command

open Console (IsOrdinary IsVisible Inert Reads Shows Expands)

/-- The files once a log is opened. -/
def opened (fs : Files) (log : Option Place) : Files :=
  match log with
  | some place => fs.append place []
  | none => fs

/-- The catalogue that a command puts together; nothing if the command ends before. -/
def catalogue? (w : Surroundings) (root : Text) (options : Options) : Option (List Locale) :=
  match prepare w options with
  | .error _ => none
  | .ok (settings, log) =>
    match (catalogueBelow (opened w.files log) settings (Path.ofText root).toText).outcome.result with
    | .ok locales => some locales
    | .error _ => none

/-- A key where a catalogue has it. -/
structure Occurrence where
  locale : Locale
  key : Key
deriving DecidableEq, Repr

/-- The keys of a name in a catalogue, in order and with repetitions. -/
def occurrences (name : Text) (locales : List Locale) : List Occurrence :=
  locales.flatMap fun l => (l.find name).map (⟨l, ·⟩)

namespace Occurrence

variable (o : Occurrence)

/-- Where the token of a key begins: its file, its line, and its column counted from one. -/
def place : Text :=
  o.key.sourcePath ++ 0x3A :: (Text.ofInt o.key.location.startLine ++
    0x3A :: Text.ofInt (o.key.location.startColumn + 1))

/-- The line to be shown about an occurrence: the language, blanks, and the place. -/
def line (blanks : Nat) : Text :=
  o.locale.language ++ (List.replicate (blanks + 1) 0x20 ++ o.place) ++ [0x0A]

/-- What the console shows about an occurrence; nothing if it cannot show it. -/
def shown? (console : Console) : Option Text := console.printUnbroken (placeLine o.locale o.key)

/-- The markup touches neither the language nor the place. -/
structure Legible (emoji : Text → Option Text) : Prop where
  language : Inert emoji o.locale.language
  place : Inert emoji o.place
  untabbed : 0x09 ∉ o.locale.language ∧ 0x09 ∉ o.place

variable {o} {console : Console} {emoji : Text → Option Text}

/-- The style of a language. -/
theorem isStyle_language : Console.isStyle "bold cyan" := by decide +kernel

theorem placeLine_eq (o : Occurrence) :
    placeLine o.locale o.key =
      Console.openingTag "bold cyan" ++ (o.locale.language ++
        (Console.closingTag "bold cyan" ++ 0x09 :: o.place)) := by
  have hopening : Text.ofString "[bold cyan]" = Console.openingTag "bold cyan" := by decide +kernel
  have hclosing : Text.ofString "[/bold cyan]\t" = Console.closingTag "bold cyan" ++ [0x09] := by
    decide +kernel
  have hcolon : Text.ofString ":" = [0x3A] := by decide +kernel
  rw [placeLine, hopening, hclosing, hcolon, place]
  simp only [List.append_assoc, List.cons_append, List.nil_append]

/-- What is shown of a line with an inert language is the language, a tab, and what is shown of the
place. -/
theorem shows_placeLine {shown : Option Text} (hlanguage : Inert emoji o.locale.language)
    (hplace : Shows emoji [] o.place shown) :
    Shows emoji [] (placeLine o.locale o.key) (shown.map (o.locale.language ++ 0x09 :: ·)) := by
  have hnil : Inert emoji [] := Console.inert_of_ordinary nofun nofun
  have hclosed := Shows.closed (.inert hlanguage) isStyle_language hplace.cons_tab
  have hopened := Shows.opened (Reads.inert hnil) isStyle_language hclosed
  rw [placeLine_eq]
  rwa [List.nil_append, Option.map_map, Option.map_map] at hopened

/-- A place ends in a digit. -/
theorem exists_getLast?_place (o : Occurrence) : ∃ c, o.place.getLast? = some c ∧ Text.IsDigit c := by
  obtain ⟨c, hc, hdigit⟩ := Text.exists_getLast?_ofInt (o.key.location.startColumn + 1)
  refine ⟨c, ?_, hdigit⟩
  simp [place, List.getLast?_append, List.getLast?_cons, hc]

/-- What is shown of the place is shown behind the language. -/
theorem shown?_of_shows {shown : Text} (hconsole : console.Interprets emoji)
    (hlanguage : Inert emoji o.locale.language) (hplace : Shows emoji [] o.place (some shown)) :
    ∃ line, Expands (o.locale.language ++ 0x09 :: shown) line ∧
      o.shown? console = some (line ++ [0x0A]) := by
  obtain ⟨c, hc, hlow, hhigh⟩ := exists_getLast?_place o
  have hend : shown.getLast? = some c :=
    hplace.getLast?_eq hc (fun heq => by subst heq; exact absurd hhigh (by decide))
      (fun heq => by subst heq; exact absurd hhigh (by decide)) shown rfl
  refine hconsole.shows _ _ (shows_placeLine hlanguage hplace) ⟨c, ?_, ?_⟩
  · rw [List.getLast?_append, List.getLast?_cons, hend]
    rfl
  · exact ⟨by omega, by omega⟩

/-- An occurrence whose place cannot be shown is not shown. -/
theorem shown?_of_shows_none (hconsole : console.Interprets emoji)
    (hlanguage : Inert emoji o.locale.language) (hplace : Shows emoji [] o.place none) :
    o.shown? console = none :=
  hconsole.refuses _ (shows_placeLine hlanguage hplace)

/-- A legible occurrence is shown as it is. -/
theorem Legible.exists_shown? (h : o.Legible emoji) (hconsole : console.Interprets emoji) :
    ∃ blanks : Nat, o.shown? console = some (o.line blanks) := by
  obtain ⟨line, hexpands, hshown⟩ := shown?_of_shows hconsole h.language (.done (.inert h.place))
  obtain ⟨blanks, rfl⟩ := hexpands.eq_of_tab h.untabbed.1 h.untabbed.2
  exact ⟨blanks, hshown⟩

-- A directory in brackets is taken for a style, and one line number for an emoji.
example : shown? ⟨⟨"en", [], []⟩, ⟨"a", ⟨1, 0, 1, 1⟩, [], "x[b]/en.ts"⟩⟩ (terminal 80) =
    some "en      x/en.ts:1:1\n" := by
  decide +kernel

example : shown? ⟨⟨"en", [], []⟩, ⟨"a", ⟨100, 0, 100, 1⟩, [], "en.ts"⟩⟩ (terminal 80) =
    some "en      en.ts💯1\n" := by
  decide +kernel

/-- Between the colons of a place stands its line, and nothing else. -/
theorem eq_of_infix_place {path line column body : Text} (hpath : 0x3A ∉ path) (hline : 0x3A ∉ line)
    (hcolumn : 0x3A ∉ column) (hbody : 0x3A ∉ body)
    (hin : 0x3A :: body ++ [0x3A] <:+: path ++ 0x3A :: (line ++ 0x3A :: column)) : body = line := by
  obtain ⟨before, after, hparts⟩ := hin
  have hpieces := congrArg (Text.splitOn 0x3A) hparts
  simp only [List.append_assoc, List.cons_append, List.nil_append, Text.splitOn_append_cons,
    Text.splitOn_of_notMem hpath, Text.splitOn_of_notMem hline, Text.splitOn_of_notMem hcolumn,
    Text.splitOn_of_notMem hbody] at hpieces
  obtain ⟨first, firsts, hfirst⟩ := List.exists_cons_of_ne_nil (Text.splitOn_ne_nil 0x3A before)
  obtain ⟨last, lasts, hlast⟩ := List.exists_cons_of_ne_nil (Text.splitOn_ne_nil 0x3A after)
  rw [hfirst, hlast] at hpieces
  cases firsts with
  | nil =>
      simp only [List.cons_append, List.nil_append, List.cons.injEq] at hpieces
      exact hpieces.2.1
  | cons second more => exact absurd (congrArg List.length hpieces) (by simp; omega)

/-- A code point of a plain text: ordinary, and neither a colon nor a tab. -/
def isPlain (c : CodePoint) : Bool := IsOrdinary c && c ≠ 0x3A && c ≠ 0x09

theorem isPlain_iff {c : CodePoint} : isPlain c ↔ IsOrdinary c ∧ c ≠ 0x3A ∧ c ≠ 0x09 := by
  simp only [isPlain, Bool.and_eq_true, decide_eq_true_eq, and_assoc]

theorem isPlain_of_mem_ofInt {k : Int} {c : CodePoint} (h : c ∈ Text.ofInt k) : isPlain c := by
  rcases Text.mem_ofInt h with rfl | hdigit
  · decide
  · have hne {d : CodePoint} (hd : ¬ Text.IsDigit d) : c ≠ d := fun heq => hd (heq ▸ hdigit)
    obtain ⟨hlow, hhigh⟩ := hdigit
    have hvisible : IsVisible c := ⟨by omega, by omega⟩
    exact isPlain_iff.mpr
      ⟨hvisible.isOrdinary (hne (by decide)) (hne (by decide)), hne (by decide), hne (by decide)⟩

/-- An occurrence is legible if its language and its path are plain and its line is no emoji. -/
theorem legible_of_plain (hlanguage : o.locale.language.all isPlain) (hpath : o.key.sourcePath.all isPlain)
    (hline : emoji (Text.ofInt o.key.location.startLine) = none) : o.Legible emoji := by
  rw [List.all_eq_true] at hlanguage hpath
  have hmem (c : CodePoint) (hc : c ∈ o.place) : IsOrdinary c ∧ c ≠ 0x09 := by
    have hplain {c : CodePoint} (h : isPlain c) : IsOrdinary c ∧ c ≠ 0x09 :=
      (isPlain_iff.mp h).imp_right And.right
    simp only [place, List.mem_append, List.mem_cons] at hc
    rcases hc with hc | rfl | hc | rfl | hc
    · exact hplain (hpath c hc)
    · decide
    · exact hplain (isPlain_of_mem_ofInt hc)
    · decide
    · exact hplain (isPlain_of_mem_ofInt hc)
  have hcolon {t : Text} (h : ∀ c ∈ t, isPlain c) : 0x3A ∉ t := fun hc => absurd (h _ hc) (by decide)
  have htab : 0x09 ∉ o.locale.language := fun hc => absurd (hlanguage _ hc) (by decide)
  refine ⟨Console.inert_of_ordinary (fun c hc => (isPlain_iff.mp (hlanguage c hc)).1) (hcolon hlanguage),
    ⟨fun c hc => (hmem c hc).1, fun body hbody hin => ?_⟩, htab, fun hc => (hmem _ hc).2 rfl⟩
  rwa [eq_of_infix_place (hcolon hpath) (hcolon fun c => isPlain_of_mem_ofInt)
    (hcolon fun c => isPlain_of_mem_ofInt) hbody hin]

end Occurrence

section

variable {w : Surroundings} {console : Console} {emoji : Text → Option Text} {name root : Text}
  {options : Options} {locales : List Locale} {found : List Occurrence}

theorem runOn_of_catalogue? (h : catalogue? w root options = some locales)
    (report : List Locale → Report) :
    (runOn w root options report).output = (report locales).1 ∧
      (runOn w root options report).ending = (report locales).2 := by
  rw [catalogue?] at h
  cases hprepare : prepare w options with
  | error ending =>
      rw [hprepare] at h
      cases h
  | ok prepared =>
      obtain ⟨settings, log⟩ := prepared
      rw [hprepare] at h
      dsimp only at h
      split at h
      · next found hfound =>
          obtain rfl := Option.some_inj.mp h
          cases log <;>
          · simp only [opened] at hfound
            simp only [runOn, hprepare, work, hfound, and_self]
      · cases h

/-- The lines about occurrences up to the first one that cannot be shown. -/
def shownLines (console : Console) (found : List Occurrence) : List Text :=
  ((found.map (Occurrence.shown? · console)).takeWhile Option.isSome).filterMap id

theorem printAll_eq (console : Console) (found : List Occurrence) :
    printAll console (found.map fun o => placeLine o.locale o.key) =
      ((shownLines console found).flatten,
        if found.all fun o => (o.shown? console).isSome then .exit 0 else .markup) := by
  induction found with
  | nil => rfl
  | cons o found ih =>
      rw [List.map_cons, printAll, ← Occurrence.shown?]
      cases hshown : o.shown? console with
      | none => simp [shownLines, hshown]
      | some line =>
          simp only [ih]
          simp [shownLines, hshown]

/-- Nothing is missing from lines that are all shown. -/
theorem shownLines_of_forall {line : Occurrence → Text}
    (h : ∀ o ∈ found, o.shown? console = some (line o)) : shownLines console found = found.map line := by
  induction found with
  | nil => rfl
  | cons o found ih =>
      have hrest := ih fun p hp => h p (List.mem_cons_of_mem o hp)
      rw [shownLines, List.map_cons, h o List.mem_cons_self, List.takeWhile_cons_of_pos rfl, List.map_cons,
        ← hrest]
      rfl

theorem placeLines_eq (name : Text) (locales : List Locale) :
    (locales.flatMap fun l => (l.find name).map (placeLine l)) =
      (occurrences name locales).map fun o => placeLine o.locale o.key := by
  simp [occurrences, List.map_flatMap, Function.comp_def]

/-- Without an occurrence the name is not found. -/
theorem placesReport_of_nil (console : Console) (h : occurrences name locales = []) :
    (placesReport console name locales).2.status = 1 := by
  have hlines := placeLines_eq name locales
  rw [h, List.map_nil] at hlines
  simp only [placesReport, hlines, shown]
  split <;> rfl

theorem placesReport_of_ne_nil (console : Console) (h : occurrences name locales ≠ []) :
    placesReport console name locales =
      printAll console ((occurrences name locales).map fun o => placeLine o.locale o.key) := by
  obtain ⟨o, found, hfound⟩ := List.exists_cons_of_ne_nil h
  simp only [placesReport, placeLines_eq, hfound, List.map_cons]

/-- The second report succeeds if there is something to show and all of it is shown. -/
theorem placesReport_status (console : Console) (name : Text) (locales : List Locale) :
    (placesReport console name locales).2.status =
      if occurrences name locales ≠ [] ∧ ∀ o ∈ occurrences name locales, (o.shown? console).isSome then 0
      else 1 := by
  by_cases hnone : occurrences name locales = []
  · rw [placesReport_of_nil console hnone, if_neg fun h => h.1 hnone]
  · rw [placesReport_of_ne_nil console hnone, printAll_eq]
    simp only [List.all_eq_true, ne_eq, hnone, not_false_eq_true, true_and]
    split <;> rfl

/-- If all occurrences are legible, the second report is a line for each of them. -/
theorem placesReport_of_legible (hconsole : console.Interprets emoji)
    (h : ∀ o ∈ occurrences name locales, o.Legible emoji) :
    ((placesReport console name locales).2.status = 0 ↔ occurrences name locales ≠ []) ∧
      (occurrences name locales ≠ [] → ∃ blanks : Occurrence → Nat,
        (placesReport console name locales).1 =
          (occurrences name locales).flatMap fun o => o.line (blanks o)) := by
  have hlines (o : Occurrence) : ∃ blanks : Nat, o ∈ occurrences name locales →
      o.shown? console = some (o.line blanks) := by
    by_cases ho : o ∈ occurrences name locales
    · obtain ⟨blanks, hshown⟩ := (h o ho).exists_shown? hconsole
      exact ⟨blanks, fun _ => hshown⟩
    · exact ⟨0, fun ho' => absurd ho' ho⟩
  choose blanks hblanks using hlines
  constructor
  · rw [placesReport_status]
    have hall (o : Occurrence) (ho : o ∈ occurrences name locales) : (o.shown? console).isSome :=
      Option.isSome_of_eq_some (hblanks o ho)
    by_cases hnone : occurrences name locales = []
    · simp [hnone]
    · rw [if_pos ⟨hnone, hall⟩]
      exact iff_of_true rfl hnone
  · intro hne
    refine ⟨blanks, ?_⟩
    rw [placesReport_of_ne_nil console hne, printAll_eq, shownLines_of_forall hblanks, List.flatMap]

/-- The two reports agree. With the same options, on files whose catalogue can be put together, the
first command writes the catalogue. The second one shows a line for each key of the name that the
catalogue has, in the order of the catalogue, up to the first one that the console cannot show. It
succeeds if there is such a key and all lines are shown. Behind an inert language stands what the
console shows of the place. If the markup touches none of the lines, they are all shown as they are. -/
theorem locate_agrees {scanning locating : List Text} (hconsole : w.console.Interprets emoji)
    (hscanning : read scanning = some (.scan root options)) (hjson : options.json = true)
    (hlocating : read locating = some (.locate name root { options with json := false }))
    (hlocales : catalogue? w root options = some locales) :
    (run w scanning).output = Json.write (.list (locales.map Locale.toValue)) ++ "\n" ∧
      (run w scanning).ending.status = 0 ∧
      (run w locating).ending.status =
        (if occurrences name locales ≠ [] ∧ ∀ o ∈ occurrences name locales, (o.shown? w.console).isSome
          then 0 else 1) ∧
      (occurrences name locales ≠ [] →
        (run w locating).output = (shownLines w.console (occurrences name locales)).flatten) ∧
      (∀ o ∈ occurrences name locales, Inert emoji o.locale.language →
        (Shows emoji [] o.place none → o.shown? w.console = none) ∧
        ∀ shown, Shows emoji [] o.place (some shown) →
          ∃ line, Expands (o.locale.language ++ 0x09 :: shown) line ∧
            o.shown? w.console = some (line ++ [0x0A])) ∧
      ((∀ o ∈ occurrences name locales, o.Legible emoji) →
        ((run w locating).ending.status = 0 ↔ occurrences name locales ≠ []) ∧
        (occurrences name locales ≠ [] → ∃ blanks : Occurrence → Nat,
          (run w locating).output = (occurrences name locales).flatMap fun o => o.line (blanks o))) := by
  have hscan := runOn_of_catalogue? hlocales jsonReport
  have hlocate : catalogue? w root { options with json := false } = some locales := hlocales
  have hlocate := runOn_of_catalogue? hlocate (placesReport w.console name)
  simp only [run, hscanning, hlocating, hjson, if_true, hscan, hlocate]
  refine ⟨rfl, rfl, placesReport_status w.console name locales, fun hne => ?_, fun o _ hlanguage => ?_,
    placesReport_of_legible hconsole⟩
  · rw [placesReport_of_ne_nil w.console hne, printAll_eq]
  · exact ⟨Occurrence.shown?_of_shows_none hconsole hlanguage,
      fun shown => Occurrence.shown?_of_shows hconsole hlanguage⟩

end

/-- The options of a command line that only asks for JSON. -/
def asJson : Options := ⟨true, false, false, none, none, none⟩

/-- A project with one language, which takes over keys from another file. -/
def spreading : Surroundings where
  files := {
    working := ["w"]
    entries := [
      (["w"], .directory), (["w", "locales"], .directory),
      (["w", "b.ts"], .file (Utf8.encode "export default { a: 1 }".toList)),
      (["w", "locales", "en.ts"], .file (Utf8.encode
        "import b from '../b';\nexport default { ...b, c: 2, a: 3 }".toList))] }
  environment := []
  console := terminal 80
  complaints := terminal 80
  diagnosis _ := []

/-- Its only locale. -/
def spreadingLocale : Locale := ⟨"en", [
  ⟨"a", ⟨1, 17, 1, 18⟩, "locales/en.ts", "b.ts"⟩,
  ⟨"c", ⟨2, 23, 2, 24⟩, "locales/en.ts", "locales/en.ts"⟩,
  ⟨"a", ⟨2, 29, 2, 30⟩, "locales/en.ts", "locales/en.ts"⟩], "locales/en.ts"⟩

set_option maxRecDepth 4000 in
theorem catalogue?_spreading : catalogue? spreading "." asJson = some [spreadingLocale] := by
  have hprepare : prepare spreading asJson = .ok (Settings.standard, none) := rfl
  have hfound : (discover spreading.files Settings.standard (Path.ofText ".").toText).result =
      .ok ([["locales/en.ts"], [], [], []] : List (List Text)) := by decide +kernel
  have hlocales : (catalogueOf spreading.files ["locales/en.ts"]).outcome.result =
      .ok [spreadingLocale] := by decide +kernel
  simp only [catalogue?, hprepare, opened, catalogueBelow, hfound, List.flatten_cons, List.flatten_nil,
    List.append_nil, hlocales]

theorem locate_agrees_spreading :
    (run spreading ["scan", "--json"]).ending.status = 0 ∧
      (run spreading ["where", "a"]).ending.status = 0 ∧
      (run spreading ["where", "a"]).output = "en      b.ts:1:18\nen      locales/en.ts:2:30\n" := by
  obtain ⟨-, hscan, -, houtput, -, hlegible⟩ := @locate_agrees spreading Markup.sign? "a" "." asJson
    [spreadingLocale] ["scan", "--json"] ["where", "a"] (interprets_terminal 80) (by decide +kernel) rfl
    (by decide +kernel) catalogue?_spreading
  have hfound : occurrences "a" [spreadingLocale] = [
      ⟨spreadingLocale, ⟨"a", ⟨1, 17, 1, 18⟩, "locales/en.ts", "b.ts"⟩⟩,
      ⟨spreadingLocale, ⟨"a", ⟨2, 29, 2, 30⟩, "locales/en.ts", "locales/en.ts"⟩⟩] := by decide +kernel
  have hplain : ∀ o ∈ occurrences "a" [spreadingLocale], o.Legible Markup.sign? := by
    rw [hfound, List.forall_mem_cons, List.forall_mem_singleton]
    exact ⟨Occurrence.legible_of_plain (by decide +kernel) (by decide +kernel) (by decide +kernel),
      Occurrence.legible_of_plain (by decide +kernel) (by decide +kernel) (by decide +kernel)⟩
  have hne : occurrences "a" [spreadingLocale] ≠ [] := hfound ▸ List.cons_ne_nil _ _
  refine ⟨hscan, (hlegible hplain).1.mpr hne, (houtput hne).trans ?_⟩
  rw [hfound]
  decide +kernel

end LocaleCatalogue.Command
