import LocaleCatalogue.Catalogue.Spread
import LocaleCatalogue.Proofs.Path.Reading
import Mathlib.Data.List.DropRight
import Mathlib.Logic.Function.Iterate

/-!
# Specifiers seen from a path

A specifier is put behind the directory of a path and the result is reduced: a double dot takes back
the name before it without asking the file system. What is left of the specifier does not depend on
the path. It goes up some number of times and then down along some names, and only what the first of
these steps take back belongs to the path.
-/

namespace LocaleCatalogue

namespace Path

/-- A name that a file can have. -/
structure IsFileName (name : Text) : Prop where
  isName : IsName name
  ne_above : name ≠ above

instance (name : Text) : Decidable (IsFileName name) :=
  decidable_of_iff ((name ≠ [] ∧ name ≠ here ∧ slash ∉ name) ∧ name ≠ above)
    ⟨fun h => ⟨h.1, h.2⟩, fun h => ⟨h.isName, h.ne_above⟩⟩

/-- The spelling ends in the name of a file, not in a slash and not in dots. -/
def EndsInName (spelling : Text) : Prop :=
  ∃ name, (Text.splitOn slash spelling).getLast? = some name ∧ IsFileName name

/-- The specifier is written relative to its file: it begins with a dot or two and a slash. -/
def IsRelative (specifier : Text) : Prop :=
  here ++ [slash] <+: specifier ∨ above ++ [slash] <+: specifier

instance (specifier : Text) : Decidable (IsRelative specifier) :=
  inferInstanceAs (Decidable (_ ∨ _))

theorem IsRelative.head?_ne {specifier : Text} (h : IsRelative specifier) :
    specifier.head? ≠ some slash := by
  rcases h with ⟨rest, rfl⟩ | ⟨rest, rfl⟩
  · simp [here, dot, slash]
  · simp [above, dot, slash]

/-- The names of a spelling that is divided by a slash are the names on both sides. -/
theorem names_append_slash (s t : Text) :
    (ofText (s ++ slash :: t)).names = (ofText s).names ++ (ofText t).names := by
  simp only [ofText, Text.splitOn_append_cons, List.filter_append]

@[simp] theorem names_nil : (ofText []).names = [] := rfl

/-- Slashes at the end add no name. -/
theorem names_append_slashes (s : Text) {slashes : Text} (h : ∀ c ∈ slashes, c = slash) :
    (ofText (s ++ slashes)).names = (ofText s).names := by
  induction slashes generalizing s with
  | nil => rw [List.append_nil]
  | cons c cs ih =>
      rw [h c List.mem_cons_self, List.append_cons,
        ih _ fun d hd => h d (List.mem_cons_of_mem c hd), names_append_slash, names_nil,
        List.append_nil]

theorem names_of_slash_not_mem {name : Text} (h : IsName name) : (ofText name).names = [name] := by
  have hjoin := names_of_join fun other (hother : other ∈ [name]) =>
    List.mem_singleton.mp hother ▸ h
  exact hjoin

theorem anchorOf_eq_relative_iff {t : Text} : anchorOf t = .relative ↔ t.head? ≠ some slash := by
  constructor
  · intro h hhead
    obtain ⟨rest, rfl⟩ := List.head?_eq_some_iff.mp hhead
    unfold anchorOf at h
    split at h <;> simp_all [slash]
  · exact fun h => (anchorOf_of_head_ne_slash h).1

theorem toText_concat (anchor : Anchor) (names : List Text) (name : Text) :
    toText ⟨anchor, names ++ [name]⟩ = anchor.text ++ Text.join [slash] (names ++ [name]) := by
  cases anchor <;> cases names <;> rfl

/-- The last of several joined names comes behind a slash. -/
theorem join_concat {names : List Text} (h : names ≠ []) (name : Text) :
    Text.join [slash] (names ++ [name]) = Text.join [slash] names ++ slash :: name := by
  induction names with
  | nil => exact absurd rfl h
  | cons first rest ih =>
      cases rest with
      | nil => simp [Text.join]
      | cons second more =>
          have hrest := ih (List.cons_ne_nil _ _)
          simp only [List.cons_append, Text.join] at hrest ⊢
          rw [hrest]
          simp only [List.append_assoc, List.cons_append, List.nil_append]

/-- What is put behind a spelling is put behind its last name. -/
theorem toText_append {anchor : Anchor} (names : List Text) (name ending : Text) :
    toText ⟨anchor, names ++ [name]⟩ ++ ending = toText ⟨anchor, names ++ [name ++ ending]⟩ := by
  rw [toText_concat, toText_concat, List.append_assoc]
  by_cases hnames : names = []
  · subst hnames
    rfl
  · rw [join_concat hnames, join_concat hnames, List.append_assoc, List.cons_append]

/-! ## The last piece -/

/-- The part of a spelling up to its last slash. -/
def front (spelling : Text) : Text := spelling.rdropWhile (· ≠ slash)

/-- The part of a spelling behind its last slash. -/
def lastPiece (spelling : Text) : Text := spelling.rtakeWhile (· ≠ slash)

theorem front_append_lastPiece (spelling : Text) : front spelling ++ lastPiece spelling = spelling :=
  List.rdropWhile_append_rtakeWhile

theorem slash_notMem_lastPiece (spelling : Text) : slash ∉ lastPiece spelling := by
  intro hmem
  simpa using List.mem_rtakeWhile_imp hmem

/-- A spelling is its last piece, or the last piece comes behind a slash. -/
theorem lastPiece_cases (spelling : Text) :
    (front spelling = [] ∧ spelling = lastPiece spelling) ∨
      ∃ before, front spelling = before ++ [slash] ∧
        spelling = before ++ slash :: lastPiece spelling := by
  have hparts := front_append_lastPiece spelling
  by_cases hne : front spelling = []
  · rw [hne, List.nil_append] at hparts
    exact .inl ⟨hne, hparts.symm⟩
  · have hslash := List.rdropWhile_last_not (· ≠ slash) spelling hne
    have hlast : (front spelling).getLast hne = slash :=
      of_not_not fun h => hslash (decide_eq_true h)
    have hfront := (List.dropLast_concat_getLast hne).symm
    rw [hlast] at hfront
    rw [hfront, List.append_assoc, List.singleton_append] at hparts
    exact .inr ⟨_, hfront, hparts.symm⟩

theorem getLast?_splitOn (spelling : Text) :
    (Text.splitOn slash spelling).getLast? = some (lastPiece spelling) := by
  have hpiece := Text.splitOn_of_notMem (slash_notMem_lastPiece spelling)
  rcases lastPiece_cases spelling with ⟨-, hparts⟩ | ⟨before, -, hparts⟩
  · rw [← hparts] at hpiece ⊢
    rw [hpiece, List.getLast?_singleton]
  · have hsplit := Text.splitOn_append_cons slash before (lastPiece spelling)
    rw [← hparts, hpiece] at hsplit
    rw [hsplit, List.getLast?_concat]

theorem endsInName_iff {spelling : Text} : EndsInName spelling ↔ IsFileName (lastPiece spelling) := by
  simp only [EndsInName, getLast?_splitOn, Option.some.injEq, exists_eq_left']

instance (spelling : Text) : Decidable (EndsInName spelling) :=
  decidable_of_iff (IsFileName (lastPiece spelling)) endsInName_iff.symm

/-- A plain spelling ends in its last name. -/
theorem endsInName_toText {anchor : Anchor} (names : List Text) {name : Text} (h : IsFileName name) :
    EndsInName (toText ⟨anchor, names ++ [name]⟩) := by
  have hname := Text.splitOn_of_notMem h.isName.2.2
  have hbehind : ∀ before, EndsInName (before ++ slash :: name) := fun before =>
    ⟨name, by rw [Text.splitOn_append_cons, hname, List.getLast?_concat], h⟩
  rw [toText_concat]
  by_cases hnames : names = []
  · subst hnames
    cases anchor with
    | relative => exact ⟨name, congrArg List.getLast? hname, h⟩
    | root => exact hbehind []
    | doubleRoot => exact hbehind [slash]
  · rw [join_concat hnames, ← List.append_assoc]
    exact hbehind _

/-- The names of a spelling that ends in a name are those up to the last slash and this name. -/
theorem EndsInName.names_eq {spelling : Text} (h : EndsInName spelling) :
    (ofText spelling).names = (ofText (front spelling)).names ++ [lastPiece spelling] := by
  have hpiece := names_of_slash_not_mem (endsInName_iff.mp h).isName
  rcases lastPiece_cases spelling with ⟨hfront, hparts⟩ | ⟨before, hfront, hparts⟩
  · rw [hfront, names_nil, List.nil_append, ← hpiece, ← hparts]
  · have hnames := names_append_slash before (lastPiece spelling)
    rw [← hparts, hpiece] at hnames
    rw [hnames, hfront, names_append_slash, names_nil, List.append_nil]

end Path

namespace Spelling

open LocaleCatalogue.Path

/-- The directory of a spelling is the part up to the last slash, perhaps without slashes at its end.
-/
theorem exists_slashes_of_directory (spelling : Text) :
    ∃ slashes, directory spelling ++ slashes = front spelling ∧ (∀ c ∈ slashes, c = slash) ∧
      (directory spelling = [] → slashes = []) := by
  have hdirectory : directory spelling =
      if (front spelling).all (· = slash) then front spelling
      else (front spelling).rdropWhile (· = slash) := rfl
  by_cases hall : (front spelling).all (· = slash)
  · rw [if_pos hall] at hdirectory
    exact ⟨[], by rw [hdirectory, List.append_nil], by simp, fun _ => rfl⟩
  · rw [if_neg hall] at hdirectory
    refine ⟨_, by rw [hdirectory, List.rdropWhile_append_rtakeWhile], ?_, ?_⟩
    · intro c hc
      simpa using List.mem_rtakeWhile_imp hc
    · intro hnil
      rw [hdirectory, List.rdropWhile_eq_nil_iff] at hnil
      exact absurd (List.all_eq_true.mpr hnil) hall

theorem names_directory (spelling : Text) :
    (ofText (directory spelling)).names = (ofText (front spelling)).names := by
  obtain ⟨slashes, hparts, hslashes, -⟩ := exists_slashes_of_directory spelling
  rw [← hparts, names_append_slashes _ hslashes]

/-- A spelling begins with a slash exactly if its directory does. -/
theorem head?_directory {spelling : Text} (h : directory spelling ≠ []) :
    (directory spelling).head? = spelling.head? := by
  obtain ⟨slashes, hparts, -, -⟩ := exists_slashes_of_directory spelling
  have hall := front_append_lastPiece spelling
  rw [← hparts] at hall
  have hhead := congrArg List.head? hall
  rwa [List.append_assoc, List.head?_append_of_ne_nil _ h] at hhead

/-- A relative specifier adds its names to those of the base. -/
theorem names_join {base specifier : Text} (h : specifier.head? ≠ some slash) :
    (ofText (join base specifier)).names = (ofText base).names ++ (ofText specifier).names := by
  rw [join]
  by_cases hempty : base = []
  · simp [hempty]
  · rw [if_neg (by simp [hempty, h])]
    by_cases hlast : base.getLast? = some slash
    · obtain ⟨before, rfl⟩ := List.getLast?_eq_some_iff.mp hlast
      rw [if_pos hlast, List.append_assoc, List.singleton_append, names_append_slash,
        names_append_slash, names_nil, List.append_nil]
    · rw [if_neg hlast, names_append_slash]

/-- A relative specifier seen from a path begins with a slash exactly if the path does. -/
theorem head?_join_directory {spelling specifier : Text}
    (h : specifier.head? ≠ some slash) :
    (join (directory spelling) specifier).head? = some slash ↔ spelling.head? = some slash := by
  by_cases hempty : directory spelling = []
  · -- Without a directory the path is its last piece.
    obtain ⟨slashes, hparts, -, hslashes⟩ := exists_slashes_of_directory spelling
    have hfront : front spelling = [] := by rw [← hparts, hempty, hslashes hempty]; rfl
    have hpiece := front_append_lastPiece spelling
    rw [hfront, List.nil_append] at hpiece
    have hslash : spelling.head? ≠ some slash := by
      intro hhead
      have hmem := List.mem_of_head? hhead
      rw [← hpiece] at hmem
      exact slash_notMem_lastPiece spelling hmem
    simp [join, hempty, h, hslash]
  · have hhead : (join (directory spelling) specifier).head? = (directory spelling).head? := by
      rw [join, if_neg (by simp [hempty, h])]
      split
      · exact List.head?_append_of_ne_nil _ hempty
      · exact List.head?_append_of_ne_nil _ hempty
    rw [hhead, head?_directory hempty]

/-! ## Reducing double dots -/

/-- One step up among reduced names. -/
def stepUp (anchored : Bool) (reversed : List Text) : List Text :=
  reduceStep anchored reversed above

theorem stepUp_nil (anchored : Bool) : stepUp anchored [] = if anchored then [] else [above] := rfl

theorem stepUp_above (anchored : Bool) (rest : List Text) :
    stepUp anchored (above :: rest) = above :: above :: rest := rfl

theorem stepUp_cons {anchored : Bool} {last : Text} (h : last ≠ above) (rest : List Text) :
    stepUp anchored (last :: rest) = rest := by
  unfold stepUp reduceStep
  rw [if_neg (by decide), if_neg (by simp)]
  exact if_neg h

theorem reduceStep_of_isFileName {anchored : Bool} {reversed : List Text} {name : Text}
    (h : IsFileName name) : reduceStep anchored reversed name = name :: reversed := by
  unfold reduceStep
  rw [if_neg (by simp [h.isName.1, h.isName.2.1]), if_pos h.ne_above]

/-- Empty names and single dots change nothing. -/
theorem foldl_reduceStep_names (anchored : Bool) (reversed : List Text) (spelling : Text) :
    (Text.splitOn slash spelling).foldl (reduceStep anchored) reversed =
      (ofText spelling).names.foldl (reduceStep anchored) reversed := by
  rw [ofText, List.foldl_filter]
  apply List.foldl_ext
  intro kept name _
  by_cases hkept : !name.isEmpty && name ≠ here
  · rw [if_pos hkept]
  · rw [if_neg hkept]
    unfold reduceStep
    rw [if_pos]
    simpa [Decidable.or_iff_not_imp_left] using hkept

/-- What is left of names goes up a number of times and then down, whatever they are put behind. -/
theorem exists_reduction {names : List Text} (hnames : ∀ name ∈ names, IsName name) :
    ∃ (ups : Nat) (downs : List Text), (∀ name ∈ downs, IsFileName name) ∧
      ∀ anchored reversed, names.foldl (reduceStep anchored) reversed =
        downs.reverse ++ (stepUp anchored)^[ups] reversed := by
  induction names using List.reverseRecOn with
  | nil => exact ⟨0, [], by simp, fun _ _ => rfl⟩
  | append_singleton names name ih =>
      obtain ⟨ups, downs, hdowns, hfold⟩ := ih fun other hother =>
        hnames other (List.mem_append_left _ hother)
      have hname := hnames name (by simp)
      by_cases habove : name = above
      · -- A step up takes back the last step down, if there is one.
        subst habove
        cases downs using List.reverseRecOn with
        | nil =>
            refine ⟨ups + 1, [], by simp, fun anchored reversed => ?_⟩
            rw [List.foldl_append, hfold, Function.iterate_succ_apply']
            rfl
        | append_singleton downs last =>
            have hlast := hdowns last (by simp)
            refine ⟨ups, downs, fun other hother => hdowns other (List.mem_append_left _ hother),
              fun anchored reversed => ?_⟩
            rw [List.foldl_append, hfold, List.reverse_append]
            exact stepUp_cons hlast.ne_above _
      · refine ⟨ups, downs ++ [name], ?_, fun anchored reversed => ?_⟩
        · intro other hother
          rcases List.mem_append.mp hother with hbefore | hlast
          · exact hdowns other hbefore
          · exact List.mem_singleton.mp hlast ▸ ⟨hname, habove⟩
        · rw [List.foldl_append, hfold, List.foldl_cons, List.foldl_nil,
            reduceStep_of_isFileName ⟨hname, habove⟩, List.reverse_append]
          rfl

theorem mem_reduceStep {anchored : Bool} {reversed : List Text} {name other : Text}
    (h : other ∈ reduceStep anchored reversed name) : other ∈ reversed ∨ other = name := by
  unfold reduceStep at h
  split at h
  · exact .inl h
  · split at h
    · exact (List.mem_cons.mp h).symm
    · split at h
      · split at h
        · cases h
        · exact .inr (List.mem_singleton.mp h)
      · split at h
        · exact (List.mem_cons.mp h).symm
        · exact .inl (List.mem_cons_of_mem _ h)

theorem isName_above : IsName above := ⟨by decide, by decide, by decide⟩

/-- What holds of all names holds of those that are left. -/
theorem forall_mem_foldl {motive : Text → Prop} {anchored : Bool} {names reversed : List Text}
    (hnames : ∀ name ∈ names, motive name) (hreversed : ∀ name ∈ reversed, motive name) :
    ∀ name ∈ names.foldl (reduceStep anchored) reversed, motive name := by
  induction names generalizing reversed with
  | nil => exact hreversed
  | cons first rest ih =>
      apply ih fun name hname => hnames name (List.mem_cons_of_mem first hname)
      intro name hname
      rcases mem_reduceStep hname with hbefore | rfl
      · exact hreversed name hbefore
      · exact hnames _ List.mem_cons_self

theorem forall_mem_stepUp {motive : Text → Prop} {anchored : Bool} {reversed : List Text}
    (habove : motive above) (hreversed : ∀ name ∈ reversed, motive name) (ups : Nat) :
    ∀ name ∈ (stepUp anchored)^[ups] reversed, motive name := by
  induction ups generalizing reversed with
  | zero => exact hreversed
  | succ ups ih =>
      rw [Function.iterate_succ_apply]
      apply ih
      intro name hname
      rcases mem_reduceStep hname with hbefore | rfl
      · exact hreversed name hbefore
      · exact habove

/-- A spelling whose last reduced name is known is the plain spelling of its reduced names. -/
theorem normalise_eq_toText {spelling name : Text} {reversed : List Text}
    (hfold : (ofText spelling).names.foldl (reduceStep (anchorOf spelling ≠ .relative)) [] =
      name :: reversed) (hname : name ≠ []) :
    normalise spelling = toText ⟨anchorOf spelling, reversed.reverse ++ [name]⟩ := by
  have hjoined : ∀ before : List Text, Text.join [slash] (before ++ [name]) ≠ [] := by
    intro before
    cases before with
    | nil => exact hname
    | cons first rest => cases rest <;> simp [Text.join]
  rw [normalise, foldl_reduceStep_names, hfold, List.reverse_cons]
  rw [if_neg (by simp [hjoined])]
  cases anchorOf spelling <;> cases reversed.reverse <;> rfl

/-- The directory of a path with double dots reduced, the last name first. -/
def reducedDirectory (path : Text) : List Text :=
  (ofText (front path)).names.foldl (reduceStep (anchorOf path ≠ .relative)) []

/-- The candidates for a specifier: from the directory of the path up some number of times, then down
along some names, and the last name with an ending. The steps and names do not depend on the path. -/
theorem exists_candidate {specifier : Text} (hrelative : specifier.head? ≠ some slash)
    (hspecifier : EndsInName specifier) :
    ∃ (ups : Nat) (downs : List Text), (∀ name ∈ downs, IsFileName name) ∧
      ∀ path ending, EndsInName path → IsFileName (lastPiece specifier ++ ending) →
        ∃ anchor, (anchor = .relative ↔ anchorOf path = .relative) ∧
          ofText (specifierBase path specifier ++ ending) =
            ⟨anchor, ((stepUp (anchorOf path ≠ .relative))^[ups] (reducedDirectory path)).reverse ++
              downs ++ [lastPiece specifier ++ ending]⟩ := by
  obtain ⟨ups, downs, hdowns, hreduction⟩ := exists_reduction (plain_ofText (front specifier))
  refine ⟨ups, downs, hdowns, ?_⟩
  intro path ending hpath hending
  have hname := endsInName_iff.mp hspecifier
  -- Where a path begins, so does every specifier seen from it.
  have hanchor : anchorOf (join (directory path) specifier) = .relative ↔
      anchorOf path = .relative := by
    rw [anchorOf_eq_relative_iff, anchorOf_eq_relative_iff, not_iff_not]
    exact head?_join_directory hrelative
  have hfold : (ofText (join (directory path) specifier)).names.foldl
      (reduceStep (anchorOf (join (directory path) specifier) ≠ .relative)) [] =
        lastPiece specifier ::
          (downs.reverse ++
            (stepUp (anchorOf path ≠ .relative))^[ups] (reducedDirectory path)) := by
    simp only [hanchor, ne_eq]
    rw [names_join hrelative, names_directory, hspecifier.names_eq, List.foldl_append,
      List.foldl_append, hreduction, List.foldl_cons, List.foldl_nil,
      reduceStep_of_isFileName hname]
    rfl
  refine ⟨_, hanchor, ?_⟩
  rw [specifierBase, normalise_eq_toText hfold hname.isName.1, toText_append, ofText_toText,
    List.reverse_append, List.reverse_reverse]
  · intro name hmem
    rw [List.mem_append, List.mem_reverse, List.mem_append, List.mem_reverse] at hmem
    rcases hmem with (hdown | hup) | hlast
    · exact (hdowns name hdown).isName
    · have hreduced : ∀ name ∈ reducedDirectory path, IsName name :=
        forall_mem_foldl (plain_ofText (front path)) (by simp)
      exact forall_mem_stepUp isName_above hreduced ups name hup
    · exact List.mem_singleton.mp hlast ▸ hending.isName

end Spelling

end LocaleCatalogue
