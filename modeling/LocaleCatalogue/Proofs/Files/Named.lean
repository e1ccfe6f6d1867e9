import LocaleCatalogue.Proofs.Files.Passing

/-!
# Specifiers that end in a name

A specifier may begin with a slash, and it may end in some. Slashes at its end are lost when it is
put behind a directory, and a slash at its beginning makes it independent of the directory. So what
holds of the candidates for a plain relative specifier holds of those for every specifier whose last
name is a proper one.
-/

namespace LocaleCatalogue

namespace Path

/-- The last piece of the specifier that is not empty is a name that a file can have. -/
def IsNamed (specifier : Text) : Prop :=
  ∃ name, ((Text.splitOn slash specifier).filter (!·.isEmpty)).getLast? = some name ∧
    IsFileName name

instance (specifier : Text) : Decidable (IsNamed specifier) :=
  inferInstanceAs (Decidable (∃ name, _ = some name ∧ _))

/-- Slashes at the end only add empty pieces. -/
theorem pieces_append_slashes (s : Text) {slashes : Text} (h : ∀ c ∈ slashes, c = slash) :
    (Text.splitOn slash (s ++ slashes)).filter (!·.isEmpty) =
      (Text.splitOn slash s).filter (!·.isEmpty) := by
  induction slashes generalizing s with
  | nil => rw [List.append_nil]
  | cons c cs ih =>
      rw [h c List.mem_cons_self, List.append_cons,
        ih _ fun d hd => h d (List.mem_cons_of_mem c hd), Text.splitOn_append_cons,
        List.filter_append]
      exact List.append_nil _

/-- Where no slash comes last, the last piece is the last one that is not empty. -/
theorem getLast?_pieces {spelling : Text} (h : lastPiece spelling ≠ []) :
    ((Text.splitOn slash spelling).filter (!·.isEmpty)).getLast? = some (lastPiece spelling) := by
  obtain ⟨pieces, hpieces⟩ := List.getLast?_eq_some_iff.mp (getLast?_splitOn spelling)
  have hkept : [lastPiece spelling].filter (!·.isEmpty) = [lastPiece spelling] :=
    List.filter_eq_self.mpr (by simpa using h)
  rw [hpieces, List.filter_append, hkept, List.getLast?_concat]

/-- A specifier whose last name is proper ends in this name but for some slashes. -/
theorem IsNamed.exists_slashes {specifier : Text} (h : IsNamed specifier) :
    ∃ named slashes, specifier = named ++ slashes ∧ (∀ c ∈ slashes, c = slash) ∧
      EndsInName named := by
  have hslashes : ∀ c ∈ specifier.rtakeWhile (· = slash), c = slash := fun c hc => by
    simpa using List.mem_rtakeWhile_imp hc
  have hparts := (List.rdropWhile_append_rtakeWhile (p := (· = slash)) (l := specifier)).symm
  refine ⟨_, _, hparts, hslashes, ?_⟩
  obtain ⟨name, hlast, hname⟩ := h
  rw [hparts, pieces_append_slashes _ hslashes] at hlast
  have hpiece : lastPiece (specifier.rdropWhile (· = slash)) ≠ [] := by
    intro hnil
    rw [lastPiece, List.rtakeWhile_eq_nil_iff] at hnil
    by_cases hempty : specifier.rdropWhile (· = slash) = []
    · rw [hempty] at hlast
      cases hlast
    · have hslash := hnil hempty
      have hother := List.rdropWhile_last_not (· = slash) specifier hempty
      simp only [decide_not, Bool.not_eq_true, Bool.not_eq_false', decide_eq_true_eq]
        at hslash hother
      exact hother hslash
  rw [getLast?_pieces hpiece, Option.some.injEq] at hlast
  rw [endsInName_iff, hlast]
  exact hname

/-- A spelling that ends in a name does not end in a slash. -/
theorem EndsInName.exists_last {spelling : Text} (h : EndsInName spelling) :
    ∃ c, spelling.getLast? = some c ∧ c ≠ slash := by
  have hname := (endsInName_iff.mp h).isName
  rw [← front_append_lastPiece spelling, List.getLast?_append_of_ne_nil _ hname.1]
  exact ⟨_, List.getLast?_eq_some_getLast hname.1,
    fun hslash => hname.2.2 (hslash ▸ List.getLast_mem hname.1)⟩

theorem getLast?_of_slash_cons {rest : Text} {c : CodePoint}
    (hlast : (slash :: rest).getLast? = some c) (hc : c ≠ slash) : rest.getLast? = some c := by
  cases rest with
  | nil =>
      cases hlast
      exact absurd rfl hc
  | cons second rest => rwa [List.getLast?_cons_cons] at hlast

/-- What comes behind a spelling that does not end in a slash does not change where it begins. -/
theorem anchorOf_append {spelling more : Text} {c : CodePoint} (hlast : spelling.getLast? = some c)
    (hc : c ≠ slash) : anchorOf (spelling ++ more) = anchorOf spelling := by
  -- Up to two slashes come before the first name, or three at least.
  have hhead : ∀ rest : Text, rest.getLast? = some c → rest.head? ≠ some slash →
      (rest ++ more).head? ≠ some slash := by
    intro rest hlast hhead
    cases rest with
    | nil => cases hlast
    | cons first rest => exact hhead
  by_cases hfirst : spelling.head? = some slash
  · obtain ⟨rest, rfl⟩ := List.head?_eq_some_iff.mp hfirst
    have hlast := getLast?_of_slash_cons hlast hc
    by_cases hsecond : rest.head? = some slash
    · obtain ⟨rest, rfl⟩ := List.head?_eq_some_iff.mp hsecond
      have hlast := getLast?_of_slash_cons hlast hc
      by_cases hthird : rest.head? = some slash
      · obtain ⟨rest, rfl⟩ := List.head?_eq_some_iff.mp hthird
        rfl
      · exact (anchorOf_of_head_ne_slash (hhead rest hlast hthird)).2.2.trans
          (anchorOf_of_head_ne_slash hthird).2.2.symm
    · exact (anchorOf_of_head_ne_slash (hhead rest hlast hsecond)).2.1.trans
        (anchorOf_of_head_ne_slash hsecond).2.1.symm
  · exact (anchorOf_of_head_ne_slash (hhead spelling hlast hfirst)).1.trans
      (anchorOf_of_head_ne_slash hfirst).1.symm

/-- A spelling that ends in a name still does when it is read and spelled plainly. -/
theorem EndsInName.plainly {spelling : Text} (h : EndsInName spelling) :
    EndsInName (ofText spelling).toText := by
  have hread : ofText spelling = ⟨anchorOf spelling, (ofText spelling).names⟩ := rfl
  rw [hread, h.names_eq]
  exact endsInName_toText _ (endsInName_iff.mp h)

end Path

namespace Spelling

open LocaleCatalogue.Path

variable {path named slashes : Text}

theorem normalise_append_slashes {spelling : Text} {c : CodePoint}
    (hlast : spelling.getLast? = some c) (hc : c ≠ slash) (hslashes : ∀ c ∈ slashes, c = slash) :
    normalise (spelling ++ slashes) = normalise spelling := by
  rw [normalise, normalise, anchorOf_append hlast hc, foldl_reduceStep_names,
    foldl_reduceStep_names, names_append_slashes spelling hslashes]

/-- What comes behind a specifier that is put behind a base comes last. -/
theorem join_append {base specifier : Text} (hspecifier : specifier ≠ []) (more : Text) :
    join base (specifier ++ more) = join base specifier ++ more := by
  have hhead : (specifier ++ more).head? = specifier.head? :=
    List.head?_append_of_ne_nil _ hspecifier
  rw [join, join, hhead]
  split
  · rfl
  split
  · exact (List.append_assoc ..).symm
  · exact (List.append_assoc base (slash :: specifier) more).symm

/-- A spelling keeps its last character when it is put behind a base. -/
theorem getLast?_join {base specifier : Text} (hspecifier : specifier ≠ []) :
    (join base specifier).getLast? = specifier.getLast? := by
  rw [join]
  split
  · rfl
  split
  · exact List.getLast?_append_of_ne_nil _ hspecifier
  · rw [List.getLast?_append_of_ne_nil _ (List.cons_ne_nil _ _)]
    obtain ⟨first, rest, rfl⟩ := List.exists_cons_of_ne_nil hspecifier
    exact List.getLast?_cons_cons

/-- Slashes at the end of a specifier do not matter. -/
theorem specifierBase_append_slashes (hnamed : EndsInName named)
    (hslashes : ∀ c ∈ slashes, c = slash) :
    specifierBase path (named ++ slashes) = specifierBase path named := by
  obtain ⟨c, hlast, hc⟩ := hnamed.exists_last
  have hne : named ≠ [] := by
    rintro rfl
    cases hlast
  rw [specifierBase, specifierBase, join_append hne,
    normalise_append_slashes (by rw [getLast?_join hne, hlast]) hc hslashes]

/-- A specifier that begins with a slash stands for itself. -/
theorem specifierBase_of_absolute (habsolute : named.head? = some slash) :
    specifierBase path named = normalise named := by
  rw [specifierBase, join, if_pos (by simp [habsolute])]

/-- A spelling that ends in a name does so when it is reduced, with an ending or without. -/
theorem endsInName_normalise_append (hnamed : EndsInName named) {ending : Text}
    (hending : ending ∈ candidateSuffixes) : EndsInName (normalise named ++ ending) := by
  have hname := endsInName_iff.mp hnamed
  have hfold : (ofText named).names.foldl (reduceStep (anchorOf named ≠ .relative)) [] =
      lastPiece named :: reducedDirectory named := by
    rw [hnamed.names_eq, List.foldl_append, List.foldl_cons, List.foldl_nil,
      reduceStep_of_isFileName hname]
    rfl
  rw [normalise_eq_toText hfold hname.isName.1, toText_append]
  exact endsInName_toText _ (Files.isFileName_append hname hending)

end Spelling

namespace Files

open LocaleCatalogue.Path LocaleCatalogue.Spelling

variable {fs : Files} {specifier : Text} (hspecifier : IsNamed specifier)

include hspecifier

/-- What a candidate for a specifier leads to is the same for all paths to one place, except that
the file system may not take its spelling. -/
theorem exists_answer (hlinks : fs.Linkless) (place : Place) {ending : Text}
    (hending : ending ∈ candidateSuffixes) :
    ∃ found : Except Fault (Option fs.Found), ∀ path, EndsInName path →
      fs.locate (ofText path) = .ok place →
        fs.Answers (ofText (specifierBase path specifier ++ ending)) found := by
  obtain ⟨named, slashes, rfl, hslashes, hnamed⟩ := hspecifier.exists_slashes
  simp only [specifierBase_append_slashes hnamed hslashes]
  by_cases habsolute : named.head? = some slash
  · simp only [specifierBase_of_absolute habsolute]
    exact ⟨_, fun _ _ _ => Or.inl rfl⟩
  · exact exists_probe habsolute hnamed hlinks place hending

/-- Candidates for a named specifier end in a name. -/
theorem endsInName_of_mem_candidatePaths {path : Text} (hpath : EndsInName path) {candidate : Path}
    (h : candidate ∈ candidatePaths (specifierBase path specifier)) :
    EndsInName candidate.toText := by
  obtain ⟨named, slashes, rfl, hslashes, hnamed⟩ := hspecifier.exists_slashes
  rw [specifierBase_append_slashes hnamed hslashes] at h
  by_cases habsolute : named.head? = some slash
  · rw [specifierBase_of_absolute habsolute] at h
    obtain ⟨ending, hending, rfl⟩ := List.mem_map.mp h
    exact (endsInName_normalise_append hnamed hending).plainly
  · exact endsInName_candidate habsolute hnamed hpath h

end Files

end LocaleCatalogue
