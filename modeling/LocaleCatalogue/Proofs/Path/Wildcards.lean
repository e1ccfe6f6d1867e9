import LocaleCatalogue.Path.Pattern
import LocaleCatalogue.Proofs.Path.Lexical
import Mathlib.Data.List.Infix

/-!
# Stars around a text without wildcards

A text with a star before it, after it or on both sides matches what ends with it, begins with it or
contains it. On names joined by slashes such a pattern can be read name by name, although a star
matches slashes as well.
-/

namespace LocaleCatalogue

open LocaleCatalogue.Path (slash)

variable {literal t : Text} {rest : List Wild}

/-! ## Matching -/

namespace Wild

theorem someEnding_iff {accept : Text → Bool} :
    someEnding accept t = true ↔ ∃ ending, ending <:+ t ∧ accept ending = true := by
  induction t with
  | nil => simp [someEnding]
  | cons c t ih =>
      simp only [someEnding, Bool.or_eq_true, ih, List.suffix_cons_iff, or_and_right, exists_or,
        exists_eq_left]

theorem matchAll_star :
    matchAll (.star :: rest) t = true ↔ ∃ ending, ending <:+ t ∧ matchAll rest ending = true := by
  rw [matchAll, someEnding_iff]

theorem matchAll_exactly :
    matchAll (literal.map .exactly ++ rest) t = true ↔
      ∃ after, t = literal ++ after ∧ matchAll rest after = true := by
  induction literal generalizing t with
  | nil => simp
  | cons c literal ih =>
      cases t with
      | nil => simp [matchAll]
      | cons d t =>
          simp only [List.map_cons, List.cons_append, matchAll, admits, Bool.and_eq_true,
            decide_eq_true_eq, ih, List.cons.injEq]
          constructor
          · rintro ⟨rfl, after, rfl, hafter⟩
            exact ⟨after, ⟨rfl, rfl⟩, hafter⟩
          · rintro ⟨after, ⟨rfl, rfl⟩, hafter⟩
            exact ⟨rfl, after, rfl, hafter⟩

/-- A text without wildcards is read code point by code point. -/
theorem read_append (hliteral : literal.isWildcard = false) (more : Text) :
    read 0 (literal ++ more) = literal.map .exactly ++ read 0 more := by
  induction literal with
  | nil => rfl
  | cons c literal ih =>
      simp only [Text.isWildcard, List.any_cons, Bool.or_eq_false_iff, decide_eq_false_iff_not]
        at hliteral
      obtain ⟨⟨⟨hstar, hquestion⟩, hbracket⟩, hrest⟩ := hliteral
      rw [List.cons_append, read, if_neg hstar, if_neg hquestion, if_neg hbracket, ih hrest]
      rfl

theorem read_star (more : Text) : read 0 (0x2A :: more) = .star :: read 0 more := by
  rw [read, if_pos rfl]

end Wild

namespace Text

open Wild

theorem matchesPattern_star : t.matchesPattern [0x2A] = true := by
  rw [matchesPattern, read_star, matchAll_star]
  exact ⟨[], List.nil_suffix, rfl⟩

/-- A star in front: the text has to end with the rest. -/
theorem matchesPattern_star_append (hliteral : literal.isWildcard = false) :
    t.matchesPattern (0x2A :: literal) = true ↔ literal <:+ t := by
  have hread : Wild.read 0 literal = literal.map .exactly ++ [] := by
    simpa [Wild.read] using read_append hliteral []
  rw [matchesPattern, read_star, matchAll_star, hread]
  constructor
  · rintro ⟨ending, hending, hmatch⟩
    obtain ⟨after, rfl, hafter⟩ := matchAll_exactly.mp hmatch
    rw [List.isEmpty_iff.mp hafter, List.append_nil] at hending
    exact hending
  · intro hending
    exact ⟨literal, hending, matchAll_exactly.mpr ⟨[], by simp, rfl⟩⟩

/-- A star behind: the text has to begin with the rest. -/
theorem matchesPattern_append_star (hliteral : literal.isWildcard = false) :
    t.matchesPattern (literal ++ [0x2A]) = true ↔ literal <+: t := by
  rw [matchesPattern, read_append hliteral, read_star, matchAll_exactly]
  constructor
  · rintro ⟨after, rfl, -⟩
    exact List.prefix_append literal after
  · rintro ⟨after, rfl⟩
    exact ⟨after, rfl, matchAll_star.mpr ⟨[], List.nil_suffix, rfl⟩⟩

/-- A star on both sides: the text has to contain the rest. -/
theorem matchesPattern_star_append_star (hliteral : literal.isWildcard = false) :
    t.matchesPattern (0x2A :: (literal ++ [0x2A])) = true ↔ literal <:+: t := by
  rw [matchesPattern, read_star, matchAll_star]
  constructor
  · rintro ⟨ending, hending, hmatch⟩
    have hbegins : literal <+: ending := (matchesPattern_append_star hliteral).mp hmatch
    exact hbegins.isInfix.trans hending.isInfix
  · rintro ⟨front, after, rfl⟩
    refine ⟨literal ++ after, ⟨front, by simp⟩, ?_⟩
    exact (matchesPattern_append_star hliteral).mpr (List.prefix_append literal after)

end Text

/-! ## Names joined by slashes -/

namespace Path

variable {name first : Text} {names : List Text}

/-- What begins with a slash cannot begin in a name. -/
theorem cons_slash_infix_append_iff {s : Text} (hfirst : slash ∉ first) :
    slash :: s <:+: first ++ t ↔ slash :: s <:+: t := by
  induction first with
  | nil => rfl
  | cons c first ih =>
      rw [List.mem_cons, not_or] at hfirst
      obtain ⟨hc, hfirst⟩ := hfirst
      rw [List.cons_append, List.infix_cons_iff, ih hfirst]
      exact or_iff_right fun hbegins => hc (List.cons_prefix_cons.mp hbegins).1

theorem takeWhile_append_slash (hname : slash ∉ name) :
    (name ++ slash :: t).takeWhile (· ≠ slash) = name := by
  have hall : ∀ c ∈ name, decide (c ≠ slash) = true := by
    rintro c hc
    simpa using fun heq : c = slash => hname (heq ▸ hc)
  rw [List.takeWhile_append_of_pos hall]
  simp

theorem append_slash_prefix_iff (hname : slash ∉ name) (hfirst : slash ∉ first) :
    name ++ [slash] <+: first ++ slash :: t ↔ name = first := by
  constructor
  · rintro ⟨after, h⟩
    rw [List.append_assoc, List.singleton_append] at h
    rw [← takeWhile_append_slash hname, h, takeWhile_append_slash hfirst]
  · rintro rfl
    exact ⟨t, by simp⟩

/-- A joint spelling begins with a name and a slash if the name is the first of several. -/
theorem prefix_join_iff (hname : slash ∉ name) (hnames : ∀ other ∈ names, slash ∉ other) :
    name ++ [slash] <+: Text.join [slash] names ↔ names.dropLast.head? = some name := by
  match names, hnames with
  | [], _ => simp [Text.join]
  | [first], hnames =>
      refine iff_of_false (fun hbegins => ?_) (by simp)
      exact hnames first List.mem_cons_self (hbegins.subset (by simp))
  | first :: second :: rest, hnames =>
      rw [Text.join, List.append_assoc, List.singleton_append,
        append_slash_prefix_iff hname (hnames first List.mem_cons_self)]
      simp [eq_comm]

/-- A joint spelling with a slash before it contains a name between two slashes if the name is one
of its names, but not the last one. -/
theorem infix_join_iff (hname : slash ∉ name) (hnames : ∀ other ∈ names, slash ∉ other) :
    slash :: (name ++ [slash]) <:+: slash :: Text.join [slash] names ↔ name ∈ names.dropLast := by
  induction names with
  | nil => simp [Text.join, List.infix_cons_iff]
  | cons first rest ih =>
      obtain ⟨hfirst, hrest⟩ := List.forall_mem_cons.mp hnames
      cases rest with
      | nil =>
          have hinner : ¬ slash :: (name ++ [slash]) <:+: first := fun hwithin =>
            hfirst (hwithin.subset List.mem_cons_self)
          have houter : ¬ name ++ [slash] <+: first := fun hbegins =>
            hfirst (hbegins.subset (by simp))
          simp [Text.join, List.infix_cons_iff, List.cons_prefix_cons, hinner, houter]
      | cons second rest =>
          rw [List.infix_cons_iff, List.cons_prefix_cons, and_iff_right rfl, Text.join,
            List.append_assoc, List.singleton_append, append_slash_prefix_iff hname hfirst,
            cons_slash_infix_append_iff hfirst, ih hrest, List.dropLast_cons_cons, List.mem_cons]

/-- An ending without a slash is an ending of the last name. -/
theorem suffix_join_concat_iff {ending : Text} (hending : slash ∉ ending) :
    ending <:+ Text.join [slash] (names ++ [name]) ↔ ending <:+ name := by
  by_cases hnames : names = []
  · subst hnames
    rfl
  · rw [join_concat hnames]
    constructor
    · intro hsuffix
      have hslash : slash :: name <:+ Text.join [slash] names ++ slash :: name :=
        List.suffix_append _ _
      rcases List.suffix_or_suffix_of_suffix hsuffix hslash with h | h
      · rcases List.suffix_cons_iff.mp h with rfl | h
        · exact absurd List.mem_cons_self hending
        · exact h
      · exact absurd (h.subset List.mem_cons_self) hending
    · intro hsuffix
      exact hsuffix.trans ⟨Text.join [slash] names ++ [slash], by simp⟩

end Path

end LocaleCatalogue
