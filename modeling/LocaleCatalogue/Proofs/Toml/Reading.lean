import Mathlib.Tactic.SplitIfs
import LocaleCatalogue.Proofs.Toml.Tables

/-!
# What readers of documents give

A reader gives a result and the characters behind it, which are an ending of those it was given. It
refuses a text for its form, or because a decimal integer in it has more digits than are read. So a
document without such an integer is read or malformed, and what is read of it is a proper table. All
of this is one judgement, and there is one lemma on it for every reader.
-/

namespace LocaleCatalogue.Toml

/-- A run of digits, with underscores among them, that has more digits than are read. -/
def IsLongInteger (run : List Char) : Prop :=
  (∀ c ∈ run, c.isDigit = true ∨ c = '_') ∧ Integer.digitLimit < (run.filter Char.isDigit).length

/-- Somewhere in a text stands an integer with more digits than are read. -/
def HasLongInteger (cs : List Char) : Prop := ∃ run, run <:+: cs ∧ IsLongInteger run

/-- What a reader gives for a text: a result as it has to be and an ending of the text, or a fault
that the text accounts for. -/
inductive Yields {α : Type} (P : α → Prop) (cs : List Char) : Read α → Prop
  | ok {a : α} {rest : List Char} : P a → rest <:+ cs → Yields P cs (.ok (a, rest))
  | malformed : Yields P cs (.error .malformed)
  | integer {digits : Nat} : HasLongInteger cs → Yields P cs (.error (.integer (.tooLong digits)))

section Judgement

variable {α β : Type} {P : α → Prop} {Q : β → Prop} {cs ds : List Char} {r : Read α}

theorem HasLongInteger.behind (h : HasLongInteger ds) (hds : ds <:+ cs) : HasLongInteger cs := by
  obtain ⟨run, hrun, hlong⟩ := h
  exact ⟨run, hrun.trans hds.isInfix, hlong⟩

theorem Yields.behind (h : Yields P ds r) (hds : ds <:+ cs) : Yields P cs r := by
  cases h with
  | ok ha hrest => exact .ok ha (hrest.trans hds)
  | malformed => exact .malformed
  | integer hlong => exact .integer (hlong.behind hds)

theorem Yields.map {f : α → β} (h : Yields P cs r) (hf : ∀ a, P a → Q (f a)) :
    Yields Q cs (r.map fun (a, rest) => (f a, rest)) := by
  cases h with
  | ok ha hrest => exact .ok (hf _ ha) hrest
  | malformed => exact .malformed
  | integer hlong => exact .integer hlong

theorem Yields.of_ok {a : α} {rest : List Char} (h : Yields P cs (.ok (a, rest))) : P a ∧ rest <:+ cs := by
  cases h with
  | ok ha hrest => exact ⟨ha, hrest⟩

theorem Yields.of_error {fault : Fault} (h : Yields P cs (.error fault)) : Yields Q cs (.error fault) := by
  cases h with
  | malformed => exact .malformed
  | integer hlong => exact .integer hlong

end Judgement

/-! ### Strings -/

section Strings

variable {cs : List Char}

theorem skipBlanks_suffix (cs : List Char) : skipBlanks cs <:+ cs := List.dropWhile_suffix _

theorem yields_hexChar (width : Nat) (cs : List Char) : Yields (fun _ => True) cs (hexChar width cs) := by
  unfold hexChar
  dsimp only
  split
  · exact .malformed
  · split
    · exact .malformed
    · split
      · exact .ok trivial (List.drop_suffix _ _)
      · exact .malformed

theorem yields_escape (multiline : Bool) (cs : List Char) :
    Yields (fun _ => True) cs (escape multiline cs) := by
  cases cs with
  | nil => exact .malformed
  | cons c rest =>
      have hrest : rest <:+ c :: rest := List.suffix_cons c rest
      rw [escape]
      split
      next => exact .ok trivial ((List.dropWhile_suffix _).trans hrest)
      next =>
        split
        next =>
          have hblanks := (skipBlanks_suffix rest).trans hrest
          split
          next => exact .ok trivial List.nil_suffix
          next d after hafter =>
            rw [hafter] at hblanks
            split
            next =>
              exact .ok trivial ((List.dropWhile_suffix _).trans ((List.suffix_cons d after).trans hblanks))
            next => exact .malformed
        next =>
          split
          next => exact (yields_hexChar 4 rest).behind hrest
          next =>
            split
            next => exact (yields_hexChar 8 rest).behind hrest
            next =>
              split
              next => exact .ok trivial hrest
              next => exact .malformed

theorem yields_basicRest (multiline : Bool) (fuel : Nat) (cs : List Char) :
    Yields (fun _ => True) cs (basicRest multiline fuel cs) := by
  induction fuel generalizing cs with
  | zero => exact .malformed
  | succ fuel ih =>
      cases cs with
      | nil => exact .malformed
      | cons c rest =>
          have hrest : rest <:+ c :: rest := List.suffix_cons c rest
          -- Whatever a character or escape means, the string goes on behind it.
          have hgo (before after : List Char) (hafter : after <:+ c :: rest) :
              Yields (fun _ => True) (c :: rest)
                ((basicRest multiline fuel after).map (Prod.map (before ++ ·) id)) :=
            ((ih after).map fun _ _ => trivial).behind hafter
          simp only [basicRest]
          split
          next =>
            split
            next => exact .ok trivial hrest
            next =>
              split
              next after =>
                exact .ok trivial (((List.suffix_cons _ after).trans (List.suffix_cons _ _)).trans hrest)
              next => exact hgo [c] rest hrest
          next =>
            split
            next =>
              have hescape := (yields_escape multiline rest).behind hrest
              split
              next heq =>
                rw [heq] at hescape
                exact hgo _ _ hescape.of_ok.2
              next heq =>
                rw [heq] at hescape
                exact hescape.of_error
            next =>
              split
              next => exact .malformed
              next => exact hgo [c] rest hrest

theorem yields_literalRest (cs : List Char) : Yields (fun _ => True) cs (literalRest cs) := by
  fun_induction literalRest cs with
  | case1 => exact .malformed
  | case2 rest => exact .ok trivial (List.suffix_cons _ rest)
  | case3 => exact .malformed
  | case4 c rest _ _ ih => exact (ih.map fun _ _ => trivial).behind (List.suffix_cons c rest)

theorem yields_longLiteralRest (cs : List Char) : Yields (fun _ => True) cs (longLiteralRest cs) := by
  fun_induction longLiteralRest cs with
  | case1 rest =>
      exact .ok trivial (((List.suffix_cons _ rest).trans (List.suffix_cons _ _)).trans (List.suffix_cons _ _))
  | case2 => exact .malformed
  | case3 => exact .malformed
  | case4 c rest _ _ ih => exact (ih.map fun _ _ => trivial).behind (List.suffix_cons c rest)

theorem afterFirstLineEnd_suffix (cs : List Char) : afterFirstLineEnd cs <:+ cs := by
  unfold afterFirstLineEnd
  split
  · exact List.suffix_cons _ _
  · exact List.suffix_rfl

/-- Quotes that still belong to a string leave an ending of what was behind it. -/
theorem yields_spareQuotes {r : Read (List Char)} (quote : Char) (h : Yields (fun _ => True) cs r) :
    Yields (fun _ => True) cs (r.map fun (t, after) => withSpareQuotes quote t after) := by
  cases h with
  | ok _ hrest => exact .ok trivial ((List.drop_suffix _ _).trans hrest)
  | malformed => exact .malformed
  | integer hlong => exact .integer hlong

theorem yields_string {r : Read (List Char)} (h : string? cs = some r) : Yields (fun _ => True) cs r := by
  unfold string? at h
  split at h
  next rest =>
    obtain rfl := Option.some_inj.mp h
    have hrest : rest <:+ '\x22' :: '\x22' :: '\x22' :: rest := List.suffix_append ['\x22', '\x22', '\x22'] rest
    exact (yields_spareQuotes _ (yields_basicRest _ _ _)).behind ((afterFirstLineEnd_suffix rest).trans hrest)
  next rest _ =>
    obtain rfl := Option.some_inj.mp h
    exact (yields_basicRest _ _ _).behind (List.suffix_cons _ rest)
  next rest =>
    obtain rfl := Option.some_inj.mp h
    have hrest : rest <:+ '\x27' :: '\x27' :: '\x27' :: rest := List.suffix_append ['\x27', '\x27', '\x27'] rest
    exact (yields_spareQuotes _ (yields_longLiteralRest _)).behind ((afterFirstLineEnd_suffix rest).trans hrest)
  next rest _ =>
    obtain rfl := Option.some_inj.mp h
    exact (yields_literalRest _).behind (List.suffix_cons _ rest)
  next => cases h

theorem yields_lineString {r : Read (List Char)} (h : lineString? cs = some r) :
    Yields (fun _ => True) cs r := by
  unfold lineString? at h
  split at h
  next rest =>
    obtain rfl := Option.some_inj.mp h
    exact (yields_basicRest _ _ _).behind (List.suffix_cons _ rest)
  next rest =>
    obtain rfl := Option.some_inj.mp h
    exact (yields_literalRest _).behind (List.suffix_cons _ rest)
  next => cases h

end Strings

/-! ### Numbers -/

section Numbers

variable {cs rest : List Char} {r : Read Value}

/-- Digits are read from a run of digits and underscores. -/
theorem digitTail_spec (isDigit : Char → Bool) (hsep : isDigit '_' = false) (cs : List Char) :
    ∃ run, cs = run ++ (digitTail isDigit cs).2 ∧ (∀ c ∈ run, isDigit c = true ∨ c = '_') ∧
      run.filter isDigit = (digitTail isDigit cs).1 := by
  have hcons {d : Char} (hd : isDigit d = true) {run : List Char}
      (hrun : ∀ c ∈ run, isDigit c = true ∨ c = '_') :
      ∀ c ∈ d :: run, isDigit c = true ∨ c = '_' :=
    List.forall_mem_cons.mpr ⟨Or.inl hd, hrun⟩
  fun_induction digitTail isDigit cs with
  | case1 d rest hd ds after heq ih =>
      obtain ⟨run, hcs, hrun, hds⟩ := ih
      rw [heq] at hcs hds
      refine ⟨'_' :: d :: run, by rw [hcs]; rfl, ?_, ?_⟩
      · exact List.forall_mem_cons.mpr ⟨Or.inr rfl, hcons hd hrun⟩
      · rw [List.filter_cons_of_neg (by simp [hsep]), List.filter_cons_of_pos hd, hds]
  | case2 => exact ⟨[], rfl, fun c hc => absurd hc List.not_mem_nil, rfl⟩
  | case3 d rest _ hd ds after heq ih =>
      obtain ⟨run, hcs, hrun, hds⟩ := ih
      rw [heq] at hcs hds
      refine ⟨d :: run, by rw [hcs]; rfl, hcons hd hrun, ?_⟩
      rw [List.filter_cons_of_pos hd, hds]
  | case4 => exact ⟨[], rfl, fun c hc => absurd hc List.not_mem_nil, rfl⟩
  | case5 => exact ⟨[], rfl, fun c hc => absurd hc List.not_mem_nil, rfl⟩

theorem digitRun_spec (isDigit : Char → Bool) (hsep : isDigit '_' = false) (cs : List Char) :
    ∃ run, cs = run ++ (digitRun isDigit cs).2 ∧ (∀ c ∈ run, isDigit c = true ∨ c = '_') ∧
      run.filter isDigit = (digitRun isDigit cs).1 := by
  cases cs with
  | nil => exact ⟨[], rfl, fun c hc => absurd hc List.not_mem_nil, rfl⟩
  | cons c rest =>
      rw [digitRun]
      split
      next => exact digitTail_spec isDigit hsep _
      next => exact ⟨[], rfl, fun c hc => absurd hc List.not_mem_nil, rfl⟩

theorem digitRun_suffix (isDigit : Char → Bool) (hsep : isDigit '_' = false) (cs : List Char) :
    (digitRun isDigit cs).2 <:+ cs := by
  obtain ⟨run, hcs, -, -⟩ := digitRun_spec isDigit hsep cs
  exact ⟨run, hcs.symm⟩

theorem basedInteger?_suffix {n : Nat} (h : basedInteger? cs = some (n, rest)) : rest <:+ cs := by
  unfold basedInteger? at h
  split at h
  next letter behind =>
    split at h
    next => cases h
    next base _ =>
      have hsuffix := digitRun_suffix (isDigitIn base) rfl behind
      split at h
      next => cases h
      next ds after _ heq =>
        cases h
        rw [heq] at hsuffix
        exact hsuffix.trans (List.suffix_append ['0', letter] behind)
  next => cases h

/-- The digits before the point are read from a run of digits and underscores. -/
theorem wholeDigits?_spec {whole : List Char} (h : wholeDigits? cs = some (whole, rest)) :
    ∃ run, cs = run ++ rest ∧ (∀ c ∈ run, c.isDigit = true ∨ c = '_') ∧
      run.filter Char.isDigit = whole := by
  unfold wholeDigits? at h
  split at h
  next =>
    cases h
    exact ⟨['0'], rfl, by simp, rfl⟩
  next c behind _ =>
    split at h
    next =>
      have hspec := digitRun_spec Char.isDigit rfl (c :: behind)
      rwa [Option.some_inj.mp h] at hspec
    next => cases h
  next => cases h

theorem fraction?_suffix {places : List Char} (h : fraction? cs = some (places, rest)) : rest <:+ cs := by
  unfold fraction? at h
  split at h
  next behind =>
    have hsuffix := digitRun_suffix Char.isDigit rfl behind
    split at h
    next => cases h
    next heq =>
      rw [Option.some_inj.mp h] at hsuffix
      exact hsuffix.trans (List.suffix_cons '.' behind)
  next => cases h

theorem signed_suffix (cs : List Char) : (signed cs).2 <:+ cs := by
  unfold signed
  split
  · exact List.suffix_cons _ _
  · exact List.suffix_cons _ _
  · exact List.suffix_rfl

theorem exponent?_suffix {x : Int} (h : exponent? cs = some (x, rest)) : rest <:+ cs := by
  unfold exponent? at h
  split at h
  next e behind =>
    split at h
    next =>
      split at h
      next down digits hsign =>
      have hdigits : digits <:+ behind := by
        split at hsign <;> cases hsign
        · exact List.suffix_cons _ _
        · exact List.suffix_cons _ _
        · exact List.suffix_rfl
      have hsuffix := (digitRun_suffix Char.isDigit rfl digits).trans hdigits
      split at h
      next => cases h
      next heq =>
        rw [heq] at hsuffix
        cases h
        exact hsuffix.trans (List.suffix_cons e behind)
    next => cases h
  next => cases h

/-- A number is refused only for its many digits. -/
theorem exponentOrNone_suffix (cs : List Char) :
    (match exponent? cs with
      | some (x, rest) => (some x, rest)
      | none => ((none : Option Int), cs)).2 <:+ cs := by
  split
  next hexponent => exact exponent?_suffix hexponent
  next => exact List.suffix_refl cs

theorem yields_number (h : number? cs = some r) : Yields Value.Proper cs r := by
  unfold number? at h
  split at h
  next hbased =>
    obtain rfl := Option.some_inj.mp h
    exact .ok (.scalar rfl) (basedInteger?_suffix hbased)
  next =>
    have hsigned := signed_suffix cs
    generalize signed cs = found at h hsigned
    obtain ⟨negative, unsigned⟩ := found
    dsimp only at h hsigned
    split at h
    next => cases h
    next whole afterWhole hwhole =>
      obtain ⟨run, hunsigned, hrun, hwhole⟩ := wholeDigits?_spec hwhole
      have hbehind : afterWhole <:+ unsigned := ⟨run, hunsigned.symm⟩
      have hplaces : ((fraction? afterWhole).getD ([], afterWhole)).2 <:+ unsigned := by
        cases hfraction : fraction? afterWhole with
        | none => exact hbehind
        | some found => exact (fraction?_suffix hfraction).trans hbehind
      generalize (fraction? afterWhole).getD ([], afterWhole) = found at h hplaces
      obtain ⟨places, afterPlaces⟩ := found
      dsimp only at h hplaces
      have hafter := ((exponentOrNone_suffix afterPlaces).trans hplaces).trans hsigned
      split_ifs at h with _ hlong
      · obtain rfl := Option.some_inj.mp h
        refine .integer ⟨run, ?_, hrun, hwhole ▸ hlong⟩
        exact (hunsigned ▸ (List.prefix_append run afterWhole).isInfix).trans hsigned.isInfix
      all_goals
        obtain rfl := Option.some_inj.mp h
        exact .ok (.scalar rfl) hafter

theorem special?_spec {v : Value} (h : special? cs = some (v, rest)) : v.Proper ∧ rest <:+ cs := by
  unfold special? at h
  have hsigned := signed_suffix cs
  generalize signed cs = found at h hsigned
  obtain ⟨negative, unsigned⟩ := found
  dsimp only at h hsigned
  split at h
  next behind =>
    cases h
    exact ⟨.scalar rfl, (List.suffix_append ['i', 'n', 'f'] _).trans hsigned⟩
  next behind =>
    cases h
    exact ⟨.scalar rfl, (List.suffix_append ['n', 'a', 'n'] _).trans hsigned⟩
  next => cases h

end Numbers

/-! ### Dates and times -/

section Moments

variable {cs rest : List Char}

theorem fixed?_suffix {width low high n : Nat} (h : fixed? width low high cs = some (n, rest)) :
    rest <:+ cs := by
  unfold fixed? at h
  dsimp only at h
  split at h
  next =>
    split at h
    next =>
      cases h
      exact List.drop_suffix _ _
    next => cases h
  next => cases h

theorem after?_suffix {c : Char} (h : after? c cs = some rest) : rest <:+ cs := by
  unfold after? at h
  split at h
  next =>
    split at h
    next =>
      cases h
      exact List.suffix_cons _ _
    next => cases h
  next => cases h

theorem micros?_suffix {n : Nat} (h : micros? cs = some (n, rest)) : rest <:+ cs := by
  unfold micros? at h
  split at h
  next =>
    dsimp only at h
    split at h
    next => cases h
    next =>
      cases h
      exact (List.drop_suffix _ _).trans (List.suffix_cons _ _)
  next => cases h

theorem clock?_suffix {clock : Clock} (h : clock? cs = some (clock, rest)) : rest <:+ cs := by
  simp only [clock?, Option.bind_eq_bind, Option.bind_eq_some_iff] at h
  obtain ⟨⟨_, afterHour⟩, hhour, afterColon, hcolon, ⟨_, afterMinute⟩, hminute, afterColon', hcolon',
    ⟨_, afterSecond⟩, hsecond, h⟩ := h
  have hsuffix := (fixed?_suffix hsecond).trans ((after?_suffix hcolon').trans
    ((fixed?_suffix hminute).trans ((after?_suffix hcolon).trans (fixed?_suffix hhour))))
  split at h
  next hmicros =>
    cases h
    exact (micros?_suffix hmicros).trans hsuffix
  next =>
    cases h
    exact hsuffix

theorem offset?_suffix {minutes : Int} (h : offset? cs = some (minutes, rest)) : rest <:+ cs := by
  unfold offset? at h
  split at h
  · cases h
    exact List.suffix_cons _ _
  · cases h
    exact List.suffix_cons _ _
  next sign behind _ _ =>
    split at h
    next =>
      simp only [Option.bind_eq_bind, Option.bind_eq_some_iff] at h
      obtain ⟨⟨_, afterHours⟩, hhours, afterColon, hcolon, ⟨_, afterMinutes⟩, hminutes, h⟩ := h
      cases h
      exact (fixed?_suffix hminutes).trans ((after?_suffix hcolon).trans
        ((fixed?_suffix hhours).trans (List.suffix_cons _ _)))
    next => cases h
  · cases h

theorem day?_suffix {day : Day} (h : day? cs = some (day, rest)) : rest <:+ cs := by
  simp only [day?, Option.bind_eq_bind, Option.bind_eq_some_iff] at h
  obtain ⟨⟨_, afterYear⟩, hyear, afterHyphen, hhyphen, ⟨_, afterMonth⟩, hmonth, afterHyphen', hhyphen',
    ⟨_, afterDay⟩, hday, h⟩ := h
  cases h
  exact (fixed?_suffix hday).trans ((after?_suffix hhyphen').trans
    ((fixed?_suffix hmonth).trans ((after?_suffix hhyphen).trans (fixed?_suffix hyear))))

theorem clockAfterDay?_suffix {clock : Clock} (h : clockAfterDay? cs = some (clock, rest)) :
    rest <:+ cs := by
  unfold clockAfterDay? at h
  split at h
  next =>
    split at h
    next => exact (clock?_suffix h).trans (List.suffix_cons _ _)
    next => cases h
  next => cases h

theorem yields_moment {r : Read Value} (h : moment? cs = some r) : Yields Value.Proper cs r := by
  unfold moment? at h
  split at h
  next day behind hday =>
    split at h
    next =>
      obtain rfl := Option.some_inj.mp h
      exact .malformed
    next =>
      have hbehind := day?_suffix hday
      split at h
      next =>
        obtain rfl := Option.some_inj.mp h
        exact .ok (.scalar rfl) hbehind
      next clock afterClock hclock =>
        have hafter := (clockAfterDay?_suffix hclock).trans hbehind
        split at h
        next hoffset =>
          obtain rfl := Option.some_inj.mp h
          exact .ok (.scalar rfl) ((offset?_suffix hoffset).trans hafter)
        next =>
          obtain rfl := Option.some_inj.mp h
          exact .ok (.scalar rfl) hafter
  next =>
    obtain ⟨⟨clock, after⟩, hclock, rfl⟩ := Option.map_eq_some_iff.mp h
    exact .ok (.scalar rfl) (clock?_suffix hclock)

end Moments

end LocaleCatalogue.Toml
