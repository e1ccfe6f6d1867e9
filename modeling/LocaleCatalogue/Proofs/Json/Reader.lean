import LocaleCatalogue.Proofs.Json.Standard

/-!
# Reading what JSON texts mean

The reader is standard. Each of its functions takes a text off the beginning of the input and gives
the rest back, so the induction over what texts denote speaks of a text with something behind it. The
fuel is never used up: every step down takes a character, and the fuel is more than the characters.
-/

namespace LocaleCatalogue.Json

open Written (Gap Digits decimalDigits hexDigits hexValue isReserved shorthands spaces)

/-! ## Strings -/

theorem fourDigits?_digits {digits : List (Char × Nat)} (known : ∀ d ∈ digits, d ∈ hexDigits)
    (four : digits.length = 4) (rest : List Char) :
    fourDigits? (digits.map Prod.fst ++ rest) = some (hexValue digits, rest) := by
  have hdigit : ∀ d ∈ hexDigits, (CodePoint.ofChar d.1).hexDigit? = some d.2 := by decide
  match digits, four with
  | [a, b, c, d], _ =>
      have ha := hdigit a (known a (by simp))
      have hb := hdigit b (known b (by simp))
      have hc := hdigit c (known c (by simp))
      have hd := hdigit d (known d (by simp))
      simp [fourDigits?, ha, hb, hc, hd, hexValue]

theorem pointOf_val (c : CodePoint) : pointOf c.val = c := by
  rw [pointOf, dif_pos c.isLt]

/-- A high unit and a low one behind it are read as one code point. -/
theorem escapedPoint?_pair {high low : List (Char × Nat)} (hknown : ∀ d ∈ high, d ∈ hexDigits)
    (hfour : high.length = 4) (lknown : ∀ d ∈ low, d ∈ hexDigits) (lfour : low.length = 4)
    {first second c : CodePoint} (hspells : hexValue high = first.val)
    (lspells : hexValue low = second.val) (halves : CodePoint.IsPair first second c)
    (rest : List Char) :
    escapedPoint? (high.map Prod.fst ++ '\\' :: 'u' :: (low.map Prod.fst ++ rest)) =
      some (c, rest) := by
  obtain ⟨⟨hfrom, hto⟩, ⟨lfrom, lto⟩, hc⟩ := halves
  rw [escapedPoint?, fourDigits?_digits hknown hfour, hspells]
  simp only [fourDigits?_digits lknown lfour, lspells, hfrom, hto, lfrom, lto, decide_true,
    Bool.and_self, if_true, ← hc, pointOf_val]

/-- A unit that is not the first half of a pair is read as itself. -/
theorem escapedPoint?_single {digits : List (Char × Nat)} (known : ∀ d ∈ digits, d ∈ hexDigits)
    (four : digits.length = 4) {c : CodePoint} (spells : hexValue digits = c.val) {rest : List Char}
    (hrest : c.IsHigh → ∀ more, rest = '\\' :: 'u' :: more →
      ∃ (low : CodePoint) (after : List Char), fourDigits? more = some (low.val, after) ∧ ¬ low.IsLow) :
    escapedPoint? (digits.map Prod.fst ++ rest) = some (c, rest) := by
  rw [escapedPoint?, fourDigits?_digits known four, spells]
  dsimp only
  split
  next hhigh =>
    simp only [Bool.and_eq_true, decide_eq_true_eq] at hhigh
    split
    next more =>
      obtain ⟨low, after, hmore, hlow⟩ := hrest hhigh more rfl
      rw [hmore]
      dsimp only
      rw [if_neg (by simpa [CodePoint.IsLow] using hlow), pointOf_val]
    next => rw [pointOf_val]
  next => rw [pointOf_val]

/-- What stands behind a sign does not look like the escape of a low unit unless it is one. -/
theorem low_of_escape {signs : List Sign} {after more : List Char}
    (h : signs.flatMap Sign.text ++ '\x22' :: after = '\\' :: 'u' :: more) :
    ∃ next ∈ signs.head?, ∃ rest, fourDigits? more = some (next.value.val, rest) := by
  cases signs with
  | nil => simp at h
  | cons s signs =>
      refine ⟨s, rfl, ?_⟩
      cases s with
      | plain c free =>
          obtain ⟨rfl, -⟩ := List.cons.inj h
          exact absurd free (by decide)
      | short letter c known =>
          have hletter : ∀ l ∈ letters, l.1 ≠ 'u' := by decide
          obtain ⟨-, h⟩ := List.cons.inj h
          exact absurd (List.cons.inj h).1 (hletter _ known)
      | unit digits value known four spells =>
          simp only [List.flatMap_cons, Sign.text, List.cons_append, List.append_assoc,
            List.cons.injEq, true_and] at h
          rw [← h, fourDigits?_digits known four, spells]
          exact ⟨_, rfl⟩

theorem stringRest?_plain {c : Char} (free : isReserved c = false) (fuel : Nat) (rest : List Char) :
    stringRest? (fuel + 1) (c :: rest) =
      (stringRest? fuel rest).map fun r => (CodePoint.ofChar c :: r.1, r.2) := by
  simp only [isReserved, Bool.or_eq_false_iff, decide_eq_false_iff_not] at free
  obtain ⟨⟨hquote, hslash⟩, hcontrol⟩ := free
  rw [stringRest?, if_neg (by simp [hslash, hcontrol])]
  · exact hquote
  · exact fun _ h => absurd h hslash
  · exact fun _ _ h => absurd h hslash

theorem stringRest?_short {letter c : Char} (known : (letter, c) ∈ letters) (fuel : Nat)
    (rest : List Char) :
    stringRest? (fuel + 1) ('\\' :: letter :: rest) =
      (stringRest? fuel rest).map fun r => (CodePoint.ofChar c :: r.1, r.2) := by
  have hletters : ∀ l ∈ letters, l.1 ≠ 'u' ∧ letterEscape? l.1 = some l.2 := by decide
  obtain ⟨hu, hletter⟩ := hletters _ known
  rw [stringRest?, hletter]
  exact hu

/-- A string is read as the text that its signs spell. -/
theorem stringRest?_signs {signs : List Sign} {t : Text} (h : Spells signs t) {fuel : Nat}
    (hfuel : signs.length < fuel) (after : List Char) :
    stringRest? fuel (signs.flatMap Sign.text ++ '\x22' :: after) = some (t, after) := by
  obtain ⟨fuel, rfl⟩ : ∃ n, fuel = n + 1 := ⟨fuel - 1, by omega⟩
  induction h generalizing fuel with
  | nil => rw [List.flatMap_nil, List.nil_append, stringRest?]
  | @single s signs t spells alone ih =>
      rw [List.length_cons] at hfuel
      obtain ⟨fuel, rfl⟩ : ∃ n, fuel = n + 1 := ⟨fuel - 1, by omega⟩
      have hrest := ih fuel (by omega)
      rw [List.flatMap_cons, List.append_assoc]
      cases s with
      | plain c free =>
          rw [Sign.text, List.singleton_append, stringRest?_plain free, hrest]
          rfl
      | short letter c known =>
          rw [Sign.text, List.cons_append, List.cons_append, List.nil_append,
            stringRest?_short known, hrest]
          rfl
      | unit digits value known four unit =>
          have hpoint := @escapedPoint?_single digits known four value unit
            (signs.flatMap Sign.text ++ '\x22' :: after) (by
              intro hhigh more hmore
              obtain ⟨next, hnext, rest, hfour⟩ := low_of_escape hmore
              exact ⟨next.value, rest, hfour, fun hlow => alone next hnext ⟨hhigh, hlow⟩⟩)
          rw [Sign.text, List.cons_append, List.cons_append, stringRest?, hpoint]
          dsimp only
          rw [hrest]
          rfl
  | @pair high low c signs t spells halves ih =>
      rw [List.length_cons, List.length_cons] at hfuel
      obtain ⟨fuel, rfl⟩ : ∃ n, fuel = n + 1 := ⟨fuel - 1, by omega⟩
      have hrest := ih fuel (by omega)
      rw [List.flatMap_cons, List.flatMap_cons, List.append_assoc, List.append_assoc]
      obtain ⟨digits, hknown, hfour, hspells, htext⟩ := high.exists_digits (.inl halves.1)
      obtain ⟨digits', lknown, lfour, lspells, ltext⟩ := low.exists_digits (.inr halves.2.1)
      rw [htext, ltext, List.cons_append, List.cons_append, List.cons_append, List.cons_append,
        stringRest?, escapedPoint?_pair hknown hfour lknown lfour hspells lspells halves]
      dsimp only
      rw [hrest]
      rfl


/-! ## Blanks and numbers -/

theorem skipBlanks_gap (gap : Gap) (rest : List Char) :
    skipBlanks (gap.text ++ rest) = skipBlanks rest := by
  have hspaces : ∀ c ∈ spaces, isBlank c = true := List.all_iff_forall_prop.mp (by decide)
  exact List.dropWhile_append_of_pos fun c hc => hspaces c (gap.blank c hc)

theorem skipBlanks_cons {c : Char} (hc : isBlank c = false) (rest : List Char) :
    skipBlanks (c :: rest) = c :: rest := by
  rw [skipBlanks, List.dropWhile_cons, hc, if_neg (by simp)]

/-- What may stand behind a value: nothing, a blank, a comma or a closing character. -/
def Ends (rest : List Char) : Prop := ∀ c ∈ rest.head?, c ∈ [',', ']', '\x7d'] ++ spaces

theorem ends_cons {c : Char} (hc : c ∈ [',', ']', '\x7d']) (rest : List Char) : Ends (c :: rest) := by
  rintro _ ⟨⟩
  exact List.mem_append_left _ hc

theorem ends_gap (gap : Gap) {rest : List Char} (hrest : Ends rest) : Ends (gap.text ++ rest) := by
  intro c hc
  cases htext : gap.text with
  | nil => exact hrest c (by simpa [htext] using hc)
  | cons d more =>
      rw [htext, List.cons_append, List.head?_cons, Option.mem_some_iff] at hc
      subst hc
      exact List.mem_append_right _ (gap.blank d (htext ▸ List.mem_cons_self))

/-- A run of digits is read as the number that they spell. -/
theorem digitRun_digits (d : Digits) {rest : List Char} (hrest : Ends rest) :
    digitRun (d.text ++ rest) = (valueOf d, d.text.length) := by
  have hdigits : ∀ c ∈ decimalDigits, c.isDigit = true := List.all_iff_forall_prop.mp (by decide)
  have hends : ∀ c ∈ [',', ']', '\x7d'] ++ spaces, c.isDigit = false :=
    List.all_iff_forall_prop.mp (by decide)
  have hstop : rest.takeWhile Char.isDigit = [] := by
    cases rest with
    | nil => rfl
    | cons c rest => rw [List.takeWhile_cons, hends c (hrest c rfl), if_neg (by simp)]
  have htake : (d.text ++ rest).takeWhile Char.isDigit = d.text := by
    rw [Digits.text, List.takeWhile_append_of_pos fun c hc => hdigits c (d.digits c hc), hstop,
      List.append_nil]
  rw [digitRun, htake, valueOf, Nat.ofDigitChars_eq_foldl]
  simp only [Nat.mul_comm]
  rfl

/-- Digits with a sign are read as a whole number. -/
theorem number?_digits (negative : Bool) (d : Digits) {rest : List Char} (hrest : Ends rest) :
    number? ((if negative then ['-'] else []) ++ (d.text ++ rest)) =
      some (.int (if negative then -(valueOf d : Int) else valueOf d), rest) := by
  have hplain : ∀ c ∈ [',', ']', '\x7d'] ++ spaces, c ≠ '.' ∧ c ≠ 'e' ∧ c ≠ 'E' :=
    List.all_iff_forall_prop.mp (by decide)
  have hfirst : ∀ more, d.text ++ rest = '-' :: more → False := by
    have hminus : '-' ∉ decimalDigits := by decide
    intro more heq
    exact hminus ((List.cons.inj heq).1 ▸ d.digits d.first List.mem_cons_self)
  have hlength : d.text.length ≠ 0 := by simp [Digits.text]
  cases negative with
  | true =>
      simp only [if_true, List.cons_append, List.nil_append, number?, digitRun_digits d hrest,
        if_neg hlength, List.drop_left]
      cases rest with
      | nil => rfl
      | cons c rest =>
          obtain ⟨hpoint, he, hE⟩ := hplain c (hrest c rfl)
          simp [hpoint, he, hE]
  | false =>
      rw [if_neg (by simp), List.nil_append, number?]
      · simp only [digitRun_digits d hrest, if_neg hlength, List.drop_left]
        cases rest with
        | nil => rfl
        | cons c rest =>
            obtain ⟨hpoint, he, hE⟩ := hplain c (hrest c rfl)
            simp [hpoint, he, hE]
      · exact hfirst

/-! ## Values -/

theorem value?_gap (fuel : Nat) (gap : Gap) (cs : List Char) :
    value? fuel (gap.text ++ cs) = value? fuel cs := by
  cases fuel with
  | zero => rfl
  | succ fuel => rw [value?, value?, skipBlanks_gap]

theorem value?_word {word : String} {v : Value} (known : (word, v) ∈ constants) (fuel : Nat)
    (rest : List Char) : value? (fuel + 1) (word.toList ++ rest) = some (v, rest) := by
  simp only [constants, List.mem_cons, Prod.mk.injEq, List.not_mem_nil, or_false] at known
  rcases known with ⟨rfl, rfl⟩ | ⟨rfl, rfl⟩ | ⟨rfl, rfl⟩ <;> rfl

theorem value?_number {c : Char} (hc : c ∈ '-' :: decimalDigits) (fuel : Nat) (rest : List Char) :
    value? (fuel + 1) (c :: rest) = number? (c :: rest) := by
  have hblank : ∀ c ∈ '-' :: decimalDigits, isBlank c = false ∧
      c ∉ ['\x22', '[', '\x7b', 't', 'f', 'n'] := List.all_iff_forall_prop.mp (by decide)
  obtain ⟨hblank, hother⟩ := hblank c hc
  simp only [List.mem_cons, List.not_mem_nil, or_false, not_or] at hother
  rw [value?, skipBlanks_cons hblank]
  split <;> simp_all

theorem value?_quote (fuel : Nat) (rest : List Char) :
    value? (fuel + 1) ('\x22' :: rest) =
      (stringRest? rest.length rest).map fun r => (.text r.1, r.2) := rfl

theorem value?_bracket (fuel : Nat) (rest : List Char) :
    value? (fuel + 1) ('[' :: rest) =
      match skipBlanks rest with
      | ']' :: after => some (.list [], after)
      | _ => (items? fuel rest).map fun r => (.list r.1, r.2) := rfl

theorem value?_brace (fuel : Nat) (rest : List Char) :
    value? (fuel + 1) ('\x7b' :: rest) =
      match skipBlanks rest with
      | '\x7d' :: after => some (.table [], after)
      | _ => (members? fuel rest).map fun r => (.table r.1, r.2) := rfl

/-- A text that denotes a value begins with a character that is no blank and closes nothing. -/
theorem Denotes.exists_head {cs : List Char} {v : Value} (h : Denotes cs v) :
    ∃ c ∈ Written.beginnings, ∃ more, cs = c :: more := by
  cases h with
  | constant known =>
      simp only [constants, List.mem_cons, Prod.mk.injEq, List.not_mem_nil, or_false] at known
      rcases known with ⟨rfl, -⟩ | ⟨rfl, -⟩ | ⟨rfl, -⟩ <;> exact ⟨_, by decide, _, rfl⟩
  | natural d plain =>
      exact ⟨d.first, List.mem_append_left _ (d.digits _ List.mem_cons_self), _, rfl⟩
  | _ => exact ⟨_, by decide, _, rfl⟩

theorem Denotes.skipBlanks_append {cs : List Char} {v : Value} (h : Denotes cs v) (gap : Gap)
    (rest : List Char) :
    ∃ c ∈ Written.beginnings, ∃ more, skipBlanks (gap.text ++ (cs ++ rest)) = c :: more := by
  have hblank : ∀ c ∈ Written.beginnings, isBlank c = false := List.all_iff_forall_prop.mp (by decide)
  obtain ⟨c, hc, more, rfl⟩ := h.exists_head
  exact ⟨c, hc, more ++ rest, by rw [skipBlanks_gap, List.cons_append, skipBlanks_cons (hblank c hc)]⟩

/-- A bracket with an item behind it opens a list that is not empty. -/
theorem value?_items {cs : List Char} {vs : List Value} (h : DenoteItems cs vs) (fuel : Nat)
    (rest : List Char) :
    value? (fuel + 1) ('[' :: (cs ++ rest)) =
      (items? fuel (cs ++ rest)).map fun r => (.list r.1, r.2) := by
  have hclosing : ∀ c ∈ Written.beginnings, c ≠ ']' := List.all_iff_forall_prop.mp (by decide)
  obtain ⟨c, hc, more, hcs⟩ : ∃ c ∈ Written.beginnings, ∃ more, skipBlanks (cs ++ rest) = c :: more := by
    cases h with
    | last before item after =>
        rw [List.append_assoc, List.append_assoc]
        exact item.skipBlanks_append before _
    | more before item after next =>
        rw [List.append_assoc, List.append_assoc, List.append_assoc]
        exact item.skipBlanks_append before _
  rw [value?_bracket, hcs]
  split
  next heq => exact absurd (List.cons.inj heq).1 (hclosing c hc)
  next => rfl

theorem DenotesMember.skipBlanks_append {cs : List Char} {e : Text × Value} (h : DenotesMember cs e)
    (rest : List Char) : ∃ more, skipBlanks (cs ++ rest) = '\x22' :: more := by
  obtain ⟨before, spells, beforeColon, afterColon, value, after⟩ := h
  simp only [List.append_assoc]
  rw [skipBlanks_gap, quotedSigns, List.cons_append, List.cons_append, skipBlanks_cons (by decide)]
  exact ⟨_, rfl⟩

/-- A brace with a member behind it opens a table that is not empty. -/
theorem value?_members {cs : List Char} {entries : List (Text × Value)} (h : DenoteMembers cs entries)
    (fuel : Nat) (rest : List Char) :
    value? (fuel + 1) ('\x7b' :: (cs ++ rest)) =
      (members? fuel (cs ++ rest)).map fun r => (.table r.1, r.2) := by
  obtain ⟨more, hcs⟩ : ∃ more, skipBlanks (cs ++ rest) = '\x22' :: more := by
    cases h with
    | last entry => exact entry.skipBlanks_append rest
    | more entry next =>
        rw [List.append_assoc]
        exact entry.skipBlanks_append _
  rw [value?_brace, hcs]
  rfl

/-- A string is read with as much fuel as there are characters behind its opening quote. -/
theorem stringRest?_spelled {signs : List Sign} {t : Text} (h : Spells signs t) (after : List Char) :
    stringRest? (signs.flatMap Sign.text ++ '\x22' :: after).length
      (signs.flatMap Sign.text ++ '\x22' :: after) = some (t, after) := by
  have hlength : signs.length ≤ (signs.flatMap Sign.text).length := by
    clear h
    induction signs with
    | nil => exact Nat.le_refl 0
    | cons s signs ih =>
        have hsign : 1 ≤ s.text.length := by cases s <;> simp [Sign.text]
        rw [List.flatMap_cons, List.length_append, List.length_cons]
        omega
  exact stringRest?_signs h (by rw [List.length_append, List.length_cons]; omega) after

theorem items?_step (before after : Gap) {cs : List Char} {v : Value} {fuel : Nat} {rest : List Char}
    (hread : value? fuel (cs ++ (after.text ++ rest)) = some (v, after.text ++ rest)) :
    items? (fuel + 1) (before.text ++ (cs ++ (after.text ++ rest))) =
      match skipBlanks rest with
      | ',' :: more => (items? fuel more).map fun r => (v :: r.1, r.2)
      | ']' :: after => some ([v], after)
      | _ => none := by
  rw [items?, value?_gap, hread]
  exact skipBlanks_gap after rest ▸ rfl

mutual

/-- The text of a value is read as the value, whatever ends it. -/
theorem value?_denoted {cs : List Char} {v : Value} (h : Denotes cs v) {fuel : Nat}
    (hfuel : cs.length < fuel) {rest : List Char} (hrest : Ends rest) :
    value? fuel (cs ++ rest) = some (v, rest) := by
  obtain ⟨fuel, rfl⟩ : ∃ n, fuel = n + 1 := ⟨fuel - 1, by omega⟩
  match h with
  | .constant known => exact value?_word known fuel rest
  | .natural d plain =>
      have hdigits := number?_digits false d hrest
      have hfirst := d.digits d.first List.mem_cons_self
      exact (value?_number (List.mem_cons_of_mem _ hfirst) fuel _).trans hdigits
  | .negative d plain =>
      have hdigits := number?_digits true d hrest
      exact (value?_number List.mem_cons_self fuel _).trans hdigits
  | .text spells =>
      rw [quotedSigns, List.cons_append, List.cons_append, value?_quote, List.append_assoc,
        List.singleton_append, stringRest?_spelled spells]
      rfl
  | .emptyList gap =>
      rw [List.cons_append, List.cons_append, List.append_assoc, value?_bracket, skipBlanks_gap,
        List.singleton_append, skipBlanks_cons (by decide)]
      rfl
  | .list items =>
      simp only [List.length_cons, List.length_append] at hfuel
      rw [List.cons_append, List.cons_append, List.append_assoc, List.singleton_append,
        value?_items items, items?_denoted items (by omega)]
      rfl
  | .emptyTable gap =>
      rw [List.cons_append, List.cons_append, List.append_assoc, value?_brace, skipBlanks_gap,
        List.singleton_append, skipBlanks_cons (by decide)]
      rfl
  | .table members once =>
      simp only [List.length_cons, List.length_append] at hfuel
      rw [List.cons_append, List.cons_append, List.append_assoc, List.singleton_append,
        value?_members members, members?_denoted members (by omega)]
      rfl

/-- The items of a list are read up to the closing bracket. -/
theorem items?_denoted {cs : List Char} {vs : List Value} (h : DenoteItems cs vs) {fuel : Nat}
    (hfuel : cs.length + 1 < fuel) (rest : List Char) :
    items? fuel (cs ++ ']' :: rest) = some (vs, rest) := by
  obtain ⟨fuel, rfl⟩ : ∃ n, fuel = n + 1 := ⟨fuel - 1, by omega⟩
  match h with
  | .last before item after =>
      simp only [List.length_append] at hfuel
      rw [List.append_assoc, List.append_assoc, items?_step before after
        (value?_denoted item (by omega) (ends_gap after (ends_cons (by decide) _))),
        skipBlanks_cons (by decide)]
      rfl
  | .more before item after next =>
      simp only [List.length_append, List.length_cons] at hfuel
      rw [List.append_assoc, List.append_assoc, List.append_assoc, List.cons_append,
        items?_step before after
          (value?_denoted item (by omega) (ends_gap after (ends_cons (by decide) _))),
        skipBlanks_cons (by decide)]
      exact congrArg (Option.map _) (items?_denoted next (by omega) rest)

/-- A member is read up to what stands behind its value. -/
theorem members?_denotedMember {cs : List Char} {e : Text × Value} (h : DenotesMember cs e) {fuel : Nat}
    (hfuel : cs.length < fuel) {rest : List Char} (hrest : Ends rest) :
    members? (fuel + 1) (cs ++ rest) =
      match skipBlanks rest with
      | ',' :: more => (members? fuel more).map fun r => (e :: r.1, r.2)
      | '\x7d' :: after => some ([e], after)
      | _ => none := by
  match h with
  | @DenotesMember.mk signs name cs v before spells beforeColon afterColon value after =>
      simp only [List.length_append, List.length_cons] at hfuel
      simp only [List.append_assoc, List.cons_append]
      have hname := stringRest?_spelled spells
      have hcolon : ∀ more, skipBlanks (':' :: more) = ':' :: more := skipBlanks_cons (by decide)
      have hvalue : value? fuel (cs ++ (after.text ++ rest)) = _ :=
        value?_denoted value (by omega) (ends_gap after hrest)
      rw [members?, skipBlanks_gap, quotedSigns, List.cons_append, List.cons_append, List.append_assoc,
        List.singleton_append, skipBlanks_cons (by decide)]
      simp only [hname, skipBlanks_gap beforeColon, hcolon, value?_gap, hvalue]
      exact skipBlanks_gap after rest ▸ rfl

/-- The members of a table are read up to the closing brace. -/
theorem members?_denoted {cs : List Char} {entries : List (Text × Value)}
    (h : DenoteMembers cs entries) {fuel : Nat} (hfuel : cs.length + 1 < fuel) (rest : List Char) :
    members? fuel (cs ++ '\x7d' :: rest) = some (entries, rest) := by
  obtain ⟨fuel, rfl⟩ : ∃ n, fuel = n + 1 := ⟨fuel - 1, by omega⟩
  match h with
  | .last entry =>
      rw [members?_denotedMember entry (by omega) (ends_cons (by decide) rest),
        skipBlanks_cons (by decide)]
      rfl
  | .more entry next =>
      simp only [List.length_append, List.length_cons] at hfuel
      rw [List.append_assoc, List.cons_append,
        members?_denotedMember entry (by omega) (ends_cons (by decide) _), skipBlanks_cons (by decide)]
      exact congrArg (Option.map _) (members?_denoted next (by omega) rest)

end

/-- The reader is standard. -/
theorem isStandard_read? : IsStandard read? := by
  intro before cs after v h
  have hends : Ends (after.text ++ []) := ends_gap after (by rintro _ ⟨⟩)
  rw [List.append_nil] at hends
  have hread := @value?_denoted cs v h ((before.text ++ cs ++ after.text).length + 1)
    (by simp only [List.length_append]; omega) after.text hends
  have hafter := skipBlanks_gap after []
  rw [List.append_nil] at hafter
  rw [List.append_assoc] at hread ⊢
  rw [read?, value?_gap, hread]
  dsimp only
  rw [hafter]
  rfl

end LocaleCatalogue.Json
