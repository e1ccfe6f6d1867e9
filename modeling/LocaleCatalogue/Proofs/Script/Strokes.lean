import Mathlib.Data.List.Chain
import Mathlib.Data.List.TakeWhile
import LocaleCatalogue.Proofs.Script.Literals
import LocaleCatalogue.Proofs.Script.Spacing
import LocaleCatalogue.Proofs.Text.Hexadecimal

/-!
# String literals stroke by stroke

A string literal is written in strokes: characters as they are, escapes, and line ends behind a
backslash, which stand for nothing. The parser cuts the strokes into stretches of bare ones and
single escapes, so they are followed in these steps rather than one by one. A line separator behind
some strokes is taken into their escape, and behind a carriage return it is lost there; what is heard
of a literal says so.
-/

namespace LocaleCatalogue

/-! ## Strokes -/

namespace Written

open Script (isPlain)

/-- The letters that stand for a control character behind a backslash. -/
def controls : List (Char × Char) :=
  [('n', '\n'), ('t', '\t'), ('r', '\r'), ('b', '\x08'), ('f', '\x0C'), ('v', '\x0B')]

/-- The digits that go on an octal escape. -/
def isOctal (c : Char) : Bool := '0' ≤ c && c ≤ '7'

/-- The characters that do not stand for themselves behind a backslash. -/
def isMeaningful (c : Char) : Bool :=
  ['\x00', 'x', 'u'].contains c || isOctal c || (controls.map Prod.fst).contains c
    || Script.Lexeme.isLineEnd c

/-- The line ends that can stand behind a backslash. -/
def brokenLines : List (List Char) := [['\n'], ['\r'], ['\r', '\n'], ['\u2028'], ['\u2029']]

/-- The line ends that a literal holds as they are. -/
def lineSeparators : List Char := ['\u2028', '\u2029']

/-- The ways to write a code point in hexadecimal: two digits, four digits, and any number of digits
in braces. -/
inductive Coding where
  | two
  | four
  | braced
deriving DecidableEq

/-- What stands between the backslash and the digits. -/
def Coding.opening : Coding → List Char
  | .two => ['x']
  | .four => ['u']
  | .braced => ['u', '\x7b']

/-- What stands behind the digits. -/
def Coding.closing : Coding → List Char
  | .braced => ['\x7d']
  | _ => []

/-- Whether a code point can have that many digits. -/
def Coding.Takes : Coding → Nat → Prop
  | .two, n => n = 2
  | .four, n => n = 4
  | .braced, n => n ≠ 0

theorem Coding.Takes.ne_nil {coding : Coding} {digits : List (Char × Nat)}
    (h : coding.Takes digits.length) : digits ≠ [] := by
  rintro rfl
  cases coding with
  | two | four => cases h
  | braced => exact h rfl

/-- Digits behind a backslash, as a coding has them. -/
def Coding.escape (coding : Coding) (digits : List (Char × Nat)) : List Char :=
  '\\' :: (coding.opening ++ digits.map Prod.fst ++ coding.closing)

/-- One stroke of a literal in the given quotes: a character as it is, a letter for a control
character, the digit for the null character, a code point, a character that a backslash does not
change, or a line end that is left out. -/
inductive Stroke (quote : Char) where
  | bare (c : Char) (plain : isPlain quote c = true)
  | control (letter c : Char) (known : (letter, c) ∈ controls)
  | null
  | coded (coding : Coding) (digits : List (Char × Nat)) (c : Char)
      (known : ∀ d ∈ digits, d ∈ hexDigits) (enough : coding.Takes digits.length)
      (spells : hexValue digits = c.toNat)
  | itself (c : Char) (free : isMeaningful c = false)
  | broken (line : List Char) (known : line ∈ brokenLines)

variable {quote : Char}

namespace Stroke

/-- The characters that a stroke is written with. -/
def text : Stroke quote → List Char
  | .bare c _ => [c]
  | .control letter _ _ => ['\\', letter]
  | .null => ['\\', '0']
  | .coded coding digits _ _ _ _ =>
    '\\' :: (coding.opening ++ digits.map Prod.fst ++ coding.closing)
  | .itself c _ => ['\\', c]
  | .broken line _ => '\\' :: line

/-- The characters that a stroke stands for. -/
def value : Stroke quote → List Char
  | .bare c _ => [c]
  | .control _ c _ => [c]
  | .null => ['\x00']
  | .coded _ _ c _ _ _ => [c]
  | .itself c _ => [c]
  | .broken _ _ => []

/-- Strokes without a backslash. -/
def isBare : Stroke quote → Bool
  | .bare _ _ => true
  | _ => false

/-- Bare strokes that end a line. -/
def isSeparator : Stroke quote → Bool
  | .bare c _ => lineSeparators.contains c
  | _ => false

/-- Strokes that take a separator behind them away. -/
def cuts : Stroke quote → Bool
  | .broken line _ => line = ['\r']
  | _ => false

/-- Strokes that have a separator behind them in their escape. -/
def joins : Stroke quote → Bool
  | .itself c _ => c = '?'
  | s => s.cuts

/-- The second stroke can stand behind the first: the escape of the null character would go on with
an octal digit. -/
def Precedes : Stroke quote → Stroke quote → Prop
  | .null, t => ∀ c ∈ t.text.head?, isOctal c = false
  | _, _ => True

instance : (s t : Stroke quote) → Decidable (s.Precedes t)
  | .null, t => decidable_of_iff (t.text.head?.all (!isOctal ·) = true) (by
      simp only [Precedes, Option.all_eq_true, Option.mem_def, Bool.not_eq_true'])
  | .bare .., _ | .control .., _ | .coded .., _ | .itself .., _ | .broken .., _ => isTrue trivial

end Stroke

/-- Strokes in their quotes. -/
def literal (strokes : List (Stroke quote)) : List Char :=
  quote :: strokes.flatMap Stroke.text ++ [quote]

/-- What is left of strokes if a separator is lost at their beginning and behind every stroke that
takes it away. -/
def heard : (cut : Bool) → List (Stroke quote) → List Char
  | _, [] => []
  | cut, s :: rest => (if cut && s.isSeparator then [] else s.value) ++ heard s.cuts rest

/-- No separator stands behind a stroke that takes it away. -/
def KeepsSeparators (strokes : List (Stroke quote)) : Prop :=
  strokes.IsChain fun s t => s.cuts = true → t.isSeparator = false

theorem heard_of_not_separator {strokes : List (Stroke quote)} {cut : Bool}
    (h : cut = true → ∀ t ∈ strokes.head?, t.isSeparator = false) :
    heard cut strokes = heard false strokes := by
  cases strokes with
  | nil => rfl
  | cons t rest =>
      cases cut with
      | false => rfl
      | true => rw [heard, heard, h rfl t rfl, Bool.and_false, Bool.and_false]

theorem heard_length_le (cut : Bool) (strokes : List (Stroke quote)) :
    (heard cut strokes).length ≤ (strokes.flatMap Stroke.value).length := by
  induction strokes generalizing cut with
  | nil => exact Nat.le_refl _
  | cons s rest ih =>
      have hrest := ih s.cuts
      rw [heard, List.flatMap_cons, List.length_append, List.length_append]
      split
      · rw [List.length_nil]
        omega
      · omega

theorem Stroke.value_ne_nil_of_separator {s : Stroke quote} (h : s.isSeparator = true) :
    s.value ≠ [] := by
  cases s with
  | bare c plain => exact List.cons_ne_nil _ _
  | control | null | coded | itself | broken => cases h

/-- What is heard of strokes is what they stand for exactly if no separator is lost. -/
theorem heard_eq_value_iff {cut : Bool} {strokes : List (Stroke quote)} :
    heard cut strokes = strokes.flatMap Stroke.value ↔
      (cut = true → ∀ t ∈ strokes.head?, t.isSeparator = false) ∧ KeepsSeparators strokes := by
  induction strokes generalizing cut with
  | nil => simp [heard, KeepsSeparators]
  | cons s rest ih =>
      rw [heard, List.flatMap_cons, KeepsSeparators, List.isChain_cons]
      by_cases hlost : (cut && s.isSeparator) = true
      · rw [if_pos hlost, List.nil_append]
        rw [Bool.and_eq_true] at hlost
        constructor
        · intro hheard
          have hlength := congrArg List.length hheard
          have hle := heard_length_le s.cuts rest
          have hpos := List.length_pos_iff.mpr (Stroke.value_ne_nil_of_separator hlost.2)
          rw [List.length_append] at hlength
          omega
        · rintro ⟨hkept, -⟩
          have hnot := hkept hlost.1 s rfl
          rw [hlost.2] at hnot
          cases hnot
      · rw [if_neg hlost, List.append_cancel_left_eq, ih, KeepsSeparators]
        constructor
        · rintro ⟨hnext, hrest⟩
          refine ⟨fun hcut t ht => ?_, fun t ht hs => hnext hs t ht, hrest⟩
          cases ht
          simpa [hcut] using hlost
        · rintro ⟨-, hnext, hrest⟩
          exact ⟨fun hs t ht => hnext t ht hs, hrest⟩

end Written

namespace Script

open LocaleCatalogue.Script.Parser
open Written

variable {text : List Char} {quote : Char} {c d e : Cursor}

/-! ## Escapes -/

theorem Lexeme.escape_coded {coding : Coding} {digits : List (Char × Nat)}
    (hdigits : ∀ d ∈ digits, d ∈ Written.hexDigits) (htakes : coding.Takes digits.length)
    (rest : List Char) :
    escape (coding.escape digits ++ rest) = some (coding.escape digits).length := by
  have hlength : (coding.escape digits).length =
      coding.opening.length + digits.length + coding.closing.length + 1 := by
    simp only [Coding.escape, List.length_cons, List.length_append, List.length_map]
  rw [hlength]
  have hall : ∀ d ∈ Written.hexDigits, isHex d.1 = true ∧ d.1 ≠ '\x7b' := by decide
  have hexact (n : Nat) (hn : digits.length = n) :
      hexDigits n (digits.map Prod.fst ++ rest) = some n := by
    have htake : (digits.map Prod.fst ++ rest).take n = digits.map Prod.fst :=
      List.take_left' (by rw [List.length_map, hn])
    rw [hexDigits, htake, if_pos]
    simp only [List.length_map, hn, List.all_map, Bool.and_eq_true, decide_eq_true_eq,
      List.all_eq_true, true_and]
    exact fun d hd => (hall d (hdigits d hd)).1
  cases coding with
  | two =>
      change (hexDigits 2 (digits.map Prod.fst ++ [] ++ rest)).map (· + 2) = _
      rw [List.append_nil, hexact 2 htakes, htakes]
      rfl
  | four =>
      obtain ⟨d, ds, rfl⟩ := List.exists_cons_of_length_eq_add_one htakes
      have hhex := hexact 4 htakes
      change unicodeEscape ('\\' :: 'u' :: d.1 :: (ds.map Prod.fst ++ [] ++ rest)) = _
      rw [unicodeEscape_cons (hall d (hdigits d List.mem_cons_self)).2, List.append_nil]
      rw [List.map_cons, List.cons_append] at hhex
      rw [hhex, htakes]
      rfl
  | braced =>
      have hrun : run isHex (digits.map Prod.fst ++ '\x7d' :: rest) = digits.length := by
        rw [run_append (p := isHex), List.length_map]
        · intro y hy
          obtain ⟨d, hd, rfl⟩ := List.mem_map.mp hy
          exact (hall d (hdigits d hd)).1
        · rintro y ⟨⟩
          decide
      change (bracedHex (digits.map Prod.fst ++ ['\x7d'] ++ rest)).map (· + 3) = _
      have hbrace : (digits.map Prod.fst ++ '\x7d' :: rest)[digits.length]? = some '\x7d' := by
        rw [List.getElem?_append_right (by rw [List.length_map]), List.length_map, Nat.sub_self]
        rfl
      have hne : digits.length ≠ 0 := htakes
      rw [List.append_assoc, List.singleton_append, bracedHex, hrun, hbrace, if_pos (by simpa using hne)]
      simp only [Option.map_some, Coding.opening, Coding.closing, List.length_cons, List.length_nil]
      congr 1
      omega

/-- A stroke behind a backslash is one escape. An octal digit would go on the null character, and a
line end would join some strokes. -/
theorem Lexeme.escape_stroke {s : Stroke quote} (hbare : s.isBare = false) {rest : List Char}
    (hoctal : s = .null → ∀ y ∈ rest.head?, isOctal y = false)
    (hjoins : s.joins = true → ∀ y ∈ rest.head?, y ∉ secondLineEnds) :
    escape (s.text ++ rest) = some s.text.length := by
  cases s with
  | bare c plain => cases hbare
  | control letter c known =>
      have hletters : ∀ s ∈ controls, s.1 ≠ 'x' ∧ s.1 ≠ 'u' ∧ s.1 ∉ pairing ∧ s.1 ≠ '\x00' ∧
          ('0' ≤ s.1 && s.1 ≤ '7') = false := by decide
      obtain ⟨hx, hu, hpair, hnul, hoctal⟩ := hletters _ known
      change escape ('\\' :: letter :: rest) = _
      rw [escape_other hx hu fun h => absurd h hpair, if_neg hnul, if_neg (by rw [hoctal]; simp)]
      rfl
  | null =>
      change escape ('\\' :: '0' :: rest) = _
      have hrun : run (fun d => '0' ≤ d && d ≤ '7') rest = 0 := by
        have h := @run_append (fun d => '0' ≤ d && d ≤ '7') [] rest (by simp) (hoctal rfl)
        rwa [List.nil_append, List.length_nil] at h
      rw [escape_other (by decide) (by decide) fun h => absurd h (by decide), if_neg (by decide),
        if_pos (by decide), hrun]
      rfl
  | coded coding digits c known enough spells => exact escape_coded known enough rest
  | itself c free =>
      have hfree := free
      simp only [isMeaningful, Bool.or_eq_false_iff] at hfree
      obtain ⟨⟨⟨hfirst, hoctal⟩, -⟩, hline⟩ := hfree
      simp only [List.contains_eq_mem, decide_eq_false_iff_not, List.mem_cons, List.not_mem_nil,
        or_false, not_or] at hfirst
      obtain ⟨hnul, hx, hu⟩ := hfirst
      change escape ('\\' :: c :: rest) = _
      rw [escape_other hx hu, if_neg hnul, if_neg (by rw [← isOctal, hoctal]; simp)]
      · rfl
      · intro hpair y ys hrest
        have hjoined : (Stroke.itself c free : Stroke quote).joins = true := by
          simp only [pairing, List.mem_cons, List.not_mem_nil, or_false] at hpair
          rcases hpair with rfl | rfl
          · cases hline
          · rfl
        exact hjoins hjoined y (by rw [hrest]; rfl)
  | broken line known =>
      simp only [brokenLines, List.mem_cons, List.not_mem_nil, or_false] at known
      rcases known with rfl | rfl | rfl | rfl | rfl
      · exact escape_other (by decide) (by decide) fun h => absurd h (by decide)
      · change escape ('\\' :: '\r' :: rest) = _
        rw [escape_other (by decide) (by decide) fun _ y ys hrest => hjoins rfl y (by rw [hrest]; rfl)]
        rfl
      · exact escape_pair (by decide) (by decide) rest
      · exact escape_other (by decide) (by decide) fun h => absurd h (by decide)
      · exact escape_other (by decide) (by decide) fun h => absurd h (by decide)

/-- A stroke and the separator that it has in its escape. -/
theorem exists_joined {s t : Stroke quote} (hs : s.joins = true) (ht : t.isSeparator = true) :
    ∃ first ∈ Lexeme.pairing, ∃ second ∈ lineSeparators, s.text = ['\\', first] ∧ t.text = [second] ∧
      heard false [s, t] = if first = '\r' then [] else [first, second] := by
  cases t with
  | bare y plain =>
      have hy : y ∈ lineSeparators := by simpa [Stroke.isSeparator] using ht
      cases s with
      | itself x free =>
          obtain rfl : x = '?' := by simpa [Stroke.joins] using hs
          exact ⟨'?', by decide, y, hy, rfl, rfl, rfl⟩
      | broken line known =>
          obtain rfl : line = ['\r'] := by simpa [Stroke.joins, Stroke.cuts] using hs
          refine ⟨'\r', by decide, y, hy, rfl, rfl, ?_⟩
          simp [heard, Stroke.cuts, Stroke.isSeparator, Stroke.value, hy]
      | bare | control | null | coded => cases hs
  | control | null | coded | itself | broken => cases ht

/-- Whatever the coding, its digits are looked up as a code point. -/
theorem decodeEscape_digits {coding : Coding} {digits : List (Char × Nat)}
    (hdigits : ∀ d ∈ digits, d ∈ Written.hexDigits) (htakes : coding.Takes digits.length) :
    Syntax.Literal.decodeEscape (Text.ofChars (coding.escape digits)) =
      Syntax.Literal.codePoint (Text.ofChars (digits.map Prod.fst))
        (Text.ofChars (coding.escape digits)) := by
  cases coding with
  | two =>
      simp only [Coding.escape, Coding.opening, Coding.closing, List.append_nil]
      rfl
  | four =>
      have hbrace : ∀ rest, Text.ofChars (digits.map Prod.fst) = 0x7B :: rest → False := by
        have hall : ∀ d ∈ Written.hexDigits, CodePoint.ofChar d.1 ≠ 0x7B := by decide
        intro rest h
        obtain ⟨d, ds, rfl⟩ := List.exists_cons_of_ne_nil htakes.ne_nil
        exact hall d (hdigits d List.mem_cons_self) (List.cons.inj h).1
      have htail : (Text.ofChars ('\\' :: 'u' :: digits.map Prod.fst)).tail =
          0x75 :: Text.ofChars (digits.map Prod.fst) := rfl
      simp only [Coding.escape, Coding.opening, Coding.closing, List.append_nil, List.cons_append,
        List.nil_append]
      rw [Syntax.Literal.decodeEscape, htail]
      dsimp only
      rw [if_neg (by decide), if_pos rfl]
      split
      next rest hopened => exact (hbrace rest hopened).elim
      · rfl
  | braced =>
      have hlast : (Text.ofChars (digits.map Prod.fst ++ ['\x7d'])).dropLast =
          Text.ofChars (digits.map Prod.fst) := by
        rw [Text.ofChars_append]
        exact List.dropLast_concat
      change Syntax.Literal.codePoint
        (Text.ofChars (digits.map Prod.fst ++ ['\x7d'])).dropLast _ = _
      rw [hlast]

/-- Digits in a coding stand for the code point that they spell, which may be a surrogate. -/
theorem decodeEscape_coding {coding : Coding} {digits : List (Char × Nat)} {c : CodePoint}
    (hdigits : ∀ d ∈ digits, d ∈ Written.hexDigits) (htakes : coding.Takes digits.length)
    (hc : hexValue digits = c.val) :
    Syntax.Literal.decodeEscape (Text.ofChars (coding.escape digits)) = .ok [c] := by
  have hlt : hexValue digits < 0x110000 := hc ▸ c.isLt
  obtain rfl : c = ⟨hexValue digits, hlt⟩ := Fin.ext hc.symm
  rw [decodeEscape_digits hdigits htakes, Syntax.Literal.codePoint_digits hdigits htakes.ne_nil,
    dif_pos hlt]

theorem decodeEscape_itself {c : Char} (h : isMeaningful c = false) :
    Syntax.Literal.decodeEscape (Text.ofChars ['\\', c]) = .ok (Text.ofChars [c]) := by
  have hne : ∀ y : Char, isMeaningful y = true → CodePoint.ofChar c ≠ CodePoint.ofChar y := by
    intro y hy hsame
    rw [CodePoint.ofChar_injective hsame, hy] at h
    cases h
  have hend : Syntax.Literal.isContinuation (CodePoint.ofChar c) = false := by
    simp only [Syntax.Literal.isContinuation, Bool.or_eq_false_iff, decide_eq_false_iff_not]
    exact ⟨⟨⟨hne '\n' rfl, hne '\r' rfl⟩, hne '\u2028' rfl⟩, hne '\u2029' rfl⟩
  have hsimple : Syntax.Literal.simpleEscape [CodePoint.ofChar c] = [CodePoint.ofChar c] := by
    unfold Syntax.Literal.simpleEscape
    split
    next heq => exact absurd (List.cons.inj heq).1 (hne 'n' rfl)
    next heq => exact absurd (List.cons.inj heq).1 (hne 't' rfl)
    next heq => exact absurd (List.cons.inj heq).1 (hne 'r' rfl)
    next heq => exact absurd (List.cons.inj heq).1 (hne 'b' rfl)
    next heq => exact absurd (List.cons.inj heq).1 (hne 'f' rfl)
    next heq => exact absurd (List.cons.inj heq).1 (hne 'v' rfl)
    next heq => exact absurd (List.cons.inj heq).1 (hne '0' rfl)
    next => rfl
  have hu : CodePoint.ofChar c ≠ 0x75 := hne 'u' rfl
  have hx : CodePoint.ofChar c ≠ 0x78 := hne 'x' rfl
  have htail : (Text.ofChars ['\\', c]).tail = [CodePoint.ofChar c] := rfl
  rw [Syntax.Literal.decodeEscape, htail]
  dsimp only
  rw [hend, if_neg (by decide), if_neg hu, if_neg hx, hsimple]
  rfl

theorem decodeEscape_stroke {s : Stroke quote} (hbare : s.isBare = false) :
    Syntax.Literal.decodeEscape (Text.ofChars s.text) = .ok (Text.ofChars s.value) := by
  cases s with
  | bare c plain => cases hbare
  | control letter c known =>
      have hall : ∀ s ∈ controls,
          Syntax.Literal.decodeEscape (Text.ofChars ['\\', s.1]) = .ok (Text.ofChars [s.2]) := by
        simp only [controls, List.forall_mem_cons]
        exact ⟨rfl, rfl, rfl, rfl, rfl, rfl, nofun⟩
      exact hall _ known
  | null => rfl
  | coded coding digits c known enough spells =>
      exact @decodeEscape_coding coding digits (CodePoint.ofChar c) known enough spells
  | itself c free => exact decodeEscape_itself free
  | broken line known =>
      simp only [brokenLines, List.mem_cons, List.not_mem_nil, or_false] at known
      rcases known with rfl | rfl | rfl | rfl | rfl <;> rfl

theorem decodeEscape_joined {s t : Stroke quote} (hs : s.joins = true) (ht : t.isSeparator = true) :
    Syntax.Literal.decodeEscape (Text.ofChars (s.text ++ t.text)) =
      .ok (Text.ofChars (heard false [s, t])) := by
  obtain ⟨first, hfirst, second, hsecond, hstext, httext, hheard⟩ := exists_joined hs ht
  rw [hstext, httext, hheard]
  simp only [Lexeme.pairing, lineSeparators, List.mem_cons, List.not_mem_nil, or_false] at hfirst hsecond
  rcases hfirst with rfl | rfl
  · rfl
  · rcases hsecond with rfl | rfl <;> rfl

/-! ## Parts -/

/-- The piece is a part of a string with the given value. -/
structure Piece.IsPart (text : List Char) (p : Piece) (value : Text) : Prop where
  comments : p.comments = []
  named : p.tree.named = true
  value_eq : Syntax.Literal.partValue (p.tree.place (.ofChars text)) = .ok value

theorem readText_leafTree {kind : String} {cs : List Char} (hc : c.At text) (h : c.Passes cs d) :
    ((leafTree kind c.offset d.offset).place (.ofChars text)).readText = .ok (Text.ofChars cs) := by
  rw [readText_place, Tree.spelling]
  exact congrArg (fun cs => Except.ok (Text.ofChars cs)) (h.slice hc)

/-- Plain characters are one part. -/
theorem reads_part_of_plain (hc : c.At text) {cs : List Char} (hne : cs ≠ [])
    (hplain : ∀ y ∈ cs, isPlain quote y = true) (h : c.Passes cs d)
    (hd : ∀ y ∈ d.rest.head?, isPlain quote y = false) :
    ∃ p, (stringPart quote).Reads c p d ∧ p.IsPart text (Text.ofChars cs) := by
  have hread : (measured (Lexeme.fragment quote)).Reads c () d :=
    reads_measured_run hne hplain h hd
  refine ⟨_, reads_stringPart.mpr (Or.inl ⟨hread, rfl⟩), rfl, rfl, ?_⟩
  rw [Syntax.Literal.partValue, place_kind]
  exact (if_pos rfl).trans (readText_leafTree hc h)

/-- An escape is one part. -/
theorem reads_part_of_escape (hc : c.At text) {cs : List Char} {value : Text}
    (hescape : Lexeme.escape (cs ++ d.rest) = some cs.length)
    (hvalue : Syntax.Literal.decodeEscape (Text.ofChars cs) = .ok value)
    (h : c.Passes cs d) :
    ∃ p, (stringPart quote).Reads c p d ∧ p.IsPart text value := by
  obtain ⟨rest, rfl⟩ : ∃ rest, cs = '\\' :: rest := by
    cases cs with
    | nil => exact absurd (Lexeme.escape_pos hescape) (by decide)
    | cons y rest => exact ⟨rest, by rw [Lexeme.escape_head hescape]⟩
  have hread : (measured Lexeme.escape).Reads c () d :=
    reads_measured.mpr ⟨_, h.rest_eq ▸ hescape, reads_skip.mpr ⟨_, rfl, h.rest_eq, h.offset_eq⟩⟩
  have hslash : isPlain quote '\\' = false := by simp [isPlain]
  refine ⟨_, reads_stringPart.mpr (Or.inr ⟨(fragment_eq_none_iff h.rest_eq).mpr hslash, hread, rfl⟩),
    rfl, rfl, ?_⟩
  have hkind : "escape_sequence" ≠ "string_fragment" := by decide
  rw [Syntax.Literal.partValue, place_kind, leafTree, if_neg hkind, if_pos rfl]
  have htext := @readText_leafTree text c d "escape_sequence" _ hc h
  rw [leafTree] at htext
  rw [htext]
  exact hvalue

/-! ## Cutting strokes into parts -/

theorem Stroke.text_ne_nil (s : Stroke quote) : s.text ≠ [] := by
  cases s <;> exact List.cons_ne_nil _ _

/-- What stands here neither goes on a stretch of plain characters, nor an octal escape, nor a broken
line. -/
def Cursor.Closes (quote : Char) (d : Cursor) : Prop :=
  ∀ y ∈ d.rest.head?, isPlain quote y = false ∧ isOctal y = false ∧ y ∉ Lexeme.secondLineEnds

/-- What holds behind the strokes and of their first character holds of the next character. -/
theorem forall_next {P : Char → Prop} {strokes : List (Stroke quote)}
    (h : c.Passes (strokes.flatMap Stroke.text) d) (hd : ∀ y ∈ d.rest.head?, P y)
    (hfirst : ∀ s ∈ strokes.head?, ∀ y ∈ s.text.head?, P y) : ∀ y ∈ c.rest.head?, P y := by
  cases strokes with
  | nil =>
      obtain rfl := Cursor.passes_nil.mp h
      exact hd
  | cons s strokes =>
      obtain ⟨y, ys, htext⟩ := List.exists_cons_of_ne_nil (Stroke.text_ne_nil s)
      rw [List.flatMap_cons, htext] at h
      exact forall_head h.rest_eq (hfirst s rfl y (by rw [htext]; rfl))

/-- Strokes with a backslash begin with it. -/
theorem Stroke.head_of_not_bare {s : Stroke quote} (h : s.isBare = false) :
    s.text.head? = some '\\' := by
  cases s with
  | bare c plain => cases h
  | control | null | coded | itself | broken => rfl

theorem Stroke.head_of_not_separator {s : Stroke quote} (h : s.isSeparator = false) :
    ∀ y ∈ s.text.head?, y ∉ Lexeme.secondLineEnds := by
  intro y hy
  cases s with
  | bare c plain =>
      cases hy
      simp only [isPlain, Bool.and_eq_true, decide_eq_true_eq] at plain
      simp only [Stroke.isSeparator, lineSeparators, List.contains_eq_mem, decide_eq_false_iff_not,
        List.mem_cons, List.not_mem_nil, or_false, not_or] at h
      simp only [Lexeme.secondLineEnds, List.mem_cons, List.not_mem_nil, or_false, not_or]
      exact ⟨plain.1.1.2, h⟩
  | control | null | coded | itself | broken =>
      cases hy
      decide

/-- Bare strokes are heard as they are written, and nothing behind them is lost for them. -/
theorem heard_append_of_bare {bares : List (Stroke quote)} (h : ∀ s ∈ bares, s.isBare = true)
    (others : List (Stroke quote)) :
    heard false (bares ++ others) = bares.flatMap Stroke.text ++ heard false others := by
  induction bares with
  | nil => rfl
  | cons s bares ih =>
      have hrest := ih fun t ht => h t (List.mem_cons_of_mem s ht)
      cases s with
      | bare c plain =>
          rw [List.cons_append, heard, List.flatMap_cons, List.append_assoc]
          exact congrArg (c :: ·) hrest
      | control | null | coded | itself | broken => cases h _ List.mem_cons_self

variable {strokes : List (Stroke quote)}

/-- What is heard of a part and of the strokes behind it is what is heard of all of them. -/
structure IsFirst (text : List Char) (strokes : List (Stroke quote)) (c d : Cursor)
    (first others : List (Stroke quote)) (e : Cursor) (p : Piece) : Prop where
  split : strokes = first ++ others
  nonempty : first ≠ []
  before : c.Passes (first.flatMap Stroke.text) e
  behind : e.Passes (others.flatMap Stroke.text) d
  reads : (stringPart quote).Reads c p e
  part : p.IsPart text (Text.ofChars (heard false first))
  heard_eq : heard false strokes = heard false first ++ heard false others

/-- The longest stretch of bare strokes is one part. -/
theorem exists_bare_part (hc : c.At text) {s : Stroke quote}
    (hbare : s.isBare = true) (h : c.Passes ((s :: strokes).flatMap Stroke.text) d)
    (hd : d.Closes quote) :
    ∃ first others e p, IsFirst text (s :: strokes) c d first others e p := by
  have hsplit := @List.takeWhile_append_dropWhile _ Stroke.isBare (s :: strokes)
  have hall : ∀ t ∈ (s :: strokes).takeWhile Stroke.isBare, t.isBare = true :=
    fun t ht => List.mem_takeWhile_imp ht
  have hnext : ∀ t ∈ ((s :: strokes).dropWhile Stroke.isBare).head?, t.isBare = false := by
    intro t ht
    have hnot := List.head?_dropWhile_not Stroke.isBare (s :: strokes)
    rwa [ht] at hnot
  have hne : (s :: strokes).takeWhile Stroke.isBare ≠ [] := by
    rw [List.takeWhile_cons, hbare, if_pos rfl]
    exact List.cons_ne_nil _ _
  generalize (s :: strokes).takeWhile Stroke.isBare = first at hsplit hall hne
  generalize (s :: strokes).dropWhile Stroke.isBare = others at hsplit hnext
  rw [← hsplit] at h ⊢
  rw [List.flatMap_append] at h
  obtain ⟨e, hbefore, hbehind⟩ := Cursor.passes_append.mp h
  have hend : ∀ y ∈ e.rest.head?, isPlain quote y = false := by
    refine forall_next hbehind (fun y hy => (hd y hy).1) fun t ht y hy => ?_
    rw [Stroke.head_of_not_bare (hnext t ht)] at hy
    cases hy
    simp [isPlain]
  have hplain : ∀ y ∈ first.flatMap Stroke.text, isPlain quote y = true := by
    intro y hy
    obtain ⟨t, ht, hy⟩ := List.mem_flatMap.mp hy
    cases t with
    | bare c plain =>
        obtain rfl := List.mem_singleton.mp hy
        exact plain
    | control | null | coded | itself | broken => cases hall _ ht
  have htext : first.flatMap Stroke.text ≠ [] := by
    obtain ⟨t, ts, rfl⟩ := List.exists_cons_of_ne_nil hne
    rw [List.flatMap_cons]
    exact fun hnil => Stroke.text_ne_nil t (List.append_eq_nil_iff.mp hnil).1
  obtain ⟨p, hreads, hpart⟩ := reads_part_of_plain hc htext hplain hbefore hend
  have hheard := heard_append_of_bare hall []
  rw [heard, List.append_nil, List.append_nil] at hheard
  rw [← hheard] at hpart
  refine ⟨first, others, e, p, rfl, hne, hbefore, hbehind, hreads, hpart, ?_⟩
  rw [heard_append_of_bare hall, hheard]

/-- A quote is no backslash, no octal digit and no end of a line. -/
theorem quote_apart (hquote : quote ∈ quotes) :
    quote ≠ '\\' ∧ isOctal quote = false ∧ quote ∉ Lexeme.secondLineEnds := by
  rw [quotes, List.mem_cons, List.mem_singleton] at hquote
  rcases hquote with rfl | rfl
  · exact ⟨by decide, by decide, by decide⟩
  · exact ⟨by decide, by decide, by decide⟩

/-- A stroke with a backslash is one part by itself, or with the separator that it is joined by. -/
theorem exists_escape_part (hc : c.At text) {s : Stroke quote}
    (hbare : s.isBare = false) (hprecedes : ∀ t ∈ strokes.head?, s.Precedes t)
    (h : c.Passes ((s :: strokes).flatMap Stroke.text) d) (hd : d.Closes quote) :
    ∃ first others e p, IsFirst text (s :: strokes) c d first others e p := by
  by_cases hjoined : s.joins = true ∧ ∃ t ∈ strokes.head?, t.isSeparator = true
  · obtain ⟨hs, t, ht, hseparator⟩ := hjoined
    obtain ⟨others, rfl⟩ : ∃ others, strokes = t :: others := by
      cases strokes with
      | nil => cases ht
      | cons t' others =>
          cases ht
          exact ⟨others, rfl⟩
    rw [List.flatMap_cons, List.flatMap_cons, ← List.append_assoc] at h
    obtain ⟨e, hbefore, hbehind⟩ := Cursor.passes_append.mp h
    have hescape : Lexeme.escape (s.text ++ t.text ++ e.rest) = some (s.text ++ t.text).length := by
      obtain ⟨first, hfirst, second, hsecond, hstext, httext, -⟩ := exists_joined hs hseparator
      rw [hstext, httext]
      exact Lexeme.escape_pair hfirst (List.mem_cons_of_mem _ hsecond) e.rest
    obtain ⟨p, hreads, hpart⟩ :=
      reads_part_of_escape hc hescape (decodeEscape_joined hs hseparator) hbefore
    refine ⟨[s, t], others, e, p, rfl, List.cons_ne_nil _ _, ?_, hbehind, hreads, hpart, ?_⟩
    · rwa [List.flatMap_cons, List.flatMap_singleton]
    · have hcuts : t.cuts = false := by
        cases t with
        | bare c plain => rfl
        | control | null | coded | itself | broken => cases hseparator
      simp only [heard, hcuts, List.append_assoc, List.nil_append]
  · rw [List.flatMap_cons] at h
    obtain ⟨e, hbefore, hbehind⟩ := Cursor.passes_append.mp h
    have hnext : s.joins = true → ∀ t ∈ strokes.head?, t.isSeparator = false := by
      intro hs t ht
      rw [Bool.eq_false_iff]
      exact fun hseparator => hjoined ⟨hs, t, ht, hseparator⟩
    have hescape : Lexeme.escape (s.text ++ e.rest) = some s.text.length := by
      refine Lexeme.escape_stroke hbare ?_ fun hs => ?_
      · rintro rfl
        exact forall_next hbehind (fun y hy => (hd y hy).2.1) hprecedes
      · exact forall_next hbehind (fun y hy => (hd y hy).2.2) fun t ht =>
          Stroke.head_of_not_separator (hnext hs t ht)
    obtain ⟨p, hreads, hpart⟩ := reads_part_of_escape hc hescape (decodeEscape_stroke hbare) hbefore
    have hheard : heard false [s] = s.value := by rw [heard, heard, List.append_nil]; rfl
    have hcuts : s.cuts = true → s.joins = true := by
      cases s with
      | broken line known => exact id
      | bare | control | null | coded | itself => exact nofun
    refine ⟨[s], strokes, e, p, rfl, List.cons_ne_nil _ _, ?_, hbehind, hreads, hheard ▸ hpart, ?_⟩
    · rwa [List.flatMap_singleton]
    · rw [hheard, heard, heard_of_not_separator fun hs => hnext (hcuts hs)]
      rfl

/-- Strokes are read as parts whose values make up what is heard of them, in front of the parts of what
stands behind them. -/
theorem reads_parts_append (hc : c.At text) (hprecedes : strokes.IsChain Stroke.Precedes)
    (h : c.Passes (strokes.flatMap Stroke.text) d) (hd : d.Closes quote) {more : List Piece}
    {e : Cursor} (hmore : (many (stringPart quote)).Reads d more e) :
    ∃ parts values, (many (stringPart quote)).Reads c (parts ++ more) e ∧
      List.Forall₂ (Piece.IsPart text) parts values ∧
      values.flatten = Text.ofChars (heard false strokes) := by
  -- The induction is on the number of strokes, because a stretch of bare strokes is read at once.
  induction hlength : strokes.length using Nat.strongRecOn generalizing c strokes with
  | _ length ih =>
    cases strokes with
    | nil =>
        obtain rfl := Cursor.passes_nil.mp h
        exact ⟨[], [], hmore, .nil, rfl⟩
    | cons s strokes =>
        obtain ⟨first, others, k, p, hfirst⟩ :
            ∃ first others k p, IsFirst text (s :: strokes) c d first others k p := by
          cases hbare : s.isBare with
          | true => exact exists_bare_part hc hbare h hd
          | false => exact exists_escape_part hc hbare (List.isChain_cons.mp hprecedes).1 h hd
        have hshorter : others.length < length := by
          have hpos := List.length_pos_iff.mpr hfirst.nonempty
          rw [hfirst.split, List.length_append] at hlength
          omega
        have hmoved : c.offset < k.offset := by
          obtain ⟨t, ts, hcons⟩ := List.exists_cons_of_ne_nil hfirst.nonempty
          have hpos := List.length_pos_iff.mpr (Stroke.text_ne_nil t)
          have hoffset := hfirst.before.offset_eq
          rw [hcons, List.flatMap_cons, List.length_append] at hoffset
          omega
        have hothers : others.IsChain Stroke.Precedes := by
          rw [hfirst.split] at hprecedes
          exact (List.isChain_append.mp hprecedes).2.1
        obtain ⟨parts, values, hparts, hvalues, hflatten⟩ :=
          ih _ hshorter (hfirst.reads.at hc) hothers hfirst.behind rfl
        refine ⟨p :: parts, Text.ofChars (heard false first) :: values,
          (reads_many_of_moves hfirst.reads hmoved).mpr ⟨parts ++ more, rfl, hparts⟩,
          .cons hfirst.part hvalues, ?_⟩
        rw [List.flatten_cons, hflatten, hfirst.heard_eq, Text.ofChars_append]

/-- At a quote a string has no more parts. -/
theorem reads_parts_at_quote (hquote : quote ∈ quotes) {rest : List Char} (hd : d.rest = quote :: rest) :
    (many (stringPart quote)).Reads d [] d := by
  have hstops : (stringPart quote).Stops d := stops_of_refuses fun p _ =>
    not_reads_stringPart hd (by simp [isPlain]) (quote_apart hquote).1 p
  exact (reads_many_of_stops hstops).mpr ⟨rfl, rfl⟩

theorem closes_at_quote (hquote : quote ∈ quotes) {rest : List Char} (hd : d.rest = quote :: rest) :
    d.Closes quote :=
  forall_head hd ⟨by simp [isPlain], (quote_apart hquote).2.1, (quote_apart hquote).2.2⟩

/-! ## Strings -/

/-- The tree of a string: its stretch of characters, and its value wherever it stands in a larger
tree. -/
structure Tree.IsString (text : List Char) (t : Tree) (start stop : Nat)
    (value : List Char) : Prop where
  kind : t.kind = "string"
  start_eq : t.start = start
  stop_eq : t.stop = stop
  value_eq : Syntax.Literal.value (t.place (.ofChars text)) = .ok (Text.ofChars value)

theorem Tree.IsString.under {t : Tree} {start stop : Nat} {value : List Char}
    (h : t.IsString text start stop value) (role : Option String) :
    Tree.IsString text { t with role } start stop value := by
  refine ⟨h.kind, h.start_eq, h.stop_eq, ?_⟩
  rw [← h.value_eq, Syntax.Literal.value, Syntax.Literal.value, namedChildren_place,
    namedChildren_place]

theorem mapM_partValue {parts : List Piece} {values : List Text}
    (h : List.Forall₂ (Piece.IsPart text) parts values) :
    ((parts.map Piece.tree).map (Tree.place (.ofChars text))).mapM Syntax.Literal.partValue =
      .ok values := by
  induction h with
  | nil => rfl
  | cons hpart _ ih =>
      rw [List.map_cons, List.map_cons, List.mapM_cons, hpart.value_eq, ih]
      rfl

theorem trees_of_isPart {parts : List Piece} {values : List Text}
    (h : List.Forall₂ (Piece.IsPart text) parts values) :
    (parts.flatMap fun p => p.comments ++ [p.tree]) = parts.map Piece.tree ∧
      (parts.map Piece.tree).filter (·.named) = parts.map Piece.tree := by
  induction h with
  | nil => exact ⟨rfl, rfl⟩
  | cons hpart _ ih =>
      rw [List.flatMap_cons, hpart.comments, ih.1, List.map_cons, List.filter_cons_of_pos hpart.named,
        ih.2]
      exact ⟨rfl, rfl⟩

/-- Parts in quotes are a string token, and its value is made up of their values. -/
theorem reads_string_of_parts (hquote : quote ∈ quotes) (h : trivia.Reads c [] e) {f k : Cursor}
    (hopening : e.Passes [quote] f) {parts : List Piece} {values : List Text}
    (hparts : (many (stringPart quote)).Reads f parts k)
    (hvalues : List.Forall₂ (Piece.IsPart text) parts values) (hclosing : k.Passes [quote] d) :
    ∃ t : Tree, stringToken.Reads c ⟨[], t⟩ d ∧ t.kind = "string" ∧ t.start = e.offset ∧
      t.stop = d.offset ∧ Syntax.Literal.value (t.place (.ofChars text)) = .ok values.flatten := by
  have he : e.rest = quote :: f.rest := hopening.rest_eq
  have hk : k.rest = quote :: d.rest := hclosing.rest_eq
  have hread := reads_stringIn.mpr ⟨[], e, f, parts, k, [], k, h, he, hopening.offset_eq, hparts,
    reads_trivia_quote hquote hk, hk, hclosing.offset_eq, rfl⟩
  refine ⟨stringTree quote e.offset parts [] k.offset,
    reads_stringToken_of_trivia hquote h he hread, rfl, rfl, ?_, ?_⟩
  · rw [hclosing.offset_eq]
    simp only [stringTree, Piece.around, List.getLastD_concat, quoteTree, List.length_singleton]
  · obtain ⟨htrees, hnamed⟩ := trees_of_isPart hvalues
    have hfilter : (stringTree quote e.offset parts [] k.offset).parts.filter (·.named) =
        parts.map Piece.tree := by
      rw [stringTree, Piece.around, List.flatMap_append, htrees, List.flatMap_singleton,
        List.filter_cons_of_neg (by simp [quoteTree]), List.filter_append, hnamed]
      simp [quoteTree]
    rw [Syntax.Literal.value, namedChildren_place, hfilter, mapM_partValue hvalues]
    rfl

/-- Strokes in their quotes are a string token, and its value is what is heard of them. -/
theorem reads_literal (hquote : quote ∈ quotes) (hc : c.At text) (h : trivia.Reads c [] e)
    (hprecedes : strokes.IsChain Stroke.Precedes) (hp : e.Passes (literal strokes) d) :
    ∃ t, stringToken.Reads c ⟨[], t⟩ d ∧
      t.IsString text e.offset d.offset (heard false strokes) := by
  rw [literal, List.cons_append, Cursor.passes_cons] at hp
  obtain ⟨f, hopening, hp⟩ := hp
  obtain ⟨k, hstrokes, hclosing⟩ := Cursor.passes_append.mp hp
  have hk : k.rest = quote :: d.rest := hclosing.rest_eq
  obtain ⟨parts, values, hparts, hvalues, hflatten⟩ :=
    reads_parts_append ((h.reaches.trans hopening.reaches).at hc) hprecedes hstrokes
      (closes_at_quote hquote hk) (reads_parts_at_quote hquote hk)
  rw [List.append_nil] at hparts
  obtain ⟨t, hread, hkind, hstart, hstop, hvalue⟩ :=
    reads_string_of_parts hquote h hopening hparts hvalues hclosing
  exact ⟨t, hread, hkind, hstart, hstop, hflatten ▸ hvalue⟩

end Script

end LocaleCatalogue
