import LocaleCatalogue.Proofs.Files.Answers
import LocaleCatalogue.Proofs.Syntax.Spelling

/-!
# Which string literals have a value

A code point in braces may have any number of digits, so nothing in the grammar bounds the number
that they spell. A number up to the last code point stands for that code point, and a larger one
leaves the escape as it is written, unless it is too large for a machine integer. No other part of a
literal is ever refused. So a literal has a value exactly if no escape in it spells such a number.
-/

namespace LocaleCatalogue

namespace Written

/-- Characters that the grammar takes for hexadecimal digits are digits with a value. -/
theorem exists_digits_of_isHex {cs : List Char} (h : ∀ c ∈ cs, Script.Lexeme.isHex c = true) :
    ∃ digits : List (Char × Nat), (∀ d ∈ digits, d ∈ hexDigits) ∧ digits.map Prod.fst = cs := by
  have hsmall : ∀ n < 128, Script.Lexeme.isHex (Char.ofNat n) = true →
      ∃ d ∈ hexDigits, d.1 = Char.ofNat n := by decide +kernel
  have hdigit : ∀ c, Script.Lexeme.isHex c = true → ∃ d ∈ hexDigits, d.1 = c := by
    intro c hc
    have hlt : c.toNat < 128 := by
      have hval : c.val.toNat = c.toNat := rfl
      simp only [Script.Lexeme.isHex, Char.isDigit, Char.le_def, UInt32.le_iff_toNat_le,
        UInt32.reduceToNat, Char.reduceVal, Bool.or_eq_true, Bool.and_eq_true, decide_eq_true_eq,
        ge_iff_le] at hc
      omega
    have hknown := hsmall c.toNat hlt
    rw [Char.ofNat_toNat] at hknown
    exact hknown hc
  induction cs with
  | nil => exact ⟨[], by simp, rfl⟩
  | cons c cs ih =>
      obtain ⟨d, hd, rfl⟩ := hdigit c (h c List.mem_cons_self)
      obtain ⟨digits, hdigits, rfl⟩ := ih fun y hy => h y (List.mem_cons_of_mem _ hy)
      exact ⟨d :: digits, List.forall_mem_cons.mpr ⟨hd, hdigits⟩, rfl⟩

/-- The characters are an escape of a number that is too large for a machine integer. -/
def Exceeds (cs : List Char) : Prop :=
  ∃ digits : List (Char × Nat), (∀ d ∈ digits, d ∈ hexDigits) ∧ 0x7FFFFFFF < hexValue digits ∧
    cs = Coding.braced.escape digits

end Written

namespace Script

open LocaleCatalogue.Script.Parser
open Written (Coding hexDigits hexValue)

variable {text : List Char} {quote : Char} {c d : Cursor} {cs rest : List Char}

namespace Lexeme

theorem exists_digits_of_hexDigits {n : Nat}
    (h : Lexeme.hexDigits n (cs ++ rest) = some cs.length) :
    ∃ digits : List (Char × Nat), (∀ d ∈ digits, d ∈ Written.hexDigits) ∧ digits.length = n ∧
      digits.map Prod.fst = cs := by
  have hlength := hexDigits_eq_some h
  rw [Lexeme.hexDigits, List.take_left' hlength] at h
  split at h
  next hall =>
    rw [Bool.and_eq_true, List.all_eq_true] at hall
    obtain ⟨digits, hknown, rfl⟩ := Written.exists_digits_of_isHex hall.2
    exact ⟨digits, hknown, by rw [← hlength, List.length_map], rfl⟩
  · cases h

theorem exists_digits_of_bracedHex (h : bracedHex (cs ++ rest) = some cs.length) :
    ∃ digits : List (Char × Nat), (∀ d ∈ digits, d ∈ Written.hexDigits) ∧ digits.length ≠ 0 ∧
      cs = digits.map Prod.fst ++ ['\x7d'] := by
  rcases List.eq_nil_or_concat cs with rfl | ⟨front, last, rfl⟩
  · rw [bracedHex] at h
    split at h <;> cases h
  rw [List.concat_eq_append, List.append_assoc, List.length_append, bracedHex] at h
  split at h
  next hbrace =>
    have hrun := Nat.add_right_cancel (Option.some.inj h)
    obtain ⟨digits, hknown, rfl⟩ := Written.exists_digits_of_isHex (forall_of_le_run hrun.ge)
    rw [hrun, List.getElem?_append_right (Nat.le_refl _), Nat.sub_self, Bool.and_eq_true,
      decide_eq_true_eq, decide_eq_true_eq] at hbrace
    obtain rfl : last = '\x7d' := Option.some.inj hbrace.2
    exact ⟨digits, hknown, by simpa using hbrace.1, List.concat_eq_append⟩
  · cases h

theorem unicodeEscape_cases
    (h : unicodeEscape ('\\' :: 'u' :: (cs ++ rest)) = some (cs.length + 2)) :
    ∃ (coding : Coding) (digits : List (Char × Nat)), (∀ d ∈ digits, d ∈ Written.hexDigits) ∧
      coding.Takes digits.length ∧ '\\' :: 'u' :: cs = coding.escape digits := by
  cases cs with
  | nil => exact absurd (unicodeEscape_pos h) (by simp)
  | cons y ys =>
      rw [List.cons_append] at h
      by_cases hbrace : y = '\x7b'
      · subst hbrace
        obtain ⟨n, hn, hlength⟩ := Option.map_eq_some_iff.mp h
        obtain rfl : n = ys.length := Nat.add_right_cancel hlength
        obtain ⟨digits, hknown, htakes, rfl⟩ := exists_digits_of_bracedHex hn
        exact ⟨.braced, digits, hknown, htakes, rfl⟩
      · rw [unicodeEscape_cons hbrace] at h
        obtain ⟨n, hn, hlength⟩ := Option.map_eq_some_iff.mp h
        rw [Nat.add_right_cancel hlength, ← List.cons_append] at hn
        obtain ⟨digits, hknown, htakes, hdigits⟩ := exists_digits_of_hexDigits hn
        refine ⟨.four, digits, hknown, htakes, ?_⟩
        simp [Coding.escape, Coding.opening, Coding.closing, hdigits]

/-- What is read as an escape is a number in one of the codings, or its first character announces
none. -/
theorem escape_cases (h : escape (cs ++ rest) = some cs.length) :
    (∃ (coding : Coding) (digits : List (Char × Nat)), (∀ d ∈ digits, d ∈ Written.hexDigits) ∧
      coding.Takes digits.length ∧ cs = coding.escape digits) ∨
    ∃ y ys, cs = '\\' :: y :: ys ∧ y ≠ 'x' ∧ y ≠ 'u' := by
  obtain ⟨first, y, ys, rfl⟩ := exists_two (escape_pos h)
  obtain rfl := escape_head h
  by_cases hx : y = 'x'
  · subst hx
    obtain ⟨n, hn, hlength⟩ := Option.map_eq_some_iff.mp h
    rw [Nat.add_right_cancel hlength] at hn
    obtain ⟨digits, hknown, htakes, rfl⟩ := exists_digits_of_hexDigits hn
    refine .inl ⟨.two, digits, hknown, htakes, ?_⟩
    simp [Coding.escape, Coding.opening, Coding.closing]
  by_cases hu : y = 'u'
  · subst hu
    exact .inl (unicodeEscape_cases h)
  · exact .inr ⟨y, ys, rfl, hx, hu⟩

end Lexeme

/-! ## Parts of strings -/

/-- A named part of a string is a comment, a stretch of plain characters or an escape. -/
theorem cases_of_mem_parts {t u : Tree} (ht : t.Sound text) (hstop : t.stop ≤ text.length)
    (hkind : t.kind = "string") (hu : u ∈ t.parts) (hnamed : u.named = true) :
    u.kind = "comment" ∨ u.kind = "string_fragment" ∨ u.kind = "escape_sequence" ∧
      ∃ rest, Lexeme.escape (u.spelling text ++ rest) = some (u.spelling text).length := by
  have hbegin : (Cursor.mk t.start (text.drop t.start)).At text := ⟨rfl, ht.le.trans hstop⟩
  obtain ⟨quote, hquote, hread⟩ := reads_stringToken ((Tree.sound_iff.mp ht).1.string hkind)
  obtain ⟨_, e, f, parts, g, inner, k, htrivia, hrest, hoffset, hparts, hinner, -, -, hpiece⟩ :=
    reads_stringIn.mp hread
  have hf : f.At text := Cursor.Reaches.at (htrivia.reaches.trans ⟨[quote], hrest, hoffset⟩) hbegin
  have htparts : t.parts = (stringTree quote e.offset parts inner k.offset).parts :=
    congrArg (fun piece => piece.tree.parts) hpiece
  rw [htparts, stringTree, Piece.around, List.flatMap_append, List.flatMap_singleton, List.mem_cons,
    List.mem_append, List.mem_append, List.mem_singleton] at hu
  rcases hu with rfl | hu | hu | rfl
  · cases hnamed
  · obtain ⟨p, hp, hu⟩ := List.mem_flatMap.mp hu
    obtain ⟨e', f', hreaches, hpart⟩ := exists_reads_of_mem_many hparts p hp
    rcases reads_stringPart.mp hpart with ⟨-, rfl⟩ | ⟨-, hescape, rfl⟩
    · obtain rfl := List.mem_singleton.mp hu
      exact .inr (.inl rfl)
    · obtain rfl := List.mem_singleton.mp hu
      obtain ⟨n, hn, hskip⟩ := reads_measured.mp hescape
      obtain ⟨cs, rfl, hsplit, hstop'⟩ := reads_skip.mp hskip
      have hspelling : (leafTree "escape_sequence" e'.offset f'.offset).spelling text = cs :=
        Cursor.Passes.slice ⟨hsplit, hstop'⟩ (hreaches.at hf)
      refine .inr (.inr ⟨rfl, f'.rest, ?_⟩)
      rw [hspelling, ← hsplit, hn]
  · exact .inl (kind_of_mem_trivia hinner u hu)
  · cases hnamed

end Script

namespace Syntax

open Written (Coding hexDigits hexValue)

namespace Literal

/-- An escape that does not announce a number is never refused. -/
theorem exists_decodeEscape {y : Char} (hx : y ≠ 'x') (hu : y ≠ 'u') (ys : List Char) :
    ∃ value, decodeEscape (Text.ofChars ('\\' :: y :: ys)) = .ok value := by
  have hx' : CodePoint.ofChar y ≠ 0x78 := fun h => hx (CodePoint.ofChar_injective (b := 'x') h)
  have hu' : CodePoint.ofChar y ≠ 0x75 := fun h => hu (CodePoint.ofChar_injective (b := 'u') h)
  have htail : (Text.ofChars ('\\' :: y :: ys)).tail = CodePoint.ofChar y :: Text.ofChars ys := rfl
  rw [decodeEscape, htail]
  dsimp only
  rw [if_neg hu', if_neg hx']
  split
  · exact ⟨[], rfl⟩
  · exact ⟨_, rfl⟩

theorem decodeEscape_of_exceeds {cs : List Char} (h : Written.Exceeds cs) :
    decodeEscape (Text.ofChars cs) = .error .codePointTooLarge := by
  obtain ⟨digits, hknown, hlarge, rfl⟩ := h
  have htakes : Coding.braced.Takes digits.length := by
    intro hnone
    rw [List.eq_nil_of_length_eq_zero hnone] at hlarge
    exact absurd hlarge (by decide)
  rw [Script.decodeEscape_digits hknown htakes, codePoint_digits hknown htakes.ne_nil,
    dif_neg (by omega), if_neg (by omega)]

/-- An escape of the grammar is refused exactly if its number is too large. -/
theorem decodeEscape_eq_error_iff {cs rest : List Char}
    (h : Script.Lexeme.escape (cs ++ rest) = some cs.length) {fault : Fault} :
    decodeEscape (Text.ofChars cs) = .error fault ↔
      fault = .codePointTooLarge ∧ Written.Exceeds cs := by
  constructor
  · intro hrefused
    obtain ⟨coding, digits, hknown, htakes, rfl⟩ | ⟨y, ys, rfl, hx, hu⟩ :=
      Script.Lexeme.escape_cases h
    · rw [Script.decodeEscape_digits hknown htakes,
        codePoint_digits hknown htakes.ne_nil] at hrefused
      split at hrefused
      · cases hrefused
      split at hrefused
      · cases hrefused
      next hlarge =>
        cases hrefused
        -- Two or four digits cannot spell such a number.
        have hbound := Written.hexValue_lt hknown
        cases coding with
        | two =>
            rw [show digits.length = 2 from htakes] at hbound
            omega
        | four =>
            rw [show digits.length = 4 from htakes] at hbound
            omega
        | braced => exact ⟨rfl, digits, hknown, by omega, rfl⟩
    · obtain ⟨value, hvalue⟩ := exists_decodeEscape hx hu ys
      cases hvalue.symm.trans hrefused
  · rintro ⟨rfl, hexceeds⟩
    exact decodeEscape_of_exceeds hexceeds

end Literal

/-- A part of a string is an escape of a number that is too large for a machine integer. -/
def Node.Exceeds (n : Node) : Prop :=
  n.kind = "escape_sequence" ∧ ∃ cs, n.readText = .ok (Text.ofChars cs) ∧ Written.Exceeds cs

variable {text : List Char} {n part : Node} {fault : Fault}

/-- A part of a string is refused exactly if its number is too large. -/
theorem partValue_eq_error_iff (hn : n.Stands text) (hkind : n.kind = "string")
    (hpart : part ∈ n.namedChildren) :
    Literal.partValue part = .error fault ↔ fault = .codePointTooLarge ∧ part.Exceeds := by
  obtain ⟨t, hsound, hstop, rfl⟩ := hn
  rw [Script.namedChildren_place] at hpart
  obtain ⟨u, hu, rfl⟩ := List.mem_map.mp hpart
  obtain ⟨hmem, hnamed⟩ := List.mem_filter.mp hu
  rw [Script.place_kind] at hkind
  rw [Literal.partValue, Node.Exceeds, Script.place_kind, Script.readText_place]
  rcases Script.cases_of_mem_parts hsound hstop hkind hmem hnamed with h | h | ⟨h, rest, hescape⟩
  · simp [h]
  · simp [h]
  · have hkind' : "escape_sequence" ≠ "string_fragment" := by decide
    rw [h, if_neg hkind', if_pos rfl]
    dsimp only
    rw [Literal.decodeEscape_eq_error_iff hescape]
    refine and_congr_right fun _ => ⟨fun hexceeds => ⟨rfl, _, rfl, hexceeds⟩, ?_⟩
    rintro ⟨-, cs, hspelled, hexceeds⟩
    have hcs := List.map_injective_iff.mpr (fun _ _ => CodePoint.ofChar_injective)
      (Except.ok.inj hspelled)
    rwa [hcs]

/-- A string is refused exactly if one of its parts is. -/
theorem value_eq_error_iff (hn : n.Stands text) (hkind : n.kind = "string") :
    Literal.value n = .error fault ↔
      fault = .codePointTooLarge ∧ ∃ part ∈ n.namedChildren, part.Exceeds := by
  rw [Literal.value, map_eq_error_iff]
  constructor
  · intro h
    obtain ⟨part, hpart, hrefused⟩ := exists_of_mapM_error h
    obtain ⟨rfl, hexceeds⟩ := (partValue_eq_error_iff hn hkind hpart).mp hrefused
    exact ⟨rfl, part, hpart, hexceeds⟩
  · rintro ⟨rfl, part, hpart, hexceeds⟩
    cases h : n.namedChildren.mapM Literal.partValue with
    | error fault =>
        obtain ⟨other, hother, hrefused⟩ := exists_of_mapM_error h
        rw [((partValue_eq_error_iff hn hkind hother).mp hrefused).1]
    | ok values =>
        obtain ⟨value, -, hvalue⟩ := exists_mem_of_forall₂ (mapM_eq_ok_iff.mp h) hpart
        cases hvalue.symm.trans ((partValue_eq_error_iff hn hkind hpart).mpr ⟨rfl, hexceeds⟩)

/-- The grammar takes any number of digits in braces. A number up to the last code point stands for
the code point, one that is larger but still a machine integer leaves the escape as it is, and any
other is refused. A string of a program, also of one that is not accepted, has a value exactly if no
part of it is refused for this. -/
theorem braced_numbers_decode {digits : List (Char × Nat)} (hknown : ∀ d ∈ digits, d ∈ hexDigits)
    (hne : digits ≠ []) :
    (∀ rest, Script.Lexeme.escape (Coding.braced.escape digits ++ rest) =
      some (Coding.braced.escape digits).length) ∧
    (∀ c : CodePoint, hexValue digits = c.val →
      Literal.decodeEscape (Text.ofChars (Coding.braced.escape digits)) = .ok [c]) ∧
    (0x10FFFF < hexValue digits → hexValue digits ≤ 0x7FFFFFFF →
      Literal.decodeEscape (Text.ofChars (Coding.braced.escape digits)) =
        .ok (Text.ofChars (Coding.braced.escape digits))) ∧
    (0x7FFFFFFF < hexValue digits →
      Literal.decodeEscape (Text.ofChars (Coding.braced.escape digits)) =
        .error .codePointTooLarge) ∧
    ∀ (dialect : Script.Dialect) (text : List Char) (node : Node),
      node.Within (Script.parseChars dialect text) → node.kind = "string" →
      ((∃ value, Literal.value node = .ok value) ↔ ∀ part ∈ node.namedChildren, ¬ part.Exceeds) ∧
      ∀ fault, Literal.value node = .error fault → fault = .codePointTooLarge := by
  have htakes : Coding.braced.Takes digits.length := by simpa [Coding.Takes] using hne
  refine ⟨fun rest => Script.Lexeme.escape_coded hknown htakes rest,
    fun c hc => Script.decodeEscape_coding hknown htakes hc, ?_, ?_, ?_⟩
  · intro hlarge hsmall
    rw [Script.decodeEscape_digits hknown htakes, Literal.codePoint_digits hknown hne,
      dif_neg (by omega), if_pos hsmall]
  · intro hlarge
    exact Literal.decodeEscape_of_exceeds ⟨digits, hknown, hlarge, rfl⟩
  · intro dialect text node hwithin hkind
    have hstands := stands_of_string hwithin hkind
    have hrefused {fault} := @value_eq_error_iff text node fault hstands hkind
    constructor
    · constructor
      · rintro ⟨value, hvalue⟩ part hpart hexceeds
        cases hvalue.symm.trans (hrefused.mpr ⟨rfl, part, hpart, hexceeds⟩)
      · intro hnone
        cases hvalue : Literal.value node with
        | ok value => exact ⟨value, rfl⟩
        | error fault =>
            obtain ⟨-, part, hpart, hexceeds⟩ := hrefused.mp hvalue
            exact absurd hexceeds (hnone part hpart)
    · exact fun fault hfault => (hrefused.mp hfault).1

/-- The digits of a character beyond the first plane, with more zeros than any number needs. -/
def padded : List (Char × Nat) :=
  List.replicate 20 ('0', 0) ++ [('1', 1), ('F', 15), ('6', 6), ('0', 0), ('0', 0)]

/-- The digits of the largest machine integer. -/
def largest : List (Char × Nat) := ('7', 7) :: List.replicate 7 ('F', 15)

/-- The digits of the number after the largest machine integer. -/
def excessive : List (Char × Nat) := ('8', 8) :: List.replicate 7 ('0', 0)

/-- The key at an index in the object that stands in the first statement of a program. -/
def keyAt? (root : Node) (i : Nat) : Option Node :=
  root.children.head?.bind fun statement => (statement.childByField "value").bind fun object =>
    object.namedChildren[i]?.bind fun property => property.childByField "key"

theorem within_of_keyAt? {root key : Node} {i : Nat} (h : keyAt? root i = some key) :
    key.Within root := by
  simp only [keyAt?, Option.bind_eq_some_iff] at h
  obtain ⟨statement, hstatement, object, hobject, property, hproperty, hkey⟩ := h
  exact .child (mem_children_of_childByField hkey) <|
    .child (mem_children_of_mem_namedChildren (List.mem_of_getElem? hproperty)) <|
    .child (mem_children_of_childByField hobject) <|
    .child (List.mem_of_head? hstatement) .self

theorem braced_numbers_decode_limits :
    let text := "export default \x7b '".toList ++ Coding.braced.escape padded ++
      Coding.braced.escape largest ++ "': 1, '".toList ++ Coding.braced.escape excessive ++
      "': 2 \x7d".toList
    let root := Script.parseChars .typescript text
    Literal.decodeEscape (Text.ofChars (Coding.braced.escape padded)) = .ok [0x1F600] ∧
      Literal.decodeEscape (Text.ofChars (Coding.braced.escape largest)) =
        .ok (Text.ofChars (Coding.braced.escape largest)) ∧
      Literal.decodeEscape (Text.ofChars (Coding.braced.escape excessive)) =
        .error .codePointTooLarge ∧
      ∃ first second : Node, first.Within root ∧ second.Within root ∧
        first.kind = "string" ∧ second.kind = "string" ∧
        (∃ value, Literal.value first = .ok value) ∧
        Literal.value second = .error .codePointTooLarge := by
  intro text root
  obtain ⟨-, hpoint, -⟩ := @braced_numbers_decode padded (by decide) (by decide)
  obtain ⟨-, -, hown, -⟩ := @braced_numbers_decode largest (by decide) (by decide)
  obtain ⟨-, -, -, herror, hstrings⟩ := @braced_numbers_decode excessive (by decide) (by decide)
  have hpadded := hpoint 0x1F600 (by decide)
  have hlargest := hown (by decide) (by decide)
  have hexcessive := herror (by decide)
  obtain ⟨first, hfirst, hread⟩ : ∃ node, keyAt? root 0 = some node ∧
      (node.kind, node.namedChildren.map Node.readText) = ("string",
        [.ok (Text.ofChars (Coding.braced.escape padded)),
          .ok (Text.ofChars (Coding.braced.escape largest))]) :=
    Option.map_eq_some_iff.mp (by decide +kernel)
  obtain ⟨second, hsecond, hread'⟩ : ∃ node, keyAt? root 1 = some node ∧
      (node.kind, node.namedChildren.map fun part => (part.kind, part.readText)) = ("string",
        [("escape_sequence", .ok (Text.ofChars (Coding.braced.escape excessive)))]) :=
    Option.map_eq_some_iff.mp (by decide +kernel)
  obtain ⟨hkind, hparts⟩ := Prod.mk.inj hread
  obtain ⟨hkind', hparts'⟩ := Prod.mk.inj hread'
  have hwithin := within_of_keyAt? hfirst
  have hwithin' := within_of_keyAt? hsecond
  refine ⟨hpadded, hlargest, hexcessive, first, second, hwithin, hwithin', hkind, hkind', ?_, ?_⟩
  · refine (hstrings .typescript text first hwithin hkind).1.mpr fun part hpart hexceeds => ?_
    obtain ⟨-, cs, hspelled, hlarge⟩ := hexceeds
    have hrefused := Literal.decodeEscape_of_exceeds hlarge
    have hmem : part.readText ∈ first.namedChildren.map Node.readText := List.mem_map_of_mem hpart
    rw [hparts, hspelled, List.mem_pair] at hmem
    rcases hmem with heq | heq
    · rw [Except.ok.inj heq, hpadded] at hrefused
      cases hrefused
    · rw [Except.ok.inj heq, hlargest] at hrefused
      cases hrefused
  · obtain ⟨htotal, hfault⟩ := hstrings .typescript text second hwithin' hkind'
    obtain ⟨part, hpart, hread⟩ := List.exists_of_mem_map (hparts' ▸ List.mem_cons_self)
    obtain ⟨hescape, hspelled⟩ := Prod.mk.inj hread
    cases hvalue : Literal.value second with
    | ok value =>
        have hnot := htotal.mp ⟨value, hvalue⟩ part hpart
        exact absurd ⟨hescape, _, hspelled, excessive, by decide, by decide, rfl⟩ hnot
    | error fault => rw [hfault fault hvalue]

end Syntax

end LocaleCatalogue
