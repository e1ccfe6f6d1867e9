import Mathlib.Algebra.Group.Nat.Defs
import Mathlib.Data.List.Induction
import LocaleCatalogue.Proofs.Json.Written
import LocaleCatalogue.Syntax.Literal
import LocaleCatalogue.Text.Integer

/-!
# Hexadecimal digits

Hexadecimal digits are read as the number that they spell: no digit is a sign, a blank or a mark of
the base. So the digits of an escape stand for the character that they were written for. A number is
written in digits that spell it, with zeros before them up to a width.
-/

namespace LocaleCatalogue

open Written (hexDigits hexValue)

namespace Integer

theorem trim_eq_self {drop : CodePoint → Bool} {t : Text} (h : ∀ c ∈ t, drop c = false) :
    Text.trim drop t = t := by
  have hkeep : ∀ s : Text, (∀ c ∈ s, drop c = false) → s.dropWhile drop = s := by
    intro s hs
    cases s with
    | nil => rfl
    | cons c s => rw [List.dropWhile_cons, hs c List.mem_cons_self, if_neg (by simp)]
  rw [Text.trim, Text.trimRight, hkeep t h, hkeep _ fun c hc => h c (List.mem_reverse.mp hc),
    List.reverse_reverse]

theorem digits?_hex {digits : List (Char × Nat)} (hdigits : ∀ d ∈ digits, d ∈ hexDigits)
    {due : Bool} (hdue : due = true → digits ≠ []) :
    digits? 16 due (Text.ofChars (digits.map Prod.fst)) = some (digits.map Prod.snd) := by
  have hdigit : ∀ d ∈ hexDigits, CodePoint.ofChar d.1 ≠ 0x5F ∧
      (CodePoint.ofChar d.1).hexDigit? = some d.2 ∧ d.2 < 16 := by decide
  induction digits generalizing due with
  | nil =>
      cases due with
      | false => rfl
      | true => exact absurd rfl (hdue rfl)
  | cons d digits ih =>
      obtain ⟨hscore, hvalue, hlt⟩ := hdigit d (hdigits d List.mem_cons_self)
      have hrest := @ih (fun d hd => hdigits d (List.mem_cons_of_mem _ hd)) false (by simp)
      rw [Text.ofChars, List.map_cons, List.map_cons, digits?, if_neg hscore, hvalue]
      dsimp only
      rw [if_pos hlt]
      rw [Text.ofChars] at hrest
      rw [hrest]
      rfl

/-- Hexadecimal digits are read as the number that they spell. -/
theorem read_hex {digits : List (Char × Nat)} (hdigits : ∀ d ∈ digits, d ∈ hexDigits)
    (hne : digits ≠ []) :
    read 16 (Text.ofChars (digits.map Prod.fst)) = .ok (hexValue digits : Nat) := by
  have hplain : ∀ d ∈ hexDigits, narrow (CodePoint.ofChar d.1) = CodePoint.ofChar d.1 ∧
      isNarrowSpace (CodePoint.ofChar d.1) = false ∧
      CodePoint.ofChar d.1 ∉ ([0x2D, 0x2B, 0x78, 0x58] : Text) := by decide
  have hmem : ∀ c ∈ Text.ofChars (digits.map Prod.fst), narrow c = c ∧ isNarrowSpace c = false ∧
      c ∉ ([0x2D, 0x2B, 0x78, 0x58] : Text) := by
    intro c hc
    rw [Text.ofChars, List.map_map, List.mem_map] at hc
    obtain ⟨d, hd, rfl⟩ := hc
    exact hplain d (hdigits d hd)
  have hread := @digits?_hex digits hdigits true fun _ => hne
  have hvalue : valueOf 16 (digits.map Prod.snd) = hexValue digits := by
    rw [valueOf, hexValue, List.foldl_map]
  generalize Text.ofChars (digits.map Prod.fst) = t at hmem hread
  have hnarrow : t.map narrow = t := (List.map_congr_left fun c hc => (hmem c hc).1).trans t.map_id
  have hmark : afterMark 16 t = t := by
    unfold afterMark
    split
    next x rest =>
      have hx := (hmem x (by simp)).2.2
      simp only [List.mem_cons, List.not_mem_nil, or_false, not_or] at hx
      simp [hx]
    next => rfl
  have hminus : ∀ rest, t = 0x2D :: rest → False := by
    rintro rest rfl
    exact absurd (hmem _ List.mem_cons_self).2.2 (by decide)
  have hplus : ∀ rest, t = 0x2B :: rest → False := by
    rintro rest rfl
    exact absurd (hmem _ List.mem_cons_self).2.2 (by decide)
  simp only [read, hnarrow, trim_eq_self fun c hc => (hmem c hc).2.1, hmark, hread, hvalue]
  rw [if_neg (by simp), if_neg (by simp)]

end Integer

namespace Syntax.Literal

/-- Digits stand for the code point that they spell. A number beyond the last code point leaves the
text as it is, unless it is beyond the largest machine integer. -/
theorem codePoint_digits {digits : List (Char × Nat)} (hdigits : ∀ d ∈ digits, d ∈ hexDigits)
    (hne : digits ≠ []) (text : Text) :
    codePoint (Text.ofChars (digits.map Prod.fst)) text =
      if h : hexValue digits < 0x110000 then .ok [⟨hexValue digits, h⟩]
      else if hexValue digits ≤ 0x7FFFFFFF then .ok text
      else .error .codePointTooLarge := by
  rw [codePoint, Integer.read_hex hdigits hne]
  dsimp only
  by_cases hlarge : 0x7FFFFFFF < hexValue digits
  · rw [if_pos (by omega), dif_neg (by omega), if_neg (by omega)]
  · rw [if_neg (by omega)]
    simp only [Int.toNat_natCast]
    by_cases hpoint : hexValue digits < 0x110000
    · rw [dif_pos hpoint, dif_pos hpoint, if_neg (by omega)]
    · rw [dif_neg hpoint, dif_neg hpoint, if_pos (by omega)]

end Syntax.Literal

namespace Written

theorem hexValue_concat (digits : List (Char × Nat)) (d : Char × Nat) :
    hexValue (digits ++ [d]) = hexValue digits * 16 + d.2 := by
  rw [hexValue, List.foldl_append]
  rfl

/-- The number of digits bounds the number that they spell. -/
theorem hexValue_lt {digits : List (Char × Nat)} (h : ∀ d ∈ digits, d ∈ hexDigits) :
    hexValue digits < 16 ^ digits.length := by
  have hdigit : ∀ d ∈ hexDigits, d.2 < 16 := by decide
  induction digits using List.reverseRecOn with
  | nil => exact Nat.one_pos
  | append_singleton digits d ih =>
      have hlast := hdigit d (h d (by simp))
      have hrest := ih fun e he => h e (List.mem_append_left _ he)
      rw [hexValue_concat, List.length_append, List.length_singleton, Nat.pow_succ]
      omega

end Written

namespace Quoted

theorem exists_digits (n : Nat) : ∃ digits : List (Char × Nat), (∀ d ∈ digits, d ∈ hexDigits) ∧
    hexValue digits = n ∧ Nat.toDigits 16 n = digits.map Prod.fst := by
  have hdigit : ∀ n < 16, (n.digitChar, n) ∈ hexDigits := by decide
  induction n using Nat.strongRecOn with
  | _ n ih =>
      by_cases hn : n < 16
      · refine ⟨[(n.digitChar, n)], by simpa using hdigit n hn, by simp [hexValue], ?_⟩
        rw [Nat.toDigits_of_lt_base hn, List.map_singleton]
      · obtain ⟨digits, hknown, hvalue, htext⟩ := ih (n / 16) (by omega)
        have hlast := hdigit (n % 16) (Nat.mod_lt n (by decide))
        refine ⟨digits ++ [((n % 16).digitChar, n % 16)], ?_, ?_, ?_⟩
        · intro d hd
          rcases List.mem_append.mp hd with hd | hd
          · exact hknown d hd
          · exact List.mem_singleton.mp hd ▸ hlast
        · rw [Written.hexValue_concat, hvalue]
          exact Nat.div_add_mod' n 16
        · rw [Nat.toDigits_of_base_le (by decide) (by omega), htext, List.map_append,
            List.map_singleton]

theorem hexValue_zeros (count : Nat) (digits : List (Char × Nat)) :
    hexValue (List.replicate count ('0', 0) ++ digits) = hexValue digits := by
  induction count with
  | zero => rfl
  | succ count ih =>
      rw [List.replicate_succ, List.cons_append, hexValue, List.foldl_cons]
      exact ih

/-- A number that fits a width is written in just as many digits, and they spell it. -/
theorem exists_hex {width n : Nat} (hwidth : 0 < width) (hn : n < 16 ^ width) :
    ∃ digits : List (Char × Nat), (∀ d ∈ digits, d ∈ hexDigits) ∧ digits.length = width ∧
      hexValue digits = n ∧ hex width n = Text.ofChars (digits.map Prod.fst) := by
  obtain ⟨digits, hknown, hvalue, htext⟩ := exists_digits n
  have hlength : digits.length ≤ width := by
    have hle := (Nat.length_toDigits_le_iff (by decide : 1 < 16) hwidth).mpr hn
    rwa [htext, List.length_map] at hle
  refine ⟨List.replicate (width - digits.length) ('0', 0) ++ digits, ?_, ?_, ?_, ?_⟩
  · intro d hd
    rcases List.mem_append.mp hd with hd | hd
    · rw [List.eq_of_mem_replicate hd]
      decide
    · exact hknown d hd
  · rw [List.length_append, List.length_replicate]
    omega
  · rw [hexValue_zeros, hvalue]
  · have hzero : CodePoint.ofChar '0' = 0x30 := by decide
    rw [hex, htext, Text.ofChars, List.length_map, List.length_map, List.map_append,
      List.map_replicate, Text.ofChars, List.map_append, List.map_replicate, hzero]

end Quoted

end LocaleCatalogue
