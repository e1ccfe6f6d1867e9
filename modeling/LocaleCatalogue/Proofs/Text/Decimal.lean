import Mathlib.Data.List.Basic
import LocaleCatalogue.Text.Basic

/-!
# Decimal numbers

A number is written in decimal digits that spell it, without a zero in front unless it is zero, and a
negative one with a minus sign.
-/

namespace LocaleCatalogue.Text

variable {n : Nat} {c : CodePoint}

/-- A digit in ASCII. -/
def IsDigit (c : CodePoint) : Prop := 0x30 ≤ c.val ∧ c.val ≤ 0x39

instance (c : CodePoint) : Decidable (IsDigit c) := inferInstanceAs (Decidable (_ ∧ _))

theorem ofNat_eq_map (n : Nat) : ofNat n = (Nat.toDigits 10 n).map CodePoint.ofChar := by
  rw [ofNat, ofString, ofChars, ← Nat.toList_repr]
  rfl

theorem isDigit_of_mem_ofNat (h : c ∈ ofNat n) : IsDigit c := by
  rw [ofNat_eq_map, List.mem_map] at h
  obtain ⟨digit, hdigit, rfl⟩ := h
  exact Char.isDigit_iff_toNat.mp (Nat.isDigit_of_mem_toDigits (by decide) (by decide) hdigit)

theorem ofNat_ne_nil (n : Nat) : ofNat n ≠ [] := by
  rw [ofNat_eq_map, ne_eq, List.map_eq_nil_iff]
  exact Nat.toDigits_ne_nil

theorem mem_ofInt {n : Int} (h : c ∈ ofInt n) : c = 0x2D ∨ IsDigit c := by
  cases n with
  | ofNat n => exact .inr (isDigit_of_mem_ofNat h)
  | negSucc n =>
      rcases List.mem_append.mp h with h | h
      · exact .inl (by simpa [ofString, ofChars, CodePoint.ofChar] using h)
      · exact .inr (isDigit_of_mem_ofNat h)

/-- A number ends in a digit. -/
theorem exists_getLast?_ofInt (n : Int) : ∃ c, (ofInt n).getLast? = some c ∧ IsDigit c := by
  have hnat : ∀ n, ∃ c, (ofNat n).getLast? = some c ∧ IsDigit c := fun n =>
    ⟨_, List.getLast?_eq_some_getLast (ofNat_ne_nil n), isDigit_of_mem_ofNat (List.getLast_mem _)⟩
  cases n with
  | ofNat n => exact hnat n
  | negSucc n =>
      obtain ⟨c, hc, hdigit⟩ := hnat (n + 1)
      exact ⟨c, by rw [ofInt, List.getLast?_append, hc]; rfl, hdigit⟩

/-- Only zero is written with a zero in front. -/
theorem head?_toDigits (hn : 0 < n) : (Nat.toDigits 10 n).head? ≠ some '0' := by
  induction n using Nat.strongRecOn with
  | _ n ih =>
      by_cases hlt : n < 10
      · have hdigit : ∀ k < 10, 0 < k → k.digitChar ≠ '0' := by decide
        rw [Nat.toDigits_of_lt_base hlt, List.head?_cons]
        exact fun h => hdigit n hlt hn (Option.some.inj h)
      · have hhead := ih (n / 10) (by omega) (by omega)
        obtain ⟨first, more, htext⟩ :=
          List.exists_cons_of_ne_nil (Nat.toDigits_ne_nil (n := n / 10) (b := 10))
        rw [htext] at hhead
        rwa [Nat.toDigits_of_base_le (by decide) (by omega), htext]

end LocaleCatalogue.Text
