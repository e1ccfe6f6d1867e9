import LocaleCatalogue.Text.Utf8

/-!
# What begins at an octet

A character of more than one octet has no value below that of its first octet, and all its other
octets continue it. So what begins at an octet depends on the octets behind it only as far as they
continue a character: any two octets that do not are as good as each other.
-/

namespace LocaleCatalogue.Utf8

variable {b c d e : UInt8} {rest rest' : Bytes}

theorem isTail_iff : isTail c = true ↔ 0x80 ≤ c.toNat ∧ c.toNat ≤ 0xBF := by
  rw [isTail, Bool.and_eq_true, decide_eq_true_iff, decide_eq_true_iff, UInt8.le_iff_toNat_le,
    UInt8.le_iff_toNat_le]
  rfl

/-- The second octet continues the character. Four leading octets narrow it further, to the values
that have no shorter encoding, are no surrogates and are not too large. -/
theorem isSecond_iff :
    isSecond b c = true ↔
      (0x80 ≤ c.toNat ∧ c.toNat ≤ 0xBF) ∧ (b.toNat = 0xE0 → 0xA0 ≤ c.toNat) ∧
        (b.toNat = 0xED → c.toNat ≤ 0x9F) ∧ (b.toNat = 0xF0 → 0x90 ≤ c.toNat) ∧
        (b.toNat = 0xF4 → c.toNat ≤ 0x8F) := by
  have hbetween (least most : Nat) :
      (decide (least ≤ c.toNat) && decide (c.toNat ≤ most)) = true ↔
        least ≤ c.toNat ∧ c.toNat ≤ most := by
    rw [Bool.and_eq_true, decide_eq_true_iff, decide_eq_true_iff]
  simp only [isSecond, isTail, ← UInt8.toNat_inj, UInt8.le_iff_toNat_le, UInt8.toNat_ofNat,
    Nat.reducePow, Nat.reduceMod]
  split
  next =>
    rw [hbetween]
    omega
  split
  next =>
    rw [hbetween]
    omega
  split
  next =>
    rw [hbetween]
    omega
  split
  next =>
    rw [hbetween]
    omega
  rw [hbetween]
  omega

theorem isTail_of_isSecond (h : isSecond b c = true) : isTail c = true :=
  isTail_iff.mpr (isSecond_iff.mp h).1

theorem large_two (hstart : ¬ b < 0xC2) (hb : b < 0xE0) : 0x80 ≤ b.toNat % 0x20 * 0x40 + low c := by
  have hstart : ¬ b.toNat < 0xC2 := fun h => hstart (UInt8.lt_iff_toNat_lt.mpr h)
  have hb : b.toNat < 0xE0 := UInt8.lt_iff_toNat_lt.mp hb
  omega

theorem large_three (hstart : ¬ b < 0xE0) (hb : b < 0xF0) (h : isSecond b c = true) :
    0x80 ≤ (b.toNat % 0x10 * 0x40 + low c) * 0x40 + low d := by
  have hb : b.toNat < 0xF0 := UInt8.lt_iff_toNat_lt.mp hb
  have hstart : ¬ b.toNat < 0xE0 := fun h => hstart (UInt8.lt_iff_toNat_lt.mpr h)
  obtain ⟨⟨_, hc⟩, hfirst, _⟩ := isSecond_iff.mp h
  rw [low]
  omega

theorem large_four (hstart : ¬ b < 0xF0) (hb : b < 0xF5) (h : isSecond b c = true) :
    0x80 ≤ ((b.toNat % 0x08 * 0x40 + low c) * 0x40 + low d) * 0x40 + low e := by
  have hb : b.toNat < 0xF5 := UInt8.lt_iff_toNat_lt.mp hb
  have hstart : ¬ b.toNat < 0xF0 := fun h => hstart (UInt8.lt_iff_toNat_lt.mpr h)
  obtain ⟨⟨_, hc⟩, _, _, hfirst, _⟩ := isSecond_iff.mp h
  rw [low]
  omega

/-- A character that begins with an octet is in ASCII, or it has a longer encoding and the octets
behind the first one continue it. -/
theorem lead_eq_character {x : Char} {further : Nat} (h : lead b rest = .character x further) :
    (b < 0x80 ∧ x = Char.ofNat b.toNat ∧ further = 0) ∨
      ¬ b < 0x80 ∧ (∃ n, 0x80 ≤ n ∧ x = Char.ofNat n) ∧ ∀ c ∈ rest.take further, isTail c = true := by
  unfold lead at h
  split at h
  next hb =>
    cases h
    exact Or.inl ⟨hb, rfl, rfl⟩
  next hb =>
    refine Or.inr ⟨hb, ?_⟩
    split at h
    next => cases h
    next hstart =>
      split at h
      next hmost =>
        split at h
        next => cases h
        next c rest =>
          split at h
          next => cases h
          next hc =>
            have hc : isSecond b c = true := by simpa using hc
            have hsecond := isTail_of_isSecond hc
            split at h
            next htwo =>
              cases h
              exact ⟨⟨_, large_two hstart htwo, rfl⟩, by simpa using hsecond⟩
            next htwo =>
              split at h
              next => cases h
              next d rest =>
                split at h
                next => cases h
                next hd =>
                  have hd : isTail d = true := by simpa using hd
                  split at h
                  next hthree =>
                    cases h
                    exact ⟨⟨_, large_three htwo hthree hc, rfl⟩, by simpa using ⟨hsecond, hd⟩⟩
                  next hthree =>
                    split at h
                    next => cases h
                    next e rest =>
                      split at h
                      next => cases h
                      next he =>
                        cases h
                        refine ⟨⟨_, large_four hthree hmost hc, rfl⟩, ?_⟩
                        simpa using ⟨hsecond, hd, by simpa using he⟩
      next => cases h

/-- Octets that go on alike as far as a character could: one after the other, until both end, all
octets of the character are there, or both have one that continues no character. -/
inductive GoesOn : Nat → Bytes → Bytes → Prop
  | complete {rest rest' : Bytes} : GoesOn 0 rest rest'
  | ended {n : Nat} : GoesOn n [] []
  | stopped {n : Nat} {b b' : UInt8} {rest rest' : Bytes} (hb : isTail b = false)
      (hb' : isTail b' = false) : GoesOn n (b :: rest) (b' :: rest')
  | same {n : Nat} {b : UInt8} {rest rest' : Bytes} (h : GoesOn n rest rest') :
      GoesOn (n + 1) (b :: rest) (b :: rest')

/-- What begins at an octet depends on the three next octets, as far as they continue a character. -/
theorem lead_congr (h : GoesOn 3 rest rest') : lead b rest' = lead b rest := by
  have hsecond {c : UInt8} (hc : isTail c = false) : isSecond b c = false := by
    rw [← Bool.not_eq_true] at hc ⊢
    exact mt isTail_of_isSecond hc
  unfold lead
  cases h with
  | ended => rfl
  | stopped hb hb' => simp [hsecond hb, hsecond hb']
  | same h =>
      dsimp only
      cases h with
      | ended => rfl
      | stopped hb hb' => simp [hb, hb']
      | same h =>
          dsimp only
          cases h with
          | ended => rfl
          | stopped hb hb' => simp [hb, hb']
          | same h => rfl

end LocaleCatalogue.Utf8
