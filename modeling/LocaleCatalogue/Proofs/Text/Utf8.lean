import LocaleCatalogue.Proofs.Text.Leads

/-!
# Decoding what was encoded

The octets of a character begin with a leading octet that announces it and says how many octets
follow. So both ways of decoding give the characters back that were encoded.
-/

namespace LocaleCatalogue.Utf8

theorem char_toNat_cases (c : Char) : c.toNat < 0xD800 ∨ (0xDFFF < c.toNat ∧ c.toNat < 0x110000) :=
  c.valid

section Octet

variable {n m : Nat}

theorem toNat_ofNat (h : n < 0x100) : (UInt8.ofNat n).toNat = n := by
  rw [UInt8.toNat_ofNat']
  exact Nat.mod_eq_of_lt h

theorem ofNat_lt_iff (hn : n < 0x100) (hm : m < 0x100) : UInt8.ofNat n < UInt8.ofNat m ↔ n < m := by
  rw [UInt8.lt_iff_toNat_lt, toNat_ofNat hn, toNat_ofNat hm]

theorem isTail_ofNat (hn : n < 0x100) : isTail (UInt8.ofNat n) = true ↔ 0x80 ≤ n ∧ n ≤ 0xBF := by
  rw [isTail_iff, toNat_ofNat hn]

theorem low_ofNat (hn : n < 0x100) : low (UInt8.ofNat n) = n % 0x40 := by
  rw [low, toNat_ofNat hn]

end Octet

section Lead

variable {b c d e : UInt8} {rest : Bytes}

theorem lead_one (hb : b < 0x80) : lead b rest = .character (Char.ofNat b.toNat) 0 := by
  unfold lead
  rw [if_pos hb]

theorem lead_two (hlow : ¬ b < 0x80) (hstart : ¬ b < 0xC2) (hb : b < 0xE0)
    (hc : isSecond b c = true) :
    lead b (c :: rest) = .character (Char.ofNat (b.toNat % 0x20 * 0x40 + low c)) 1 := by
  have hmost : b < 0xF5 := UInt8.lt_trans hb (by decide)
  unfold lead
  rw [if_neg hlow, if_neg hstart, if_pos hmost]
  simp only [hc, hb, Bool.not_true, Bool.false_eq_true, if_false, if_true]

theorem lead_three (hstart : ¬ b < 0xE0) (hb : b < 0xF0) (hc : isSecond b c = true)
    (hd : isTail d = true) :
    lead b (c :: d :: rest) =
      .character (Char.ofNat ((b.toNat % 0x10 * 0x40 + low c) * 0x40 + low d)) 2 := by
  have hlow : ¬ b < 0x80 := fun h => hstart (UInt8.lt_trans h (by decide))
  have hlow' : ¬ b < 0xC2 := fun h => hstart (UInt8.lt_trans h (by decide))
  have hmost : b < 0xF5 := UInt8.lt_trans hb (by decide)
  unfold lead
  rw [if_neg hlow, if_neg hlow', if_pos hmost]
  simp only [hc, hd, hb, hstart, Bool.not_true, Bool.false_eq_true, if_false, if_true]

theorem lead_four (hstart : ¬ b < 0xF0) (hb : b < 0xF5) (hc : isSecond b c = true)
    (hd : isTail d = true) (he : isTail e = true) :
    lead b (c :: d :: e :: rest) =
      .character
        (Char.ofNat (((b.toNat % 0x08 * 0x40 + low c) * 0x40 + low d) * 0x40 + low e)) 3 := by
  have hbelow : ∀ k : UInt8, k < 0xF0 → ¬ b < k := fun _ hk h => hstart (UInt8.lt_trans h hk)
  unfold lead
  rw [if_neg (hbelow 0x80 (by decide)), if_neg (hbelow 0xC2 (by decide)), if_pos hb]
  simp only [hc, hd, he, hbelow 0xE0 (by decide), hstart, Bool.not_true, Bool.false_eq_true,
    if_false]

end Lead

/-- The second octet of an encoding of two octets is one that may follow the first. -/
theorem isSecond_two {n : Nat} (hhigh : n < 0x800) :
    isSecond (.ofNat (0xC0 + n / 0x40)) (.ofNat (0x80 + n % 0x40)) = true := by
  rw [isSecond_iff, toNat_ofNat (by omega), toNat_ofNat (by omega)]
  omega

/-- The second octet of an encoding of three octets is one that may follow the first. -/
theorem isSecond_three {n : Nat} (hlow : 0x800 ≤ n) (hhigh : n < 0x10000)
    (hvalid : n < 0xD800 ∨ 0xDFFF < n) :
    isSecond (.ofNat (0xE0 + n / 0x1000)) (.ofNat (0x80 + n / 0x40 % 0x40)) = true := by
  rw [isSecond_iff, toNat_ofNat (by omega), toNat_ofNat (by omega)]
  omega

/-- The second octet of an encoding of four octets is one that may follow the first. -/
theorem isSecond_four {n : Nat} (hlow : 0x10000 ≤ n) (hhigh : n < 0x110000) :
    isSecond (.ofNat (0xF0 + n / 0x40000)) (.ofNat (0x80 + n / 0x1000 % 0x40)) = true := by
  rw [isSecond_iff, toNat_ofNat (by omega), toNat_ofNat (by omega)]
  omega

section Encoded

variable {n : Nat} (rest : Bytes)

theorem lead_encoded_one (h : n < 0x80) : lead (.ofNat n) rest = .character (Char.ofNat n) 0 := by
  rw [lead_one ((ofNat_lt_iff (by omega) (by decide)).mpr h), toNat_ofNat (by omega)]

theorem lead_encoded_two (hlow : 0x80 ≤ n) (hhigh : n < 0x800) :
    lead (.ofNat (0xC0 + n / 0x40)) (.ofNat (0x80 + n % 0x40) :: rest) =
      .character (Char.ofNat n) 1 := by
  have hb : 0xC0 + n / 0x40 < 0x100 := by omega
  have hc : 0x80 + n % 0x40 < 0x100 := by omega
  have hlt := fun k (hk : k < 0x100) => ofNat_lt_iff hb hk
  rw [lead_two (mt (hlt 0x80 (by decide)).mp (by omega)) (mt (hlt 0xC2 (by decide)).mp (by omega))
    ((hlt 0xE0 (by decide)).mpr (by omega)) (isSecond_two hhigh), toNat_ofNat hb, low_ofNat hc]
  have hvalue : (0xC0 + n / 0x40) % 0x20 * 0x40 + (0x80 + n % 0x40) % 0x40 = n := by omega
  rw [hvalue]

theorem lead_encoded_three (hlow : 0x800 ≤ n) (hhigh : n < 0x10000)
    (hvalid : n < 0xD800 ∨ 0xDFFF < n) :
    lead (.ofNat (0xE0 + n / 0x1000))
        (.ofNat (0x80 + n / 0x40 % 0x40) :: .ofNat (0x80 + n % 0x40) :: rest) =
      .character (Char.ofNat n) 2 := by
  have hb : 0xE0 + n / 0x1000 < 0x100 := by omega
  have hc : 0x80 + n / 0x40 % 0x40 < 0x100 := by omega
  have hd : 0x80 + n % 0x40 < 0x100 := by omega
  have hlt := fun k (hk : k < 0x100) => ofNat_lt_iff hb hk
  rw [lead_three (mt (hlt 0xE0 (by decide)).mp (by omega)) ((hlt 0xF0 (by decide)).mpr (by omega))
    (isSecond_three hlow hhigh hvalid) ((isTail_ofNat hd).mpr (by omega)), toNat_ofNat hb,
    low_ofNat hc, low_ofNat hd]
  have hvalue : ((0xE0 + n / 0x1000) % 0x10 * 0x40 + (0x80 + n / 0x40 % 0x40) % 0x40) * 0x40 +
    (0x80 + n % 0x40) % 0x40 = n := by omega
  rw [hvalue]

theorem lead_encoded_four (hlow : 0x10000 ≤ n) (hhigh : n < 0x110000) :
    lead (.ofNat (0xF0 + n / 0x40000))
        (.ofNat (0x80 + n / 0x1000 % 0x40) :: .ofNat (0x80 + n / 0x40 % 0x40) ::
          .ofNat (0x80 + n % 0x40) :: rest) =
      .character (Char.ofNat n) 3 := by
  have hb : 0xF0 + n / 0x40000 < 0x100 := by omega
  have hc : 0x80 + n / 0x1000 % 0x40 < 0x100 := by omega
  have hd : 0x80 + n / 0x40 % 0x40 < 0x100 := by omega
  have he : 0x80 + n % 0x40 < 0x100 := by omega
  have hlt := fun k (hk : k < 0x100) => ofNat_lt_iff hb hk
  rw [lead_four (mt (hlt 0xF0 (by decide)).mp (by omega)) ((hlt 0xF5 (by decide)).mpr (by omega))
    (isSecond_four hlow hhigh) ((isTail_ofNat hd).mpr (by omega))
    ((isTail_ofNat he).mpr (by omega)), toNat_ofNat hb, low_ofNat hc, low_ofNat hd, low_ofNat he]
  have hvalue : (((0xF0 + n / 0x40000) % 0x08 * 0x40 + (0x80 + n / 0x1000 % 0x40) % 0x40) * 0x40 +
    (0x80 + n / 0x40 % 0x40) % 0x40) * 0x40 + (0x80 + n % 0x40) % 0x40 = n := by omega
  rw [hvalue]

end Encoded

/-- The leading octet of a character's encoding announces the character and the octets that follow.
-/
theorem lead_encodeValue (c : Char) (rest : Bytes) :
    ∃ b tail, encodeValue c.toNat = b :: tail ∧
      lead b (tail ++ rest) = .character c tail.length := by
  have hvalid := char_toNat_cases c
  have hchar := Char.ofNat_toNat c
  generalize c.toNat = n at hvalid hchar ⊢
  unfold encodeValue
  by_cases hone : n < 0x80
  · rw [if_pos hone]
    exact ⟨_, [], rfl, hchar ▸ lead_encoded_one rest hone⟩
  rw [if_neg hone]
  by_cases htwo : n < 0x800
  · rw [if_pos htwo]
    exact ⟨_, [_], rfl, hchar ▸ lead_encoded_two rest (by omega) htwo⟩
  rw [if_neg htwo]
  by_cases hthree : n < 0x10000
  · rw [if_pos hthree]
    exact ⟨_, [_, _], rfl, hchar ▸ lead_encoded_three rest (by omega) hthree (by omega)⟩
  rw [if_neg hthree]
  exact ⟨_, [_, _, _], rfl, hchar ▸ lead_encoded_four rest (by omega) (by omega)⟩

theorem encode_nil : encode [] = [] := rfl

theorem encode_cons (c : Char) (cs : List Char) :
    encode (c :: cs) = encodeValue c.toNat ++ encode cs :=
  List.flatMap_cons

theorem encode_append (cs ds : List Char) : encode (cs ++ ds) = encode cs ++ encode ds :=
  List.flatMap_append

theorem decodeFrom_passing (octets rest : Bytes) (position : Nat) :
    decodeFrom octets.length position (octets ++ rest) =
      decodeFrom 0 (position + octets.length) rest := by
  induction octets generalizing position with
  | nil => rfl
  | cons b octets ih =>
      rw [List.cons_append, List.length_cons, decodeFrom, ih]
      congr 1
      omega

theorem decodeFrom_encode (cs : List Char) (position : Nat) :
    decodeFrom 0 position (encode cs) = .ok cs := by
  induction cs generalizing position with
  | nil => rfl
  | cons c cs ih =>
      obtain ⟨b, tail, hencode, hlead⟩ := lead_encodeValue c (encode cs)
      rw [encode_cons, hencode, List.cons_append, decodeFrom, hlead]
      dsimp only
      rw [decodeFrom_passing, ih]

/-- Strict decoding gives back what was encoded. -/
theorem decode_encode (cs : List Char) : decode (encode cs) = .ok cs := decodeFrom_encode cs 0

theorem decodeLossyFrom_passing (octets rest : Bytes) :
    decodeLossyFrom octets.length (octets ++ rest) = decodeLossyFrom 0 rest := by
  induction octets with
  | nil => rfl
  | cons b octets ih => rw [List.cons_append, List.length_cons, decodeLossyFrom, ih]

/-- Lossy decoding gives back what was encoded. -/
theorem decodeLossy_encode (cs : List Char) : decodeLossy (encode cs) = cs := by
  unfold decodeLossy
  induction cs with
  | nil => rfl
  | cons c cs ih =>
      obtain ⟨b, tail, hencode, hlead⟩ := lead_encodeValue c (encode cs)
      rw [encode_cons, hencode, List.cons_append, decodeLossyFrom, hlead]
      dsimp only
      rw [decodeLossyFrom_passing, ih]

end LocaleCatalogue.Utf8
