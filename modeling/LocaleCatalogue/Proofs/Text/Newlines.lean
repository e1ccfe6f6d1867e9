import LocaleCatalogue.Proofs.Json.Written
import LocaleCatalogue.Proofs.Text.Leads

/-!
# Line ends in another style

A text is given another style of line ends octet by octet, before it is known to be a text. A line
feed is never a part of a longer encoding, so decoding finds the same characters or the same fault,
and unifying the line ends afterwards gives back what was there.
-/

namespace LocaleCatalogue

/-! ### Styles -/

/-- A style of line ends. -/
inductive NewlineStyle where
  | lineFeed
  | pair
  | carriageReturn
deriving DecidableEq, Repr

namespace NewlineStyle

/-- The characters that end a line. -/
def characters : NewlineStyle → List Char
  | .lineFeed => ['\n']
  | .pair => ['\r', '\n']
  | .carriageReturn => ['\r']

/-- The octets that end a line. -/
def octets : NewlineStyle → Bytes
  | .lineFeed => [0x0A]
  | .pair => [0x0D, 0x0A]
  | .carriageReturn => [0x0D]

/-- Characters with their line ends in a style. -/
def spell (style : NewlineStyle) (cs : List Char) : List Char :=
  cs.flatMap fun c => if c = '\n' then style.characters else [c]

/-- Octets with their line ends in a style. -/
def spellOctets (style : NewlineStyle) (content : Bytes) : Bytes :=
  content.flatMap fun b => if b = 0x0A then style.octets else [b]

variable {style : NewlineStyle} {b : UInt8} {c : Char} {content rest : Bytes} {cs : List Char}

theorem spell_cons : style.spell (c :: cs) = (if c = '\n' then style.characters else [c]) ++ style.spell cs :=
  List.flatMap_cons

theorem spellOctets_nil : style.spellOctets [] = [] := rfl

theorem spellOctets_newline : style.spellOctets (0x0A :: content) = style.octets ++ style.spellOctets content :=
  List.flatMap_cons

theorem spellOctets_cons (hb : b ≠ 0x0A) : style.spellOctets (b :: content) = b :: style.spellOctets content := by
  rw [spellOctets, List.flatMap_cons, if_neg hb, List.singleton_append, spellOctets]

theorem head?_spell_of_carriageReturn (cs : List Char) :
    (spell .carriageReturn cs).head? ≠ some '\n' := by
  cases cs with
  | nil => exact nofun
  | cons c cs =>
      rw [spell_cons]
      split
      next => exact fun h => absurd (Option.some_inj.mp h) (by decide)
      next hc => exact fun h => hc (Option.some_inj.mp h)

/-- Unified line ends are line feeds again, whatever their style was. -/
theorem unifyNewlines_spell (hcs : '\r' ∉ cs) : unifyNewlines (style.spell cs) = cs := by
  induction cs with
  | nil => rfl
  | cons c cs ih =>
      rw [List.mem_cons, not_or] at hcs
      have hrest := ih hcs.2
      rw [spell_cons]
      split
      next hc =>
        subst hc
        cases style with
        | lineFeed => rw [characters, List.singleton_append, Written.unifyNewlines_cons (by decide), hrest]
        | pair => rw [characters, List.cons_append, List.singleton_append, unifyNewlines, hrest]
        | carriageReturn =>
            rw [characters, List.singleton_append, unifyNewlines, hrest]
            · rfl
            · rintro tail - htail
              exact head?_spell_of_carriageReturn cs (htail ▸ rfl)
      next hc => rw [List.singleton_append, Written.unifyNewlines_cons (Ne.symm hcs.1), hrest]

/-! ### Octets of one character -/

/-- A line end in a style begins with an octet that continues no character. -/
theorem exists_octets (style : NewlineStyle) : ∃ b more, Utf8.isTail b = false ∧ style.octets = b :: more := by
  cases style with
  | lineFeed => exact ⟨0x0A, [], by decide, rfl⟩
  | pair => exact ⟨0x0D, [0x0A], by decide, rfl⟩
  | carriageReturn => exact ⟨0x0D, [], by decide, rfl⟩

theorem goesOn_spellOctets (n : Nat) (content : Bytes) :
    Utf8.GoesOn n content (style.spellOctets content) := by
  induction content generalizing n with
  | nil => exact .ended
  | cons b content ih =>
      by_cases hb : b = 0x0A
      · subst hb
        obtain ⟨b', more, hb', hstyle⟩ := exists_octets style
        rw [spellOctets_newline, hstyle]
        exact .stopped (by decide) hb'
      · rw [spellOctets_cons hb]
        cases n with
        | zero => exact .complete
        | succ n => exact .same (ih n)

/-- Characters of longer encodings do not end lines. -/
theorem charOfNat_ne {n : Nat} (hn : 0x80 ≤ n) (hc : 0 < c.toNat ∧ c.toNat < 0x80) : Char.ofNat n ≠ c := by
  have hcases : (Char.ofNat n).toNat = n ∨ (Char.ofNat n).toNat = 0 := by
    rw [Char.ofNat]
    by_cases hvalid : n.isValidChar
    · rw [dif_pos hvalid]
      exact Or.inl rfl
    · rw [dif_neg hvalid]
      exact Or.inr rfl
  rintro rfl
  omega

theorem charOfNat_eq_iff (hb : b < 0x80) (hc : c.toNat < 0x80) :
    Char.ofNat b.toNat = c ↔ b = .ofNat c.toNat := by
  have hb : b.toNat < 0x80 := UInt8.lt_iff_toNat_lt.mp hb
  have hvalid : b.toNat.isValidChar := Or.inl (by omega)
  rw [← UInt8.toNat_inj, UInt8.toNat_ofNat', Nat.mod_eq_of_lt (by omega), ← Char.toNat_inj]
  rw [Char.ofNat, dif_pos hvalid]
  rfl

/-- The first octet of a character ends a line exactly if the character does, and no other octet of
it is a line feed. -/
theorem newline_of_lead {further : Nat} (h : Utf8.lead b rest = .character c further) :
    (c = '\n' ↔ b = 0x0A) ∧ (c = '\r' ↔ b = 0x0D) ∧ ∀ x ∈ rest.take further, x ≠ 0x0A := by
  rcases Utf8.lead_eq_character h with ⟨hb, rfl, rfl⟩ | ⟨hb, ⟨n, hn, rfl⟩, htail⟩
  · refine ⟨charOfNat_eq_iff hb (by decide), charOfNat_eq_iff hb (by decide), ?_⟩
    exact fun x hx => absurd hx List.not_mem_nil
  · refine ⟨iff_of_false (charOfNat_ne hn (by decide)) ?_, iff_of_false (charOfNat_ne hn (by decide)) ?_,
      fun x hx hnewline => ?_⟩
    · rintro rfl
      exact hb (by decide)
    · rintro rfl
      exact hb (by decide)
    · have := htail x hx
      rw [hnewline] at this
      exact absurd this (by decide)

/-! ### Decoding -/

/-- What decoding finds in octets and in their spelling in a style: characters in that style, or the
same fault, perhaps at another position. -/
inductive SameDecoding (style : NewlineStyle) :
    Except Utf8.Malformed (List Char) → Except Utf8.Malformed (List Char) → Prop
  | characters {cs : List Char} (hcs : '\r' ∉ cs) : SameDecoding style (.ok cs) (.ok (style.spell cs))
  | malformed {cause : Utf8.Malformed} (position : Nat) :
      SameDecoding style (.error cause) (.error { cause with position })

theorem SameDecoding.cons {r r' : Except Utf8.Malformed (List Char)} (h : SameDecoding style r r')
    (hc : c ≠ '\r') :
    SameDecoding style (r.map (c :: ·)) (r'.map ((if c = '\n' then style.characters else [c]) ++ ·)) := by
  cases h with
  | characters hcs =>
      rw [Except.map, Except.map, ← spell_cons]
      exact .characters (List.not_mem_cons_of_ne_of_not_mem hc.symm hcs)
  | malformed position => exact .malformed position

theorem decodeFrom_of_lead {further : Nat} (h : Utf8.lead b rest = .character c further) (position : Nat) :
    Utf8.decodeFrom 0 position (b :: rest) =
      (Utf8.decodeFrom further (position + 1) rest).map (c :: ·) := by
  rw [Utf8.decodeFrom, h]
  dsimp only
  cases Utf8.decodeFrom further (position + 1) rest <;> rfl

theorem decodeFrom_octets (style : NewlineStyle) (rest : Bytes) (position : Nat) :
    ∃ position', Utf8.decodeFrom 0 position (style.octets ++ rest) =
      (Utf8.decodeFrom 0 position' rest).map (style.characters ++ ·) := by
  have hfeed (position : Nat) : Utf8.decodeFrom 0 position (0x0A :: rest) =
      (Utf8.decodeFrom 0 (position + 1) rest).map ('\n' :: ·) := decodeFrom_of_lead rfl position
  have hreturn (more : Bytes) (position : Nat) : Utf8.decodeFrom 0 position (0x0D :: more) =
      (Utf8.decodeFrom 0 (position + 1) more).map ('\r' :: ·) := decodeFrom_of_lead rfl position
  cases style with
  | lineFeed => exact ⟨_, hfeed position⟩
  | carriageReturn => exact ⟨_, hreturn rest position⟩
  | pair =>
      refine ⟨position + 1 + 1, ?_⟩
      rw [octets, List.cons_append, List.singleton_append, hreturn, hfeed]
      cases Utf8.decodeFrom 0 (position + 1 + 1) rest <;> rfl

/-- Decoding goes alike from the middle of a character on, as long as no line feed is taken for a
part of it. -/
theorem decodeFrom_spellOctets (style : NewlineStyle) (hcontent : 0x0D ∉ content) {passing : Nat}
    (hpassing : ∀ x ∈ content.take passing, x ≠ 0x0A) (position position' : Nat) :
    SameDecoding style (Utf8.decodeFrom passing position content)
      (Utf8.decodeFrom passing position' (style.spellOctets content)) := by
  induction content generalizing passing position position' with
  | nil =>
      rw [spellOctets_nil, Utf8.decodeFrom, Utf8.decodeFrom]
      exact .characters List.not_mem_nil
  | cons b content ih =>
      rw [List.mem_cons, not_or] at hcontent
      cases passing with
      | succ passing =>
          -- inside a character nothing is respelled
          rw [spellOctets_cons (hpassing b List.mem_cons_self), Utf8.decodeFrom, Utf8.decodeFrom]
          exact ih hcontent.2 (fun x hx => hpassing x (List.mem_cons_of_mem b hx)) _ _
      | zero =>
          have hnone : ∀ x ∈ content.take 0, x ≠ 0x0A := fun x hx => absurd hx List.not_mem_nil
          by_cases hb : b = 0x0A
          · subst hb
            obtain ⟨behind, hbehind⟩ := decodeFrom_octets style (style.spellOctets content) position'
            rw [spellOctets_newline, hbehind, decodeFrom_of_lead rfl]
            exact (ih hcontent.2 hnone _ _).cons (by decide)
          · have hlead : Utf8.lead b (style.spellOctets content) = Utf8.lead b content :=
              Utf8.lead_congr (goesOn_spellOctets 3 content)
            -- whatever the style, what begins here is the same
            rw [spellOctets_cons hb]
            cases hhere : Utf8.lead b content with
            | malformed fault width =>
                rw [Utf8.decodeFrom, Utf8.decodeFrom, hlead, hhere]
                exact .malformed position'
            | character c further =>
                obtain ⟨hfeed, hreturn, htail⟩ := newline_of_lead hhere
                have hc : c ≠ '\r' := fun h => hcontent.1 (hreturn.mp h).symm
                have hcons := (ih hcontent.2 htail (position + 1) (position' + 1)).cons hc
                rw [if_neg fun h => hb (hfeed.mp h)] at hcons
                rw [decodeFrom_of_lead hhere, decodeFrom_of_lead (hlead.trans hhere)]
                exact hcons

theorem decode_spellOctets (style : NewlineStyle) (hcontent : 0x0D ∉ content) :
    SameDecoding style (Utf8.decode content) (Utf8.decode (style.spellOctets content)) :=
  decodeFrom_spellOctets style hcontent (fun _ hx => absurd hx List.not_mem_nil) 0 0

end NewlineStyle

end LocaleCatalogue
