import LocaleCatalogue.Proofs.Script.Strokes
import LocaleCatalogue.Proofs.Text.Surrogates

/-!
# String literals with halves of characters

A literal may also write a character beyond the first plane as two escapes, one for each half of its
pair. Such a half is an escape like any other to the parser and is decoded by itself, so it stays a
surrogate in the value. Between halves stand stretches of strokes, and these are read as before.
-/

namespace LocaleCatalogue

namespace Written

/-- A half of a pair, written as a code point in hexadecimal. -/
structure Half where
  coding : Coding
  digits : List (Char × Nat)
  point : CodePoint
  surrogate : point.isSurrogate = true
  known : ∀ d ∈ digits, d ∈ hexDigits
  enough : coding.Takes digits.length
  spells : hexValue digits = point.val

/-- The characters that a half is written with. -/
def Half.text (h : Half) : List Char :=
  '\\' :: (h.coding.opening ++ h.digits.map Prod.fst ++ h.coding.closing)

/-- One sign of a literal: a stroke, or a half of a pair. -/
inductive Sign (quote : Char) where
  | stroke (s : Stroke quote)
  | half (h : Half)

variable {quote : Char}

namespace Sign

/-- The characters that a sign is written with. -/
def text : Sign quote → List Char
  | .stroke s => s.text
  | .half h => h.text

/-- The code points that a sign stands for by itself. -/
def value : Sign quote → Text
  | .stroke s => Text.ofChars s.value
  | .half h => [h.point]

/-- The units of sixteen bits that a sign adds to a string. -/
def units (s : Sign quote) : List Nat := s.value.units

/-- The second sign can stand behind the first. -/
def Precedes : Sign quote → Sign quote → Prop
  | .stroke s, .stroke t => s.Precedes t
  | _, _ => True

/-- The second sign is no separator that the first one takes away. -/
def Keeps : Sign quote → Sign quote → Prop
  | .stroke s, .stroke t => s.cuts = true → t.isSeparator = false
  | _, _ => True

end Sign

/-- Signs in their quotes. -/
def signed (signs : List (Sign quote)) : List Char := quote :: signs.flatMap Sign.text ++ [quote]

/-- Where the halves among signs stand in the string, counted in units. -/
def halfPlaces : (start : Nat) → List (Sign quote) → List Nat
  | _, [] => []
  | start, .stroke s :: rest => halfPlaces (start + (Sign.stroke s).units.length) rest
  | start, .half _ :: rest => start :: halfPlaces (start + 1) rest

/-- The surrogates in the value of signs are their halves. -/
theorem surrogates_value (start : Nat) (signs : List (Sign quote)) :
    Text.surrogates start (signs.flatMap Sign.value) = halfPlaces start signs := by
  induction signs generalizing start with
  | nil => rfl
  | cons s signs ih =>
      rw [List.flatMap_cons, Text.surrogates_append, ih]
      cases s with
      | stroke s =>
          rw [Sign.value, Text.surrogates_ofChars]
          rfl
      | half h =>
          rw [Sign.value, Text.surrogates, if_pos h.surrogate, Text.units_cons,
            CodePoint.units_of_isSurrogate h.surrogate]
          rfl

/-- Signs are a stretch of strokes, and behind it nothing or a half and other signs. -/
theorem exists_stretch (signs : List (Sign quote)) :
    ∃ strokes : List (Stroke quote), signs = strokes.map .stroke ∨
      ∃ (h : Half) (rest : List (Sign quote)), signs = strokes.map .stroke ++ .half h :: rest := by
  induction signs with
  | nil => exact ⟨[], .inl rfl⟩
  | cons s signs ih =>
      cases s with
      | half h => exact ⟨[], .inr ⟨h, signs, rfl⟩⟩
      | stroke s =>
          obtain ⟨strokes, rfl | ⟨h, rest, rfl⟩⟩ := ih
          · exact ⟨s :: strokes, .inl rfl⟩
          · exact ⟨s :: strokes, .inr ⟨h, rest, rfl⟩⟩

theorem flatMap_text_strokes (strokes : List (Stroke quote)) :
    (strokes.map Sign.stroke).flatMap Sign.text = strokes.flatMap Stroke.text :=
  List.flatMap_map Sign.stroke Sign.text strokes

theorem flatMap_value_strokes (strokes : List (Stroke quote)) :
    (strokes.map Sign.stroke).flatMap Sign.value = Text.ofChars (strokes.flatMap Stroke.value) := by
  rw [List.flatMap_map, Text.ofChars, List.map_flatMap]
  rfl

end Written

namespace Script

open LocaleCatalogue.Script.Parser
open Written

variable {text : List Char} {quote : Char} {c d e : Cursor} {signs : List (Sign quote)}

/-- A half is one part, and its value is a surrogate. -/
theorem reads_part_of_half (hc : c.At text) (h : Half) (hp : c.Passes h.text d) :
    ∃ p, (stringPart quote).Reads c p d ∧ p.IsPart text [h.point] :=
  reads_part_of_escape hc (Lexeme.escape_coded h.known h.enough _)
    (decodeEscape_coding h.known h.enough h.spells) hp

theorem closes_at_half {h : Half} {rest : List Char} (hd : d.rest = h.text ++ rest) :
    d.Closes quote := by
  rintro y hy
  rw [hd] at hy
  cases hy
  exact ⟨by simp [isPlain], by decide, by decide⟩

/-- The signs of a string are read as parts whose values make up the value of the signs. -/
theorem reads_signs (hquote : quote ∈ quotes) (hc : c.At text)
    (hprecedes : signs.IsChain Sign.Precedes) (hkeeps : signs.IsChain Sign.Keeps)
    (h : c.Passes (signs.flatMap Sign.text) d) {rest : List Char} (hd : d.rest = quote :: rest) :
    ∃ parts values, (many (stringPart quote)).Reads c parts d ∧
      List.Forall₂ (Piece.IsPart text) parts values ∧ values.flatten = signs.flatMap Sign.value := by
  have hstretch : ∀ {strokes : List (Stroke quote)} {c d e : Cursor} {more : List Piece}, c.At text →
      (strokes.map Sign.stroke).IsChain Sign.Precedes → (strokes.map Sign.stroke).IsChain Sign.Keeps →
      c.Passes (strokes.flatMap Stroke.text) d → d.Closes quote →
      (many (stringPart quote)).Reads d more e →
      ∃ parts values, (many (stringPart quote)).Reads c (parts ++ more) e ∧
        List.Forall₂ (Piece.IsPart text) parts values ∧
        values.flatten = Text.ofChars (strokes.flatMap Stroke.value) := by
    intro strokes c d e more hc hprecedes hkeeps h hd hmore
    have hheard : heard false strokes = strokes.flatMap Stroke.value :=
      heard_eq_value_iff.mpr ⟨by simp, (List.isChain_map Sign.stroke).mp hkeeps⟩
    rw [← hheard]
    exact reads_parts_append hc ((List.isChain_map Sign.stroke).mp hprecedes) h hd hmore
  -- The induction is on the number of signs, because a stretch of strokes is read at once.
  induction hlength : signs.length using Nat.strongRecOn generalizing c signs with
  | _ length ih =>
    obtain ⟨strokes, rfl | ⟨half, others, rfl⟩⟩ := exists_stretch signs
    · rw [flatMap_text_strokes] at h
      obtain ⟨parts, values, hparts, hvalues, hflatten⟩ := hstretch hc hprecedes hkeeps h
        (closes_at_quote hquote hd) (reads_parts_at_quote hquote hd)
      rw [List.append_nil] at hparts
      exact ⟨parts, values, hparts, hvalues, hflatten.trans (flatMap_value_strokes strokes).symm⟩
    · rw [List.flatMap_append, flatMap_text_strokes, List.flatMap_cons] at h
      obtain ⟨e, hbefore, h⟩ := Cursor.passes_append.mp h
      obtain ⟨f, hhalf, hbehind⟩ := Cursor.passes_append.mp h
      obtain ⟨p, hread, hpart⟩ :=
        @reads_part_of_half text quote e f (hbefore.reaches.at hc) half hhalf
      obtain ⟨hprecedesFirst, hprecedesRest, -⟩ := List.isChain_append.mp hprecedes
      obtain ⟨hkeepsFirst, hkeepsRest, -⟩ := List.isChain_append.mp hkeeps
      obtain ⟨parts, values, hparts, hvalues, hflatten⟩ := ih others.length (by
          rw [← hlength, List.length_append, List.length_cons]
          omega) (hread.at (hbefore.reaches.at hc)) (List.isChain_cons.mp hprecedesRest).2
        (List.isChain_cons.mp hkeepsRest).2 hbehind rfl
      have hmoved : e.offset < f.offset := by
        have hoffset : f.offset = e.offset + half.text.length := hhalf.offset_eq
        have hpos : 0 < half.text.length := Nat.succ_pos _
        omega
      have hmany := (reads_many_of_moves hread hmoved).mpr ⟨parts, rfl, hparts⟩
      obtain ⟨firsts, firstValues, hfirsts, hfirstValues, hfirstFlatten⟩ :=
        hstretch hc hprecedesFirst hkeepsFirst hbefore (closes_at_half hhalf.rest_eq) hmany
      refine ⟨firsts ++ p :: parts, firstValues ++ [half.point] :: values, hfirsts,
        List.rel_append hfirstValues (.cons hpart hvalues), ?_⟩
      rw [List.flatten_append, List.flatten_cons, hfirstFlatten, hflatten, List.flatMap_append,
        flatMap_value_strokes, List.flatMap_cons]
      rfl

/-- Signs in their quotes are a string token, and its value is theirs. -/
theorem reads_signed (hquote : quote ∈ quotes) (hc : c.At text) (h : trivia.Reads c [] e)
    (hprecedes : signs.IsChain Sign.Precedes) (hkeeps : signs.IsChain Sign.Keeps)
    (hp : e.Passes (signed signs) d) :
    ∃ t : Tree, stringToken.Reads c ⟨[], t⟩ d ∧ t.kind = "string" ∧
      Syntax.Literal.value (t.place (.ofChars text)) = .ok (signs.flatMap Sign.value) := by
  rw [signed, List.cons_append, Cursor.passes_cons] at hp
  obtain ⟨f, hopening, hp⟩ := hp
  obtain ⟨k, hsigns, hclosing⟩ := Cursor.passes_append.mp hp
  have hk : k.rest = quote :: d.rest := hclosing.rest_eq
  obtain ⟨parts, values, hparts, hvalues, hflatten⟩ :=
    reads_signs hquote ((h.reaches.trans hopening.reaches).at hc) hprecedes hkeeps hsigns hk
  obtain ⟨t, hread, hkind, -, -, hvalue⟩ := reads_string_of_parts hquote h hopening hparts hvalues hclosing
  exact ⟨t, hread, hkind, hflatten ▸ hvalue⟩

/-- Signs in their quotes are one literal, and its value is theirs. -/
theorem isLiteral_signed (hquote : quote ∈ quotes) (hprecedes : signs.IsChain Sign.Precedes)
    (hkeeps : signs.IsChain Sign.Keeps) : IsLiteral (signed signs) (signs.flatMap Sign.value) := by
  have hpasses : (Cursor.start (signed signs)).Passes (signed signs) ⟨(signed signs).length, []⟩ :=
    ⟨(List.append_nil _).symm, (Nat.zero_add _).symm⟩
  have htrivia : trivia.Reads (Cursor.start (signed signs)) [] (Cursor.start (signed signs)) :=
    reads_trivia_quote hquote hpasses.rest_eq
  obtain ⟨t, hread, -, hvalue⟩ :=
    reads_signed hquote (Cursor.start_at _) htrivia hprecedes hkeeps hpasses
  exact ⟨t, hread, hvalue⟩

end Script

end LocaleCatalogue
