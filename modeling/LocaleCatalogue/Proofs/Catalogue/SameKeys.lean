import LocaleCatalogue.Catalogue.Key
import LocaleCatalogue.Proofs.Script.Signs
import LocaleCatalogue.Proofs.Syntax.Spelling

/-!
# Different spellings of one key

A key may be spelled in many ways: in either quotes, with characters as they are or as escapes, over
several lines. All spellings of a string give keys with the units of the string. The keys are the same
text if the spellings agree in one thing: which characters beyond the first plane they write as the two
halves of a pair. A half is decoded by itself, so the two do not become one character again.
-/

namespace LocaleCatalogue

open Script (IsLiteral parseChars quotes)
open Syntax (Node Property)
open Written (Half Sign Stroke halfPlaces signed)

variable {quote quote' : Char} {signs : List (Sign quote)} {signs' : List (Sign quote')} {s : List Char}

/-- The literal with these signs denotes the string: both have the same units. No sign takes a line
separator behind it away. -/
structure Written.Denotes (signs : List (Sign quote)) (s : List Char) : Prop where
  quoted : quote ∈ quotes
  precedes : signs.IsChain Sign.Precedes
  keeps : signs.IsChain Sign.Keeps
  units_eq : signs.flatMap Sign.units = (Text.ofChars s).units

/-- The characters are a literal, and wherever they stand as a string in a program, the property under
it has this key. -/
def NamesKey (cs : List Char) (name : Text) : Prop :=
  IsLiteral cs name ∧ ∀ (dialect : Script.Dialect) (text : List Char) (node : Node) (source : Bytes),
    node.Within (parseChars dialect text) → node.kind = "string" →
    node.readText = .ok (Text.ofChars cs) →
    Property.ofKey node source = .ok (.string name (node.location source))

/-- A literal names the key that its signs stand for. -/
theorem namesKey_signed (hquote : quote ∈ quotes) (hprecedes : signs.IsChain Sign.Precedes)
    (hkeeps : signs.IsChain Sign.Keeps) : NamesKey (signed signs) (signs.flatMap Sign.value) := by
  have hliteral := Script.isLiteral_signed hquote hprecedes hkeeps
  refine ⟨hliteral, fun dialect text node source hwithin hkind hspelled => ?_⟩
  have hvalue := Syntax.value_of_isLiteral (Syntax.stands_of_string hwithin hkind) hkind hspelled hliteral
  have hidentifier : node.kind ≠ "property_identifier" := by
    rw [hkind]
    decide
  rw [Property.ofKey, if_neg hidentifier, if_pos hkind, hvalue]

theorem Written.Denotes.value_units (h : Written.Denotes signs s) :
    Text.units (signs.flatMap Sign.value) = (Text.ofChars s).units := by
  rw [← h.units_eq]
  exact List.flatMap_assoc

/-- The values of two literals for one string are the same text if their halves stand at the same
places. -/
theorem Written.Denotes.value_eq_iff (h : Written.Denotes signs s) (h' : Written.Denotes signs' s) :
    signs.flatMap Sign.value = signs'.flatMap Sign.value ↔ halfPlaces 0 signs = halfPlaces 0 signs' := by
  rw [← Written.surrogates_value, ← Written.surrogates_value]
  constructor
  · intro heq
    rw [heq]
  · exact Text.eq_of_units_of_surrogates (h.value_units.trans h'.value_units.symm)

/-- The value of a literal is the string itself if the literal has no halves. -/
theorem Written.Denotes.value_eq_string_iff (h : Written.Denotes signs s) :
    signs.flatMap Sign.value = Text.ofChars s ↔ halfPlaces 0 signs = [] := by
  rw [← Written.surrogates_value, ← Text.surrogates_ofChars 0 s]
  constructor
  · intro heq
    rw [heq]
  · exact Text.eq_of_units_of_surrogates h.value_units

/-- Two literals that denote one string name keys with the units of the string. A key is the string
itself if its literal writes no character as two halves. The keys are the same, and each is found under
the other, exactly if the literals write the same characters as two halves. -/
theorem keys_of_one_string (h : Written.Denotes signs s) (h' : Written.Denotes signs' s) :
    ∃ name name', NamesKey (signed signs) name ∧ NamesKey (signed signs') name' ∧
      name.units = (Text.ofChars s).units ∧ name'.units = (Text.ofChars s).units ∧
      (name = Text.ofChars s ↔ halfPlaces 0 signs = []) ∧
      (name' = Text.ofChars s ↔ halfPlaces 0 signs' = []) ∧
      (name = name' ↔ halfPlaces 0 signs = halfPlaces 0 signs') ∧
      ∀ (l : Locale), ∀ k ∈ l.keys, ∀ k' ∈ l.keys, k.name = name → k'.name = name' →
        (k' ∈ l.find k.name ↔ halfPlaces 0 signs = halfPlaces 0 signs') := by
  refine ⟨_, _, namesKey_signed h.quoted h.precedes h.keeps, namesKey_signed h'.quoted h'.precedes h'.keeps,
    h.value_units, h'.value_units, h.value_eq_string_iff, h'.value_eq_string_iff, h.value_eq_iff h', ?_⟩
  intro l k hk k' hk' hname hname'
  rw [← h.value_eq_iff h', ← hname, ← hname', Locale.find, List.mem_filter]
  simp [hk', eq_comm]

/-- A character beyond the first plane as it is. -/
def grinRaw : List (Sign '\x27') := [.stroke (.bare '😀' (by decide))]

/-- The same character as a code point in braces, behind a line end that is left out. -/
def grinBraced : List (Sign '\x22') := [
  .stroke (.broken ['\n'] (by decide)),
  .stroke (.coded .braced [('1', 1), ('F', 15), ('6', 6), ('0', 0), ('0', 0)] '😀' (by decide)
    (Nat.succ_ne_zero _) rfl)]

/-- The same character as the two halves of its pair. -/
def grinHalved : List (Sign '\x27') := [
  .half ⟨.four, [('D', 13), ('8', 8), ('3', 3), ('D', 13)], 0xD83D, rfl, by decide, rfl, rfl⟩,
  .half ⟨.four, [('d', 13), ('e', 14), ('0', 0), ('0', 0)], 0xDE00, rfl, by decide, rfl, rfl⟩]

theorem denotes_grin : Written.Denotes grinRaw ['😀'] ∧ Written.Denotes grinBraced ['😀'] ∧
    Written.Denotes grinHalved ['😀'] := by
  refine ⟨⟨by decide, .singleton _, .singleton _, by decide⟩,
    ⟨by decide, ?_, ?_, by decide⟩, ⟨by decide, ?_, ?_, by decide⟩⟩
  · exact .cons_cons trivial (.singleton _)
  · exact .cons_cons (fun _ => rfl) (.singleton _)
  · exact .cons_cons trivial (.singleton _)
  · exact .cons_cons trivial (.singleton _)

theorem keys_of_one_string_grin :
    (∃ name, NamesKey (signed grinRaw) name ∧ NamesKey (signed grinBraced) name ∧
      name = Text.ofChars ['😀']) ∧
    ∃ name name', NamesKey (signed grinRaw) name ∧ NamesKey (signed grinHalved) name' ∧
      name.units = name'.units ∧ name ≠ name' := by
  obtain ⟨hraw, hbraced, hhalved⟩ := denotes_grin
  constructor
  · obtain ⟨name, name', hname, hname', -, -, hstring, -, hsame, -⟩ := keys_of_one_string hraw hbraced
    obtain rfl := hsame.mpr rfl
    exact ⟨name, hname, hname', hstring.mpr rfl⟩
  · obtain ⟨name, name', hname, hname', hunits, hunits', -, -, hsame, -⟩ :=
      keys_of_one_string hraw hhalved
    exact ⟨name, name', hname, hname', hunits.trans hunits'.symm, fun heq => absurd (hsame.mp heq) (by decide)⟩

end LocaleCatalogue
