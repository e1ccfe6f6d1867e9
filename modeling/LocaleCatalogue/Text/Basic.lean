/-!
# Text as code points

A text is a list of code points. Unlike a character, a code point may be a lone surrogate: keys
written with `\u` escapes and specifiers cut from them can hold one. This module fixes the type, the
way from characters into it and the few list operations that paths, messages and reports share. It
says nothing about bytes.
-/

namespace LocaleCatalogue

/-- One of the 0x110000 code points, surrogates included. -/
abbrev CodePoint : Type := Fin 0x110000

namespace CodePoint

/-- A numeral is the code point of its value. -/
instance (priority := high) instOfNat (n : Nat) : OfNat CodePoint n :=
  ⟨⟨n % 0x110000, Nat.mod_lt n (by decide)⟩⟩

/-- A character is the code point of its value. -/
def ofChar (c : Char) : CodePoint :=
  ⟨c.toNat, by
    have h := c.valid
    unfold UInt32.isValidChar Nat.isValidChar at h
    unfold Char.toNat
    omega⟩

/-- Surrogates are the code points that no character has. -/
def isSurrogate (c : CodePoint) : Bool := 0xD800 ≤ c.val && c.val ≤ 0xDFFF

/-- The character of a code point, unless it is a surrogate. -/
def toChar? (c : CodePoint) : Option Char :=
  if h : c.val.isValidChar then some (Char.ofNatAux c.val h) else none

theorem toChar?_ofChar (c : Char) : (ofChar c).toChar? = some c := by
  have h : (ofChar c).val.isValidChar := c.valid
  rw [toChar?, dif_pos h]
  rfl

theorem ofChar_injective {a b : Char} (h : ofChar a = ofChar b) : a = b := by
  have := congrArg toChar? h
  simpa [toChar?_ofChar] using this

/-- ASCII letters A to Z move to a to z; everything else stays. -/
def asciiLower (c : CodePoint) : CodePoint :=
  if h : 0x41 ≤ c.val ∧ c.val ≤ 0x5A then ⟨c.val + 0x20, by omega⟩ else c

/-- ASCII letters a to z move to A to Z; everything else stays. -/
def asciiUpper (c : CodePoint) : CodePoint :=
  if h : 0x61 ≤ c.val ∧ c.val ≤ 0x7A then ⟨c.val - 0x20, by omega⟩ else c

/-- The value of a hexadecimal digit in ASCII. -/
def hexDigit? (c : CodePoint) : Option Nat :=
  if 0x30 ≤ c.val ∧ c.val ≤ 0x39 then some (c.val - 0x30)
  else if 0x41 ≤ c.val ∧ c.val ≤ 0x46 then some (c.val - 0x37)
  else if 0x61 ≤ c.val ∧ c.val ≤ 0x66 then some (c.val - 0x57)
  else none

end CodePoint

/-- A list of code points. -/
abbrev Text : Type := List CodePoint

namespace Text

/-- The code points of a list of characters. -/
def ofChars (cs : List Char) : Text := cs.map CodePoint.ofChar

/-- The code points of a string. -/
def ofString (s : String) : Text := ofChars s.toList

instance : Coe String Text := ⟨ofString⟩

/-- The characters of a text without surrogates. -/
def toChars? (t : Text) : Option (List Char) := t.mapM CodePoint.toChar?

/-- The string of a text without surrogates. -/
def toString? (t : Text) : Option String := t.toChars?.map String.ofList

/-- The decimal digits of a natural number. -/
def ofNat (n : Nat) : Text := ofString (toString n)

/-- The decimal digits of an integer, after a minus sign if it is negative. -/
def ofInt (n : Int) : Text :=
  match n with
  | .ofNat k => ofNat k
  | .negSucc k => ofString "-" ++ ofNat (k + 1)

/-- The parts with `separator` between neighbours. -/
def join (separator : Text) : List Text → Text
  | [] => []
  | [t] => t
  | t :: u :: rest => t ++ separator ++ join separator (u :: rest)

/-- The pieces between occurrences of one code point; always at least one piece. -/
def splitOn (separator : CodePoint) : Text → List Text
  | [] => [[]]
  | c :: cs =>
    if c = separator then [] :: splitOn separator cs
    else
      match splitOn separator cs with
      | [] => [[c]]
      | piece :: pieces => (c :: piece) :: pieces

/-- Whether `part` occurs somewhere in the text. -/
def hasPart (part : Text) : Text → Bool
  | [] => part.isEmpty
  | c :: cs => part.isPrefixOf (c :: cs) || hasPart part cs

/-- The text without its longest ending made of members of `drop`. -/
def trimRight (drop : CodePoint → Bool) (t : Text) : Text := (t.reverse.dropWhile drop).reverse

/-- The text without its longest beginning and ending made of members of `drop`. -/
def trim (drop : CodePoint → Bool) (t : Text) : Text := trimRight drop (t.dropWhile drop)

/-- ASCII letters in lower case. -/
def asciiLower (t : Text) : Text := t.map CodePoint.asciiLower

/-- ASCII letters in upper case. -/
def asciiUpper (t : Text) : Text := t.map CodePoint.asciiUpper

/-- The text filled with spaces on the right up to `width` code points. -/
def padRight (width : Nat) (t : Text) : Text := t ++ List.replicate (width - t.length) 0x20

/-- Dictionary order by code point. -/
def le : Text → Text → Bool
  | [], _ => true
  | _ :: _, [] => false
  | a :: s, b :: t => if a.val < b.val then true else if b.val < a.val then false else le s t

theorem ofChars_append (a b : List Char) : ofChars (a ++ b) = ofChars a ++ ofChars b := by
  simp [ofChars]

theorem toChars?_ofChars (cs : List Char) : (ofChars cs).toChars? = some cs := by
  induction cs with
  | nil => rfl
  | cons c cs ih =>
      have step : toChars? (CodePoint.ofChar c :: ofChars cs) = some (c :: cs) := by
        simp only [toChars?, List.mapM_cons, CodePoint.toChar?_ofChar]
        simp only [toChars?] at ih
        simp [ih]
      exact step

end Text

end LocaleCatalogue
