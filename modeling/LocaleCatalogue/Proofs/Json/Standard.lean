import LocaleCatalogue.Data.Json.Reading
import LocaleCatalogue.Proofs.Json.Written
import LocaleCatalogue.Proofs.Text.Surrogates

/-!
# What JSON texts mean

A relation between JSON texts and the values that they denote, apart from any reader. A reader is
standard if it reads every text of the relation as its value. The relation has whole numbers only and
tables that name everything once, so a reader stays free to treat other numbers and repeated names as
it likes.
-/

namespace LocaleCatalogue.Json

open Written (Gap Digits decimalDigits hexDigits hexValue isReserved shorthands)

/-! ## Strings -/

/-- The letters that may follow a backslash, with the characters that they stand for. -/
def letters : List (Char × Char) := ('/', '/') :: shorthands

/-- One sign of a string: a character as itself, a letter behind a backslash, or four digits that
spell a unit of sixteen bits. -/
inductive Sign where
  | plain (c : Char) (free : isReserved c = false)
  | short (letter c : Char) (known : (letter, c) ∈ letters)
  | unit (digits : List (Char × Nat)) (value : CodePoint) (known : ∀ d ∈ digits, d ∈ hexDigits)
      (four : digits.length = 4) (spells : hexValue digits = value.val)

/-- The characters of a sign. -/
def Sign.text : Sign → List Char
  | .plain c _ => [c]
  | .short letter _ _ => ['\\', letter]
  | .unit digits _ _ _ _ => '\\' :: 'u' :: digits.map Prod.fst

/-- The code point that a sign stands for on its own. -/
def Sign.value : Sign → CodePoint
  | .plain c _ => CodePoint.ofChar c
  | .short _ c _ => CodePoint.ofChar c
  | .unit _ value _ _ _ => value

/-- Only units of sixteen bits stand for surrogates. -/
theorem Sign.exists_digits (s : Sign) (h : s.value.IsHigh ∨ s.value.IsLow) :
    ∃ digits : List (Char × Nat), (∀ d ∈ digits, d ∈ hexDigits) ∧ digits.length = 4 ∧
      hexValue digits = s.value.val ∧ s.text = '\\' :: 'u' :: digits.map Prod.fst := by
  have hchar : ∀ c : Char, ¬ ((CodePoint.ofChar c).IsHigh ∨ (CodePoint.ofChar c).IsLow) := fun c =>
    not_or.mpr ⟨CodePoint.not_isHigh_ofChar c, CodePoint.not_isLow_ofChar c⟩
  cases s with
  | plain c free => exact absurd h (hchar c)
  | short letter c known => exact absurd h (hchar c)
  | unit digits value known four spells => exact ⟨digits, known, four, spells, rfl⟩

/-- Signs in double quotes. -/
def quotedSigns (signs : List Sign) : List Char := '\x22' :: signs.flatMap Sign.text ++ ['\x22']

/-- The texts that signs stand for: the two halves of a pair stand for one code point, every other
sign for its own. -/
inductive Spells : List Sign → Text → Prop where
  | nil : Spells [] []
  | single {s : Sign} {signs : List Sign} {t : Text} (rest : Spells signs t)
      (alone : ∀ next ∈ signs.head?, ¬ (s.value.IsHigh ∧ next.value.IsLow)) :
      Spells (s :: signs) (s.value :: t)
  | pair {high low : Sign} {c : CodePoint} {signs : List Sign} {t : Text} (rest : Spells signs t)
      (halves : CodePoint.IsPair high.value low.value c) : Spells (high :: low :: signs) (c :: t)

/-! ## Values -/

/-- The values that have a name. -/
def constants : List (String × Value) := [("null", .null), ("true", .bool true), ("false", .bool false)]

/-- The number that digits spell. -/
def valueOf (d : Digits) : Nat := Nat.ofDigitChars 10 d.text 0

mutual

/-- The value that a text denotes. -/
inductive Denotes : List Char → Value → Prop where
  | constant {word : String} {v : Value} (known : (word, v) ∈ constants) : Denotes word.toList v
  | natural (d : Digits) (plain : d.first = '0' → d.more = []) : Denotes d.text (.int (valueOf d))
  | negative (d : Digits) (plain : d.first ≠ '0') : Denotes ('-' :: d.text) (.int (-valueOf d))
  | text {signs : List Sign} {t : Text} (spells : Spells signs t) :
      Denotes (quotedSigns signs) (.text t)
  | emptyList (gap : Gap) : Denotes ('[' :: gap.text ++ [']']) (.list [])
  | list {cs : List Char} {vs : List Value} (items : DenoteItems cs vs) :
      Denotes ('[' :: cs ++ [']']) (.list vs)
  | emptyTable (gap : Gap) : Denotes ('\x7b' :: gap.text ++ ['\x7d']) (.table [])
  | table {cs : List Char} {entries : List (Text × Value)} (members : DenoteMembers cs entries)
      (once : (entries.map Prod.fst).Nodup) : Denotes ('\x7b' :: cs ++ ['\x7d']) (.table entries)

/-- The items between the brackets of a list. -/
inductive DenoteItems : List Char → List Value → Prop where
  | last {cs : List Char} {v : Value} (before : Gap) (item : Denotes cs v) (after : Gap) :
      DenoteItems (before.text ++ cs ++ after.text) [v]
  | more {cs more : List Char} {v : Value} {vs : List Value} (before : Gap) (item : Denotes cs v)
      (after : Gap) (rest : DenoteItems more vs) :
      DenoteItems (before.text ++ cs ++ after.text ++ ',' :: more) (v :: vs)

/-- The entries between the braces of a table. -/
inductive DenoteMembers : List Char → List (Text × Value) → Prop where
  | last {cs : List Char} {e : Text × Value} (entry : DenotesMember cs e) : DenoteMembers cs [e]
  | more {cs more : List Char} {e : Text × Value} {entries : List (Text × Value)}
      (entry : DenotesMember cs e) (rest : DenoteMembers more entries) :
      DenoteMembers (cs ++ ',' :: more) (e :: entries)

/-- A name and its value, with the blanks around the tokens. -/
inductive DenotesMember : List Char → Text × Value → Prop where
  | mk {signs : List Sign} {name : Text} {cs : List Char} {v : Value} (before : Gap)
      (spells : Spells signs name) (beforeColon afterColon : Gap) (value : Denotes cs v) (after : Gap) :
      DenotesMember (before.text ++ quotedSigns signs ++ beforeColon.text ++ ':' :: afterColon.text
        ++ cs ++ after.text) (name, v)

end

/-- A reader is standard if it reads every text with the value that it denotes, in whatever blanks it
stands. -/
def IsStandard (read : List Char → Option Value) : Prop :=
  ∀ (before : Gap) (cs : List Char) (after : Gap) (v : Value), Denotes cs v →
    read (before.text ++ cs ++ after.text) = some v

end LocaleCatalogue.Json
