import LocaleCatalogue.Text.Printable

/-!
# Quoted text

A text between quotes, on one line and in printable code points only. Single quotes are used unless
the text holds a single quote and no double quote.
-/

namespace LocaleCatalogue.Quoted

/-- The lower-case hexadecimal digits of a value, at least `width` of them. -/
def hex (width n : Nat) : Text :=
  let digits := Text.ofChars (Nat.toDigits 16 n)
  List.replicate (width - digits.length) 0x30 ++ digits

/-- One code point inside the given quote. -/
def escape (quote c : CodePoint) : Text :=
  if c = quote || c = 0x5C then [0x5C, c]
  else if c = 0x09 then [0x5C, 0x74]
  else if c = 0x0A then [0x5C, 0x6E]
  else if c = 0x0D then [0x5C, 0x72]
  else if c.isPrintable then [c]
  else if c.val < 0x100 then [0x5C, 0x78] ++ hex 2 c.val
  else if c.val < 0x10000 then [0x5C, 0x75] ++ hex 4 c.val
  else [0x5C, 0x55] ++ hex 8 c.val

/-- The quote that a text is put in. -/
def quoteFor (t : Text) : CodePoint := if List.elem 0x27 t && !List.elem 0x22 t then 0x22 else 0x27

/-- A text in quotes. -/
def encode (t : Text) : Text :=
  let quote := quoteFor t
  quote :: t.flatMap (escape quote) ++ [quote]

end LocaleCatalogue.Quoted
