import LocaleCatalogue.Data.Value

/-!
# Writing JSON

A value as a JSON text in ASCII, one item or member a line, each level indented by two spaces more.
What is not ASCII is escaped, code points beyond the first plane as pairs.
-/

namespace LocaleCatalogue.Json

/-- A code unit as an escape. -/
def unitEscape (n : Nat) : Text := [0x5C, 0x75] ++ Quoted.hex 4 n

/-- A code point inside a string. -/
def escape (c : CodePoint) : Text :=
  if c = 0x22 || c = 0x5C then [0x5C, c]
  else if c = 0x08 then [0x5C, 0x62]
  else if c = 0x09 then [0x5C, 0x74]
  else if c = 0x0A then [0x5C, 0x6E]
  else if c = 0x0C then [0x5C, 0x66]
  else if c = 0x0D then [0x5C, 0x72]
  else if 0x20 ≤ c.val && c.val ≤ 0x7E then [c]
  else if c.val < 0x10000 then unitEscape c.val
  else
    unitEscape (0xD800 + (c.val - 0x10000) / 0x400) ++ unitEscape (0xDC00 + (c.val - 0x10000) % 0x400)

/-- A text as a string. -/
def string (t : Text) : Text := 0x22 :: t.flatMap escape ++ [0x22]

/-- A number as it is written; numbers that are none have names. -/
def float (x : Float) : Text :=
  if x.isNaN then Text.ofString "NaN"
  else if x.isInf then Text.ofString (if x < 0 then "-Infinity" else "Infinity")
  else Text.ofString (Decimal.ofFloat x)

/-- A line end and the indentation of a level. -/
def lineEnd (level : Nat) : Text := 0x0A :: List.replicate (2 * level) 0x20

/-- Written items between an opening and a closing character; nothing but the two if there are none.
-/
def enclose (level : Nat) (opening closing : CodePoint) (written : List Text) : Text :=
  match written with
  | [] => [opening, closing]
  | _ =>
    opening :: lineEnd (level + 1) ++ Text.join (0x2C :: lineEnd (level + 1)) written ++ lineEnd level
      ++ [closing]

mutual

/-- A value that begins at a level of indentation. -/
def writeAt (level : Nat) : Value → Text
  | .null => Text.ofString "null"
  | .bool b => Text.ofString (if b then "true" else "false")
  | .int n => Text.ofInt n
  | .float x => float x
  | .text t => string t
  | .list items => enclose level 0x5B 0x5D (writeItems (level + 1) items)
  | .table entries => enclose level 0x7B 0x7D (writeMembers (level + 1) entries)
  | .moment m => string (Text.ofString m.show_)

/-- The items of a list. -/
def writeItems (level : Nat) : List Value → List Text
  | [] => []
  | v :: vs => writeAt level v :: writeItems level vs

/-- The members of a table. -/
def writeMembers (level : Nat) : List (Text × Value) → List Text
  | [] => []
  | (name, v) :: rest => (string name ++ Text.ofString ": " ++ writeAt level v) :: writeMembers level rest

end

/-- The JSON text of a value. -/
def write (v : Value) : Text := writeAt 0 v

end LocaleCatalogue.Json
