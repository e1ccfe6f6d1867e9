import LocaleCatalogue.Text.Quoted

/-!
# Reading integers

An integer is digits with an optional sign, single underscores between digits and white space around
it. Digits of any script count, as does any white space; in hexadecimal a `0x` may stand before the
digits. A decimal integer may have at most 4300 digits.
-/

namespace LocaleCatalogue.Integer

/-- The digit zero of every script with decimal digits in Unicode 14; the other nine follow it. -/
def zeros : List Nat := [
  0x30, 0x660, 0x6F0, 0x7C0, 0x966, 0x9E6, 0xA66, 0xAE6, 0xB66, 0xBE6, 0xC66, 0xCE6, 0xD66, 0xDE6,
  0xE50, 0xED0, 0xF20, 0x1040, 0x1090, 0x17E0, 0x1810, 0x1946, 0x19D0, 0x1A80, 0x1A90, 0x1B50,
  0x1BB0, 0x1C40, 0x1C50, 0xA620, 0xA8D0, 0xA900, 0xA9D0, 0xA9F0, 0xAA50, 0xABF0, 0xFF10, 0x104A0,
  0x10D30, 0x11066, 0x110F0, 0x11136, 0x111D0, 0x112F0, 0x11450, 0x114D0, 0x11650, 0x116C0,
  0x11730, 0x118E0, 0x11950, 0x11C50, 0x11D50, 0x11DA0, 0x16A60, 0x16AC0, 0x16B50, 0x1D7CE,
  0x1D7D8, 0x1D7E2, 0x1D7EC, 0x1D7F6, 0x1E140, 0x1E2F0, 0x1E950, 0x1FBF0]

/-- The value of a decimal digit of any script. -/
def digitValue? (c : CodePoint) : Option Nat :=
  (zeros.find? fun z => z ≤ c.val && c.val ≤ z + 9).map fun z => c.val - z

/-- White space beyond ASCII. -/
def isWideSpace (c : CodePoint) : Bool :=
  let n := c.val
  n = 0x85 || n = 0xA0 || n = 0x1680 || (0x2000 ≤ n && n ≤ 0x200A) || n = 0x2028 || n = 0x2029
    || n = 0x202F || n = 0x205F || n = 0x3000

/-- White space in ASCII. -/
def isNarrowSpace (c : CodePoint) : Bool := c.val = 0x20 || (0x09 ≤ c.val && c.val ≤ 0x0D)

/-- A code point with ASCII's space or digit in place of those of other scripts. -/
def narrow (c : CodePoint) : CodePoint :=
  if c.val < 0x7F then c
  else if isWideSpace c then 0x20
  else
    match digitValue? c with
    | some d => CodePoint.ofChar (Nat.digitChar d)
    | none => 0x3F

/-- Why a text is no integer. -/
inductive Fault where
  | malformed (base : Nat) (text : Text)
  | tooLong (digits : Nat)
deriving DecidableEq

/-- At most this many digits are read in decimal. -/
def digitLimit : Nat := 4300

/-- What is said about a text that is no integer; at most 200 code points of it are shown. -/
def Fault.message : Fault → Text
  | .malformed base text =>
    Text.ofString s!"invalid literal for int() with base {base}: " ++ (Quoted.encode text).take 200
  | .tooLong digits =>
    s!"Exceeds the limit ({digitLimit} digits) for integer string conversion: value has {digits} digits; "
      ++ "use sys.set_int_max_str_digits() to increase the limit"

/-- The values of digits in a base, with single underscores between them. The flag says that a digit
has to come next. -/
def digits? (base : Nat) : (due : Bool) → Text → Option (List Nat)
  | due, [] => if due then none else some []
  | due, c :: rest =>
    if c = 0x5F then
      if due then none else digits? base true rest
    else
      match c.hexDigit? with
      | none => none
      | some d => if d < base then (digits? base false rest).map (d :: ·) else none

/-- The number with the given digits. -/
def valueOf (base : Nat) (digits : List Nat) : Nat := digits.foldl (fun n d => n * base + d) 0

/-- The digits after a mark of the base, if the base is sixteen and there is one. -/
def afterMark (base : Nat) : Text → Text
  | 0x30 :: x :: rest =>
    if base = 16 && (x = 0x78 || x = 0x58) then
      match rest with
      | 0x5F :: after => after
      | _ => rest
    else 0x30 :: x :: rest
  | t => t

/-- Reads an integer. -/
def read (base : Nat) (text : Text) : Except Fault Int :=
  let t := Text.trim isNarrowSpace (text.map narrow)
  let (negative, unsigned) : Bool × Text :=
    match t with
    | 0x2D :: rest => (true, rest)
    | 0x2B :: rest => (false, rest)
    | _ => (false, t)
  match digits? base true (afterMark base unsigned) with
  | none => .error (.malformed base text)
  | some ds =>
    if base = 10 && digitLimit < ds.length then .error (.tooLong ds.length)
    else .ok (if negative then -(valueOf base ds : Int) else valueOf base ds)

end LocaleCatalogue.Integer
