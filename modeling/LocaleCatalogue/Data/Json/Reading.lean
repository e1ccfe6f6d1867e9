import LocaleCatalogue.Data.Value
import LocaleCatalogue.Decimal.Reading

/-!
# Reading JSON

A reader of JSON texts. Member order and repeated names are kept, integers are unbounded, a number
with a point or an exponent is a floating-point number, and a `\u` escape that is not half of a pair
gives a lone surrogate.
-/

namespace LocaleCatalogue.Json

/-- White space between tokens. -/
def isBlank (c : Char) : Bool := c = ' ' || c = '\t' || c = '\n' || c = '\r'

/-- The text after white space. -/
def skipBlanks (cs : List Char) : List Char := cs.dropWhile isBlank

/-- The value of exactly four hexadecimal digits, and what follows them. -/
def fourDigits? : List Char → Option (Nat × List Char)
  | a :: b :: c :: d :: rest =>
    match [a, b, c, d].mapM fun x => (CodePoint.ofChar x).hexDigit? with
    | some ds => some (ds.foldl (fun n x => n * 16 + x) 0, rest)
    | none => none
  | _ => none

/-- A value as a code point; a value that is none becomes the replacement character. -/
def pointOf (n : Nat) : CodePoint := if h : n < 0x110000 then ⟨n, h⟩ else 0xFFFD

/-- What follows the `u` of an escape: a code point, written as a pair if it needs one. -/
def escapedPoint? (cs : List Char) : Option (CodePoint × List Char) :=
  match fourDigits? cs with
  | none => none
  | some (high, rest) =>
    if 0xD800 ≤ high && high ≤ 0xDBFF then
      match rest with
      | '\\' :: 'u' :: more =>
        match fourDigits? more with
        | some (low, after) =>
          if 0xDC00 ≤ low && low ≤ 0xDFFF then
            some (pointOf (0x10000 + (high - 0xD800) * 0x400 + (low - 0xDC00)), after)
          else some (pointOf high, rest)
        | none => some (pointOf high, rest)
      | _ => some (pointOf high, rest)
    else some (pointOf high, rest)

/-- What a single letter after a backslash stands for. -/
def letterEscape? : Char → Option Char
  | '\x22' => some '\x22'
  | '\\' => some '\\'
  | '/' => some '/'
  | 'b' => some '\x08'
  | 'f' => some '\x0C'
  | 'n' => some '\n'
  | 'r' => some '\r'
  | 't' => some '\t'
  | _ => none

/-- The rest of a string after its opening quote. -/
def stringRest? : Nat → List Char → Option (Text × List Char)
  | 0, _ => none
  | _ + 1, [] => none
  | _ + 1, '\x22' :: rest => some ([], rest)
  | fuel + 1, '\\' :: 'u' :: cs =>
    match escapedPoint? cs with
    | some (p, rest) => (stringRest? fuel rest).map fun (t, after) => (p :: t, after)
    | none => none
  | fuel + 1, '\\' :: c :: rest =>
    match letterEscape? c with
    | some d => (stringRest? fuel rest).map fun (t, after) => (CodePoint.ofChar d :: t, after)
    | none => none
  | fuel + 1, c :: rest =>
    if c = '\\' || c.toNat < 0x20 then none
    else (stringRest? fuel rest).map fun (t, after) => (CodePoint.ofChar c :: t, after)

/-- Digits at the beginning, as their value and count. -/
def digitRun (cs : List Char) : Nat × Nat :=
  let ds := cs.takeWhile Char.isDigit
  (ds.foldl (fun n c => n * 10 + (c.toNat - 0x30)) 0, ds.length)

/-- A number. -/
def number? (cs : List Char) : Option (Value × List Char) :=
  let (negative, cs) := match cs with
    | '-' :: rest => (true, rest)
    | _ => (false, cs)
  let (whole, n) := digitRun cs
  if n = 0 then none
  else
    let rest := cs.drop n
    let (fraction, places, rest) := match rest with
      | '.' :: more =>
        let (f, k) := digitRun more
        if k = 0 then (0, 0, rest) else (f, k, more.drop k)
      | _ => (0, 0, rest)
    let (exponent, rest) : Option Int × List Char := match rest with
      | e :: more =>
        if e = 'e' || e = 'E' then
          let (down, digits) := match more with
            | '-' :: ds => (true, ds)
            | '+' :: ds => (false, ds)
            | ds => (false, ds)
          let (x, k) := digitRun digits
          if k = 0 then (none, rest) else (some (if down then -(x : Int) else x), digits.drop k)
        else (none, rest)
      | [] => (none, rest)
    if places = 0 && exponent.isNone then
      some (.int (if negative then -(whole : Int) else whole), rest)
    else
      let digits := whole * Nat.pow 10 places + fraction
      let scale : Int := exponent.getD 0 - places
      some (.float (Decimal.toFloat negative digits scale), rest)

/-- A fixed word. -/
def word? (w : String) (v : Value) (cs : List Char) : Option (Value × List Char) :=
  if w.toList.isPrefixOf cs then some (v, cs.drop w.length) else none

mutual

/-- A value, after white space. -/
def value? : Nat → List Char → Option (Value × List Char)
  | 0, _ => none
  | fuel + 1, cs =>
    match skipBlanks cs with
    | '\x22' :: rest => (stringRest? rest.length rest).map fun (t, after) => (.text t, after)
    | '[' :: rest =>
      match skipBlanks rest with
      | ']' :: after => some (.list [], after)
      | _ => (items? fuel rest).map fun (vs, after) => (.list vs, after)
    | '\x7b' :: rest =>
      match skipBlanks rest with
      | '\x7d' :: after => some (.table [], after)
      | _ => (members? fuel rest).map fun (ms, after) => (.table ms, after)
    | 't' :: rest => word? "true" (.bool true) ('t' :: rest)
    | 'f' :: rest => word? "false" (.bool false) ('f' :: rest)
    | 'n' :: rest => word? "null" .null ('n' :: rest)
    | rest => number? rest

/-- Items up to the closing bracket. -/
def items? : Nat → List Char → Option (List Value × List Char)
  | 0, _ => none
  | fuel + 1, cs =>
    match value? fuel cs with
    | none => none
    | some (v, rest) =>
      match skipBlanks rest with
      | ',' :: more => (items? fuel more).map fun (vs, after) => (v :: vs, after)
      | ']' :: after => some ([v], after)
      | _ => none

/-- Members up to the closing brace. -/
def members? : Nat → List Char → Option (List (Text × Value) × List Char)
  | 0, _ => none
  | fuel + 1, cs =>
    match skipBlanks cs with
    | '\x22' :: rest =>
      match stringRest? rest.length rest with
      | none => none
      | some (name, rest) =>
        match skipBlanks rest with
        | ':' :: rest =>
          match value? fuel rest with
          | none => none
          | some (v, rest) =>
            match skipBlanks rest with
            | ',' :: more => (members? fuel more).map fun (ms, after) => ((name, v) :: ms, after)
            | '\x7d' :: after => some ([(name, v)], after)
            | _ => none
        | _ => none
    | _ => none

end

/-- The value of a JSON text. -/
def read? (cs : List Char) : Option Value :=
  match value? (cs.length + 1) cs with
  | some (v, rest) => if (skipBlanks rest).isEmpty then some v else none
  | none => none

end LocaleCatalogue.Json
