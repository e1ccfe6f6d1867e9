import LocaleCatalogue.Data.Value
import LocaleCatalogue.Decimal.Reading
import LocaleCatalogue.Text.Integer

/-!
# TOML scalars

Strings, numbers, dates and times as the TOML format writes them. Every reader takes the characters
from the scalar on and gives back those after it.
-/

namespace LocaleCatalogue.Toml

/-- Why a text is no TOML document: its form, or an integer with too many digits. -/
inductive Fault where
  | malformed
  | integer (cause : Integer.Fault)
deriving DecidableEq

/-- What a reader gives: a result and the characters after it. -/
abbrev Read (α : Type) : Type := Except Fault (α × List Char)

/-- Control characters. Only the tab may stand inside a line. -/
def isControl (c : Char) : Bool := c.toNat < 0x20 || c.toNat = 0x7F

/-- Control characters that may not stand in a string or comment. -/
def isIllegal (multiline : Bool) (c : Char) : Bool :=
  isControl c && c ≠ '\t' && !(multiline && c = '\n')

/-- White space within a line. -/
def isBlank (c : Char) : Bool := c = ' ' || c = '\t'

/-- White space and line ends. -/
def isGap (c : Char) : Bool := isBlank c || c = '\n'

/-- The characters after white space within a line. -/
def skipBlanks (cs : List Char) : List Char := cs.dropWhile isBlank

/-- The value of hexadecimal digits. -/
def hexValue? (ds : List Char) : Option Nat :=
  (ds.mapM fun d => (CodePoint.ofChar d).hexDigit?).map fun ns => ns.foldl (fun n d => n * 16 + d) 0

/-- The character with the given number of hexadecimal digits. -/
def hexChar (width : Nat) (cs : List Char) : Read (List Char) :=
  let ds := cs.take width
  if ds.length < width then .error .malformed
  else
    match hexValue? ds with
    | none => .error .malformed
    | some n => if n.isValidChar then .ok ([Char.ofNat n], cs.drop width) else .error .malformed

/-- What a letter after a backslash stands for. -/
def letterEscape? : Char → Option Char
  | 'b' => some '\x08'
  | 't' => some '\t'
  | 'n' => some '\n'
  | 'f' => some '\x0C'
  | 'r' => some '\r'
  | '\x22' => some '\x22'
  | '\\' => some '\\'
  | _ => none

/-- An escape after its backslash. In a string of several lines a backslash before the end of a line
takes the white space up to the next character with it. -/
def escape (multiline : Bool) : List Char → Read (List Char)
  | [] => .error .malformed
  | c :: rest =>
    if multiline && c = '\n' then .ok ([], rest.dropWhile isGap)
    else if multiline && isBlank c then
      match skipBlanks rest with
      | [] => .ok ([], [])
      | d :: after => if d = '\n' then .ok ([], after.dropWhile isGap) else .error .malformed
    else if c = 'u' then hexChar 4 rest
    else if c = 'U' then hexChar 8 rest
    else
      match letterEscape? c with
      | some d => .ok ([d], rest)
      | none => .error .malformed

/-- A string with escapes after its opening quotes. -/
def basicRest (multiline : Bool) : (fuel : Nat) → List Char → Read (List Char)
  | 0, _ => .error .malformed
  | _ + 1, [] => .error .malformed
  | fuel + 1, c :: rest =>
    let goOn (before rest : List Char) : Read (List Char) :=
      (basicRest multiline fuel rest).map fun (t, after) => (before ++ t, after)
    if c = '\x22' then
      if !multiline then .ok ([], rest)
      else
        match rest with
        | '\x22' :: '\x22' :: after => .ok ([], after)
        | _ => goOn [c] rest
    else if c = '\\' then
      match escape multiline rest with
      | .ok (meaning, after) => goOn meaning after
      | .error fault => .error fault
    else if isIllegal multiline c then .error .malformed
    else goOn [c] rest

/-- A string without escapes on one line, after its opening quote. -/
def literalRest : List Char → Read (List Char)
  | [] => .error .malformed
  | '\x27' :: rest => .ok ([], rest)
  | c :: rest =>
    if isIllegal false c then .error .malformed
    else (literalRest rest).map fun (t, after) => (c :: t, after)

/-- A string without escapes on several lines, after its opening quotes. -/
def longLiteralRest : List Char → Read (List Char)
  | '\x27' :: '\x27' :: '\x27' :: rest => .ok ([], rest)
  | [] => .error .malformed
  | c :: rest =>
    if isIllegal true c then .error .malformed
    else (longLiteralRest rest).map fun (t, after) => (c :: t, after)

/-- Up to two quotes more before the closing ones belong to the string. -/
def withSpareQuotes (quote : Char) (t rest : List Char) : List Char × List Char :=
  let spare := (rest.take 2).takeWhile (· = quote)
  (t ++ spare, rest.drop spare.length)

/-- The characters after a line end that directly follows the opening quotes. -/
def afterFirstLineEnd : List Char → List Char
  | '\n' :: rest => rest
  | cs => cs

/-- A string; nothing if there is none. -/
def string? (cs : List Char) : Option (Read (List Char)) :=
  match cs with
  | '\x22' :: '\x22' :: '\x22' :: rest =>
    some ((basicRest true (rest.length + 1) (afterFirstLineEnd rest)).map fun (t, after) =>
      withSpareQuotes '\x22' t after)
  | '\x22' :: rest => some (basicRest false (rest.length + 1) rest)
  | '\x27' :: '\x27' :: '\x27' :: rest =>
    some ((longLiteralRest (afterFirstLineEnd rest)).map fun (t, after) => withSpareQuotes '\x27' t after)
  | '\x27' :: rest => some (literalRest rest)
  | _ => none

/-- A string on one line; nothing if there is none. -/
def lineString? (cs : List Char) : Option (Read (List Char)) :=
  match cs with
  | '\x22' :: rest => some (basicRest false (rest.length + 1) rest)
  | '\x27' :: rest => some (literalRest rest)
  | _ => none

/-- Digits that may each follow an underscore, at the beginning. -/
def digitTail (isDigit : Char → Bool) : List Char → List Char × List Char
  | '_' :: d :: rest =>
    if isDigit d then
      let (ds, after) := digitTail isDigit rest
      (d :: ds, after)
    else ([], '_' :: d :: rest)
  | d :: rest =>
    if isDigit d then
      let (ds, after) := digitTail isDigit rest
      (d :: ds, after)
    else ([], d :: rest)
  | [] => ([], [])

/-- Digits with single underscores between them, at the beginning. -/
def digitRun (isDigit : Char → Bool) (cs : List Char) : List Char × List Char :=
  match cs with
  | [] => ([], [])
  | c :: _ => if isDigit c then digitTail isDigit cs else ([], cs)

/-- The value of digits in a base. -/
def valueIn (base : Nat) (ds : List Char) : Nat :=
  ds.foldl (fun n d => n * base + ((CodePoint.ofChar d).hexDigit?).getD 0) 0

/-- Digits of a base. -/
def isDigitIn (base : Nat) (c : Char) : Bool :=
  match (CodePoint.ofChar c).hexDigit? with
  | some d => d < base
  | none => false

/-- The base that a letter after a zero announces. -/
def baseOf? : Char → Option Nat
  | 'x' => some 16
  | 'o' => some 8
  | 'b' => some 2
  | _ => none

/-- An integer in a base other than ten. -/
def basedInteger? (cs : List Char) : Option (Nat × List Char) :=
  match cs with
  | '0' :: letter :: rest =>
    match baseOf? letter with
    | none => none
    | some base =>
      match digitRun (isDigitIn base) rest with
      | ([], _) => none
      | (ds, after) => some (valueIn base ds, after)
  | _ => none

/-- The digits before the point: a zero, or digits that do not begin with one. -/
def wholeDigits? (cs : List Char) : Option (List Char × List Char) :=
  match cs with
  | '0' :: rest => some (['0'], rest)
  | c :: _ => if c.isDigit then some (digitRun Char.isDigit cs) else none
  | [] => none

/-- A point and the digits after it. -/
def fraction? (cs : List Char) : Option (List Char × List Char) :=
  match cs with
  | '.' :: rest =>
    match digitRun Char.isDigit rest with
    | ([], _) => none
    | found => some found
  | _ => none

/-- An exponent. -/
def exponent? (cs : List Char) : Option (Int × List Char) :=
  match cs with
  | e :: rest =>
    if e = 'e' || e = 'E' then
      let (down, digits) := match rest with
        | '-' :: ds => (true, ds)
        | '+' :: ds => (false, ds)
        | ds => (false, ds)
      match digitRun Char.isDigit digits with
      | ([], _) => none
      | (ds, after) => some (if down then -(valueIn 10 ds : Int) else valueIn 10 ds, after)
    else none
  | [] => none

/-- A sign and what follows it. -/
def signed (cs : List Char) : Bool × List Char :=
  match cs with
  | '-' :: rest => (true, rest)
  | '+' :: rest => (false, rest)
  | _ => (false, cs)

/-- A number; nothing if there is none. -/
def number? (cs : List Char) : Option (Read Value) :=
  match basedInteger? cs with
  | some (n, after) => some (.ok (.int n, after))
  | none =>
    let (negative, unsigned) := signed cs
    match wholeDigits? unsigned with
    | none => none
    | some (whole, afterWhole) =>
      let (places, afterPlaces) := (fraction? afterWhole).getD ([], afterWhole)
      let (exponent, after) : Option Int × List Char :=
        match exponent? afterPlaces with
        | some (x, rest) => (some x, rest)
        | none => (none, afterPlaces)
      if places.isEmpty && exponent.isNone then
        if Integer.digitLimit < whole.length then
          some (.error (.integer (.tooLong whole.length)))
        else
          let n : Int := valueIn 10 whole
          some (.ok (.int (if negative then -n else n), after))
      else
        let scale : Int := exponent.getD 0 - places.length
        some (.ok (.float (Decimal.toFloat negative (valueIn 10 (whole ++ places)) scale), after))

/-- Infinity and the number that is none, with or without a sign. -/
def special? (cs : List Char) : Option (Value × List Char) :=
  let (negative, unsigned) := signed cs
  match unsigned with
  | 'i' :: 'n' :: 'f' :: rest => some (.float (if negative then -(1.0 / 0.0) else 1.0 / 0.0), rest)
  | 'n' :: 'a' :: 'n' :: rest => some (.float (0.0 / 0.0), rest)
  | _ => none

/-- A number of exactly so many digits within bounds. -/
def fixed? (width low high : Nat) (cs : List Char) : Option (Nat × List Char) :=
  let ds := cs.take width
  if ds.length = width && ds.all Char.isDigit then
    let n := valueIn 10 ds
    if low ≤ n && n ≤ high then some (n, cs.drop width) else none
  else none

/-- A given character. -/
def after? (c : Char) (cs : List Char) : Option (List Char) :=
  match cs with
  | d :: rest => if d = c then some rest else none
  | [] => none

/-- Microseconds from the digits after a second; further digits are dropped. -/
def micros? (cs : List Char) : Option (Nat × List Char) :=
  match cs with
  | '.' :: rest =>
    let ds := rest.takeWhile Char.isDigit
    if ds.isEmpty then none
    else
      let kept := ds.take 6
      some (valueIn 10 kept * Nat.pow 10 (6 - kept.length), rest.drop ds.length)
  | _ => none

/-- A time of day. -/
def clock? (cs : List Char) : Option (Clock × List Char) := do
  let (hour, cs) ← fixed? 2 0 23 cs
  let cs ← after? ':' cs
  let (minute, cs) ← fixed? 2 0 59 cs
  let cs ← after? ':' cs
  let (second, cs) ← fixed? 2 0 59 cs
  match micros? cs with
  | some (micros, rest) => return (⟨hour, minute, second, micros⟩, rest)
  | none => return (⟨hour, minute, second, 0⟩, cs)

/-- An offset from universal time in minutes. -/
def offset? (cs : List Char) : Option (Int × List Char) :=
  match cs with
  | 'Z' :: rest => some (0, rest)
  | 'z' :: rest => some (0, rest)
  | sign :: rest =>
    if sign = '+' || sign = '-' then do
      let (hours, rest) ← fixed? 2 0 23 rest
      let rest ← after? ':' rest
      let (minutes, rest) ← fixed? 2 0 59 rest
      let total : Int := hours * 60 + minutes
      return (if sign = '-' then -total else total, rest)
    else none
  | [] => none

/-- Years with a leap day. -/
def isLeap (year : Nat) : Bool := (year % 4 = 0 && year % 100 ≠ 0) || year % 400 = 0

/-- The days of a month. -/
def daysIn (year month : Nat) : Nat :=
  if month = 2 then (if isLeap year then 29 else 28)
  else if month = 4 || month = 6 || month = 9 || month = 11 then 30
  else 31

/-- A day, whether or not its month is that long. -/
def day? (cs : List Char) : Option (Day × List Char) := do
  let (year, cs) ← fixed? 4 0 9999 cs
  let cs ← after? '-' cs
  let (month, cs) ← fixed? 2 1 12 cs
  let cs ← after? '-' cs
  let (day, cs) ← fixed? 2 1 31 cs
  return (⟨year, month, day⟩, cs)

/-- The time of day after a day. -/
def clockAfterDay? (cs : List Char) : Option (Clock × List Char) :=
  match cs with
  | c :: rest => if c = 'T' || c = 't' || c = ' ' then clock? rest else none
  | [] => none

/-- A date or time; nothing if there is none. -/
def moment? (cs : List Char) : Option (Read Value) :=
  match day? cs with
  | some (day, rest) =>
    if day.year = 0 || daysIn day.year day.month < day.day then some (.error .malformed)
    else
      match clockAfterDay? rest with
      | none => some (.ok (.moment (.date day), rest))
      | some (clock, rest) =>
        match offset? rest with
        | some (offset, after) => some (.ok (.moment (.dateTime day clock (some offset)), after))
        | none => some (.ok (.moment (.dateTime day clock none), rest))
  | none => (clock? cs).map fun (clock, rest) => .ok (.moment (.time clock), rest)

end LocaleCatalogue.Toml
