/-!
# Lexemes

How long a lexeme at the beginning of a list of characters is. Each function answers `none` when no
such lexeme begins there. Nothing here knows the position or what came before.
-/

namespace LocaleCatalogue.Script.Lexeme

/-- Line terminators of the language. -/
def isLineEnd (c : Char) : Bool := c = '\n' || c = '\r' || c = '\u2028' || c = '\u2029'

/-- Characters that only separate tokens: white space in the Unicode sense, the byte order mark, the
word joiner and the zero-width space. -/
def isBlank (c : Char) : Bool :=
  let n := c.toNat
  (0x09 ≤ n && n ≤ 0x0D) || n = 0x20 || n = 0x85 || n = 0xA0 || n = 0x1680
    || (0x2000 ≤ n && n ≤ 0x200B) || n = 0x2028 || n = 0x2029 || n = 0x202F || n = 0x205F
    || n = 0x2060 || n = 0x3000 || n = 0xFEFF

/-- ASCII operators and punctuation, which end a word. The dollar sign and the underscore do not. -/
def isPunctuation (c : Char) : Bool :=
  [':', ';', '\x60', '\x22', '\x27', '@', '#', '.', ',', '|', '^', '&', '<', '=', '>', '+', '-', '*', '/',
    '\\', '%', '?', '!', '~', '(', ')', '[', ']', '\x7b', '\x7d'].contains c

/-- Characters that may stand anywhere but at the beginning of a word. -/
def isWordPart (c : Char) : Bool := 0x1F < c.toNat && !isBlank c && !isPunctuation c

/-- Hexadecimal digits. -/
def isHex (c : Char) : Bool := c.isDigit || ('a' ≤ c && c ≤ 'f') || ('A' ≤ c && c ≤ 'F')

/-- How many characters at the beginning satisfy a test. -/
def run (p : Char → Bool) : List Char → Nat
  | [] => 0
  | c :: cs => if p c then run p cs + 1 else 0

/-- An escaped code point of exactly `n` hexadecimal digits. -/
def hexDigits (n : Nat) (cs : List Char) : Option Nat :=
  if (cs.take n).length = n && (cs.take n).all isHex then some n else none

/-- Hexadecimal digits and a closing brace. -/
def bracedHex (cs : List Char) : Option Nat :=
  let n := run isHex cs
  if n ≠ 0 && cs[n]? = some '\x7d' then some (n + 1) else none

/-- An escaped code point: four digits, or any number of digits in braces. -/
def unicodeEscape : List Char → Option Nat
  | '\\' :: 'u' :: '\x7b' :: cs => (bracedHex cs).map (· + 3)
  | '\\' :: 'u' :: cs => (hexDigits 4 cs).map (· + 2)
  | _ => none

/-- How far a word goes on. The first argument counts the characters of an escape still to pass. -/
def wordRest : Nat → List Char → Nat
  | _, [] => 0
  | inEscape + 1, _ :: cs => wordRest inEscape cs + 1
  | 0, c :: cs =>
    if isWordPart c then wordRest 0 cs + 1
    else
      match unicodeEscape (c :: cs) with
      | some n => wordRest (n - 1) cs + 1
      | none => 0

/-- A word: letters in the widest sense, digits and escaped code points, not beginning with a digit.
-/
def word (cs : List Char) : Option Nat :=
  match cs with
  | [] => none
  | c :: _ => if c.isDigit then none else
    match wordRest 0 cs with
    | 0 => none
    | n => some n

/-- A private name: a number sign and a word. -/
def privateName : List Char → Option Nat
  | '#' :: cs => (word cs).map (· + 1)
  | _ => none

/-- A comment: the rest of a line after two slashes, or everything between slash-star and
star-slash. -/
def comment : List Char → Option Nat
  | '/' :: '/' :: cs => some (run (fun c => !isLineEnd c) cs + 2)
  | '/' :: '*' :: cs => (blockRest cs).map (· + 2)
  | _ => none
where
  /-- Up to and with the closing star-slash. -/
  blockRest : List Char → Option Nat
    | [] => none
    | '*' :: '/' :: _ => some 2
    | _ :: cs => (blockRest cs).map (· + 1)

/-- Digits of a kind, single underscores allowed between them. -/
def digits (p : Char → Bool) : List Char → Nat
  | [] => 0
  | c :: cs =>
    if p c then
      match cs with
      | '_' :: d :: _ => if p d then digits p cs + 1 else 1
      | _ => digits p cs + 1
    else if c = '_' then
      match cs with
      | d :: _ => if p d then digits p cs + 1 else 0
      | [] => 0
    else 0

/-- Digits that begin with a digit. -/
def digitsFrom (p : Char → Bool) (cs : List Char) : Nat :=
  match cs with
  | c :: _ => if p c then digits p cs else 0
  | [] => 0

/-- Zero, or digits whose first, or second after a zero, is not zero. -/
def isPlainInteger : List Char → Bool
  | ['0'] => true
  | '0' :: c :: _ => c ≠ '0' && c ≠ '_'
  | c :: _ => c ≠ '0'
  | [] => false

/-- An exponent: its letter, an optional sign and digits. -/
def exponent : List Char → Nat
  | e :: cs =>
    if e = 'e' || e = 'E' then
      match cs with
      | '+' :: ds => after 2 ds
      | '-' :: ds => after 2 ds
      | ds => after 1 ds
    else 0
  | [] => 0
where
  /-- The length with `n` characters before the digits, or nothing without digits. -/
  after (n : Nat) (ds : List Char) : Nat :=
    match digitsFrom Char.isDigit ds with
    | 0 => 0
    | k => k + n

/-- A number with a base letter after its zero. -/
def based (p : Char → Bool) (cs : List Char) : Option Nat :=
  match digitsFrom p cs with
  | 0 => none
  | k => some (if cs[k]? = some 'n' then k + 3 else k + 2)

/-- A number without a base letter. -/
def decimal (cs : List Char) : Option Nat :=
  match digitsFrom Char.isDigit cs with
  | 0 =>
    match cs with
    | '.' :: fraction =>
      match digitsFrom Char.isDigit fraction with
      | 0 => none
      | k => some (k + 1 + exponent (fraction.drop k))
    | _ => none
  | k =>
    let rest := cs.drop k
    if rest.head? = some 'n' then some (k + 1)
    else if isPlainInteger (cs.take k) then
      match rest with
      | '.' :: fraction =>
        let f := digitsFrom Char.isDigit fraction
        some (k + 1 + f + exponent (fraction.drop f))
      | _ => some (k + exponent rest)
    else some k

/-- A number: decimal, hexadecimal, octal or binary, possibly with the letter of big integers. -/
def number (cs : List Char) : Option Nat :=
  let special : Option Nat :=
    match cs with
    | '0' :: b :: digits =>
      if b = 'x' || b = 'X' then based isHex digits
      else if b = 'o' || b = 'O' then based (fun c => '0' ≤ c && c ≤ '7') digits
      else if b = 'b' || b = 'B' then based (fun c => c = '0' || c = '1') digits
      else none
    | _ => none
  match special with
  | some n => some n
  | none => decimal cs

/-- A stretch of a quoted string without escapes: anything but the quote, a backslash and the line
ends LF and CR. -/
def fragment (quote : Char) (cs : List Char) : Option Nat :=
  match run (fun c => c ≠ quote && c ≠ '\\' && c ≠ '\n' && c ≠ '\r' && c ≠ '\x00') cs with
  | 0 => none
  | n => some n

/-- An escape in a string: a backslash and one to three octal digits, a code point in hexadecimal, a
line end, or any other single character but `x` and `u`. A carriage return and a question mark take
the line end behind them into the escape. -/
def escape : List Char → Option Nat
  | '\\' :: 'x' :: cs => (hexDigits 2 cs).map (· + 2)
  | '\\' :: 'u' :: cs => unicodeEscape ('\\' :: 'u' :: cs)
  | '\\' :: '\r' :: '\n' :: _ => some 3
  | '\\' :: '\r' :: '\u2028' :: _ => some 3
  | '\\' :: '\r' :: '\u2029' :: _ => some 3
  | '\\' :: '?' :: '\n' :: _ => some 3
  | '\\' :: '?' :: '\u2028' :: _ => some 3
  | '\\' :: '?' :: '\u2029' :: _ => some 3
  | '\\' :: c :: cs =>
    if c = '\x00' then none
    else if '0' ≤ c && c ≤ '7' then some (2 + min 2 (run (fun d => '0' ≤ d && d ≤ '7') cs))
    else some 2
  | _ => none

/-- Text inside a template, up to a backquote, a backslash or a substitution. -/
def templateText : List Char → Nat
  | [] => 0
  | '$' :: '\x7b' :: _ => 0
  | c :: cs => if c = '\x60' || c = '\\' || c = '\x00' then 0 else templateText cs + 1

/-- The body of a regular expression up to its closing slash; classes may hold slashes. -/
def regexBody (inClass : Bool) : List Char → Option Nat
  | [] => none
  | '\\' :: c :: cs => if isLineEnd c then none else (regexBody inClass cs).map (· + 2)
  | c :: cs =>
    if c = '\n' || c = '\\' then none
    else if inClass then (regexBody (c ≠ ']') cs).map (· + 1)
    else if c = '/' then some 0
    else (regexBody (c = '[') cs).map (· + 1)

/-- A regular expression with its flags. -/
def regex : List Char → Option Nat
  | '/' :: cs =>
    match regexBody false cs with
    | none => none
    | some 0 => none
    | some n => some (n + 2 + run (fun c => 'a' ≤ c && c ≤ 'z') (cs.drop (n + 1)))
  | _ => none

/-- A character reference of markup: a name, or a decimal or hexadecimal number. -/
def characterReference : List Char → Option Nat
  | '&' :: '#' :: x :: cs =>
    if x = 'x' || x = 'X' then closed 6 (run isHex cs) 3 cs
    else closed 5 (run Char.isDigit (x :: cs)) 2 (x :: cs)
  | '&' :: cs => closed 30 (run Char.isAlpha cs) 1 cs
  | _ => none
where
  /-- Between one and `most` characters and a semicolon, after `before` characters. -/
  closed (most count before : Nat) (cs : List Char) : Option Nat :=
    if count ≠ 0 && count ≤ most && cs[count]? = some ';' then some (count + before + 1) else none

/-- Text between the tags of markup. Blanks that hold a line end are not text by themselves. -/
def markupText (cs : List Char) : Option Nat :=
  let n := run (fun c => c ≠ '<' && c ≠ '>' && c ≠ '\x7b' && c ≠ '\x7d' && c ≠ '&' && c ≠ '\x00') cs
  if sawText false (cs.take n) then some n else none
where
  /-- Whether something other than line ends and the blanks after them occurs. -/
  sawText (atLineEnd : Bool) : List Char → Bool
    | [] => false
    | '\n' :: cs => sawText true cs
    | c :: cs => if atLineEnd && isBlank c then sawText true cs else true

/-- Characters that read on as a fixed spelling. -/
def spelling (s : List Char) (cs : List Char) : Option Nat :=
  if s.isPrefixOf cs then some s.length else none

end LocaleCatalogue.Script.Lexeme
