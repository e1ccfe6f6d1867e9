import LocaleCatalogue.Syntax.Node
import LocaleCatalogue.Text.Integer

/-!
# String literals

The value of a string literal is put together from the stretches of plain text and the escapes that
the grammar splits it into, one by one: an escape is decoded without a look at its neighbours. An
escape with an impossible code point stands for itself, but one whose value leaves the range of
machine integers is refused.
-/

namespace LocaleCatalogue.Syntax

/-- Why the text behind a node cannot be had. -/
inductive Fault where
  | malformed (cause : Utf8.Malformed)
  | codePointTooLarge
deriving DecidableEq, Repr

/-- The text of a node. -/
def Node.readText (n : Node) : Except Fault Text :=
  match n.decodedText with
  | .ok t => .ok t
  | .error m => .error (.malformed m)

namespace Literal

/-- Line ends that a backslash takes out of a literal. -/
def isContinuation (c : CodePoint) : Bool := c = 0x0A || c = 0x0D || c = 0x2028 || c = 0x2029

/-- The code point with the given hexadecimal digits. Digits that name no code point give the
escape's own text. -/
def codePoint (digits text : Text) : Except Fault Text :=
  match Integer.read 16 digits with
  | .error _ => .ok text
  | .ok n =>
    if n < -0x80000000 ∨ 0x7FFFFFFF < n then .error .codePointTooLarge
    else if h : n.toNat < 0x110000 then
      if n < 0 then .ok text else .ok [⟨n.toNat, h⟩]
    else .ok text

/-- What a single character after a backslash stands for. -/
def simpleEscape (body : Text) : Text :=
  match body with
  | [0x6E] => [0x0A]
  | [0x74] => [0x09]
  | [0x72] => [0x0D]
  | [0x62] => [0x08]
  | [0x66] => [0x0C]
  | [0x76] => [0x0B]
  | [0x30] => [0x00]
  | _ => body

/-- The value of an escape, given its text with the backslash. -/
def decodeEscape (text : Text) : Except Fault Text :=
  match text.tail with
  | [] => .ok []
  | c :: rest =>
    if isContinuation c then .ok []
    else if c = 0x75 then
      match rest with
      | 0x7B :: digits => codePoint digits.dropLast text
      | _ => codePoint rest text
    else if c = 0x78 then codePoint rest text
    else .ok (simpleEscape (c :: rest))

/-- The value of one part of a literal. Parts that are neither plain text nor an escape have none.
-/
def partValue (n : Node) : Except Fault Text :=
  if n.kind = "string_fragment" then n.readText
  else if n.kind = "escape_sequence" then
    match n.readText with
    | .ok t => decodeEscape t
    | .error e => .error e
  else .ok []

/-- The value of a string literal. -/
def value (n : Node) : Except Fault Text :=
  (n.namedChildren.mapM partValue).map List.flatten

end Literal

end LocaleCatalogue.Syntax
