import LocaleCatalogue.Text.Basic

/-!
# UTF-8

Strict decoding names the first octets that no character's encoding holds; lossy decoding puts one
replacement character in their place and goes on. Both look at the octets through `lead`, so they
agree on what is malformed and on how many octets belong to one fault.
-/

namespace LocaleCatalogue

/-- Octets. -/
abbrev Bytes : Type := List UInt8

namespace Utf8

/-- Why octets are malformed. -/
inductive Fault where
  | start
  | continuation
  | truncated
deriving DecidableEq, Repr

/-- The first malformed octets of a text: the leading one, where it stands and how many belong to
it. -/
structure Malformed where
  octet : UInt8
  position : Nat
  width : Nat
  fault : Fault
deriving DecidableEq, Repr

/-- What begins at an octet: a character with a number of further octets, or a fault of some width.
-/
inductive Lead where
  | character (c : Char) (further : Nat)
  | malformed (fault : Fault) (width : Nat)
deriving DecidableEq, Repr

/-- Octets that continue a character. -/
def isTail (b : UInt8) : Bool := 0x80 ≤ b && b ≤ 0xBF

/-- The second octets that may follow a leading octet of a longer encoding. -/
def isSecond (lead second : UInt8) : Bool :=
  if lead = 0xE0 then 0xA0 ≤ second && second ≤ 0xBF
  else if lead = 0xED then 0x80 ≤ second && second ≤ 0x9F
  else if lead = 0xF0 then 0x90 ≤ second && second ≤ 0xBF
  else if lead = 0xF4 then 0x80 ≤ second && second ≤ 0x8F
  else isTail second

/-- The six low bits of a continuation octet. -/
def low (b : UInt8) : Nat := b.toNat % 0x40

/-- What begins at `b` when `rest` follows. -/
def lead (b : UInt8) (rest : Bytes) : Lead :=
  if b < 0x80 then .character (Char.ofNat b.toNat) 0
  else if b < 0xC2 then .malformed .start 1
  else if b < 0xF5 then
    match rest with
    | [] => .malformed .truncated 1
    | c :: rest =>
      if !isSecond b c then .malformed .continuation 1
      else if b < 0xE0 then .character (Char.ofNat (b.toNat % 0x20 * 0x40 + low c)) 1
      else
        match rest with
        | [] => .malformed .truncated 2
        | d :: rest =>
          if !isTail d then .malformed .continuation 2
          else if b < 0xF0 then
            .character (Char.ofNat ((b.toNat % 0x10 * 0x40 + low c) * 0x40 + low d)) 2
          else
            match rest with
            | [] => .malformed .truncated 3
            | e :: _ =>
              if !isTail e then .malformed .continuation 3
              else .character
                (Char.ofNat (((b.toNat % 0x08 * 0x40 + low c) * 0x40 + low d) * 0x40 + low e)) 3
  else .malformed .start 1

/-- Strict decoding from a position on; `passing` octets still belong to the character before. -/
def decodeFrom : (passing position : Nat) → Bytes → Except Malformed (List Char)
  | _, _, [] => .ok []
  | passing + 1, position, _ :: rest => decodeFrom passing (position + 1) rest
  | 0, position, b :: rest =>
    match lead b rest with
    | .character c further =>
      match decodeFrom further (position + 1) rest with
      | .ok cs => .ok (c :: cs)
      | .error e => .error e
    | .malformed fault width => .error ⟨b, position, width, fault⟩

/-- The characters of well-formed octets, or their first fault. -/
def decode (bytes : Bytes) : Except Malformed (List Char) := decodeFrom 0 0 bytes

/-- Lossy decoding; `passing` octets still belong to what came before. -/
def decodeLossyFrom : (passing : Nat) → Bytes → List Char
  | _, [] => []
  | passing + 1, _ :: rest => decodeLossyFrom passing rest
  | 0, b :: rest =>
    match lead b rest with
    | .character c further => c :: decodeLossyFrom further rest
    | .malformed _ width => '\uFFFD' :: decodeLossyFrom (width - 1) rest

/-- The characters of octets, with one replacement character for every fault. -/
def decodeLossy (bytes : Bytes) : List Char := decodeLossyFrom 0 bytes

/-- The octets of a value below 0x200000, in the shortest form. -/
def encodeValue (n : Nat) : Bytes :=
  if n < 0x80 then [.ofNat n]
  else if n < 0x800 then [.ofNat (0xC0 + n / 0x40), .ofNat (0x80 + n % 0x40)]
  else if n < 0x10000 then
    [.ofNat (0xE0 + n / 0x1000), .ofNat (0x80 + n / 0x40 % 0x40), .ofNat (0x80 + n % 0x40)]
  else
    [.ofNat (0xF0 + n / 0x40000), .ofNat (0x80 + n / 0x1000 % 0x40), .ofNat (0x80 + n / 0x40 % 0x40),
      .ofNat (0x80 + n % 0x40)]

/-- The octets of characters. -/
def encode (cs : List Char) : Bytes := cs.flatMap fun c => encodeValue c.toNat

/-- The reason given for a fault. -/
def Fault.reason : Fault → String
  | .start => "invalid start byte"
  | .continuation => "invalid continuation byte"
  | .truncated => "unexpected end of data"

/-- The two hexadecimal digits of an octet. -/
def octetDigits (b : UInt8) : String :=
  String.ofList [Nat.digitChar (b.toNat / 16), Nat.digitChar (b.toNat % 16)]

/-- The message about malformed octets. -/
def Malformed.message (m : Malformed) : String :=
  let place :=
    if m.width = 1 then s!"byte 0x{octetDigits m.octet} in position {m.position}"
    else s!"bytes in position {m.position}-{m.position + m.width - 1}"
  "'utf-8' codec can't decode " ++ place ++ ": " ++ m.fault.reason

end Utf8

end LocaleCatalogue
