import LocaleCatalogue.Script.Tree
import LocaleCatalogue.Syntax.Node

/-!
# Trees placed in their source

A tree names its stretch of the source by counting characters. Here the stretch gets its text, its
octet offsets and its rows and columns, all computed from the source by one rule, so they agree with
each other for every node.
-/

namespace LocaleCatalogue.Script

open Syntax (Node Point)

/-- A place between two characters of a source. -/
structure Mark where
  byte : Nat
  point : Point
deriving Repr

/-- How many octets a character takes. -/
def octets (c : Char) : Nat := (Utf8.encodeValue c.toNat).length

/-- The place after one more character. Only a line feed begins a row. -/
def Mark.after (m : Mark) (c : Char) : Mark where
  byte := m.byte + octets c
  point :=
    if c = '\n' then ⟨m.point.row + 1, 0⟩ else ⟨m.point.row, m.point.column + octets c⟩

/-- The places before, between and after characters that begin at `m`. -/
def Mark.along (m : Mark) : List Char → List Mark
  | [] => [m]
  | c :: cs => m :: (m.after c).along cs

/-- The place before the first character. -/
def Mark.first : Mark := ⟨0, ⟨0, 0⟩⟩

/-- A source text with its places. -/
structure Source where
  characters : Array Char
  marks : Array Mark

namespace Source

/-- The source with the given characters. -/
def ofChars (text : List Char) : Source := ⟨text.toArray, (Mark.first.along text).toArray⟩

/-- The place before the character at an index; the last place if there is no such character. -/
def mark (s : Source) (index : Nat) : Mark := s.marks.getD index (s.marks.back?.getD .first)

/-- The octets of a stretch of characters. -/
def stretch (s : Source) (start stop : Nat) : Bytes :=
  Utf8.encode (s.characters.extract start stop).toList

end Source

mutual

/-- The node of a tree in its source. -/
def Tree.place (s : Source) : Tree → Node
  | ⟨kind, named, role, start, stop, parts⟩ =>
    { kind, named
      field := role
      text := some (s.stretch start stop)
      startByte := (s.mark start).byte
      stopByte := (s.mark stop).byte
      start := (s.mark start).point
      stop := (s.mark stop).point
      erroneous := false, missing := false, flagged := false
      children := placeAll s parts }

/-- The nodes of several trees. -/
def placeAll (s : Source) : List Tree → List Node
  | [] => []
  | t :: ts => t.place s :: placeAll s ts

end

end LocaleCatalogue.Script
