import LocaleCatalogue.Text.Utf8

/-!
# Columns in code points

Syntax trees count columns in octets. A column in code points is the number of code points,
malformed octets counted as one replacement character each, in the stretch of octets between the
beginning of the line and the place.
-/

namespace LocaleCatalogue

/-- The octets from `start` up to `stop`. A negative end counts back from the end of the octets, and
ends outside them are moved to the nearest end. -/
def Bytes.slice (bytes : Bytes) (start stop : Int) : Bytes :=
  let bound (i : Int) : Nat := min bytes.length (if i < 0 then (i + bytes.length).toNat else i.toNat)
  (bytes.take (bound stop)).drop (bound start)

/-- The column in code points of the place at `offset`, `column` octets into its line. -/
def charColumn (source : Bytes) (offset column : Int) : Nat :=
  (Utf8.decodeLossy (source.slice (offset - column) offset)).length

end LocaleCatalogue
