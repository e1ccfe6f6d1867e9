/-!
# Reading decimals

The floating-point number nearest to a decimal. Exponents far outside the range of such numbers are
settled without computing the power of ten.
-/

namespace LocaleCatalogue.Decimal

/-- Decimals of this many places before or after the point are out of range. -/
def reach : Int := 400

/-- The floating-point number nearest to `digits` times ten to the `scale`. -/
def toFloat (negative : Bool) (digits : Nat) (scale : Int) : Float :=
  let magnitude : Int := scale + (Nat.toDigits 10 digits).length
  let x : Float :=
    if digits = 0 || magnitude < -reach then 0.0
    else if reach < magnitude then 1.0 / 0.0
    else Float.ofScientific digits (scale < 0) scale.natAbs
  if negative then -x else x

end LocaleCatalogue.Decimal
