/-!
# Shortest decimals

A binary floating-point number is written with the fewest decimal digits that read back as the same
number, and among those with the digits nearest to it. The number is taken apart exactly, and all
comparisons are between natural numbers.
-/

namespace LocaleCatalogue.Decimal

/-- A positive finite number `mantissa * 2 ^ exponent`. -/
structure Binary where
  mantissa : Nat
  exponent : Int
deriving DecidableEq, Repr

/-- A floating-point number taken apart. -/
inductive Parts where
  | zero (negative : Bool)
  | finite (negative : Bool) (value : Binary)
  | infinite (negative : Bool)
  | notANumber
deriving DecidableEq, Repr

/-- The parts of a double. -/
def Parts.ofFloat (x : Float) : Parts :=
  let bits : Nat := x.toBits.toNat
  let negative := bits / Nat.pow 2 63 = 1
  let biased : Nat := bits / Nat.pow 2 52 % Nat.pow 2 11
  let fraction : Nat := bits % Nat.pow 2 52
  if biased = 2047 then if fraction = 0 then .infinite negative else .notANumber
  else if biased = 0 then
    if fraction = 0 then .zero negative else .finite negative ⟨fraction, -1074⟩
  else .finite negative ⟨Nat.pow 2 52 + fraction, (biased : Int) - 1075⟩

/-- A fraction of natural numbers. -/
structure Ratio where
  numerator : Nat
  denominator : Nat

/-- `n * 2 ^ e` as a fraction. -/
def Ratio.scaled (n : Nat) (e : Int) : Ratio :=
  if 0 ≤ e then ⟨n * Nat.pow 2 e.toNat, 1⟩ else ⟨n, Nat.pow 2 (-e).toNat⟩

/-- The fraction times a power of ten. -/
def Ratio.shift (r : Ratio) (e : Int) : Ratio :=
  if 0 ≤ e then ⟨r.numerator * Nat.pow 10 e.toNat, r.denominator⟩
  else ⟨r.numerator, r.denominator * Nat.pow 10 (-e).toNat⟩

/-- The numbers that read back as a double: between two bounds, the bounds themselves only if its
mantissa is even. -/
structure Neighbourhood where
  lower : Ratio
  upper : Ratio
  closed : Bool

/-- The neighbourhood of a double. Below a power of two its neighbour is half as far away. -/
def Binary.neighbourhood (b : Binary) : Neighbourhood where
  lower :=
    if b.mantissa = Nat.pow 2 52 ∧ -1074 < b.exponent then .scaled (4 * b.mantissa - 1) (b.exponent - 2)
    else .scaled (2 * b.mantissa - 1) (b.exponent - 1)
  upper := .scaled (2 * b.mantissa + 1) (b.exponent - 1)
  closed := b.mantissa % 2 = 0

/-- Whether `n * 10 ^ e` lies in the neighbourhood. -/
def Neighbourhood.holds (h : Neighbourhood) (n : Nat) (e : Int) : Bool :=
  let low := h.lower.shift (-e)
  let high := h.upper.shift (-e)
  if h.closed then low.numerator ≤ n * low.denominator && n * high.denominator ≤ high.numerator
  else low.numerator < n * low.denominator && n * high.denominator < high.numerator

/-- Digits and the power of ten that the last of them counts. -/
structure Digits where
  digits : Nat
  exponent : Int
deriving DecidableEq, Repr

/-- The nearest of the two neighbours on the grid of `10 ^ e` that reads back, if one does. -/
def Binary.onGrid? (b : Binary) (e : Int) : Option Nat :=
  let value := (Ratio.scaled b.mantissa b.exponent).shift (-e)
  let below := value.numerator / value.denominator
  let twiceRest := 2 * (value.numerator % value.denominator)
  let h := b.neighbourhood
  let belowHolds := h.holds below e
  let aboveHolds := h.holds (below + 1) e
  if belowHolds && aboveHolds then
    if twiceRest < value.denominator then some below
    else if value.denominator < twiceRest then some (below + 1)
    else some (if below % 2 = 0 then below else below + 1)
  else if belowHolds then some below
  else if aboveHolds then some (below + 1)
  else none

/-- The number of decimal digits before the point, negative for zeros after it. -/
def Binary.magnitude (b : Binary) : Int :=
  let r := Ratio.scaled b.mantissa b.exponent
  let whole := r.numerator / r.denominator
  if whole ≠ 0 then (Nat.toDigits 10 whole).length
  else 1 - ((Nat.toDigits 10 (r.denominator / r.numerator)).length : Int)

/-- Tries ever finer grids. -/
def Binary.search (b : Binary) (top : Int) : Nat → Nat → Digits
  | 0, n => ⟨0, top - n⟩
  | fuel + 1, n =>
    match b.onGrid? (top - n) with
    | some d => ⟨d, top - n⟩
    | none => b.search top fuel (n + 1)

/-- The fewest digits that read back; seventeen always do. -/
def Binary.shortest (b : Binary) : Digits := b.search (b.magnitude + 1) 20 1

/-- How a number is written out. -/
structure Format where
  /-- The least number of digits before the point written positionally. -/
  least : Int
  /-- The greatest number of digits before the point written positionally. -/
  most : Int

/-- Moves zeros at the end of the digits into the exponent. -/
def trimZeros : Nat → List Char → Int → List Char × Int
  | 0, ds, e => (ds, e)
  | fuel + 1, ds, e =>
    match ds.reverse with
    | '0' :: c :: rest => trimZeros fuel (c :: rest).reverse (e + 1)
    | _ => (ds, e)

/-- Digits with a point: positional in the middle of the range, with an exponent of at least two
digits outside it. -/
def Format.write (f : Format) (d : Digits) : String :=
  let digits := Nat.toDigits 10 d.digits
  let (ds, e) := trimZeros digits.length digits d.exponent
  let point : Int := ds.length + e
  if f.least ≤ point ∧ point ≤ f.most then
    if point ≤ 0 then
      String.ofList ('0' :: '.' :: List.replicate (-point).toNat '0' ++ ds)
    else if ds.length ≤ point.toNat then
      String.ofList (ds ++ List.replicate (point.toNat - ds.length) '0' ++ ['.', '0'])
    else String.ofList (ds.take point.toNat ++ '.' :: ds.drop point.toNat)
  else
    let exponent := point - 1
    let mantissa := match ds with
      | [] => []
      | [c] => [c]
      | c :: rest => c :: '.' :: rest
    let size := Nat.toDigits 10 exponent.natAbs
    let padded := if size.length < 2 then '0' :: size else size
    String.ofList (mantissa ++ 'e' :: (if exponent < 0 then '-' else '+') :: padded)

/-- Numbers are written positionally from 0.0001 to below 10^16. -/
def format : Format := ⟨-3, 16⟩

/-- The text of a number. -/
def ofFloat (x : Float) : String :=
  let sign (negative : Bool) : String := if negative then "-" else ""
  match Parts.ofFloat x with
  | .zero negative => sign negative ++ "0.0"
  | .finite negative b => sign negative ++ format.write b.shortest
  | .infinite negative => sign negative ++ "inf"
  | .notANumber => "nan"

end LocaleCatalogue.Decimal
