import Stockroom.Double.Basic

/-!
# Doubles as decimals

A decimal is a natural number of digits times a power of ten. Reading one is a single rounding of
its exact value. Writing goes the other way: `Finite.shortest` finds the fewest digits that read
back as the same double, and of the decimals with that many digits the nearest one. Where plain
digits give way to an exponent is a matter of style and not of value, so it is a record, `Style`.
-/

namespace Stockroom

/-- The number `digits * 10 ^ exponent`. -/
structure Decimal where
  digits : Nat
  exponent : Int
  deriving DecidableEq

namespace Double

/-- The exponents at which a decimal is near enough to the range of doubles to need its exact
value: beyond `10 ^ 400` every positive decimal overflows. -/
def greatestExponent : Int := 400

/-- The double nearest to a decimal with a sign. A decimal so large or so small that its digits
cannot matter is answered at once, so that no huge power of ten is ever computed. -/
def ofDecimal (negative : Bool) (d : Decimal) : Double :=
  if d.digits = 0 then
    ofRatio negative 0 1
  else if greatestExponent < d.exponent then
    infinite negative
  else if d.exponent + (d.digits.log2 + 1) < -greatestExponent then
    ofRatio negative 0 1
  else
    ofRatio negative (d.digits * one * Nat.pow 10 d.exponent.toNat)
      (Nat.pow 10 (-d.exponent).toNat)

namespace Finite

/-- The magnitude in steps of `10 ^ exponent`, as a fraction. -/
def stepsOf (x : Finite) (exponent : Int) : Nat × Nat :=
  (x.units * Nat.pow 10 (-exponent).toNat, one * Nat.pow 10 exponent.toNat)

/-- The first exponent from `exponent` on whose successor is a power of ten above the magnitude,
looking at no more than `fuel` of them. -/
def climbExponent (x : Finite) : (fuel : Nat) → (exponent : Int) → Int
  | 0, exponent => exponent
  | fuel + 1, exponent =>
    let (num, den) := x.stepsOf (exponent + 1)
    if num < den then exponent else climbExponent x fuel (exponent + 1)

/-- The exponent of the leading decimal digit. The logarithm of two is `0.30103` to five places,
which puts the first guess at most two below the answer. -/
def leadingExponent (x : Finite) : Int :=
  x.climbExponent 4 ((((x.units.log2 : Int) - 1074) * 30103) / 100000 - 1)

/-- Whether the digits at the exponent read back as this magnitude. -/
def readsBack (x : Finite) (d : Decimal) : Bool :=
  match ofDecimal false d with
  | finite y => y.units == x.units
  | _ => false

/-- The decimal that steps by `10 ^ exponent` and reads back as this magnitude, the nearer one if
both neighbours on that grid do. At equal distance `tiesToEven` takes the even digit and otherwise
the greater decimal wins. -/
def decimalAt? (x : Finite) (tiesToEven : Bool) (exponent : Int) : Option Decimal :=
  let (num, den) := x.stepsOf exponent
  let low := num / den
  let twice := 2 * (num % den)
  let lowFirst := decide (twice < den) || (twice == den && tiesToEven && low % 2 == 0)
  let near := if lowFirst then low else low + 1
  let far := if lowFirst then low + 1 else low
  [near, far].map (Decimal.mk · exponent) |>.find? x.readsBack

/-- The exact decimal of the magnitude: `2 ^ -1074` is `5 ^ 1074 * 10 ^ -1074`. -/
def exactDecimal (x : Finite) : Decimal :=
  ⟨x.units * Nat.pow 5 1074, -1074⟩

/-- The nearest of the decimals with the fewest digits that read back as this magnitude. Seventeen
digits always do. -/
def shortest (x : Finite) (tiesToEven : Bool) : Decimal :=
  if x.units = 0 then
    ⟨0, 0⟩
  else
    let lead := x.leadingExponent
    ((List.range 17).findSome? fun (places : Nat) => x.decimalAt? tiesToEven (lead - places)).getD
      x.exactDecimal

end Finite

/-- How doubles are written: which exponents of the leading digit are written without an exponent
mark, the sign of a positive exponent, and what breaks a tie between two shortest decimals. -/
structure Style where
  leastPlain : Int
  greatestPlain : Int
  positiveMark : String
  tiesToEven : Bool

namespace Style

/-- The digits without the zeros at their end, at least one. -/
def significantDigits (digits : Nat) : List Char :=
  match ((Nat.toDigits 10 digits).reverse.dropWhile (· == '0')).reverse with
  | [] => ['0']
  | significant => significant

/-- The digits around a decimal point that stands `lead + 1` places from their start, zeros filling
up both sides. -/
def plain (digits : List Char) (lead : Int) : List Char :=
  if lead < 0 then
    ['0', '.'] ++ List.replicate (-lead - 1).toNat '0' ++ digits
  else
    let width := lead.toNat + 1
    let whole := digits.take width ++ List.replicate (width - digits.length) '0'
    let fraction := digits.drop width
    whole ++ ['.'] ++ (if fraction.isEmpty then ['0'] else fraction)

/-- The digits with a point after the first, if there are more, and an exponent. -/
def scientific (style : Style) (digits : List Char) (lead : Int) : List Char :=
  let fraction := digits.drop 1
  let mark := if lead < 0 then "-" else style.positiveMark
  digits.take 1 ++ (if fraction.isEmpty then [] else '.' :: fraction) ++ ['e'] ++ mark.toList ++
    Nat.toDigits 10 lead.natAbs

/-- The text of a decimal. -/
def ofDecimal (style : Style) (d : Decimal) : List Char :=
  let digits := significantDigits d.digits
  let lead := (Nat.toDigits 10 d.digits).length + d.exponent - 1
  if d.digits = 0 then plain digits 0
  else if style.leastPlain ≤ lead ∧ lead ≤ style.greatestPlain then plain digits lead
  else style.scientific digits lead

/-- The text of a finite double. -/
def ofFinite (style : Style) (x : Finite) : String :=
  String.ofList
    ((if x.negative then ['-'] else []) ++ style.ofDecimal (x.shortest style.tiesToEven))

/-- The text of a double in a diagnostic. -/
def ofDouble (style : Style) : Double → String
  | nan => "NaN"
  | infinite negative => if negative then "-inf" else "inf"
  | finite x => style.ofFinite x

end Style

end Double

end Stockroom
