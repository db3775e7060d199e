import Stockroom.Double.Finite

/-!
# Binary64 numbers

A double is a finite value, an infinity or not a number. The conversions here are the only ways in
which exact quantities become doubles: each computes the exact quantity first and rounds once.
-/

namespace Stockroom

/-- A binary64 number. All values that are not a number are one value. -/
inductive Double
  | nan
  | infinite (negative : Bool)
  | finite (value : Double.Finite)
  deriving DecidableEq

namespace Double

/-- The positive zero. -/
def zero : Double := finite Finite.zero

/-- The double nearest to `num / den` units, an infinity from the overflow limit on. -/
def ofRatio (negative : Bool) (num den : Nat) : Double :=
  let units := roundUnits num den
  if h : units < overflow then
    finite ⟨negative, units, spacing_roundUnits_dvd num den, h⟩
  else
    infinite negative

/-- The double nearest to an integer. -/
def ofInt (n : Int) : Double :=
  ofRatio (decide (n < 0)) (n.natAbs * one) 1

/-- The finite value, if there is one. -/
def finite? : Double → Option Finite
  | finite x => some x
  | _ => none

/-- Whether the number is neither infinite nor not a number. -/
def isFinite (x : Double) : Bool :=
  x.finite?.isSome

/-- Whether the number is one of the two zeros. -/
def isZero : Double → Bool
  | finite x => x.isZero
  | _ => false

/-- The order of two numbers; what is not a number is comparable to nothing, and the two zeros are
equal. -/
def compare? : Double → Double → Option Ordering
  | nan, _ => none
  | _, nan => none
  | infinite a, infinite b => some (compare b.toNat a.toNat)
  | infinite a, finite _ => some (if a then .lt else .gt)
  | finite _, infinite b => some (if b then .gt else .lt)
  | finite x, finite y => some (compare x.signedUnits y.signedUnits)

/-- Equality as numbers: the two zeros are equal and what is not a number equals nothing. -/
def equals (x y : Double) : Bool :=
  x.compare? y == some .eq

/-- Strictly less as numbers. -/
def below (x y : Double) : Bool :=
  x.compare? y == some .lt

/-- Addition: the exact sum, rounded once. An exact sum of zero is negative only if both terms
are. -/
def add : Double → Double → Double
  | nan, _ => nan
  | _, nan => nan
  | infinite a, infinite b => if a = b then infinite a else nan
  | infinite a, finite _ => infinite a
  | finite _, infinite b => infinite b
  | finite x, finite y =>
    let sum := x.signedUnits + y.signedUnits
    let negative := if sum = 0 then x.negative && y.negative else decide (sum < 0)
    ofRatio negative sum.natAbs 1

instance : Add Double := ⟨add⟩

/-- The left-to-right sum of a list of numbers, starting from zero. -/
def sum (xs : List Double) : Double :=
  xs.foldl (· + ·) zero

/-- Whether an integer is a 64-bit signed word: at least `-2 ^ 63` and less than `2 ^ 63`. -/
def FitsInt64 (n : Int) : Prop :=
  -9223372036854775808 ≤ n ∧ n < 9223372036854775808

instance (n : Int) : Decidable (FitsInt64 n) :=
  inferInstanceAs (Decidable (_ ∧ _))

/-- The whole part of the number, if it is a 64-bit signed word. -/
def toInt64? (x : Double) : Option Int64 :=
  x.finite?.bind fun value =>
    if FitsInt64 value.trunc then some (Int64.ofInt value.trunc) else none

/-- The whole part of the number cut to the range of 64-bit signed words; zero for what is not a
number. -/
def clampInt64 : Double → Int64
  | nan => 0
  | infinite negative => if negative then Int64.minValue else Int64.maxValue
  | finite x =>
    if x.trunc < -9223372036854775808 then Int64.minValue
    else if x.trunc < 9223372036854775808 then Int64.ofInt x.trunc
    else Int64.maxValue

end Double

end Stockroom
