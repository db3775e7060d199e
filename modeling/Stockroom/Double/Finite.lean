/-!
# Finite binary64 values

A finite double is a sign and a magnitude counted in units of `2 ^ -1074`, the least positive
double. Sums and comparisons of finite doubles are then sums and comparisons of integers, and the
one inexact step is `roundUnits`: it takes an exact quotient to the nearest magnitude with a
significand of 53 bits, a tie going to the even significand.
-/

namespace Stockroom.Double

/-- The units in the number one. -/
def one : Nat := Nat.pow 2 1074

/-- The distance between neighbouring doubles at a magnitude: one unit below `2 ^ 53` units, and
above it the power of two that leaves 53 significant bits. -/
def spacing (units : Nat) : Nat := Nat.pow 2 (units.log2 - 52)

/-- The least magnitude beyond every finite double, `2 ^ 1024`. -/
def overflow : Nat := Nat.pow 2 2098

theorem overflow_pos : 0 < overflow := by
  unfold overflow
  apply Nat.pow_pos
  decide

/-- A magnitude that a finite double can have: below the overflow limit, with a significand of at
most 53 bits. -/
def Representable (units : Nat) : Prop :=
  spacing units ∣ units ∧ units < overflow

instance (units : Nat) : Decidable (Representable units) :=
  inferInstanceAs (Decidable (_ ∧ _))

/-- A finite binary64 value; zero has both signs. -/
structure Finite where
  negative : Bool
  units : Nat
  representable : Representable units
  deriving DecidableEq

/-- The integer nearest to a quotient, the even one of two equally near. -/
def roundDiv (num den : Nat) : Nat :=
  let quotient := num / den
  let twice := 2 * (num % den)
  if twice < den then quotient
  else if den < twice then quotient + 1
  else quotient + quotient % 2

/-- The magnitude nearest to `num / den` units among those with a significand of 53 bits and an
unbounded exponent; a tie goes to the even significand. -/
def roundUnits (num den : Nat) : Nat :=
  let gap := spacing (num / den)
  roundDiv num (den * gap) * gap

theorem roundDiv_le (num den : Nat) : roundDiv num den ≤ num / den + 1 := by
  unfold roundDiv
  dsimp only
  split
  · omega
  · split <;> omega

theorem pow_add (a b : Nat) : Nat.pow 2 (a + b) = Nat.pow 2 a * Nat.pow 2 b :=
  Nat.pow_add 2 a b

theorem pow_pos (k : Nat) : 0 < Nat.pow 2 k :=
  Nat.two_pow_pos k

/-- A power of two lies on the grid of doubles at its own magnitude. -/
theorem spacing_pow_dvd (k : Nat) : spacing (Nat.pow 2 k) ∣ Nat.pow 2 k := by
  have hlog : (Nat.pow 2 k).log2 = k := Nat.log2_two_pow
  unfold spacing
  rw [hlog]
  exact Nat.pow_dvd_pow 2 (Nat.sub_le k 52)

/-- The grid only becomes coarser upwards. -/
theorem spacing_dvd_of_lt {units k : Nat} (h : units < Nat.pow 2 (k + 1)) :
    spacing units ∣ Nat.pow 2 (k - 52) := by
  unfold spacing
  refine Nat.pow_dvd_pow 2 (Nat.sub_le_sub_right ?_ 52)
  by_cases hzero : units = 0
  · subst hzero
    exact Nat.zero_le k
  · exact Nat.le_of_lt_succ ((Nat.log2_lt hzero).mpr h)

/-- A quotient cut at the spacing of its magnitude has at most 53 bits. -/
theorem quotient_lt (num den : Nat) : num / (den * spacing (num / den)) < Nat.pow 2 53 := by
  have hlog : num / den < Nat.pow 2 ((num / den).log2 + 1) := Nat.lt_log2_self
  rw [← Nat.div_div_eq_div_mul]
  unfold spacing
  refine (Nat.div_lt_iff_lt_mul (pow_pos _)).mpr ?_
  rw [← pow_add]
  exact Nat.lt_of_lt_of_le hlog (Nat.pow_le_pow_right (by decide) (by omega))

/-- Rounding lands on the grid of doubles. -/
theorem spacing_roundUnits_dvd (num den : Nat) :
    spacing (roundUnits num den) ∣ roundUnits num den := by
  have hle : roundDiv num (den * spacing (num / den)) ≤ Nat.pow 2 53 :=
    Nat.le_trans (roundDiv_le _ _) (quotient_lt num den)
  unfold roundUnits
  dsimp only
  generalize roundDiv num (den * spacing (num / den)) = r at hle
  have hgap : spacing (num / den) = Nat.pow 2 ((num / den).log2 - 52) := rfl
  generalize (num / den).log2 - 52 = shift at hgap
  rw [hgap]
  rcases Nat.lt_or_eq_of_le hle with hlt | rfl
  · have hbound : r * Nat.pow 2 shift < Nat.pow 2 (shift + 52 + 1) := by
      rw [show shift + 52 + 1 = 53 + shift by omega, pow_add]
      exact Nat.mul_lt_mul_of_pos_right hlt (pow_pos shift)
    have h := spacing_dvd_of_lt hbound
    rw [Nat.add_sub_cancel] at h
    exact Nat.dvd_trans h (Nat.dvd_mul_left _ _)
  · rw [← pow_add]
    exact spacing_pow_dvd (53 + shift)

namespace Finite

/-- The value in units, with its sign; both zeros are `0`. -/
def signedUnits (x : Finite) : Int :=
  if x.negative then -x.units else x.units

/-- The whole part of the value, the fraction cut off towards zero. -/
def trunc (x : Finite) : Int :=
  x.signedUnits.tdiv one

/-- The positive zero. -/
def zero : Finite := ⟨false, 0, Nat.dvd_zero _, overflow_pos⟩

/-- Whether the value is one of the two zeros. -/
def isZero (x : Finite) : Bool :=
  x.units == 0

/-- The value with a zero of either sign made positive. -/
def withoutNegativeZero (x : Finite) : Finite :=
  if x.isZero then zero else x

end Finite

end Stockroom.Double
