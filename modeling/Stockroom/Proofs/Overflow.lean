import Mathlib.Algebra.Order.Field.Power
import Mathlib.Algebra.Order.Field.Rat
import Mathlib.Tactic.Linarith
import Mathlib.Tactic.Ring
import Stockroom.Proofs.Rounding

/-!
# Where finite doubles end

An exact quotient becomes an infinity from the point on that lies half way between the greatest
double and `2 ^ 1024`: a tie at that point would go to the even significand, which is beyond the
range. So whether a decimal has a finite double is a comparison of its exact value with that point.
-/

namespace Stockroom

namespace Double

/-- A quotient is rounded to no more than an odd number if it lies below the half behind it. -/
theorem roundDiv_le_iff {num den m : Nat} (hden : 0 < den) (hodd : m % 2 = 1) :
    roundDiv num den ≤ m ↔ 2 * num < (2 * m + 1) * den := by
  have hnum := Nat.div_add_mod num den
  have hmod := Nat.mod_lt num hden
  have hhalf : (2 * m + 1) * den = 2 * (den * m) + den := by ring
  unfold roundDiv
  dsimp only
  generalize num / den = q at *
  generalize num % den = r at *
  -- Only a quotient of `m` leaves the choice to the remainder, and then a tie goes up, `m` being odd.
  rcases lt_trichotomy q m with hlt | rfl | hgt
  · have hscale : den * (q + 1) ≤ den * m := Nat.mul_le_mul_left den hlt
    rw [Nat.mul_add_one] at hscale
    split_ifs <;> omega
  · split_ifs <;> omega
  · have hscale : den * (m + 1) ≤ den * q := Nat.mul_le_mul_left den hgt
    rw [Nat.mul_add_one] at hscale
    split_ifs <;> omega

/-- Rounding a quotient up stops at the next power of two. -/
theorem roundUnits_le_pow {num den k : Nat} (hk : 53 ≤ k) (h : num / den < Nat.pow 2 k) :
    roundUnits num den ≤ Nat.pow 2 k := by
  have hsignificand : roundDiv num (den * spacing (num / den)) ≤ Nat.pow 2 53 :=
    Nat.le_trans (roundDiv_le _ _) (quotient_lt num den)
  have hgap : spacing (num / den) ≤ Nat.pow 2 (k - 53) := by
    have hdvd := spacing_dvd_of_lt (k := k - 1) (by rwa [Nat.sub_add_cancel (by omega)])
    rw [show k - 1 - 52 = k - 53 by omega] at hdvd
    exact Nat.le_of_dvd (pow_pos _) hdvd
  calc
    roundUnits num den ≤ Nat.pow 2 53 * Nat.pow 2 (k - 53) := Nat.mul_le_mul hsignificand hgap
    _ = Nat.pow 2 k := by rw [← pow_add, show 53 + (k - 53) = k by omega]

/-- Rounding a quotient down stops at the power of two at which its magnitude begins. -/
theorem pow_log2_le_roundUnits {num den : Nat} (h : num / den ≠ 0) :
    Nat.pow 2 (num / den).log2 ≤ roundUnits num den := by
  have hdvd : spacing (num / den) ∣ Nat.pow 2 (num / den).log2 := spacing_dvd_pow (Nat.le_refl _)
  have hquotient : num / den / spacing (num / den) ≤ roundDiv num (den * spacing (num / den)) := by
    rw [Nat.div_div_eq_div_mul]
    exact le_roundDiv _ _
  calc
    Nat.pow 2 (num / den).log2
        = Nat.pow 2 (num / den).log2 / spacing (num / den) * spacing (num / den) :=
          (Nat.div_mul_cancel hdvd).symm
    _ ≤ num / den / spacing (num / den) * spacing (num / den) :=
          Nat.mul_le_mul_right _ (Nat.div_le_div_right (Nat.log2_self_le h))
    _ ≤ roundUnits num den := Nat.mul_le_mul_right _ hquotient

/-- The significand of a double below a power of two has at most 53 bits. -/
theorem roundDiv_mul_lt_iff {num den gap : Nat} (hden : 0 < den) (hgap : 0 < gap) :
    roundDiv num (den * (2 * gap)) * (2 * gap) < 2 ^ 54 * gap ↔
      num < den * (2 ^ 54 * gap - gap) := by
  have hmul : roundDiv num (den * (2 * gap)) * (2 * gap) < 2 ^ 54 * gap ↔
      roundDiv num (den * (2 * gap)) ≤ 2 ^ 53 - 1 := by
    rw [show 2 ^ 54 * gap = 2 ^ 53 * (2 * gap) by ring, Nat.mul_lt_mul_right (by omega)]
    omega
  have hlimit : den * (2 ^ 54 * gap - gap) = (2 ^ 54 - 1) * (den * gap) := by
    rw [show 2 ^ 54 * gap - gap = (2 ^ 54 - 1) * gap by omega]
    ring
  have hscale : (2 * (2 ^ 53 - 1) + 1) * (den * (2 * gap)) = 2 * ((2 ^ 54 - 1) * (den * gap)) := by
    ring
  rw [hmul, roundDiv_le_iff (Nat.mul_pos hden (by omega)) (by decide), hlimit, hscale]
  omega

/-- The point half a step before the power of two with 54 more digits than the half step. -/
def halfStepBelow (k : Nat) : Nat := Nat.pow 2 (k + 54) - Nat.pow 2 k

/-- A quotient is rounded to less than a power of two if it lies below the point half a step before
that power. -/
theorem roundUnits_lt_pow_iff {num den : Nat} (hden : 0 < den) (k : Nat) :
    roundUnits num den < Nat.pow 2 (k + 54) ↔ num < den * halfStepBelow k := by
  unfold halfStepBelow
  have hsplit : Nat.pow 2 (k + 54) = 2 ^ 54 * Nat.pow 2 k := by
    rw [pow_add, Nat.mul_comm]
    rfl
  have hhalf : Nat.pow 2 (k + 53) = 2 ^ 53 * Nat.pow 2 k := by
    rw [pow_add, Nat.mul_comm]
    rfl
  have hk : 0 < Nat.pow 2 k := pow_pos k
  have hdiv (bound : Nat) : num / den < bound ↔ num < den * bound := by
    rw [Nat.div_lt_iff_lt_mul hden, Nat.mul_comm]
  -- From `2 ^ (k + 53)` up to the power the doubles are `2 ^ (k + 1)` apart, which is twice the half
  -- step. Below and beyond, both sides of the equivalence are settled by size.
  rcases Nat.lt_or_ge (num / den) (Nat.pow 2 (k + 53)) with hlow | hhigh
  · have hround := roundUnits_le_pow (by omega) hlow
    have hle : den * Nat.pow 2 (k + 53) ≤ den * (Nat.pow 2 (k + 54) - Nat.pow 2 k) :=
      Nat.mul_le_mul_left den (by omega)
    have hnum := (hdiv _).mp hlow
    exact iff_of_true (by omega) (by omega)
  rcases Nat.lt_or_ge (num / den) (Nat.pow 2 (k + 54)) with hlast | hbeyond
  · have hzero : num / den ≠ 0 := by omega
    have hlog : (num / den).log2 = k + 53 := (Nat.log2_eq_iff hzero).mpr ⟨hhigh, hlast⟩
    have hgap : spacing (num / den) = 2 * Nat.pow 2 k := by
      rw [spacing, hlog, show k + 53 - 52 = k + 1 by omega]
      exact Nat.pow_succ'
    unfold roundUnits
    dsimp only
    rw [hgap, hsplit]
    exact roundDiv_mul_lt_iff hden hk
  · have hzero : num / den ≠ 0 := by omega
    have hlog : k + 54 ≤ (num / den).log2 := (Nat.le_log2 hzero).mpr hbeyond
    have hround : Nat.pow 2 (k + 54) ≤ roundUnits num den :=
      Nat.le_trans (Nat.pow_le_pow_right (by decide) hlog) (pow_log2_le_roundUnits hzero)
    have hle : den * (Nat.pow 2 (k + 54) - Nat.pow 2 k) ≤ den * Nat.pow 2 (k + 54) :=
      Nat.mul_le_mul_left den (Nat.sub_le _ _)
    have hnum : ¬ num < den * Nat.pow 2 (k + 54) := by
      rw [← hdiv]
      omega
    exact iff_of_false (by omega) (by omega)

/-- The point from which on magnitudes become infinite: `2 ^ 1024 - 2 ^ 970`, half way between the
greatest finite double and the power of two behind it. -/
def overflowPoint : Nat := halfStepBelow 970

/-- The exponent in the point of overflow, which seldom matters. -/
theorem exists_overflowPoint_eq : ∃ k, k = 970 ∧ overflowPoint = halfStepBelow k := by
  unfold overflowPoint
  exact ⟨970, rfl, rfl⟩

/-- The exponent in the limit of magnitudes. -/
theorem exists_overflow_eq_pow : ∃ k, k = 2098 ∧ overflow = Nat.pow 2 k := by
  unfold overflow
  exact ⟨2098, rfl, rfl⟩

/-- The point of overflow is positive. -/
theorem overflowPoint_pos : 0 < overflowPoint := by
  obtain ⟨k, -, hpoint⟩ := exists_overflowPoint_eq
  rw [hpoint, halfStepBelow]
  exact Nat.sub_pos_of_lt (Nat.pow_lt_pow_right (by decide) (by omega))

/-- The point of overflow does not reach the powers of ten with enough digits. -/
theorem overflowPoint_le_ten_pow {k : Nat} (h : 1024 ≤ 3 * k) : overflowPoint ≤ 10 ^ k := by
  obtain ⟨i, hi, hpoint⟩ := exists_overflowPoint_eq
  rw [hpoint]
  calc
    halfStepBelow i ≤ 2 ^ (i + 54) := Nat.sub_le _ _
    _ ≤ 2 ^ (3 * k) := Nat.pow_le_pow_right (by decide) (by omega)
    _ = (2 ^ 3) ^ k := Nat.pow_mul 2 3 k
    _ ≤ 10 ^ k := Nat.pow_le_pow_left (by decide) k

/-- What is finite is a finite value. -/
theorem isFinite_iff_exists {x : Double} : x.isFinite = true ↔ ∃ value, x = finite value := by
  cases x <;> simp [isFinite, finite?]

/-- A quotient has a finite double if it lies below the point of overflow. -/
theorem isFinite_ofRatio_iff {num den : Nat} (hden : 0 < den) (negative : Bool) :
    (ofRatio negative num den).isFinite = true ↔ num < den * (overflowPoint * one) := by
  have hunits : (ofRatio negative num den).isFinite = true ↔ roundUnits num den < overflow := by
    unfold ofRatio
    dsimp only
    split_ifs with h <;> simp [isFinite, finite?, h]
  -- The exponents stay variables, so that no power of two is computed.
  obtain ⟨i, hi, hpoint⟩ := exists_overflowPoint_eq
  obtain ⟨j, hj, hone⟩ := exists_one_eq_pow
  obtain ⟨limit, hlimit, hoverflow⟩ := exists_overflow_eq_pow
  rw [hunits, hoverflow, hpoint, hone, halfStepBelow, Nat.sub_mul, ← pow_add, ← pow_add,
    show limit = i + j + 54 by omega, show i + 54 + j = i + j + 54 by omega]
  exact roundUnits_lt_pow_iff hden (i + j)

end Double

/-- The exact value of a decimal. -/
def Decimal.value (d : Decimal) : ℚ := d.digits * 10 ^ d.exponent

namespace Double

/-- A power of ten that is answered at once is beyond the point of overflow. -/
theorem overflowPoint_le_zpow {exponent : Int} (h : greatestExponent < exponent) :
    (overflowPoint : ℚ) ≤ 10 ^ exponent := by
  have hgreatest : greatestExponent = 400 := rfl
  have hnat : exponent = exponent.toNat := by omega
  rw [hnat, zpow_natCast]
  exact_mod_cast overflowPoint_le_ten_pow (by omega)

/-- A decimal that is answered at once by zero is less than one. -/
theorem value_lt_one {d : Decimal}
    (h : d.exponent + (d.digits.log2 + 1) < -greatestExponent) : d.value < 1 := by
  have hgreatest : greatestExponent = 400 := rfl
  have hdigits : (d.digits : ℚ) < 10 ^ (d.digits.log2 + 1) := by
    have hlog : d.digits < 2 ^ (d.digits.log2 + 1) := Nat.lt_log2_self
    calc
      (d.digits : ℚ) < 2 ^ (d.digits.log2 + 1) := by exact_mod_cast hlog
      _ ≤ 10 ^ (d.digits.log2 + 1) := pow_le_pow_left₀ (by norm_num) (by norm_num) _
  calc
    d.value < 10 ^ (d.digits.log2 + 1) * 10 ^ d.exponent :=
      mul_lt_mul_of_pos_right hdigits (by positivity)
    _ = 10 ^ (((d.digits.log2 + 1 : Nat) : Int) + d.exponent) := by
      rw [zpow_add₀ (by norm_num), zpow_natCast]
    _ ≤ 1 := zpow_le_one_of_nonpos₀ (by norm_num) (by push_cast; omega)

/-- A power of ten is the quotient of the powers with the two parts of its exponent. -/
theorem pow_toNat_div (exponent : Int) :
    (10 : ℚ) ^ exponent.toNat / 10 ^ (-exponent).toNat = 10 ^ exponent := by
  rw [← zpow_natCast, ← zpow_natCast, ← zpow_sub₀ (by norm_num)]
  congr 1
  omega

/-- A fraction counted in units is compared with a bound as the fraction itself is. -/
theorem scaled_lt_iff {digits num den unit bound : Nat} (hden : 0 < den) (hunit : 0 < unit) :
    digits * unit * num < den * (bound * unit) ↔ (digits : ℚ) * (num / den) < bound := by
  have hleft : digits * unit * num = digits * num * unit := by ring
  have hright : den * (bound * unit) = bound * den * unit := by ring
  rw [hleft, hright, Nat.mul_lt_mul_right hunit, ← mul_div_assoc,
    div_lt_iff₀ (Nat.cast_pos.mpr hden)]
  exact_mod_cast Iff.rfl

/-- A decimal has a finite double if its exact value lies below the point of overflow. -/
theorem isFinite_ofDecimal_iff (negative : Bool) (d : Decimal) :
    (ofDecimal negative d).isFinite = true ↔ d.value < overflowPoint := by
  have hpoint : (1 : ℚ) ≤ overflowPoint := by exact_mod_cast overflowPoint_pos
  have hzero : (ofRatio negative 0 1).isFinite = true := by
    rw [isFinite_ofRatio_iff Nat.one_pos, Nat.one_mul]
    exact Nat.mul_pos overflowPoint_pos one_pos
  unfold ofDecimal
  -- The decimals that are answered at once are answered as their exact values ask for.
  by_cases hdigits : d.digits = 0
  · rw [if_pos hdigits, Decimal.value, hdigits, Nat.cast_zero, zero_mul]
    exact iff_of_true hzero (by linarith)
  rw [if_neg hdigits]
  by_cases hlarge : greatestExponent < d.exponent
  · rw [if_pos hlarge]
    refine iff_of_false Bool.false_ne_true (not_lt.mpr ?_)
    have hfirst : (1 : ℚ) ≤ d.digits := by exact_mod_cast Nat.pos_of_ne_zero hdigits
    calc
      (overflowPoint : ℚ) ≤ 10 ^ d.exponent := overflowPoint_le_zpow hlarge
      _ ≤ d.value := le_mul_of_one_le_left (by positivity) hfirst
  rw [if_neg hlarge]
  by_cases hsmall : d.exponent + (d.digits.log2 + 1) < -greatestExponent
  · rw [if_pos hsmall]
    exact iff_of_true hzero (lt_of_lt_of_le (value_lt_one hsmall) hpoint)
  rw [if_neg hsmall]
  have hten (k : Nat) : ((Nat.pow 10 k : Nat) : ℚ) = 10 ^ k := Nat.cast_pow 10 k
  have hden : 0 < Nat.pow 10 (-d.exponent).toNat := Nat.pow_pos (by decide)
  rw [isFinite_ofRatio_iff hden, scaled_lt_iff hden one_pos, hten, hten, pow_toNat_div,
    Decimal.value]

end Double

end Stockroom
