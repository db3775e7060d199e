import Mathlib.Algebra.Order.Ring.Int
import Mathlib.Data.Nat.Log
import Mathlib.Tactic.SplitIfs
import Stockroom.Json.Number

/-!
# Rounding to doubles

The double of a number is the one nearest to its exact value. Rounding to it keeps the order of
exact values and leaves alone those that a double has. So a comparison of doubles may take two
numbers for equal that are not, but it never puts them in the wrong order.
-/

namespace Stockroom

namespace Double

/-- A rounded quotient is at least the quotient with its fraction cut off. -/
theorem le_roundDiv (num den : Nat) : num / den ≤ roundDiv num den := by
  unfold roundDiv
  dsimp only
  split_ifs <;> omega

/-- A greater dividend has no smaller rounded quotient. -/
theorem roundDiv_mono {a b : Nat} (h : a ≤ b) (den : Nat) : roundDiv a den ≤ roundDiv b den := by
  rcases Nat.lt_or_eq_of_le (Nat.div_le_div_right (c := den) h) with hlt | heq
  · calc
      roundDiv a den ≤ a / den + 1 := roundDiv_le a den
      _ ≤ b / den := hlt
      _ ≤ roundDiv b den := le_roundDiv b den
  · have hmod : a % den ≤ b % den := by
      have ha := Nat.div_add_mod a den
      have hb := Nat.div_add_mod b den
      rw [heq] at ha
      omega
    unfold roundDiv
    dsimp only
    rw [heq]
    split_ifs <;> omega

/-- An exact quotient is not rounded. -/
theorem roundDiv_of_dvd {num den : Nat} (h : den ∣ num) : roundDiv num den = num / den := by
  have hmod : num % den = 0 := Nat.mod_eq_zero_of_dvd h
  unfold roundDiv
  dsimp only
  rw [hmod]
  rcases Nat.eq_zero_or_pos den with rfl | hpos
  · simp
  · rw [if_pos (by omega)]

/-- A number of units is rounded to a multiple of the spacing at its magnitude. -/
theorem roundUnits_one (units : Nat) :
    roundUnits units 1 = roundDiv units (spacing units) * spacing units := by
  simp only [roundUnits, Nat.div_one, Nat.one_mul]

/-- What lies on the grid of doubles is not rounded. -/
theorem roundUnits_eq_self {units : Nat} (h : spacing units ∣ units) :
    roundUnits units 1 = units := by
  rw [roundUnits_one, roundDiv_of_dvd h, Nat.div_mul_cancel h]

/-- Rounding up stops at the next multiple of the spacing. -/
theorem roundUnits_le {units bound : Nat} (hdvd : spacing units ∣ bound) (h : units ≤ bound) :
    roundUnits units 1 ≤ bound := by
  rw [roundUnits_one]
  calc
    roundDiv units (spacing units) * spacing units
        ≤ roundDiv bound (spacing units) * spacing units :=
          Nat.mul_le_mul_right _ (roundDiv_mono h _)
    _ = bound := by rw [roundDiv_of_dvd hdvd, Nat.div_mul_cancel hdvd]

/-- Rounding down stops at the next multiple of the spacing. -/
theorem le_roundUnits {units bound : Nat} (hdvd : spacing units ∣ bound) (h : bound ≤ units) :
    bound ≤ roundUnits units 1 := by
  rw [roundUnits_one]
  calc
    bound = roundDiv bound (spacing units) * spacing units := by
      rw [roundDiv_of_dvd hdvd, Nat.div_mul_cancel hdvd]
    _ ≤ roundDiv units (spacing units) * spacing units :=
      Nat.mul_le_mul_right _ (roundDiv_mono h _)

/-- A greater number has no fewer binary digits. -/
theorem log2_mono {a b : Nat} (h : a ≤ b) : a.log2 ≤ b.log2 := by
  rw [Nat.log2_eq_log_two, Nat.log2_eq_log_two]
  exact Nat.log_mono_right h

/-- The grid of a magnitude holds the grid of every greater one. -/
theorem spacing_dvd_spacing {a b : Nat} (h : a ≤ b) : spacing a ∣ spacing b := by
  unfold spacing
  exact Nat.pow_dvd_pow 2 (Nat.sub_le_sub_right (log2_mono h) 52)

/-- A power of two is on the grid of all magnitudes with no more digits. -/
theorem spacing_dvd_pow {units k : Nat} (h : units.log2 ≤ k) : spacing units ∣ Nat.pow 2 k := by
  unfold spacing
  exact Nat.pow_dvd_pow 2 (Nat.le_trans (Nat.sub_le _ _) h)

/-- Rounding keeps the order of magnitudes. -/
theorem roundUnits_mono {a b : Nat} (h : a ≤ b) : roundUnits a 1 ≤ roundUnits b 1 := by
  by_cases hspacing : spacing a = spacing b
  · rw [roundUnits_one, roundUnits_one, hspacing]
    exact Nat.mul_le_mul_right _ (roundDiv_mono h _)
  -- Between different spacings lies the power of two at which the greater magnitude begins.
  · have hlog : a.log2 < b.log2 := by
      refine Nat.lt_of_le_of_ne (log2_mono h) fun heq => hspacing ?_
      rw [spacing, spacing, heq]
    have hb : b ≠ 0 := by
      rintro rfl
      exact absurd hlog (Nat.not_lt_zero _)
    have hbelow : a ≤ Nat.pow 2 b.log2 :=
      Nat.le_trans (Nat.le_of_lt Nat.lt_log2_self) (Nat.pow_le_pow_right (by decide) hlog)
    have habove : Nat.pow 2 b.log2 ≤ b := Nat.log2_self_le hb
    calc
      roundUnits a 1 ≤ Nat.pow 2 b.log2 :=
        roundUnits_le (spacing_dvd_pow (Nat.le_of_lt hlog)) hbelow
      _ ≤ roundUnits b 1 := le_roundUnits (spacing_dvd_pow (Nat.le_refl _)) habove

/-- The units of the double nearest to an exact number of units, sign included. -/
def nearest (units : Int) : Int :=
  if units < 0 then -roundUnits units.natAbs 1 else roundUnits units.natAbs 1

/-- Rounding keeps the order of numbers. -/
theorem nearest_mono {a b : Int} (h : a ≤ b) : nearest a ≤ nearest b := by
  unfold nearest
  split_ifs with ha hb hb
  · have hmono := roundUnits_mono (show b.natAbs ≤ a.natAbs by omega)
    omega
  · omega
  · omega
  · have hmono := roundUnits_mono (show a.natAbs ≤ b.natAbs by omega)
    omega

/-- What lies on the grid of doubles is not rounded, whatever its sign. -/
theorem nearest_eq_self {units : Int} (h : spacing units.natAbs ∣ units.natAbs) :
    nearest units = units := by
  unfold nearest
  rw [roundUnits_eq_self h]
  split <;> omega

/-- Without its sign a value in units is the magnitude. -/
theorem Finite.natAbs_signedUnits (x : Finite) : x.signedUnits.natAbs = x.units := by
  unfold signedUnits
  split <;> omega

/-- A double is the double nearest to itself. -/
theorem nearest_signedUnits (x : Finite) : nearest x.signedUnits = x.signedUnits := by
  refine nearest_eq_self ?_
  rw [x.natAbs_signedUnits]
  exact x.representable.1

/-- The units in the number one are a power of two; which one seldom matters. -/
theorem exists_one_eq_pow : ∃ k, k = 1074 ∧ one = Nat.pow 2 k := by
  unfold one
  exact ⟨1074, rfl, rfl⟩

theorem one_pos : 0 < one := by
  obtain ⟨k, -, hone⟩ := exists_one_eq_pow
  rw [hone]
  exact pow_pos k

/-- A multiple of a power of two by at most 53 bits is on the grid of doubles. -/
theorem spacing_mul_pow_dvd {n : Nat} (h : n ≤ Nat.pow 2 53) (k : Nat) :
    spacing (n * Nat.pow 2 k) ∣ n * Nat.pow 2 k := by
  rcases Nat.lt_or_eq_of_le h with hlt | rfl
  · have hbound : n * Nat.pow 2 k < Nat.pow 2 (52 + k + 1) := by
      rw [show 52 + k + 1 = 53 + k by omega, pow_add]
      exact Nat.mul_lt_mul_of_pos_right hlt (pow_pos k)
    have hgrid := spacing_dvd_of_lt hbound
    rw [Nat.add_sub_cancel_left] at hgrid
    exact Nat.dvd_trans hgrid (Nat.dvd_mul_left _ _)
  · rw [← pow_add]
    exact spacing_pow_dvd (53 + k)

/-- An integer of at most 53 bits is on the grid of doubles. -/
theorem spacing_mul_one_dvd {n : Nat} (h : n ≤ Nat.pow 2 53) :
    spacing (n * one) ∣ n * one := by
  obtain ⟨k, -, hone⟩ := exists_one_eq_pow
  rw [hone]
  exact spacing_mul_pow_dvd h k

/-- An integer of at most 53 bits is a double. -/
theorem nearest_mul_one {n : Int} (h : n.natAbs ≤ Nat.pow 2 53) :
    nearest (n * one) = n * one := by
  refine nearest_eq_self ?_
  rw [Int.natAbs_mul, Int.natAbs_natCast]
  exact spacing_mul_one_dvd h

/-- Powers of two below `2 ^ 1024` do not overflow. -/
theorem pow_lt_overflow {k : Nat} (h : k < 2098) : Nat.pow 2 k < overflow := by
  unfold overflow
  generalize 2098 = limit at h
  exact Nat.pow_lt_pow_right (by decide) h

/-- The units of an integer within the range of words are far below the overflow limit. -/
theorem roundUnits_lt_overflow {n : Nat} (h : n ≤ Nat.pow 2 64) :
    roundUnits (n * one) 1 < overflow := by
  obtain ⟨k, hk, hone⟩ := exists_one_eq_pow
  have hbound : n * one ≤ Nat.pow 2 (64 + k) := by
    rw [hone, pow_add]
    exact Nat.mul_le_mul_right _ h
  have hlog : (n * one).log2 ≤ 64 + k :=
    Nat.le_trans (log2_mono hbound) (Nat.le_of_eq Nat.log2_two_pow)
  calc
    roundUnits (n * one) 1 ≤ Nat.pow 2 (64 + k) := roundUnits_le (spacing_dvd_pow hlog) hbound
    _ < overflow := pow_lt_overflow (by omega)

/-- The double of an integer within the range of words is finite, and is the nearest one. -/
theorem exists_ofInt_eq_finite {n : Int} (h : Json.IsWord n) :
    ∃ x : Finite, ofInt n = finite x ∧ x.signedUnits = nearest (n * one) := by
  have hword : n.natAbs ≤ Nat.pow 2 64 := by
    obtain ⟨hleast, hgreatest⟩ := h
    have hpow : Nat.pow 2 64 = 18446744073709551616 := rfl
    omega
  have hfinite := roundUnits_lt_overflow hword
  have habs : (n * one).natAbs = n.natAbs * one := by
    rw [Int.natAbs_mul, Int.natAbs_natCast]
  have hsign : n * one < 0 ↔ n < 0 := by
    rw [← not_le, ← not_le, mul_nonneg_iff_of_pos_right (Int.natCast_pos.mpr one_pos)]
  refine ⟨⟨decide (n < 0), _, spacing_roundUnits_dvd _ _, hfinite⟩, ?_, ?_⟩
  · rw [ofInt, ofRatio]
    exact dif_pos hfinite
  · simp only [Finite.signedUnits, nearest, decide_eq_true_eq, habs, hsign]

end Double

namespace Json.Number

/-- The exact value of a number in units of the least positive double. -/
def units : Number → Int
  | integer value _ => value * Double.one
  | float value => value.signedUnits

/-- The double of a number is finite and the nearest one to its exact value. -/
theorem exists_toDouble_eq_finite (n : Number) :
    ∃ x : Double.Finite, n.toDouble = .finite x ∧ x.signedUnits = Double.nearest n.units := by
  cases n with
  | integer value isWord => exact Double.exists_ofInt_eq_finite isWord
  | float value => exact ⟨value, rfl, (Double.nearest_signedUnits value).symm⟩

/-- The double of a number is finite. -/
theorem isFinite_toDouble (n : Number) : n.toDouble.isFinite = true := by
  obtain ⟨x, hx, -⟩ := n.exists_toDouble_eq_finite
  rw [hx]
  rfl

end Json.Number

end Stockroom
