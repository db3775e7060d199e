import Mathlib.Data.List.Induction
import Stockroom.Proofs.Rounding

/-!
# Sums of doubles

Adding a zero changes nothing but the sign of a negative zero, and a sum that starts from the
positive zero is never the negative one. So zeros may be left out of a sum, wherever they stand.
-/

namespace Stockroom.Double

/-- The negative zero. -/
def negativeZero : Double :=
  finite { Finite.zero with negative := true }

/-- The double nearest to the units of a double is that double. -/
theorem ofRatio_units (x : Finite) : ofRatio x.negative x.units 1 = finite x := by
  obtain ⟨negative, units, hgrid, hlt⟩ := x
  have hround : roundUnits units 1 = units := roundUnits_eq_self hgrid
  rw [ofRatio]
  simp only [hround, hlt, dif_pos]

/-- What is nearest to the negative zero is zero units and negative. -/
theorem eq_zero_of_ofRatio_eq {negative : Bool} {units : Nat}
    (h : ofRatio negative units 1 = negativeZero) : negative = true ∧ units = 0 := by
  rw [ofRatio] at h
  split at h
  case isFalse => cases h
  case isTrue hlt =>
    have hvalue : negative = true ∧ roundUnits units 1 = 0 := Finite.mk.inj (finite.inj h)
    refine ⟨hvalue.1, ?_⟩
    -- A magnitude other than zero is not rounded below the spacing at it.
    by_contra hne
    have hspacing : spacing units ≤ units :=
      Nat.le_trans (Nat.pow_le_pow_right (by decide) (Nat.sub_le _ 52)) (Nat.log2_self_le hne)
    have hround := le_roundUnits (Nat.dvd_refl (spacing units)) hspacing
    have hpos : 0 < spacing units := pow_pos _
    omega

/-- Finite numbers are added by their units. -/
theorem finite_add_finite (x y : Finite) :
    finite x + finite y = ofRatio
      (if x.signedUnits + y.signedUnits = 0 then x.negative && y.negative
        else decide (x.signedUnits + y.signedUnits < 0))
      (x.signedUnits + y.signedUnits).natAbs 1 := by
  change add (finite x) (finite y) = _
  rw [add]

/-- A negative number without units is the negative zero. -/
theorem Finite.eq_negativeZero {x : Finite} (hnegative : x.negative = true)
    (hunits : x.units = 0) : finite x = negativeZero := by
  obtain ⟨negative, units, _⟩ := x
  obtain rfl : negative = true := hnegative
  obtain rfl : units = 0 := hunits
  rfl

/-- A zero added to a number other than the negative zero changes nothing. -/
theorem add_zero_of_ne {x : Double} (h : x ≠ negativeZero) : x + zero = x := by
  cases x with
  | nan => rfl
  | infinite negative => rfl
  | finite x =>
    have hzero : Finite.zero.signedUnits = 0 := rfl
    rw [zero, finite_add_finite, hzero, Int.add_zero, x.natAbs_signedUnits]
    -- The zero is positive, so an exact sum of zero is positive, as the number then has to be.
    have hsign : (if x.signedUnits = 0 then x.negative && Finite.zero.negative
        else decide (x.signedUnits < 0)) = x.negative := by
      have habs := x.natAbs_signedUnits
      split
      case isTrue hnone =>
        cases hnegative : x.negative with
        | false => rfl
        | true => exact absurd (Finite.eq_negativeZero hnegative (by omega)) h
      case isFalse hsome =>
        cases hnegative : x.negative with
        | false => simp [Finite.signedUnits, hnegative]
        | true =>
          have hvalue : x.signedUnits = -x.units := by simp [Finite.signedUnits, hnegative]
          exact decide_eq_true (by omega)
    rw [hsign, ofRatio_units]

/-- Only the sum of two negative zeros is the negative zero. -/
theorem add_ne_negativeZero {x : Double} (h : x ≠ negativeZero) (y : Double) :
    x + y ≠ negativeZero := by
  intro hsum
  cases x with
  | nan => cases hsum
  | infinite a =>
    cases y with
    | nan => cases hsum
    | infinite b =>
      change (if a = b then infinite a else nan) = negativeZero at hsum
      split at hsum <;> cases hsum
    | finite y => cases hsum
  | finite x =>
    cases y with
    | nan => cases hsum
    | infinite b => cases hsum
    | finite y =>
      rw [finite_add_finite] at hsum
      obtain ⟨hsign, hunits⟩ := eq_zero_of_ofRatio_eq hsum
      rw [if_pos (Int.natAbs_eq_zero.mp hunits), Bool.and_eq_true] at hsign
      have hx : x.signedUnits = -x.units := by simp [Finite.signedUnits, hsign.1]
      have hy : y.signedUnits = -y.units := by simp [Finite.signedUnits, hsign.2]
      exact h (Finite.eq_negativeZero hsign.1 (by omega))

/-- A sum with one more term. -/
theorem sum_concat (xs : List Double) (x : Double) : sum (xs ++ [x]) = sum xs + x := by
  rw [sum, List.foldl_append]
  rfl

/-- A sum is not the negative zero. -/
theorem sum_ne_negativeZero (xs : List Double) : sum xs ≠ negativeZero := by
  induction xs using List.reverseRecOn with
  | nil => rintro ⟨⟩
  | append_singleton xs x ih =>
    rw [sum_concat]
    exact add_ne_negativeZero ih x

/-- A sum with zeros in the places without a term is the sum of the terms. -/
theorem sum_filterMap {α : Type} (term? : α → Option Double) (as : List α) :
    sum (as.filterMap term?) = sum (as.map fun a => (term? a).getD zero) := by
  induction as using List.reverseRecOn with
  | nil => rfl
  | append_singleton as a ih =>
    rw [List.filterMap_append, List.map_append, List.map_singleton, sum_concat, ← ih]
    cases hterm : term? a with
    | none =>
      simp only [List.filterMap_cons, hterm, List.filterMap_nil, List.append_nil, Option.getD_none]
      exact (add_zero_of_ne (sum_ne_negativeZero _)).symm
    | some x =>
      simp only [List.filterMap_cons, hterm, List.filterMap_nil, Option.getD_some]
      exact sum_concat _ x

/-- A sum of two finite numbers is within a bound that is a double if the exact sum is. -/
theorem exists_add_eq_finite {x y : Finite} {bound : Nat} (hbound : Representable bound)
    (h : x.units + y.units ≤ bound) :
    ∃ z : Finite, finite x + finite y = finite z ∧ z.units ≤ bound := by
  have habs : (x.signedUnits + y.signedUnits).natAbs ≤ bound := by
    have hx := x.natAbs_signedUnits
    have hy := y.natAbs_signedUnits
    omega
  have hround : roundUnits (x.signedUnits + y.signedUnits).natAbs 1 ≤ bound :=
    roundUnits_le (Nat.dvd_trans (spacing_dvd_spacing habs) hbound.1) habs
  have hlt := Nat.lt_of_le_of_lt hround hbound.2
  rw [finite_add_finite, ofRatio]
  exact ⟨_, dif_pos hlt, hround⟩

/-- A sum of at most `2 ^ 53` terms of limited magnitude is finite, and no partial sum is rounded
beyond the number of its terms times the limit. -/
theorem exists_sum_eq_finite {xs : List Double} {k : Nat} (hk : 53 + k < 2098)
    (hlength : xs.length ≤ Nat.pow 2 53)
    (hterms : ∀ x ∈ xs, ∃ value : Finite, x = finite value ∧ value.units ≤ Nat.pow 2 k) :
    ∃ total : Finite, sum xs = finite total ∧ total.units ≤ xs.length * Nat.pow 2 k := by
  induction xs using List.reverseRecOn with
  | nil => exact ⟨Finite.zero, rfl, Nat.zero_le _⟩
  | append_singleton xs x ih =>
    rw [List.length_append, List.length_singleton] at hlength ⊢
    obtain ⟨total, htotal, hle⟩ := ih (Nat.le_of_succ_le hlength) fun other hmem =>
      hterms other (List.mem_append_left _ hmem)
    obtain ⟨value, rfl, hvalue⟩ := hterms x (List.mem_append_right _ List.mem_cons_self)
    have hbound : Representable ((xs.length + 1) * Nat.pow 2 k) := by
      refine ⟨spacing_mul_pow_dvd hlength k, ?_⟩
      calc
        (xs.length + 1) * Nat.pow 2 k ≤ Nat.pow 2 53 * Nat.pow 2 k :=
          Nat.mul_le_mul_right _ hlength
        _ = Nat.pow 2 (53 + k) := (pow_add 53 k).symm
        _ < overflow := pow_lt_overflow hk
    have hunits : total.units + value.units ≤ (xs.length + 1) * Nat.pow 2 k := by
      rw [Nat.add_mul, Nat.one_mul]
      exact Nat.add_le_add hle hvalue
    rw [sum_concat, htotal]
    exact exists_add_eq_finite hbound hunits

end Stockroom.Double
