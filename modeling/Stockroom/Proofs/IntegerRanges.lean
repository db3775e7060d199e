import Stockroom.Proofs.ExactComparison
import Stockroom.Proofs.RestrictingClauses

/-!
# Integers in a range of words

The limits of an integer range become words before they are compared: their fraction is cut off
towards zero and what is beyond the range of words is cut to its end. Then word and stored integer
become doubles. None of these steps lets an integer in: cutting moves a limit by less than one, past
no integer but the one that the open end excludes. Main statement: what a range accepts lies between
its limits, and a range between short integers accepts all integers between them.
-/

namespace Stockroom

namespace Double.Finite

/-- The exact value of a double. -/
def value (x : Finite) : ℚ := x.signedUnits / one

/-- Exact values are ordered as their units are. -/
theorem value_lt_iff (x : Finite) (n : Int) : x.value < n ↔ x.signedUnits < n * one :=
  (Json.Number.float x).value_lt_iff n

/-- Exact values are ordered as their units are. -/
theorem lt_value_iff (x : Finite) (n : Int) : (n : ℚ) < x.value ↔ n * one < x.signedUnits :=
  (Json.Number.float x).lt_value_iff n

/-- Exact values are equal if their units are. -/
theorem value_eq_iff (x : Finite) (n : Int) : x.value = n ↔ x.signedUnits = n * one :=
  (Json.Number.float x).value_eq_iff n

/-- An integer above the whole part is above the number. -/
theorem value_lt_of_trunc_lt {x : Finite} {n : Int} (h : x.trunc < n) : x.value < n := by
  rw [value_lt_iff]
  exact Int.lt_mul_of_tdiv_lt (Int.natCast_pos.mpr one_pos) h

/-- An integer below the whole part is below the number. -/
theorem lt_value_of_lt_trunc {x : Finite} {n : Int} (h : n < x.trunc) : (n : ℚ) < x.value := by
  rw [lt_value_iff]
  -- Cutting towards zero treats both signs alike.
  have hopposite : (-x.signedUnits).tdiv one < -n := by
    rw [Int.neg_tdiv]
    exact Int.neg_lt_neg h
  have hlt := Int.lt_mul_of_tdiv_lt (Int.natCast_pos.mpr one_pos) hopposite
  rw [Int.neg_mul] at hlt
  exact Int.neg_lt_neg_iff.mp hlt

/-- The whole part of an integer is the integer. -/
theorem trunc_eq_of_value_eq {x : Finite} {n : Int} (h : x.value = n) : x.trunc = n := by
  have hone : (one : Int) ≠ 0 := Int.natCast_ne_zero.mpr (Nat.ne_of_gt one_pos)
  rw [trunc, (x.value_eq_iff n).mp h, Int.mul_tdiv_cancel _ hone]

/-- The whole part cut to the range of words. -/
theorem toInt_clampInt64 (x : Finite) : (finite x).clampInt64.toInt =
    max (-9223372036854775808) (min x.trunc 9223372036854775807) := by
  rw [clampInt64]
  split_ifs with hleast hgreatest
  · rw [Int64.toInt_minValue]
    omega
  · rw [Int64.toInt_ofInt_of_le (by omega) (by omega)]
    omega
  · rw [Int64.toInt_maxValue]
    omega

/-- Whether a number is an integer of at most 53 bits. -/
def IsShortInteger (x : Finite) : Prop :=
  ∃ n : Int, x.value = n ∧ n.natAbs < 2 ^ 53

/-- A short integer is the word that it becomes. -/
theorem IsShortInteger.clamp {x : Finite} (h : x.IsShortInteger) :
    x.value = (finite x).clampInt64.toInt ∧ (finite x).clampInt64.toInt.natAbs < 2 ^ 53 := by
  obtain ⟨n, hvalue, hshort⟩ := h
  have hword : (finite x).clampInt64.toInt = n := by
    rw [toInt_clampInt64, trunc_eq_of_value_eq hvalue]
    omega
  rw [hword]
  exact ⟨hvalue, hshort⟩

/-- Whether an integer lies strictly between two numbers, a zero being no limit. -/
def Between (lower upper : Finite) (n : Int) : Prop :=
  (lower.isZero = false → lower.value < n) ∧ (upper.isZero = false → (n : ℚ) < upper.value)

end Double.Finite

open Double (Finite)

namespace Condition

/-- A range accepts what both of its bounds accept. -/
theorem accepts_range_iff (gt lt : Option Literal) (found : Json) :
    (range ⟨gt, lt⟩).accepts found = true ↔
      (∀ literal ∈ gt, (range ⟨some literal, none⟩).accepts found = true) ∧
        ∀ literal ∈ lt, (range ⟨none, some literal⟩).accepts found = true := by
  cases gt <;> cases lt <;> simp [accepts, Range.contains]

/-- What is accepted above the word of a number is greater than the number. -/
theorem value_lt_of_accepts_word {x : Finite} {v : Int64}
    (h : (range ⟨some (.int (Double.finite x).clampInt64), none⟩).accepts (.ofInt64 v) = true) :
    x.value < v.toInt := by
  have hlt : (Double.finite x).clampInt64.toInt < v.toInt :=
    Int.cast_lt.mp (lt_value_of_accepts h)
  have hgreatest := Int64.toInt_lt v
  rw [x.toInt_clampInt64] at hlt
  exact Finite.value_lt_of_trunc_lt (by omega)

/-- What is accepted below the word of a number is less than the number. -/
theorem lt_value_of_accepts_word {x : Finite} {v : Int64}
    (h : (range ⟨none, some (.int (Double.finite x).clampInt64)⟩).accepts (.ofInt64 v) = true) :
    (v.toInt : ℚ) < x.value := by
  have hlt : v.toInt < (Double.finite x).clampInt64.toInt :=
    Int.cast_lt.mp (value_lt_of_accepts h)
  have hleast := Int64.le_toInt v
  rw [x.toInt_clampInt64] at hlt
  exact Finite.lt_value_of_lt_trunc (by omega)

/-- The word of a short integer is compared exactly. -/
theorem comparesExactly_of_isShortInteger {x : Finite} (h : x.IsShortInteger) (n : Json.Number) :
    Literal.ComparesExactly (Double.finite x).clampInt64 n :=
  Literal.comparesExactly_iff.mpr (Json.Number.value_eq_of_sharesDouble h.clamp.2)

end Condition

namespace SearchParam

/-- The range of words between two limits. -/
def wordRange (lower upper : Double) : Condition :=
  range { lowerLimit := lower, upperLimit := upper } fun limit => .int limit.clampInt64

/-- A range of words accepts what is above the word of its lower limit and below that of its upper
one, as far as they are set. -/
theorem accepts_wordRange_iff (lower upper : Double) (found : Json) :
    (wordRange lower upper).accepts found = true ↔
      (lower.isZero = false →
        (Condition.range ⟨some (.int lower.clampInt64), none⟩).accepts found = true) ∧
      (upper.isZero = false →
        (Condition.range ⟨none, some (.int upper.clampInt64)⟩).accepts found = true) := by
  rw [wordRange, range, Condition.accepts_range_iff]
  cases hlower : lower.isZero <;> cases hupper : upper.isZero <;>
    simp [limit?, hlower, hupper]

/-- A parameter with limits for words compiles to the range of words between them. -/
theorem ofParams_wordRange {field : String} (hfield : field ≠ "") {lower upper : Double}
    (hset : lower.isZero = false ∨ upper.isZero = false) :
    Filter.ofParams [⟨field, "int", "", lower, upper⟩] =
      .ok ⟨[(field, wordRange lower upper)]⟩ := by
  have hvalid : (SearchParam.mk field "int" "" lower upper).Valid := by
    have hlimited : (SearchParam.mk field "int" "" lower upper).Limited := hset
    refine ⟨(by decide : "int" ≠ ""), hfield, by simp [hlimited], ?_⟩
    intro type htype
    obtain rfl : ParamType.int = type := Option.some.inj htype
    exact fun hequal => absurd rfl hequal
  exact Filter.ofParams_singleton hvalid rfl

/-- A range for words compiles. The integers that it accepts lie strictly between the limits that
are set, and if these are short integers, it accepts all integers that do. -/
theorem integerRange_between {field : String} (hfield : field ≠ "") {lower upper : Finite}
    (hset : lower.isZero = false ∨ upper.isZero = false) :
    let condition := wordRange (.finite lower) (.finite upper)
    Filter.ofParams [⟨field, "int", "", .finite lower, .finite upper⟩] =
        .ok ⟨[(field, condition)]⟩ ∧
      (∀ v : Int64, condition.accepts (.ofInt64 v) = true → Finite.Between lower upper v.toInt) ∧
      ((lower.isZero = false → lower.IsShortInteger) →
        (upper.isZero = false → upper.IsShortInteger) →
        ∀ v : Int64, Finite.Between lower upper v.toInt →
          condition.accepts (.ofInt64 v) = true) := by
  intro condition
  refine ⟨ofParams_wordRange hfield hset, ?_, ?_⟩
  · intro v haccepts
    obtain ⟨habove, hbelow⟩ := (accepts_wordRange_iff _ _ _).mp haccepts
    constructor
    · intro hlower
      exact Condition.value_lt_of_accepts_word (habove hlower)
    · intro hupper
      exact Condition.lt_value_of_accepts_word (hbelow hupper)
  · intro hlowerShort hupperShort v ⟨habove, hbelow⟩
    refine (accepts_wordRange_iff _ _ _).mpr ⟨fun hlower => ?_, fun hupper => ?_⟩
    · have hshort := hlowerShort hlower
      refine (Condition.comparesExactly_of_isShortInteger hshort (.ofInt64 v)).gt.mpr ?_
      rw [← hshort.clamp.1]
      exact habove hlower
    · have hshort := hupperShort hupper
      refine (Condition.comparesExactly_of_isShortInteger hshort (.ofInt64 v)).lt.mpr ?_
      rw [← hshort.clamp.1]
      exact hbelow hupper

/-- Above minus one and a half the range starts at zero: minus one is lost, and nothing below the
limit is let in. Above two it starts at three. -/
theorem integerRange_between_negative :
    let fraction : Finite := ⟨true, 3 * Nat.pow 2 1073, by decide +kernel⟩
    let two : Finite := ⟨false, 2 * Double.one, by decide +kernel⟩
    let aboveFraction := wordRange (.finite fraction) .zero
    let aboveTwo := wordRange (.finite two) .zero
    (fraction.isZero = false ∧ two.isZero = false ∧ two.IsShortInteger) ∧
      Filter.ofParams [⟨"upc", "int", "", .finite fraction, .zero⟩] =
        .ok ⟨[("upc", aboveFraction)]⟩ ∧
      aboveFraction.accepts (.ofInt64 0) = true ∧ Finite.Between fraction .zero 0 ∧
      aboveFraction.accepts (.ofInt64 (-1)) = false ∧
      Finite.Between two .zero 3 ∧ aboveTwo.accepts (.ofInt64 3) = true := by
  intro fraction two aboveFraction aboveTwo
  have hfield : "upc" ≠ "" := by decide
  have hfraction : fraction.isZero = false := by decide +kernel
  have htwo : two.isZero = false := by decide +kernel
  have hunset {p : Prop} (hset : Finite.zero.isZero = false) : p := by
    have hzero : Finite.zero.isZero = true := rfl
    cases hzero.symm.trans hset
  have hvalue : two.value = (2 : Int) := (two.value_eq_iff 2).mpr (Nat.cast_mul 2 Double.one)
  have hshort : two.IsShortInteger := ⟨2, hvalue, by decide⟩
  have hbetween : Finite.Between two .zero 3 := by
    refine ⟨fun _ => ?_, hunset⟩
    rw [hvalue]
    norm_num
  have hzero : aboveFraction.accepts (.ofInt64 0) = true := by decide +kernel
  obtain ⟨hcompiles, hsound, -⟩ := integerRange_between hfield (.inl hfraction)
  obtain ⟨-, -, hcomplete⟩ := integerRange_between hfield (.inl htwo)
  exact ⟨⟨hfraction, htwo, hshort⟩, hcompiles, hzero, hsound 0 hzero, by decide +kernel, hbetween,
    hcomplete (fun _ => hshort) hunset 3 hbetween⟩

end SearchParam

end Stockroom
