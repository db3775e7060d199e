import Mathlib.Algebra.Order.Field.Rat
import Mathlib.Order.Compare
import Mathlib.Tactic.NormNum
import Stockroom.Proofs.Parameters
import Stockroom.Proofs.Rounding

/-!
# Comparisons with signed words

Two signed words are equal if they are the same, but every other comparison of a stored number with
a word is one of doubles. Such a comparison never reverses an order, and it is exact as long as the
number and the word have different doubles or are equal.
-/

namespace Stockroom

namespace Json.Number

/-- The exact value of a number. -/
def value : Number → ℚ
  | integer value _ => value
  | float value => value.signedUnits / Double.one

/-- The value of a number is that of its units. -/
theorem value_eq_units_div (n : Number) : n.value = n.units / Double.one := by
  cases n with
  | float x => rfl
  | integer v isWord =>
    have hone : (Double.one : ℚ) ≠ 0 := Nat.cast_ne_zero.mpr (Nat.ne_of_gt Double.one_pos)
    rw [value, units, Int.cast_mul, Int.cast_natCast, mul_div_cancel_right₀ _ hone]

/-- Exact values are ordered as their units are. -/
theorem value_lt_iff (n : Number) (i : Int) : n.value < i ↔ n.units < i * Double.one := by
  have hone : (0 : ℚ) < Double.one := Nat.cast_pos.mpr Double.one_pos
  rw [value_eq_units_div, div_lt_iff₀ hone]
  exact_mod_cast Iff.rfl

/-- Exact values are ordered as their units are. -/
theorem lt_value_iff (n : Number) (i : Int) : (i : ℚ) < n.value ↔ i * Double.one < n.units := by
  have hone : (0 : ℚ) < Double.one := Nat.cast_pos.mpr Double.one_pos
  rw [value_eq_units_div, lt_div_iff₀ hone]
  exact_mod_cast Iff.rfl

/-- Exact values are equal if their units are. -/
theorem value_eq_iff (n : Number) (i : Int) : n.value = i ↔ n.units = i * Double.one := by
  have hone : (Double.one : ℚ) ≠ 0 := Nat.cast_ne_zero.mpr (Nat.ne_of_gt Double.one_pos)
  rw [value_eq_units_div, div_eq_iff hone]
  exact_mod_cast Iff.rfl

/-- Whether a number and a word are the same as doubles. -/
def SharesDouble (n : Number) (i : Int64) : Prop :=
  n.toDouble.equals (.ofInt i.toInt) = true

instance (n : Number) (i : Int64) : Decidable (n.SharesDouble i) :=
  inferInstanceAs (Decidable (_ = _))

/-- Numbers are compared as doubles by what their exact values are rounded to. -/
theorem compare?_toDouble_toDouble (m n : Number) : m.toDouble.compare? n.toDouble =
    some (compare (Double.nearest m.units) (Double.nearest n.units)) := by
  obtain ⟨x, hx, hm⟩ := m.exists_toDouble_eq_finite
  obtain ⟨y, hy, hn⟩ := n.exists_toDouble_eq_finite
  rw [hx, hy, ← hm, ← hn]
  rfl

/-- A number is compared with a word by what their exact values are rounded to. -/
theorem compare?_toDouble (n : Number) (i : Int64) :
    n.toDouble.compare? (.ofInt i.toInt) =
      some (compare (Double.nearest n.units) (Double.nearest (i.toInt * Double.one))) :=
  compare?_toDouble_toDouble n (ofInt64 i)

/-- A number shares its double with a word if both are rounded to the same. -/
theorem sharesDouble_iff {n : Number} {i : Int64} :
    n.SharesDouble i ↔ Double.nearest n.units = Double.nearest (i.toInt * Double.one) := by
  rw [SharesDouble, Double.equals, compare?_toDouble, beq_iff_eq, Option.some.injEq,
    compare_eq_iff_eq]

/-- A number with the value of a word shares its double. -/
theorem sharesDouble_of_value_eq {n : Number} {i : Int64} (h : n.value = i.toInt) :
    n.SharesDouble i := by
  rw [sharesDouble_iff, (n.value_eq_iff _).mp h]

/-- A number that equals a word shares its double. -/
theorem EqualsWord.sharesDouble {n : Number} {i : Int64} (h : n.EqualsWord i) :
    n.SharesDouble i := by
  rcases h with rfl | ⟨-, hequals⟩
  · exact sharesDouble_of_value_eq rfl
  · exact hequals

/-- A number with the value of a word equals the word. -/
theorem equalsWord_of_value_eq {n : Number} {i : Int64} (h : n.value = i.toInt) :
    n.EqualsWord i := by
  cases hword : n.toInt64? with
  | none => exact Or.inr ⟨hword, sharesDouble_of_value_eq h⟩
  | some j =>
    obtain rfl := toInt64?_eq_some_iff.mp hword
    have hvalue : (j.toInt : ℚ) = i.toInt := h
    rw [Int.cast_inj, Int64.toInt_inj] at hvalue
    exact Or.inl (hvalue ▸ rfl)

/-- Numbers that are rounded to the same are equal if one of them has less than 54 bits. -/
theorem units_eq_of_nearest_eq {m n : Number}
    (hn : n.units.natAbs < Nat.pow 2 53 * Double.one)
    (h : Double.nearest m.units = Double.nearest n.units) : m.units = n.units := by
  have hone : (0 : Int) < Double.one := Int.natCast_pos.mpr Double.one_pos
  have hexact : Double.nearest n.units = n.units := by
    cases n with
    | float x => exact Double.nearest_signedUnits x
    | integer v isWord =>
      rw [units, Int.natAbs_mul, Int.natAbs_natCast, Nat.mul_lt_mul_right Double.one_pos] at hn
      exact Double.nearest_mul_one (Nat.le_of_lt hn)
  rw [hexact] at h
  cases m with
  | float x => rwa [units, Double.nearest_signedUnits] at h
  | integer w isWord =>
    rw [units] at h ⊢
    by_cases hshort : w.natAbs ≤ Nat.pow 2 53
    · rwa [Double.nearest_mul_one hshort] at h
    -- The integers of 54 bits around zero are doubles too, so rounding stops at them.
    · have hstop (v : Int) (hv : v.natAbs = Nat.pow 2 53) :
          Double.nearest (v * Double.one) = v * Double.one :=
        Double.nearest_mul_one (Nat.le_of_eq hv)
      have hbound : ((Nat.pow 2 53 * Double.one : Nat) : Int) = (Nat.pow 2 53 : Nat) * Double.one :=
        Nat.cast_mul _ _
      exfalso
      rcases Int.lt_or_le 0 w with hpos | hneg
      · have hle : ((Nat.pow 2 53 : Nat) : Int) ≤ w := by omega
        have hmono := Double.nearest_mono (Int.mul_le_mul_of_nonneg_right hle (Int.le_of_lt hone))
        rw [hstop _ rfl, h] at hmono
        omega
      · have hle : w ≤ -((Nat.pow 2 53 : Nat) : Int) := by omega
        have hmono := Double.nearest_mono (Int.mul_le_mul_of_nonneg_right hle (Int.le_of_lt hone))
        rw [hstop (-((Nat.pow 2 53 : Nat) : Int)) (Int.natAbs_neg _), h, Int.neg_mul] at hmono
        omega

/-- A number shares its double with a word of less than 54 bits only if it equals the word. -/
theorem value_eq_of_sharesDouble {n : Number} {i : Int64} (hi : i.toInt.natAbs < Nat.pow 2 53)
    (h : n.SharesDouble i) : n.value = i.toInt := by
  rw [value_eq_iff]
  refine units_eq_of_nearest_eq (n := ofInt64 i) ?_ (sharesDouble_iff.mp h)
  have hunits : (ofInt64 i).units = i.toInt * Double.one := rfl
  rw [hunits, Int.natAbs_mul, Int.natAbs_natCast]
  exact Nat.mul_lt_mul_of_pos_right hi Double.one_pos

end Json.Number

namespace Condition

/-- Equality with a word accepts the numbers that equal the word. -/
theorem accepts_eq_word (i : Int64) (n : Json.Number) :
    (eq (.int i)).accepts (.number n) = true ↔ n.EqualsWord i := by
  simp [accepts, Literal.equals_int]

/-- A lower bound accepts the numbers that are rounded to more than the word is. -/
theorem accepts_above_word (i : Int64) (n : Json.Number) :
    (range ⟨some (.int i), none⟩).accepts (.number n) = true ↔
      Double.nearest (i.toInt * Double.one) < Double.nearest n.units := by
  simp only [accepts, Range.contains, Option.all_some, Option.all_none, Bool.and_true,
    Literal.compareFound, Literal.toDouble?, Option.bind_some, Json.Number.compare?_toDouble,
    beq_iff_eq, Option.some.injEq, compare_gt_iff_gt]

/-- An upper bound accepts the numbers that are rounded to less than the word is. -/
theorem accepts_below_word (i : Int64) (n : Json.Number) :
    (range ⟨none, some (.int i)⟩).accepts (.number n) = true ↔
      Double.nearest n.units < Double.nearest (i.toInt * Double.one) := by
  simp only [accepts, Range.contains, Option.all_some, Option.all_none, Bool.true_and,
    Literal.compareFound, Literal.toDouble?, Option.bind_some, Json.Number.compare?_toDouble,
    beq_iff_eq, Option.some.injEq, compare_lt_iff_lt]

/-- What is accepted above a word is greater. -/
theorem lt_value_of_accepts {i : Int64} {n : Json.Number}
    (h : (range ⟨some (.int i), none⟩).accepts (.number n) = true) : (i.toInt : ℚ) < n.value := by
  rw [n.lt_value_iff]
  refine Int.lt_of_not_ge fun hge => ?_
  have hmono := Double.nearest_mono hge
  exact absurd ((accepts_above_word i n).mp h) (Int.not_lt.mpr hmono)

/-- What is accepted below a word is less. -/
theorem value_lt_of_accepts {i : Int64} {n : Json.Number}
    (h : (range ⟨none, some (.int i)⟩).accepts (.number n) = true) : n.value < i.toInt := by
  rw [n.value_lt_iff]
  refine Int.lt_of_not_ge fun hge => ?_
  have hmono := Double.nearest_mono hge
  exact absurd ((accepts_below_word i n).mp h) (Int.not_lt.mpr hmono)

end Condition

namespace Literal

/-- Whether the comparisons of a number with a word go by its exact value. -/
structure ComparesExactly (i : Int64) (n : Json.Number) : Prop where
  eq : (Condition.eq (.int i)).accepts (.number n) = true ↔ n.value = i.toInt
  gt : (Condition.range ⟨some (.int i), none⟩).accepts (.number n) = true ↔
    (i.toInt : ℚ) < n.value
  lt : (Condition.range ⟨none, some (.int i)⟩).accepts (.number n) = true ↔ n.value < i.toInt

/-- The three conditions that compare with a word. -/
def comparisons (i : Int64) : List Condition :=
  [.eq (.int i), .range ⟨some (.int i), none⟩, .range ⟨none, some (.int i)⟩]

/-- Of exact comparisons just one holds. -/
theorem ComparesExactly.countP_eq_one {i : Int64} {n : Json.Number} (h : ComparesExactly i n) :
    (comparisons i).countP (fun condition => condition.accepts (.number n)) = 1 := by
  simp only [comparisons, List.countP_cons, List.countP_nil, h.eq, h.gt, h.lt]
  rcases lt_trichotomy n.value i.toInt with hlt | heq | hgt
  · simp [hlt, ne_of_lt hlt, lt_asymm hlt]
  · simp [heq]
  · simp [hgt, ne_of_gt hgt, lt_asymm hgt]

/-- The comparisons with a word are exact for the numbers that share its double only if they equal
it. -/
theorem comparesExactly_iff {i : Int64} {n : Json.Number} :
    ComparesExactly i n ↔ (n.SharesDouble i → n.value = i.toInt) := by
  constructor
  · intro h hshares
    have hrounded := Json.Number.sharesDouble_iff.mp hshares
    rcases lt_trichotomy n.value i.toInt with hlt | heq | hgt
    · have haccepts := (Condition.accepts_below_word i n).mp (h.lt.mpr hlt)
      exact absurd haccepts (by omega)
    · exact heq
    · have haccepts := (Condition.accepts_above_word i n).mp (h.gt.mpr hgt)
      exact absurd haccepts (by omega)
  · intro h
    refine ⟨⟨fun haccepts => ?_, fun heq => ?_⟩, ⟨Condition.lt_value_of_accepts, fun hgt => ?_⟩,
      ⟨Condition.value_lt_of_accepts, fun hlt => ?_⟩⟩
    · exact h ((Condition.accepts_eq_word i n).mp haccepts).sharesDouble
    · exact (Condition.accepts_eq_word i n).mpr (Json.Number.equalsWord_of_value_eq heq)
    · have hmono := Double.nearest_mono (Int.le_of_lt ((n.lt_value_iff _).mp hgt))
      have hne : Double.nearest n.units ≠ Double.nearest (i.toInt * Double.one) :=
        fun hsame => ne_of_gt hgt (h (Json.Number.sharesDouble_iff.mpr hsame))
      exact (Condition.accepts_above_word i n).mpr (by omega)
    · have hmono := Double.nearest_mono (Int.le_of_lt ((n.value_lt_iff _).mp hlt))
      have hne : Double.nearest n.units ≠ Double.nearest (i.toInt * Double.one) :=
        fun hsame => ne_of_lt hlt (h (Json.Number.sharesDouble_iff.mpr hsame))
      exact (Condition.accepts_below_word i n).mpr (by omega)

/-- Comparisons with a word never put a number on the wrong side of it and never miss one that
equals it. They are exact for just the numbers that share its double only if they equal it, and for
every number if the word has less than 54 bits; then just one of them holds. -/
theorem wordComparisons_exact (i : Int64) :
    (∀ n : Json.Number,
      ((Condition.range ⟨some (.int i), none⟩).accepts (.number n) = true →
        (i.toInt : ℚ) < n.value) ∧
      ((Condition.range ⟨none, some (.int i)⟩).accepts (.number n) = true →
        n.value < i.toInt) ∧
      (n.value = i.toInt → (Condition.eq (.int i)).accepts (.number n) = true) ∧
      (ComparesExactly i n ↔ (n.SharesDouble i → n.value = i.toInt)) ∧
      (ComparesExactly i n →
        (comparisons i).countP (fun condition => condition.accepts (.number n)) = 1)) ∧
    (i.toInt.natAbs < 2 ^ 53 → ∀ n : Json.Number, ComparesExactly i n) := by
  constructor
  · intro n
    refine ⟨Condition.lt_value_of_accepts, Condition.value_lt_of_accepts, fun heq => ?_,
      comparesExactly_iff, ComparesExactly.countP_eq_one⟩
    exact (Condition.accepts_eq_word i n).mpr (Json.Number.equalsWord_of_value_eq heq)
  · intro hi n
    exact comparesExactly_iff.mpr (Json.Number.value_eq_of_sharesDouble hi)

/-- The comparisons with the greatest word of 53 bits are exact for the integer after it. -/
theorem wordComparisons_exact_greatest :
    (9007199254740991 : Int64).toInt.natAbs < 2 ^ 53 ∧
      ComparesExactly 9007199254740991 (.integer 9007199254740992 (by decide)) := by
  have hi : (9007199254740991 : Int64).toInt.natAbs < 2 ^ 53 := by decide
  exact ⟨hi, (wordComparisons_exact 9007199254740991).2 hi _⟩

/-- Just above the word `2 ^ 53` there is an integer that the comparisons with the word all miss:
it is greater, but as a double it is the same. -/
theorem wordComparisons_miss_integer :
    let i : Int64 := 9007199254740992
    let n : Json.Number := .integer 9007199254740993 (by decide)
    (i.toInt : ℚ) < n.value ∧
      (comparisons i).countP (fun condition => condition.accepts (.number n)) = 0 ∧
      ¬ ComparesExactly i n := by
  intro i n
  have hi : i.toInt = 9007199254740992 := by decide
  have hless : (i.toInt : ℚ) < n.value := by
    rw [hi]
    norm_num [n, Json.Number.value]
  have hnone : (comparisons i).countP (fun condition => condition.accepts (.number n)) = 0 := by
    decide +kernel
  refine ⟨hless, hnone, fun hexact => ?_⟩
  rw [hexact.countP_eq_one] at hnone
  cases hnone

end Literal

end Stockroom
