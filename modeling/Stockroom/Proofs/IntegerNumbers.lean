import Mathlib.Data.Rat.Floor
import Stockroom.Proofs.IntegerTexts
import Stockroom.Proofs.LimitLiterals

/-!
# Integers of numbers

A field of integers reads a number as its whole part. A signed word is read as it stands. Of any
other number it is the double that loses its fraction, is compared with the ends of the range of
words, which are doubles themselves, and is converted in a way that would cut it to the range. Main
statement: what is read is the exact whole part, cut towards zero, and a number is refused just if
its whole part is no word. So the conversion never cuts anything.
-/

namespace Stockroom

namespace Double

/-- A magnitude without its fraction is on the grid of doubles. -/
theorem representable_whole (x : Finite) : Representable (x.units / one * one) := by
  obtain ⟨hgrid, hfinite⟩ := x.representable
  have hle : x.units / one * one ≤ x.units := Nat.div_mul_le_self _ _
  refine ⟨Nat.dvd_trans (spacing_dvd_spacing hle) ?_, Nat.lt_of_le_of_lt hle hfinite⟩
  -- Of two powers of two one divides the other: either the grid holds all integers, or a magnitude
  -- on it has no fraction.
  obtain ⟨k, -, hone⟩ := exists_one_eq_pow
  rcases Nat.le_total (x.units.log2 - 52) k with hfine | hcoarse
  · have hdvd : spacing x.units ∣ one := by
      rw [hone]
      exact Nat.pow_dvd_pow 2 hfine
    exact Nat.dvd_trans hdvd (Nat.dvd_mul_left _ _)
  · have hdvd : one ∣ spacing x.units := by
      rw [hone]
      exact Nat.pow_dvd_pow 2 hcoarse
    rwa [Nat.div_mul_cancel (Nat.dvd_trans hdvd hgrid)]

/-- The number without its fraction. -/
def Finite.whole (x : Finite) : Finite :=
  ⟨x.negative, x.units / one * one, representable_whole x⟩

/-- The double of the least word. -/
def leastWord : Double := ofInt (-9223372036854775808)

/-- The least double beyond the words. -/
def beyondWords : Double := ofInt 9223372036854775808

/-- The word of a number without its fraction. The number is compared with the ends of the range of
words, and then it is cut to the range. -/
def checkedWord? : Double → Option Int64
  | finite x =>
    let whole := finite x.whole
    if whole.below leastWord || !whole.below beyondWords then none else some whole.clampInt64
  | _ => none

namespace Finite

/-- A number without its fraction has the units of its whole part. -/
theorem signedUnits_whole (x : Finite) : x.whole.signedUnits = x.trunc * one := by
  have hunits : (x.whole.units : Int) = ((x.units / one : Nat) : Int) * one := by
    rw [whole, Int.natCast_mul]
  have hsign : x.whole.negative = x.negative := by
    rw [whole]
  rw [trunc_eq_signed, signedUnits, Text.IntegerRange.signed, hsign, hunits]
  split
  case isTrue => exact (neg_mul _ _).symm
  case isFalse => rfl

/-- A number without its fraction has its whole part as exact value. -/
theorem value_whole (x : Finite) : x.whole.value = x.trunc :=
  (x.whole.value_eq_iff x.trunc).mpr x.signedUnits_whole

/-- The whole part is the exact value, cut towards zero. -/
theorem trunc_eq_floor_or_ceil (x : Finite) :
    x.trunc = if 0 ≤ x.value then ⌊x.value⌋ else ⌈x.value⌉ := by
  have hone : (0 : ℚ) < one := Nat.cast_pos.mpr one_pos
  have hsign : 0 ≤ x.value ↔ 0 ≤ x.signedUnits := by
    rw [value, le_div_iff₀ hone, zero_mul, Int.cast_nonneg_iff]
  rw [if_congr hsign rfl rfl, trunc, value]
  split
  case isTrue hpositive =>
    rw [Rat.floor_intCast_div_natCast, Int.tdiv_eq_ediv_of_nonneg hpositive]
  case isFalse hnegative =>
    have hopposite : 0 ≤ -x.signedUnits := by omega
    rw [Rat.ceil_intCast_div_natCast, ← Int.tdiv_eq_ediv_of_nonneg hopposite, Int.neg_tdiv,
      Int.neg_neg]

end Finite

/-- A power of two is compared with exactly. -/
theorem below_ofInt_iff {x : Finite} {n : Int} (hword : Json.IsWord n)
    (hexact : nearest (n * one) = n * one) :
    (finite x).below (ofInt n) = true ↔ x.signedUnits < n * one := by
  obtain ⟨y, hy, hunits⟩ := exists_ofInt_eq_finite hword
  rw [hy, below, compare?, hunits, hexact, beq_iff_eq, Option.some.injEq, compare_lt_iff_lt]

/-- The ends of the range of words are not rounded. -/
theorem nearest_word_end {n : Int} (h : n.natAbs = 9223372036854775808) :
    nearest (n * one) = n * one := by
  obtain ⟨k, -, hone⟩ := exists_one_eq_pow
  have hpow : (n * one).natAbs = Nat.pow 2 (63 + k) := by
    rw [Int.natAbs_mul, Int.natAbs_natCast, h, hone, pow_add]
  refine nearest_eq_self ?_
  rw [hpow]
  exact spacing_pow_dvd _

/-- The word of a number is its whole part, and what is cut to the range of words lies in it. -/
theorem checkedWord?_finite (x : Finite) : (finite x).checkedWord? =
    if FitsInt64 x.trunc then some (finite x.whole).clampInt64 else none := by
  have hone : (0 : Int) < one := Int.natCast_pos.mpr one_pos
  have hleast : (finite x.whole).below leastWord = true ↔ x.trunc < -9223372036854775808 := by
    rw [leastWord, below_ofInt_iff (by decide) (nearest_word_end rfl), x.signedUnits_whole,
      Int.mul_lt_mul_right hone]
  have hbeyond : (finite x.whole).below beyondWords = true ↔ x.trunc < 9223372036854775808 := by
    rw [beyondWords, below_ofInt_iff (by decide) (nearest_word_end rfl), x.signedUnits_whole,
      Int.mul_lt_mul_right hone]
  have hrange : ((finite x.whole).below leastWord || !(finite x.whole).below beyondWords) = true ↔
      ¬ FitsInt64 x.trunc := by
    rw [Bool.or_eq_true, Bool.not_eq_true', ← Bool.not_eq_true, hleast, hbeyond, FitsInt64]
    omega
  rw [checkedWord?, if_congr hrange rfl rfl, ite_not]

/-- Without a fraction a number whose whole part is a word is converted to just that word. -/
theorem toInt_clampInt64_whole {x : Finite} (h : FitsInt64 x.trunc) :
    (finite x.whole).clampInt64.toInt = x.trunc := by
  obtain ⟨hleast, hgreatest⟩ := h
  rw [x.whole.toInt_clampInt64, Finite.trunc_eq_of_value_eq x.value_whole]
  omega

/-- The comparisons with the ends of the range accept just the numbers whose whole part is a
word. -/
theorem toInt64?_eq_checkedWord? (x : Double) : x.toInt64? = x.checkedWord? := by
  cases x with
  | nan => rfl
  | infinite negative => rfl
  | finite value =>
    rw [checkedWord?_finite, toInt64?, finite?, Option.bind_some]
    split
    case isTrue hfits =>
      rw [← toInt_clampInt64_whole hfits, Int64.ofInt_toInt]
    case isFalse => rfl

end Double

open Double (FitsInt64)

namespace Json.Number

/-- The exact value of a number, cut towards zero. -/
def wholePart (n : Number) : Int :=
  if 0 ≤ n.value then ⌊n.value⌋ else ⌈n.value⌉

/-- An integer is its whole part. -/
theorem wholePart_integer (v : Int) (isWord : IsWord v) : (integer v isWord).wholePart = v := by
  rw [wholePart, value, Int.floor_intCast, Int.ceil_intCast, ite_self]

/-- The whole part of a double. -/
theorem wholePart_float (x : Double.Finite) : (float x).wholePart = x.trunc :=
  x.trunc_eq_floor_or_ceil.symm

/-- A number is read as its whole part, if that is a word. -/
theorem readInt?_eq (n : Number) : n.readInt? =
    if FitsInt64 n.wholePart then some (Int64.ofInt n.wholePart) else none := by
  cases n with
  | float x =>
    rw [wholePart_float]
    rfl
  | integer v isWord =>
    rw [wholePart_integer, readInt?, toInt64?]
    by_cases hfits : FitsInt64 v
    · rw [if_pos hfits]
    -- What is no signed word is an unsigned one, and its double lies beyond the words as well.
    · have hround : ¬ Double.RoundsToLeast v := by
        intro hbelow
        exact Int.not_lt.mpr isWord.1 hbelow.2
      rw [if_neg hfits]
      exact (Double.toInt64?_ofInt_of_not_fits hfits).trans (if_neg hround)

end Json.Number

namespace Document

/-- A field of integers that holds a number is read as the exact whole part of the number, cut
towards zero, and is refused if that is no word, as is every unsigned word that is no signed one. A
double without its fraction becomes the word that it is, though what is beyond the range would be
cut to it. -/
theorem read_number {doc : Document} {name : String} {n : Json.Number}
    (hfound : doc.get? name = some (.number n)) :
    (FitsInt64 n.wholePart → ∃ i, doc.read .int name = .ok i ∧ i.toInt = n.wholePart) ∧
    (¬ FitsInt64 n.wholePart →
      doc.read .int name = .error (.coercion name .int (.number n))) ∧
    (∀ v isWord, n = .integer v isWord → 9223372036854775807 < v →
      doc.read .int name = .error (.coercion name .int (.number n))) ∧
    ∀ x, n = .float x → FitsInt64 n.wholePart →
      let word := (Double.finite x.whole).clampInt64
      doc.read .int name = .ok word ∧ (word.toInt : ℚ) = x.whole.value := by
  have hread : doc.read .int name =
      (n.readInt?.map Except.ok).getD (.error (.coercion name .int (.number n))) := by
    rw [read, present?, hfound]
    rfl
  have hrefused (hbeyond : ¬ FitsInt64 n.wholePart) :
      doc.read .int name = .error (.coercion name .int (.number n)) := by
    rw [hread, n.readInt?_eq, if_neg hbeyond]
    rfl
  refine ⟨fun hfits => ?_, hrefused, ?_, ?_⟩
  · rw [hread, n.readInt?_eq, if_pos hfits]
    exact ⟨_, rfl, Int64.toInt_ofInt_of_le hfits.1 hfits.2⟩
  · rintro v isWord rfl hgreat
    refine hrefused fun hfits => ?_
    rw [Json.Number.wholePart_integer] at hfits
    exact absurd hfits.2 (by omega)
  · rintro x rfl hfits word
    rw [Json.Number.wholePart_float] at hfits
    have hword : (Json.Number.float x).readInt? = some word := by
      have hsteps := Double.toInt64?_eq_checkedWord? (.finite x)
      rw [Double.checkedWord?_finite, if_pos hfits] at hsteps
      exact hsteps
    rw [hread, hword, x.value_whole, Double.toInt_clampInt64_whole hfits]
    exact ⟨rfl, rfl⟩

/-- The greatest double that is a word, the least unsigned word that is no signed one, and a
negative number with a fraction. -/
theorem read_number_ends :
    let greatest : Double.Finite := ⟨false, 9223372036854774784 * Double.one, by decide +kernel⟩
    let fraction : Double.Finite := ⟨true, 7 * Nat.pow 2 1073, by decide +kernel⟩
    let beyond : Json := .number (.integer 9223372036854775808 (by decide))
    let doc : Document := ⟨[("greatest", .number (.float greatest)), ("beyond", beyond),
      ("fraction", .number (.float fraction))]⟩
    (∃ i, doc.read .int "greatest" = .ok i ∧ i.toInt = 9223372036854774784) ∧
      doc.read .int "beyond" = .error (.coercion "beyond" .int beyond) ∧
      ∃ i, doc.read .int "fraction" = .ok i ∧ i.toInt = -3 := by
  intro greatest fraction beyond doc
  have hgreatest : (Json.Number.float greatest).wholePart = 9223372036854774784 := by
    decide +kernel
  have hfraction : (Json.Number.float fraction).wholePart = -3 := by
    decide +kernel
  have hfoundGreatest : doc.get? "greatest" = some (.number (.float greatest)) := rfl
  have hfoundBeyond : doc.get? "beyond" = some beyond := rfl
  have hfoundFraction : doc.get? "fraction" = some (.number (.float fraction)) := rfl
  obtain ⟨hreadGreatest, -⟩ := read_number hfoundGreatest
  obtain ⟨-, -, hreadBeyond, -⟩ := read_number hfoundBeyond
  obtain ⟨hreadFraction, -⟩ := read_number hfoundFraction
  rw [hgreatest] at hreadGreatest
  rw [hfraction] at hreadFraction
  exact ⟨hreadGreatest (by decide), hreadBeyond _ _ rfl (by decide), hreadFraction (by decide)⟩

end Document

end Stockroom
