import Stockroom.Proofs.IntegerRanges
import Stockroom.Proofs.NumberGrammar

/-!
# Texts of integers

A field of integers reads a text as the word that it writes, or else as the whole part of the
double that it writes. So an integer beyond the range of words is rounded before it is refused. Main
statement: the words are read exactly and the other integers are refused, except for those just
below the range that are rounded to its least word.
-/

namespace Stockroom

namespace Double

open Text.IntegerRange (signed signed_false signed_true)

/-- A common factor does not change a rounded quotient. -/
theorem roundDiv_mul_right {c : Nat} (hc : 0 < c) (num den : Nat) :
    roundDiv (num * c) (den * c) = roundDiv num den := by
  have hless : 2 * (num % den * c) < den * c ↔ 2 * (num % den) < den := by
    rw [← Nat.mul_assoc, Nat.mul_lt_mul_right hc]
  have hmore : den * c < 2 * (num % den * c) ↔ den < 2 * (num % den) := by
    rw [← Nat.mul_assoc, Nat.mul_lt_mul_right hc]
  unfold roundDiv
  dsimp only
  rw [Nat.mul_div_mul_right _ _ hc, Nat.mul_mod_mul_right]
  simp only [hless, hmore]

/-- An integer of more than 53 bits is rounded to a multiple of the power of two that leaves 53. -/
theorem roundUnits_mul_one {n j : Nat} (hlow : Nat.pow 2 (j + 52) ≤ n)
    (hhigh : n < Nat.pow 2 (j + 53)) :
    roundUnits (n * one) 1 = roundDiv n (Nat.pow 2 j) * Nat.pow 2 j * one := by
  obtain ⟨k, -, hone⟩ := exists_one_eq_pow
  have hpos : 0 < n := Nat.lt_of_lt_of_le (pow_pos _) hlow
  have hlog : (n * Nat.pow 2 k).log2 = j + 52 + k := by
    refine (Nat.log2_eq_iff (Nat.ne_of_gt (Nat.mul_pos hpos (pow_pos k)))).mpr ⟨?_, ?_⟩
    · rw [Nat.pow_add]
      exact Nat.mul_le_mul_right _ hlow
    · rw [show j + 52 + k + 1 = j + 53 + k by omega, Nat.pow_add]
      exact Nat.mul_lt_mul_of_pos_right hhigh (pow_pos k)
  have hspacing : spacing (n * Nat.pow 2 k) = Nat.pow 2 j * Nat.pow 2 k := by
    rw [spacing, hlog, show j + 52 + k - 52 = j + k by omega, pow_add]
  rw [hone, roundUnits_one, hspacing, roundDiv_mul_right (pow_pos k), Nat.mul_assoc]

/-- The integer that an integer is rounded to. -/
def rounded (n : Nat) : Nat := roundUnits (n * one) 1 / one

/-- Between `2 ^ 63` and `2 ^ 64` integers are rounded to multiples of 2048. -/
theorem rounded_of_word {n : Nat} (hlow : 9223372036854775808 ≤ n)
    (hhigh : n < 18446744073709551616) : rounded n = roundDiv n 2048 * 2048 := by
  have hlow' : Nat.pow 2 (11 + 52) ≤ n := hlow
  have hhigh' : n < Nat.pow 2 (11 + 53) := hhigh
  have hstep : Nat.pow 2 11 = 2048 := rfl
  rw [rounded, roundUnits_mul_one hlow' hhigh', hstep, Nat.mul_div_cancel _ one_pos]

/-- Rounding keeps the order of integers. -/
theorem rounded_mono {m n : Nat} (h : m ≤ n) : rounded m ≤ rounded n :=
  Nat.div_le_div_right (roundUnits_mono (Nat.mul_le_mul_right one h))

/-- The integers up to half a step above `2 ^ 63` are rounded to it. -/
theorem rounded_of_le_half {n : Nat} (hlow : 9223372036854775808 ≤ n)
    (hhigh : n ≤ 9223372036854776832) : rounded n = 9223372036854775808 := by
  have hdiv : roundDiv n 2048 = 4503599627370496 := by
    unfold roundDiv
    dsimp only
    split_ifs <;> omega
  rw [rounded_of_word hlow (by omega), hdiv]

/-- The integers beyond half a step above `2 ^ 63` are rounded to more. -/
theorem lt_rounded_of_half_lt {n : Nat} (h : 9223372036854776832 < n) :
    9223372036854775808 < rounded n := by
  have hdiv : roundDiv 9223372036854776833 2048 = 4503599627370497 := by decide
  have hfirst := rounded_mono h
  rw [rounded_of_word (by decide) (by decide), hdiv] at hfirst
  omega

/-- The whole part of a value is that of its magnitude behind its sign. -/
theorem Finite.trunc_eq_signed (x : Finite) : x.trunc = signed x.negative (x.units / one) := by
  rw [trunc, signedUnits, signed]
  generalize one = unit
  cases x.negative <;> simp [Int.neg_tdiv]

/-- The double of an integer has no whole part if the integer is rounded to no word. -/
theorem toInt64?_ofRatio_eq_none {negative : Bool} {n : Nat}
    (h : ¬ FitsInt64 (signed negative (rounded n))) :
    (ofRatio negative (n * one) 1).toInt64? = none := by
  unfold ofRatio
  dsimp only
  split_ifs with hfinite
  · rw [toInt64?, finite?, Option.bind_some, Finite.trunc_eq_signed]
    exact if_neg h
  · rfl

/-- The whole part of the double of an integer is the word that the integer is rounded to. -/
theorem toInt64?_ofRatio_eq_some {negative : Bool} {n : Nat} (hn : n ≤ Nat.pow 2 64)
    (h : FitsInt64 (signed negative (rounded n))) :
    (ofRatio negative (n * one) 1).toInt64? = some (Int64.ofInt (signed negative (rounded n))) := by
  unfold ofRatio
  dsimp only
  rw [dif_pos (roundUnits_lt_overflow hn), toInt64?, finite?, Option.bind_some,
    Finite.trunc_eq_signed]
  exact if_pos h

/-- The double of a decimal without a fraction is that of its digits. -/
theorem ofDecimal_integer (negative : Bool) (n : Nat) :
    ofDecimal negative ⟨n, 0⟩ = ofRatio negative (n * one) 1 := by
  have hgreatest : greatestExponent = 400 := rfl
  unfold ofDecimal
  by_cases hzero : n = 0
  · rw [if_pos hzero, hzero, Nat.zero_mul]
  · have hlarge : ¬ greatestExponent < 0 := by omega
    have hsmall : ¬ (0 : Int) + (n.log2 + 1) < -greatestExponent := by omega
    rw [if_neg hzero, if_neg hlarge, if_neg hsmall]
    simp

/-- Whether an integer lies below the range of words, but no further than half a step. -/
def RoundsToLeast (n : Int) : Prop :=
  -9223372036854776832 ≤ n ∧ n < -9223372036854775808

instance (n : Int) : Decidable (RoundsToLeast n) :=
  inferInstanceAs (Decidable (_ ∧ _))

/-- Above the range of words no integer is rounded into it. -/
theorem toInt64?_ofRatio_above {n : Nat} (h : ¬ FitsInt64 n) :
    (ofRatio false (n * one) 1).toInt64? = none := by
  have hlow : 9223372036854775808 ≤ n := by
    unfold FitsInt64 at h
    omega
  have hmono := rounded_mono hlow
  rw [rounded_of_le_half (by omega) (by omega)] at hmono
  refine toInt64?_ofRatio_eq_none ?_
  rw [signed_false]
  unfold FitsInt64
  omega

/-- Below the range of words the integers up to half a step away are rounded to the least word, and
no other ones into the range. -/
theorem toInt64?_ofRatio_below {n : Nat} (h : ¬ FitsInt64 (-n)) :
    (ofRatio true (n * one) 1).toInt64? =
      if RoundsToLeast (-n) then some Int64.minValue else none := by
  have hlow : 9223372036854775808 < n := by
    unfold FitsInt64 at h
    omega
  -- Half a step away is a tie, and it goes to the even significand, that of the least word.
  by_cases hhalf : n ≤ 9223372036854776832
  · have hround : RoundsToLeast (-n) := by
      unfold RoundsToLeast
      omega
    have hwhole := rounded_of_le_half (Nat.le_of_lt hlow) hhalf
    have hfits : FitsInt64 (signed true (rounded n)) := by
      rw [hwhole]
      decide
    have hword : n ≤ Nat.pow 2 64 := Nat.le_trans hhalf (by decide)
    rw [if_pos hround, toInt64?_ofRatio_eq_some hword hfits, hwhole]
    rfl
  · have hround : ¬ RoundsToLeast (-n) := by
      unfold RoundsToLeast
      omega
    have hgreat := lt_rounded_of_half_lt (Nat.not_le.mp hhalf)
    rw [if_neg hround]
    refine toInt64?_ofRatio_eq_none ?_
    rw [signed_true]
    unfold FitsInt64
    omega

/-- The double of an integer is that of its magnitude behind its sign. -/
theorem ofInt_signed {negative : Bool} {n : Nat} (h : n ≠ 0) :
    ofInt (signed negative n) = ofRatio negative (n * one) 1 := by
  cases negative with
  | false => rw [ofInt, signed_false, Int.natAbs_natCast, decide_eq_false (by omega)]
  | true => rw [ofInt, signed_true, Int.natAbs_neg, Int.natAbs_natCast, decide_eq_true (by omega)]

/-- The double of an integer that is no word has no word as its whole part either, unless the
integer is rounded to the least word. -/
theorem toInt64?_ofInt_of_not_fits {n : Int} (h : ¬ FitsInt64 n) : (ofInt n).toInt64? =
    if RoundsToLeast n then some Int64.minValue else none := by
  have hzero : n ≠ 0 := by
    rintro rfl
    exact h (by decide)
  obtain ⟨m, rfl | rfl⟩ := n.eq_nat_or_neg
  · have hround : ¬ RoundsToLeast m := by
      unfold RoundsToLeast
      omega
    rw [← signed_false m, ofInt_signed (by omega), signed_false, if_neg hround,
      toInt64?_ofRatio_above h]
  · rw [← signed_true m, ofInt_signed (by omega), signed_true, toInt64?_ofRatio_below h]

end Double

namespace Text

open IntegerRange (signed signed_false signed_true)

variable {s : String} {n : Int}

/-- A text that writes a word is read as the word. -/
theorem readInt64_eq_ok (h : WritesInteger s.toList n) (hfits : Double.FitsInt64 n) :
    readInt64 s = .ok (Int64.ofInt n) := by
  have hholds : IntegerRange.int64.Holds n := ⟨hfits.1, Int.lt_add_one_iff.mp hfits.2⟩
  have hread : IntegerRange.int64.read s.toList = .ok n :=
    (IntegerRange.read_eq_ok_iff (by decide) (by decide)).mpr ⟨h, hholds⟩
  rw [readInt64, hread]
  rfl

/-- A text that writes another integer is not read as a word. -/
theorem exists_readInt64_eq_error (h : WritesInteger s.toList n) (hfits : ¬ Double.FitsInt64 n) :
    ∃ e, readInt64 s = .error e := by
  cases hread : readInt64 s with
  | error e => exact ⟨e, rfl⟩
  | ok i =>
    obtain ⟨m, hm, hword⟩ := exists_readInt64_iff.mp ⟨i, hread⟩
    exact absurd (hm.unique h ▸ hword) hfits

/-- A text that writes an integer is read as the double nearest to it. -/
theorem readDouble_of_writesInteger (h : WritesInteger s.toList n) (hzero : n ≠ 0) :
    readDouble s = .ok (.ofInt n) := by
  obtain ⟨negative, digits, hsign, hdigits, rfl⟩ := h
  have hwrites := WritesDecimal.whole hdigits .none
  rw [List.append_nil] at hwrites
  have hdigitsZero : Nat.ofDigitChars 10 digits 0 ≠ 0 := by
    intro hnone
    rw [hnone] at hzero
    cases negative <;> exact hzero rfl
  rw [readDouble_of_sign hsign hwrites, Double.ofDecimal_integer, Double.ofInt_signed hdigitsZero]

/-- What is read as a word is the integer of a text. -/
theorem readInt?_eq_of_word {i : Int64} (h : readInt64 (trim s) = .ok i) : readInt? s = some i := by
  simp only [readInt?, h]

/-- What is read as a double, but as no word, leaves its whole part as the integer of a text. -/
theorem readInt?_eq_of_double {e : IntegerError} {x : Double} (h : readInt64 (trim s) = .error e)
    (hdouble : readDouble (trim s) = .ok x) : readInt? s = x.toInt64? := by
  simp only [readInt?, h, hdouble, Except.toOption, Option.bind_some]

/-- What an integer text is read as: a word as itself, and of the other integers only those that are
rounded to the least word as that word. -/
theorem readInt?_of_writesInteger (h : WritesInteger (trim s).toList n) : readInt? s =
    if Double.FitsInt64 n then some (Int64.ofInt n)
    else if Double.RoundsToLeast n then some Int64.minValue else none := by
  by_cases hfits : Double.FitsInt64 n
  · rw [readInt?_eq_of_word (readInt64_eq_ok h hfits), if_pos hfits]
  · obtain ⟨e, herror⟩ := exists_readInt64_eq_error h hfits
    have hzero : n ≠ 0 := by
      rintro rfl
      exact hfits (by decide)
    rw [readInt?_eq_of_double herror (readDouble_of_writesInteger h hzero), if_neg hfits]
    exact Double.toInt64?_ofInt_of_not_fits hfits

end Text

namespace Document

/-- A field of integers that holds the text of an integer is read as the integer if it is a word.
The other integers are refused, except for those that are rounded to the least word, which are read
as that word. -/
theorem read_integerText {doc : Document} {name s : String} {n : Int}
    (hfound : doc.get? name = some (.string s))
    (hwrites : Text.WritesInteger (Text.trim s).toList n) :
    (Double.FitsInt64 n → ∃ i, doc.read .int name = .ok i ∧ i.toInt = n) ∧
    (¬ Double.FitsInt64 n → ¬ Double.RoundsToLeast n →
      doc.read .int name = .error (.coercion name .int (.string s))) ∧
    (Double.RoundsToLeast n → doc.read .int name = .ok Int64.minValue) := by
  have hread : doc.read .int name =
      ((Text.readInt? s).map Except.ok).getD (.error (.coercion name .int (.string s))) := by
    rw [read, present?, hfound]
    rfl
  rw [hread, Text.readInt?_of_writesInteger hwrites]
  refine ⟨fun hfits => ?_, fun hfits hround => ?_, fun hround => ?_⟩
  · rw [if_pos hfits]
    exact ⟨_, rfl, Int64.toInt_ofInt_of_le hfits.1 hfits.2⟩
  · rw [if_neg hfits, if_neg hround]
    rfl
  · have hfits : ¬ Double.FitsInt64 n := fun hfits => Int.not_lt.mpr hfits.1 hround.2
    rw [if_neg hfits, if_pos hround]
    rfl

/-- The least word behind blanks, an integer of more than 64 bits, and one that is rounded to the
least word. -/
theorem read_integerText_ends :
    let doc : Document := ⟨[("least", .string " -9223372036854775808"),
      ("long", .string "+0100000000000000000000"), ("below", .string "-9223372036854776832")]⟩
    (∃ i, doc.read .int "least" = .ok i ∧ i.toInt = -9223372036854775808) ∧
      doc.read .int "long" =
        .error (.coercion "long" .int (.string "+0100000000000000000000")) ∧
      doc.read .int "below" = .ok Int64.minValue := by
  intro doc
  have hleast : Text.WritesInteger (Text.trim " -9223372036854775808").toList
      (-9223372036854775808) := by decide +kernel
  have hlong : Text.WritesInteger (Text.trim "+0100000000000000000000").toList
      100000000000000000000 := by decide +kernel
  have hbelow : Text.WritesInteger (Text.trim "-9223372036854776832").toList
      (-9223372036854776832) := by decide +kernel
  have hfound : doc.get? "least" = some (.string " -9223372036854775808") ∧
      doc.get? "long" = some (.string "+0100000000000000000000") ∧
      doc.get? "below" = some (.string "-9223372036854776832") := ⟨rfl, rfl, rfl⟩
  exact ⟨(read_integerText hfound.1 hleast).1 (by decide),
    (read_integerText hfound.2.1 hlong).2.1 (by decide) (by decide),
    (read_integerText hfound.2.2 hbelow).2.2 (by decide)⟩

/-- The integer just below the range of words is read as the least word. -/
theorem read_integerText_below_range :
    Text.WritesInteger (Text.trim "-9223372036854775809").toList (-9223372036854775809) ∧
      ¬ Double.FitsInt64 (-9223372036854775809) ∧
      (⟨[("v", .string "-9223372036854775809")]⟩ : Document).read .int "v" =
        .ok (-9223372036854775808) := by
  decide +kernel

end Document

end Stockroom
