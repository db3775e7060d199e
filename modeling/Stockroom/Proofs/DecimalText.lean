import Stockroom.Proofs.IdentifierText
import Stockroom.Text.Numeral

/-!
# Integers and their texts

The decimal text of a signed word is read as that word. Reading moves away from zero with each
digit, so every value on the way lies between zero and the word and stays in the range.
-/

namespace Stockroom.Text

namespace IntegerRange

/-- A number of units in the direction in which digits are read. -/
def signed (negative : Bool) (units : Nat) : Int :=
  if negative then -units else units

@[simp] theorem signed_false (units : Nat) : signed false units = units := rfl

@[simp] theorem signed_true (units : Nat) : signed true units = -units := rfl

/-- Digits only add to what was read before them. -/
theorem le_ofDigitChars (cs : List Char) (units : Nat) : units ≤ Nat.ofDigitChars 10 cs units := by
  rw [Nat.ofDigitChars_eq_ofDigitChars_zero]
  have hscale : units ≤ 10 ^ cs.length * units := Nat.le_mul_of_pos_left _ (Nat.pow_pos (by decide))
  omega

/-- Digits are read as the number that they write, if the range reaches from zero to it. -/
theorem readDigits_eq_ok {range : IntegerRange} (negative : Bool) {cs : List Char} {units : Nat}
    (hdigits : ∀ c ∈ cs, c.isDigit = true) (hleast : range.least ≤ 0)
    (hgreatest : 0 ≤ range.greatest)
    (h : range.least ≤ signed negative (Nat.ofDigitChars 10 cs units) ∧
      signed negative (Nat.ofDigitChars 10 cs units) ≤ range.greatest) :
    range.readDigits negative (signed negative units) cs =
      .ok (signed negative (Nat.ofDigitChars 10 cs units)) := by
  induction cs generalizing units with
  | nil => simp [readDigits]
  | cons c rest ih =>
    have hdigit : digit? c = some (c.toNat - '0'.toNat) := if_pos (hdigits c List.mem_cons_self)
    rw [Nat.ofDigitChars_cons] at h ⊢
    have hle := le_ofDigitChars rest (10 * units + (c.toNat - '0'.toNat))
    generalize c.toNat - '0'.toNat = digit at hdigit h hle ⊢
    have hrest := ih (fun d hd => hdigits d (List.mem_cons_of_mem _ hd)) h
    have hnext : (if negative then signed negative units * 10 - digit
        else signed negative units * 10 + digit) = signed negative (10 * units + digit) := by
      cases negative <;> simp <;> omega
    -- The later digits only lead further away from zero, so this value is in the range already.
    have hbetween : range.least ≤ signed negative (10 * units + digit) ∧
        signed negative (10 * units + digit) ≤ range.greatest := by
      cases negative <;> simp at h ⊢ <;> omega
    rw [readDigits, hdigit]
    simp only [hnext, if_neg (Int.not_lt.mpr hbetween.1), if_neg (Int.not_lt.mpr hbetween.2), hrest]

end IntegerRange

/-- The decimal text of an integer: digits, behind a minus sign if the integer is negative. -/
theorem toList_toString (i : Int) : (toString i).toList =
    if 0 ≤ i then Nat.toDigits 10 i.toNat else '-' :: Nat.toDigits 10 (-i).toNat := by
  rw [Int.toString_eq_repr, Int.repr_eq_if]
  split <;> simp [Nat.toList_repr]

/-- Everything in a row of digits is a digit. -/
theorem isDigit_of_mem_toDigits {n : Nat} {c : Char} (h : c ∈ Nat.toDigits 10 n) :
    c.isDigit = true :=
  Nat.isDigit_of_mem_toDigits (by decide) (by decide) h

/-- No digit is a blank. -/
theorem contains_blank_of_isDigit {c : Char} (h : c.isDigit = true) : blank.contains c = false := by
  simp only [Char.isDigit, Bool.and_eq_true, decide_eq_true_eq, UInt32.le_iff_toNat_le] at h
  have hbounds : 48 ≤ c.toNat ∧ c.toNat ≤ 57 := h
  simp [CharClass.contains, blank, CharClass.search]
  omega

namespace IntegerRange

/-- The digits of a number are read as the number, if the range reaches from zero to it. -/
theorem readNumeral_toDigits {range : IntegerRange} (negative : Bool) {units : Nat}
    (hleast : range.least ≤ 0) (hgreatest : 0 ≤ range.greatest)
    (h : range.least ≤ signed negative units ∧ signed negative units ≤ range.greatest) :
    range.readNumeral negative (Nat.toDigits 10 units) = .ok (signed negative units) := by
  have hvalue : Nat.ofDigitChars 10 (Nat.toDigits 10 units) 0 = units :=
    Nat.ofDigitChars_ten_toDigits
  have hzero : signed negative 0 = 0 := by cases negative <;> rfl
  have hread := readDigits_eq_ok negative (fun c hc => isDigit_of_mem_toDigits hc) hleast
    hgreatest (hvalue.symm ▸ h)
  rw [hvalue, hzero] at hread
  cases hcs : Nat.toDigits 10 units with
  | nil => exact absurd hcs Nat.toDigits_ne_nil
  | cons c rest =>
    rwa [readNumeral, ← hcs]
    rintro ⟨⟩

/-- The decimal text of an integer in the range is read as the integer. -/
theorem read_toString (range : IntegerRange) (hleast : range.least < 0)
    (hgreatest : 0 ≤ range.greatest) {i : Int} (h : range.least ≤ i ∧ i ≤ range.greatest) :
    range.read (toString i).toList = .ok i := by
  rw [toList_toString]
  by_cases hpos : 0 ≤ i
  · have hvalue : signed false i.toNat = i := Int.toNat_of_nonneg hpos
    have hnumeral := readNumeral_toDigits false (Int.le_of_lt hleast) hgreatest
      (hvalue.symm ▸ h)
    rw [if_pos hpos]
    cases hcs : Nat.toDigits 10 i.toNat with
    | nil => exact absurd hcs Nat.toDigits_ne_nil
    | cons c rest =>
      have hdigit : c.isDigit = true := isDigit_of_mem_toDigits (hcs ▸ List.mem_cons_self)
      rw [hcs, hvalue] at hnumeral
      unfold read
      split
      case h_1 heq => cases heq
      case h_2 heq =>
        obtain ⟨rfl, -⟩ := List.cons.inj heq
        cases hdigit
      case h_3 heq =>
        obtain ⟨rfl, rfl⟩ := List.cons.inj heq
        rw [if_neg, hnumeral]
        rintro ⟨rfl, -⟩
        cases hdigit
  · have hvalue : signed true (-i).toNat = i := by
      rw [signed_true]
      omega
    have hnumeral := readNumeral_toDigits true (Int.le_of_lt hleast) hgreatest
      (hvalue.symm ▸ h)
    rw [if_neg hpos, read, if_pos ⟨rfl, hleast⟩, hnumeral, hvalue]
    rintro ⟨⟩

end IntegerRange

/-- The decimal text of a signed word is read as the word. -/
theorem readInt64_trim_toString (i : Int64) : readInt64 (trim (toString i.toInt)) = .ok i := by
  have hplain : ∀ c ∈ (toString i.toInt).toList, blank.contains c = false := by
    intro c hc
    rw [toList_toString] at hc
    split at hc
    · exact contains_blank_of_isDigit (isDigit_of_mem_toDigits hc)
    · rcases List.mem_cons.mp hc with rfl | hc
      · decide
      · exact contains_blank_of_isDigit (isDigit_of_mem_toDigits hc)
  have hrange : IntegerRange.int64.least ≤ i.toInt ∧ i.toInt ≤ IntegerRange.int64.greatest :=
    ⟨Int64.le_toInt i, Int.le_of_lt_add_one (Int64.toInt_lt i)⟩
  have hread := IntegerRange.int64.read_toString (by decide) (by decide) hrange
  rw [trim, trimChars_eq_self hplain, readInt64, String.toList_ofList, hread]
  exact congrArg Except.ok (Int64.ofInt_toInt i)

/-- The decimal text of a signed word is not empty. -/
theorem toString_ne_empty (i : Int64) : toString i.toInt ≠ "" := by
  intro h
  have hread := readInt64_trim_toString i
  rw [h] at hread
  cases hread

end Stockroom.Text
