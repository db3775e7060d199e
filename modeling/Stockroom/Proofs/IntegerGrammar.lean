import Mathlib.Tactic.SplitIfs
import Stockroom.Proofs.DecimalText
import Stockroom.Double.Basic

/-!
# Which texts are integers

An integer is written by a sign and a row of digits. This file says so as a relation between texts
and integers and proves that the reader of a range accepts exactly the texts of its integers.
-/

namespace Stockroom.Text

/-- A text that is another one behind a sign: none or a plus sign, or a minus sign. -/
inductive Sign : (negative : Bool) → (unsigned cs : List Char) → Prop
  | none (cs : List Char) : Sign false cs cs
  | plus (cs : List Char) : Sign false cs ('+' :: cs)
  | minus (cs : List Char) : Sign true cs ('-' :: cs)

/-- A row of at least one digit. -/
def IsDigits (cs : List Char) : Prop :=
  cs ≠ [] ∧ ∀ c ∈ cs, c.isDigit = true

instance (cs : List Char) : Decidable (IsDigits cs) :=
  inferInstanceAs (Decidable (_ ∧ _))

/-- Whether a text writes an integer: a sign and a row of digits. -/
def WritesInteger (cs : List Char) (n : Int) : Prop :=
  ∃ negative digits, Sign negative digits cs ∧ IsDigits digits ∧
    n = IntegerRange.signed negative (Nat.ofDigitChars 10 digits 0)

/-! ### Signs -/

/-- Splits the sign off a text. -/
def splitSign : List Char → Bool × List Char
  | '-' :: rest => (true, rest)
  | '+' :: rest => (false, rest)
  | cs => (false, cs)

/-- Where there is no sign none is split off. -/
theorem splitSign_cons_of_ne {c : Char} (hplus : c ≠ '+') (hminus : c ≠ '-') (rest : List Char) :
    splitSign (c :: rest) = (false, c :: rest) := by
  unfold splitSign
  split
  case h_1 heq => exact absurd (List.cons.inj heq).1 hminus
  case h_2 heq => exact absurd (List.cons.inj heq).1 hplus
  case h_3 => rfl

/-- Whether a text does not begin with a sign. -/
def Unsigned (cs : List Char) : Prop :=
  cs.head? ≠ some '+' ∧ cs.head? ≠ some '-'

/-- A text is what is split off behind its sign. -/
theorem sign_splitSign (cs : List Char) : Sign (splitSign cs).1 (splitSign cs).2 cs := by
  unfold splitSign
  split
  · exact .minus _
  · exact .plus _
  · exact .none _

/-- What does not begin with a sign is split off behind a sign. -/
theorem splitSign_of_sign {negative : Bool} {unsigned cs : List Char}
    (hsign : Sign negative unsigned cs) (hunsigned : Unsigned unsigned) :
    splitSign cs = (negative, unsigned) := by
  cases hsign with
  | plus => rfl
  | minus => rfl
  | none =>
    cases unsigned with
    | nil => rfl
    | cons c rest =>
      exact splitSign_cons_of_ne (fun h => hunsigned.1 (congrArg some h))
        (fun h => hunsigned.2 (congrArg some h)) rest

/-- Of the ways to see a text behind a sign only splitting the sign off can leave a numeral. -/
theorem exists_sign_iff {cs : List Char} {Reads : Bool → List Char → Prop}
    (hunsigned : ∀ negative unsigned, Reads negative unsigned → Unsigned unsigned) :
    (∃ negative unsigned, Sign negative unsigned cs ∧ Reads negative unsigned) ↔
      Reads (splitSign cs).1 (splitSign cs).2 := by
  constructor
  · rintro ⟨negative, unsigned, hsign, hreads⟩
    rw [splitSign_of_sign hsign (hunsigned _ _ hreads)]
    exact hreads
  · intro hreads
    exact ⟨_, _, sign_splitSign cs, hreads⟩

/-- Digits do not begin with a sign. -/
theorem IsDigits.unsigned {cs : List Char} (h : IsDigits cs) : Unsigned cs := by
  obtain ⟨hne, hall⟩ := h
  obtain ⟨c, rest, rfl⟩ := List.exists_cons_of_ne_nil hne
  have hdigit := hall c List.mem_cons_self
  constructor <;> rintro ⟨⟩ <;> cases hdigit

/-- A text writes the number of the digits behind its sign. -/
theorem writesInteger_iff {cs : List Char} {n : Int} : WritesInteger cs n ↔
    IsDigits (splitSign cs).2 ∧
      n = IntegerRange.signed (splitSign cs).1 (Nat.ofDigitChars 10 (splitSign cs).2 0) :=
  exists_sign_iff fun _ _ h => h.1.unsigned

/-- Which integer a text writes is found by looking at the characters behind its sign. -/
theorem writesInteger_iff_all {cs : List Char} {n : Int} : WritesInteger cs n ↔
    (splitSign cs).2 ≠ [] ∧ (splitSign cs).2.all Char.isDigit = true ∧
      n = IntegerRange.signed (splitSign cs).1 (Nat.ofDigitChars 10 (splitSign cs).2 0) := by
  rw [writesInteger_iff, IsDigits, List.all_eq_true, and_assoc]

instance (cs : List Char) (n : Int) : Decidable (WritesInteger cs n) :=
  decidable_of_iff _ writesInteger_iff_all.symm

/-- A text writes one integer at most. -/
theorem WritesInteger.unique {cs : List Char} {m n : Int} (hm : WritesInteger cs m)
    (hn : WritesInteger cs n) : m = n := by
  rw [writesInteger_iff] at hm hn
  rw [hm.2, hn.2]

/-! ### Integers -/

namespace IntegerRange

variable {range : IntegerRange}

/-- Whether an integer is in the range. -/
def Holds (range : IntegerRange) (n : Int) : Prop :=
  range.least ≤ n ∧ n ≤ range.greatest

/-- A digit that is read moves the value away from zero without leaving the range. -/
theorem readDigits_cons_eq_ok {negative : Bool} {value n : Int} {c : Char} {rest : List Char}
    (h : range.readDigits negative value (c :: rest) = .ok n) :
    c.isDigit = true ∧ ∃ next,
      next = (if negative then value * 10 - (c.toNat - '0'.toNat : Nat)
        else value * 10 + (c.toNat - '0'.toNat : Nat)) ∧
      range.Holds next ∧ range.readDigits negative next rest = .ok n := by
  rw [readDigits] at h
  by_cases hdigit : c.isDigit = true
  · have hvalue : digit? c = some (c.toNat - '0'.toNat) := if_pos hdigit
    simp only [hvalue] at h
    generalize hnext : (if negative = true then value * 10 - (c.toNat - '0'.toNat : Nat)
      else value * 10 + (c.toNat - '0'.toNat : Nat)) = next at h
    split_ifs at h with hleast hgreatest
    exact ⟨hdigit, next, rfl, ⟨Int.not_lt.mp hleast, Int.not_lt.mp hgreatest⟩, h⟩
  · have hnone : digit? c = none := if_neg hdigit
    rw [hnone] at h
    cases h

/-- What is read as digits after a value consists of digits, and is their number. -/
theorem of_readDigits_eq_ok {negative : Bool} {cs : List Char} {units : Nat} {n : Int}
    (h : range.readDigits negative (signed negative units) cs = .ok n) :
    (∀ c ∈ cs, c.isDigit = true) ∧ n = signed negative (Nat.ofDigitChars 10 cs units) := by
  induction cs generalizing units with
  | nil => exact ⟨List.forall_mem_nil _, (Except.ok.inj h).symm⟩
  | cons c rest ih =>
    obtain ⟨hdigit, next, hnext, -, hread⟩ := readDigits_cons_eq_ok h
    -- The value read so far is a sign before a natural number, and stays one.
    have hsigned : next = signed negative (10 * units + (c.toNat - '0'.toNat)) := by
      rw [hnext]
      cases negative <;> simp <;> omega
    obtain ⟨hrest, hn⟩ := ih (hsigned ▸ hread)
    exact ⟨List.forall_mem_cons.mpr ⟨hdigit, hrest⟩, by rw [Nat.ofDigitChars_cons, hn]⟩

/-- What is read as digits after a value of the range is in the range. -/
theorem holds_of_readDigits {negative : Bool} {cs : List Char} {value n : Int}
    (hvalue : range.Holds value) (h : range.readDigits negative value cs = .ok n) :
    range.Holds n := by
  induction cs generalizing value with
  | nil => exact Except.ok.inj h ▸ hvalue
  | cons c rest ih =>
    obtain ⟨-, next, -, hholds, hread⟩ := readDigits_cons_eq_ok h
    exact ih hholds hread

/-- A numeral without a sign is read if it is a row of digits whose number is in the range. -/
theorem readNumeral_eq_ok_iff (hzero : range.Holds 0) {negative : Bool} {cs : List Char} {n : Int} :
    range.readNumeral negative cs = .ok n ↔
      IsDigits cs ∧ n = signed negative (Nat.ofDigitChars 10 cs 0) ∧ range.Holds n := by
  have hstart : signed negative 0 = 0 := by cases negative <;> rfl
  cases cs with
  | nil => simp [readNumeral, IsDigits]
  | cons c rest =>
    rw [readNumeral]
    case x_1 => rintro ⟨⟩
    constructor
    · intro h
      have hread : range.readDigits negative (signed negative 0) (c :: rest) = .ok n :=
        hstart.symm ▸ h
      have hdigits := of_readDigits_eq_ok hread
      exact ⟨⟨List.cons_ne_nil _ _, hdigits.1⟩, hdigits.2, holds_of_readDigits hzero h⟩
    · rintro ⟨hdigits, rfl, hholds⟩
      have hread := readDigits_eq_ok negative hdigits.2 hzero.1 hzero.2 hholds
      rwa [hstart] at hread

/-- In a range with negative numbers an integer is what is read behind its sign. -/
theorem read_eq_ok_iff_readNumeral (hleast : range.least < 0) {cs : List Char} {n : Int} :
    range.read cs = .ok n ↔ range.readNumeral (splitSign cs).1 (splitSign cs).2 = .ok n := by
  unfold read
  split
  -- The two errors for an empty text differ, but neither is an integer.
  case h_1 => simp [splitSign, readNumeral]
  case h_2 => rfl
  case h_3 c rest hplus =>
    by_cases hminus : c = '-'
    · subst hminus
      rw [if_pos ⟨rfl, hleast⟩]
      rfl
    · rw [if_neg fun hboth => hminus hboth.1, splitSign_cons_of_ne hplus hminus]

/-- A text is read as an integer if it writes the integer and the integer is in the range. -/
theorem read_eq_ok_iff (hleast : range.least < 0) (hgreatest : 0 ≤ range.greatest)
    {cs : List Char} {n : Int} :
    range.read cs = .ok n ↔ WritesInteger cs n ∧ range.Holds n := by
  rw [read_eq_ok_iff_readNumeral hleast, readNumeral_eq_ok_iff ⟨Int.le_of_lt hleast, hgreatest⟩,
    writesInteger_iff, and_assoc]

end IntegerRange

/-- Whether a text writes an integer that fits a signed word. -/
def WritesWord (cs : List Char) : Prop :=
  ∃ n, WritesInteger cs n ∧ Double.FitsInt64 n

/-- A signed word is read from the texts that write one. -/
theorem exists_readInt64_iff {s : String} : (∃ i, readInt64 s = .ok i) ↔ WritesWord s.toList := by
  have hread (n : Int) : IntegerRange.int64.read s.toList = .ok n ↔
      WritesInteger s.toList n ∧ IntegerRange.int64.Holds n :=
    IntegerRange.read_eq_ok_iff (by decide) (by decide)
  have hholds (n : Int) : IntegerRange.int64.Holds n ↔ Double.FitsInt64 n :=
    and_congr Iff.rfl Int.lt_add_one_iff.symm
  simp only [WritesWord, ← hholds, ← hread, readInt64]
  cases IntegerRange.int64.read s.toList with
  | error cause => simp [Except.map]
  | ok n => simp [Except.map]

end Stockroom.Text
