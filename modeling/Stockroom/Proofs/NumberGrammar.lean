import Mathlib.Data.List.TakeWhile
import Stockroom.Proofs.IntegerGrammar
import Stockroom.Proofs.Overflow

/-!
# Which texts are numbers

A number is written by a sign, digits around a point and an exponent. This file says so as a
relation between texts and decimals and proves that the reader accepts exactly these texts and the
words for numbers that are not finite. So a finite double is read from just the texts of numbers
below the point of overflow.
-/

namespace Stockroom.Text

/-- A text that stands behind the digits of a number: nothing, or a letter and an integer. -/
inductive WritesExponent : (cs : List Char) → (exponent : Int) → Prop
  | none : WritesExponent [] 0
  | marked {mark : Char} {cs : List Char} {exponent : Int} (hmark : mark = 'e' ∨ mark = 'E')
      (hexponent : WritesInteger cs exponent) : WritesExponent (mark :: cs) exponent

/-- A text that writes a decimal without a sign: digits, a point before, between or behind them or
none, and an exponent. -/
inductive WritesDecimal : (cs : List Char) → (d : Decimal) → Prop
  | whole {digits tail : List Char} {exponent : Int} (hdigits : IsDigits digits)
      (htail : WritesExponent tail exponent) :
      WritesDecimal (digits ++ tail) ⟨Nat.ofDigitChars 10 digits 0, exponent⟩
  | pointed {whole fraction tail : List Char} {exponent : Int}
      (hdigits : IsDigits (whole ++ fraction)) (htail : WritesExponent tail exponent) :
      WritesDecimal (whole ++ '.' :: (fraction ++ tail))
        ⟨Nat.ofDigitChars 10 (whole ++ fraction) 0, exponent - fraction.length⟩

/-! ### Numbers -/

/-- The number of a row of digits. -/
theorem digitsValue_eq_ofDigitChars (cs : List Char) :
    digitsValue cs = Nat.ofDigitChars 10 cs 0 := by
  have hfold (value : Nat) : cs.foldl (fun value c => value * 10 + (c.toNat - '0'.toNat)) value =
      Nat.ofDigitChars 10 cs value := by
    induction cs generalizing value with
    | nil => rfl
    | cons c rest ih => rw [List.foldl_cons, ih, Nat.ofDigitChars_cons, Nat.mul_comm]
  exact hfold 0

/-- Digits that may be missing are read if they are not. -/
theorem guard_digits {α : Type} (digits : List Char) (value : α) :
    (if digits = [] ∨ (!digits.all Char.isDigit) = true then none else some value) =
      if IsDigits digits then some value else none := by
  have hguard : IsDigits digits ↔ ¬ (digits = [] ∨ (!digits.all Char.isDigit) = true) := by
    simp [IsDigits]
  simp only [hguard, ite_not]

/-- An exponent is the number of the digits behind its sign. -/
theorem readExponent?_eq (cs : List Char) : readExponent? cs =
    if IsDigits (splitSign cs).2 then
      some (IntegerRange.signed (splitSign cs).1 (Nat.ofDigitChars 10 (splitSign cs).2 0))
    else none := by
  unfold readExponent?
  simp only [digitsValue_eq_ofDigitChars, guard_digits]
  split
  case h_1 => rfl
  case h_2 => rfl
  case h_3 c rest hminus =>
    by_cases hplus : c = '+'
    · subst hplus
      rfl
    · rw [if_neg hplus, splitSign_cons_of_ne hplus hminus]
      rfl

/-- An exponent is read if it writes an integer. -/
theorem readExponent?_eq_some_iff {cs : List Char} {exponent : Int} :
    readExponent? cs = some exponent ↔ WritesInteger cs exponent := by
  rw [readExponent?_eq, writesInteger_iff]
  split_ifs with hdigits
  · simp [hdigits, eq_comm]
  · simp [hdigits]

/-- The exponent in what stands behind the digits of a number. -/
def readTail? : List Char → Option Int
  | [] => some 0
  | mark :: rest => if mark = 'e' ∨ mark = 'E' then readExponent? rest else none

/-- What stands behind digits is read if it writes an exponent. -/
theorem readTail?_eq_some_iff {tail : List Char} {exponent : Int} :
    readTail? tail = some exponent ↔ WritesExponent tail exponent := by
  constructor
  · intro h
    cases tail with
    | nil => exact Option.some.inj h ▸ .none
    | cons mark rest =>
      rw [readTail?] at h
      split_ifs at h with hmark
      exact .marked hmark (readExponent?_eq_some_iff.mp h)
  · intro h
    cases h with
    | none => rfl
    | marked hmark hexponent =>
      rw [readTail?, if_pos hmark]
      exact readExponent?_eq_some_iff.mpr hexponent

/-- The decimal of the digits before a point, the digits behind it and the rest of a text. -/
def assemble? (whole fraction tail : List Char) : Option Decimal :=
  if whole ++ fraction = [] then none
  else (readTail? tail).map fun exponent =>
    ⟨Nat.ofDigitChars 10 (whole ++ fraction) 0, exponent - fraction.length⟩

/-- Digits without a point make a decimal with what stands behind them. -/
theorem readDecimal?_of_no_point {cs : List Char}
    (hpoint : (cs.dropWhile Char.isDigit).head? ≠ some '.') : readDecimal? cs =
      assemble? (cs.takeWhile Char.isDigit) [] (cs.dropWhile Char.isDigit) := by
  have hhead : ((cs.dropWhile Char.isDigit).head? == some '.') = false := by simpa using hpoint
  unfold readDecimal? assemble?
  simp only [hhead, digitsValue_eq_ofDigitChars, Bool.false_eq_true, if_false]
  generalize cs.dropWhile Char.isDigit = tail
  cases tail with
  | nil => simp [readTail?]
  | cons mark rest => by_cases hmark : mark = 'e' ∨ mark = 'E' <;> simp [readTail?, hmark]

/-- Digits around a point make a decimal with what stands behind them. -/
theorem readDecimal?_of_point {cs rest : List Char}
    (hpoint : cs.dropWhile Char.isDigit = '.' :: rest) : readDecimal? cs =
      assemble? (cs.takeWhile Char.isDigit) (rest.takeWhile Char.isDigit)
        (rest.dropWhile Char.isDigit) := by
  unfold readDecimal? assemble?
  simp only [hpoint, digitsValue_eq_ofDigitChars, List.head?_cons, BEq.rfl, if_true,
    List.drop_succ_cons, List.drop_zero]
  generalize rest.dropWhile Char.isDigit = tail
  cases tail with
  | nil => simp [readTail?]
  | cons mark rest => by_cases hmark : mark = 'e' ∨ mark = 'E' <;> simp [readTail?, hmark]

/-- A decimal is assembled if there are digits and an exponent behind them. -/
theorem assemble?_eq_some_iff {whole fraction tail : List Char} {d : Decimal}
    (hwhole : ∀ c ∈ whole, c.isDigit = true) (hfraction : ∀ c ∈ fraction, c.isDigit = true) :
    assemble? whole fraction tail = some d ↔ IsDigits (whole ++ fraction) ∧
      ∃ exponent, WritesExponent tail exponent ∧
        ⟨Nat.ofDigitChars 10 (whole ++ fraction) 0, exponent - fraction.length⟩ = d := by
  have hall : ∀ c ∈ whole ++ fraction, c.isDigit = true :=
    List.forall_mem_append.mpr ⟨hwhole, hfraction⟩
  unfold assemble?
  split_ifs with hnone
  · simp [IsDigits, hnone]
  · simp only [Option.map_eq_some_iff, readTail?_eq_some_iff]
    exact ⟨fun h => ⟨⟨hnone, hall⟩, h⟩, And.right⟩

/-- What stands behind a row of digits is left when the digits are taken off. -/
theorem splitDigits_append {digits tail : List Char} (hdigits : ∀ c ∈ digits, c.isDigit = true)
    (htail : ∀ c ∈ tail.head?, c.isDigit = false) :
    (digits ++ tail).takeWhile Char.isDigit = digits ∧
      (digits ++ tail).dropWhile Char.isDigit = tail := by
  rw [List.takeWhile_append_of_pos hdigits, List.dropWhile_append_of_pos hdigits]
  cases tail with
  | nil => exact ⟨List.append_nil _, rfl⟩
  | cons c rest =>
    have hc : ¬ c.isDigit = true := by simp [htail c rfl]
    rw [List.takeWhile_cons_of_neg hc, List.dropWhile_cons_of_neg hc]
    exact ⟨List.append_nil _, rfl⟩

/-- An exponent begins neither with a digit nor with a point. -/
theorem WritesExponent.head {tail : List Char} {exponent : Int} (h : WritesExponent tail exponent) :
    ∀ c ∈ tail.head?, c.isDigit = false ∧ c ≠ '.' := by
  cases h with
  | none => rintro c ⟨⟩
  | marked hmark =>
    rintro c ⟨rfl⟩
    rcases hmark with rfl | rfl <;> decide

/-- What is read as a decimal writes it. -/
theorem writesDecimal_of_readDecimal? {cs : List Char} {d : Decimal}
    (h : readDecimal? cs = some d) : WritesDecimal cs d := by
  have hdigits (cs : List Char) : ∀ c ∈ cs.takeWhile Char.isDigit, c.isDigit = true :=
    fun c hc => List.mem_takeWhile_imp hc
  have hsplit (cs : List Char) :
      cs = cs.takeWhile Char.isDigit ++ cs.dropWhile Char.isDigit :=
    List.takeWhile_append_dropWhile.symm
  -- The character behind the first digits tells the two forms apart.
  by_cases hpoint : (cs.dropWhile Char.isDigit).head? = some '.'
  · obtain ⟨rest, hrest⟩ := List.head?_eq_some_iff.mp hpoint
    rw [readDecimal?_of_point hrest, assemble?_eq_some_iff (hdigits cs) (hdigits rest)] at h
    obtain ⟨hall, exponent, htail, rfl⟩ := h
    have hwrites := WritesDecimal.pointed hall htail
    rwa [← hsplit rest, ← hrest, ← hsplit cs] at hwrites
  · rw [readDecimal?_of_no_point hpoint,
      assemble?_eq_some_iff (hdigits cs) (List.forall_mem_nil _)] at h
    obtain ⟨hall, exponent, htail, rfl⟩ := h
    rw [List.append_nil] at hall
    have hwrites := WritesDecimal.whole hall htail
    rw [← hsplit cs] at hwrites
    simpa using hwrites

/-- What writes a decimal is read as the decimal. -/
theorem WritesDecimal.readDecimal? {cs : List Char} {d : Decimal} (h : WritesDecimal cs d) :
    Text.readDecimal? cs = some d := by
  cases h with
  | @whole digits tail exponent hdigits htail =>
    obtain ⟨htake, hdrop⟩ := splitDigits_append hdigits.2 fun c hc => (htail.head c hc).1
    have hpoint : ((digits ++ tail).dropWhile Char.isDigit).head? ≠ some '.' := by
      rw [hdrop]
      exact fun hc => (htail.head _ hc).2 rfl
    rw [readDecimal?_of_no_point hpoint, htake, hdrop,
      assemble?_eq_some_iff hdigits.2 (List.forall_mem_nil _), List.append_nil]
    refine ⟨hdigits, exponent, htail, ?_⟩
    simp
  | @pointed whole fraction tail exponent hdigits htail =>
    obtain ⟨hwhole, hfraction⟩ := List.forall_mem_append.mp hdigits.2
    have hpoint : ∀ c ∈ ('.' :: (fraction ++ tail)).head?, c.isDigit = false := by
      rintro c ⟨rfl⟩
      rfl
    obtain ⟨htake, hdrop⟩ := splitDigits_append hwhole hpoint
    obtain ⟨htake', hdrop'⟩ := splitDigits_append hfraction fun c hc => (htail.head c hc).1
    rw [readDecimal?_of_point hdrop, htake, htake', hdrop', assemble?_eq_some_iff hwhole hfraction]
    exact ⟨hdigits, exponent, htail, rfl⟩

/-! ### Finite numbers -/

/-- Whether a text writes a number that has a finite double: a sign and a decimal below the point of
overflow. -/
def WritesFinite (cs : List Char) : Prop :=
  ∃ negative unsigned, Sign negative unsigned cs ∧
    ∃ d, WritesDecimal unsigned d ∧ d.value < Double.overflowPoint

/-- A decimal begins with a digit or a point. -/
theorem WritesDecimal.head {cs : List Char} {d : Decimal} (h : WritesDecimal cs d) :
    ∃ c ∈ cs.head?, c.isDigit = true ∨ c = '.' := by
  cases h with
  | @whole digits tail exponent hdigits htail =>
    obtain ⟨hne, hall⟩ := hdigits
    obtain ⟨c, rest, rfl⟩ := List.exists_cons_of_ne_nil hne
    exact ⟨c, rfl, Or.inl (hall c List.mem_cons_self)⟩
  | @pointed whole fraction tail exponent hdigits htail =>
    cases whole with
    | nil => exact ⟨'.', rfl, Or.inr rfl⟩
    | cons c rest => exact ⟨c, rfl, Or.inl (hdigits.2 c List.mem_cons_self)⟩

/-- A decimal does not begin with a sign. -/
theorem WritesDecimal.unsigned {cs : List Char} {d : Decimal} (h : WritesDecimal cs d) :
    Unsigned cs := by
  obtain ⟨c, hc, hhead⟩ := h.head
  constructor <;> intro hsign <;> obtain rfl := Option.some.inj (hc.symm.trans hsign) <;>
    revert hhead <;> decide

/-- A digit has no letter case. -/
theorem toLower_of_isDigit {c : Char} (h : c.isDigit = true) : c.toLower = c := by
  unfold Char.toLower
  rw [dif_neg]
  simp only [Char.isDigit, Bool.and_eq_true, decide_eq_true_eq, UInt32.le_iff_toNat_le,
    ge_iff_le] at h ⊢
  have hnine : '9'.val.toNat = 57 := rfl
  have hletter : 'A'.val.toNat = 65 := rfl
  omega

/-- A decimal is none of the words for numbers. -/
theorem WritesDecimal.map_toLower_ne {cs : List Char} {d : Decimal} (h : WritesDecimal cs d) :
    cs.map Char.toLower ≠ "nan".toList ∧ cs.map Char.toLower ≠ "inf".toList ∧
      cs.map Char.toLower ≠ "infinity".toList := by
  obtain ⟨c, hc, hhead⟩ := h.head
  have hlower : (cs.map Char.toLower).head? = some c := by
    rw [List.head?_map, hc]
    rcases hhead with hdigit | rfl
    · exact congrArg some (toLower_of_isDigit hdigit)
    · rfl
  -- The words begin with a letter.
  refine ⟨?_, ?_, ?_⟩ <;> intro hword <;> rw [hword] at hlower <;>
    obtain rfl := Option.some.inj hlower <;> revert hhead <;> decide

/-- A number is what is read behind its sign. -/
theorem readDouble_eq_ok_iff {s : String} {x : Double} : readDouble s = .ok x ↔
    readUnsigned? (splitSign s.toList).1 (splitSign s.toList).2 = some x := by
  have hresult (found : Option Double) :
      (found.map Except.ok).getD (.error NumberError.invalid) = .ok x ↔ found = some x := by
    cases found <;> simp
  unfold readDouble
  split
  case h_1 hnil =>
    have hnone : readUnsigned? false [] = none := rfl
    simp [hnil, splitSign, hnone]
  case h_2 rest hminus => rw [hminus, hresult, splitSign]
  case h_3 c rest hne hcons =>
    rw [hcons]
    by_cases hplus : c = '+'
    · subst hplus
      exact hresult _
    · simp only [if_neg hplus, hresult, splitSign_cons_of_ne hplus hne]

/-- A decimal is read as the double nearest to it, and as no word. -/
theorem WritesDecimal.readUnsigned? {cs : List Char} {d : Decimal} (h : WritesDecimal cs d)
    (negative : Bool) : Text.readUnsigned? negative cs = some (.ofDecimal negative d) := by
  obtain ⟨hnan, hinf, hinfinity⟩ := h.map_toLower_ne
  unfold Text.readUnsigned?
  dsimp only
  rw [if_neg hnan, if_neg (not_or.mpr ⟨hinf, hinfinity⟩), h.readDecimal?]
  rfl

/-- A finite double is read from the decimals that it is nearest to. -/
theorem readUnsigned?_eq_finite_iff {negative : Bool} {cs : List Char} {x : Double.Finite} :
    readUnsigned? negative cs = some (.finite x) ↔
      ∃ d, WritesDecimal cs d ∧ Double.ofDecimal negative d = .finite x := by
  constructor
  · intro hread
    unfold readUnsigned? at hread
    dsimp only at hread
    split_ifs at hread
    · cases Option.some.inj hread
    · cases Option.some.inj hread
    · obtain ⟨d, hd, hx⟩ := Option.map_eq_some_iff.mp hread
      exact ⟨d, writesDecimal_of_readDecimal? hd, hx⟩
  · rintro ⟨d, hwrites, hx⟩
    rw [hwrites.readUnsigned?, hx]

/-- Whether a text writes a number whose double is finite: a sign and a decimal. -/
def WritesDouble (cs : List Char) (x : Double.Finite) : Prop :=
  ∃ negative unsigned, Sign negative unsigned cs ∧
    ∃ d, WritesDecimal unsigned d ∧ Double.ofDecimal negative d = .finite x

/-- A finite double is read from the texts that write it. -/
theorem readDouble_eq_finite_iff {s : String} {x : Double.Finite} :
    readDouble s = .ok (.finite x) ↔ WritesDouble s.toList x := by
  have hsplit : WritesDouble s.toList x ↔ ∃ d, WritesDecimal (splitSign s.toList).2 d ∧
      Double.ofDecimal (splitSign s.toList).1 d = .finite x :=
    exists_sign_iff fun _ _ ⟨_, hwrites, _⟩ => hwrites.unsigned
  rw [readDouble_eq_ok_iff, readUnsigned?_eq_finite_iff, hsplit]

/-- A text writes a number below the point of overflow if it writes a finite double. -/
theorem writesFinite_iff_exists {cs : List Char} : WritesFinite cs ↔ ∃ x, WritesDouble cs x := by
  constructor
  · rintro ⟨negative, unsigned, hsign, d, hwrites, hvalue⟩
    have hfinite := (Double.isFinite_ofDecimal_iff negative d).mpr hvalue
    obtain ⟨x, hx⟩ := Double.isFinite_iff_exists.mp hfinite
    exact ⟨x, negative, unsigned, hsign, d, hwrites, hx⟩
  · rintro ⟨x, negative, unsigned, hsign, d, hwrites, hx⟩
    have hfinite := Double.isFinite_iff_exists.mpr ⟨x, hx⟩
    have hvalue := (Double.isFinite_ofDecimal_iff negative d).mp hfinite
    exact ⟨negative, unsigned, hsign, d, hwrites, hvalue⟩

/-- A finite double is read from the texts that write a number below the point of overflow. -/
theorem exists_finite_readDouble_iff {s : String} :
    (∃ x, readDouble s = .ok x ∧ x.isFinite = true) ↔ WritesFinite s.toList := by
  simp only [writesFinite_iff_exists, ← readDouble_eq_finite_iff, Double.isFinite_iff_exists]
  constructor
  · rintro ⟨_, hread, x, rfl⟩
    exact ⟨x, hread⟩
  · rintro ⟨x, hread⟩
    exact ⟨_, hread, x, rfl⟩

/-- A numeral behind a sign is read as the double nearest to its decimal. -/
theorem readDouble_of_sign {s : String} {negative : Bool} {unsigned : List Char} {d : Decimal}
    (hsign : Sign negative unsigned s.toList) (hwrites : WritesDecimal unsigned d) :
    readDouble s = .ok (.ofDecimal negative d) := by
  rw [readDouble_eq_ok_iff, splitSign_of_sign hsign hwrites.unsigned]
  exact hwrites.readUnsigned? negative

end Stockroom.Text
