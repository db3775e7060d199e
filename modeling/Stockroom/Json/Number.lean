import Stockroom.Double.Decimal

/-!
# JSON numbers

A number is an integer of a 64-bit word, signed or unsigned, or a finite double. The two kinds stay
apart: `1` and `1.0` are different numbers with different texts, although both have the same double.
-/

namespace Stockroom.Json

/-- An integer that fits a signed or an unsigned 64-bit word: at least `-2 ^ 63` and less than
`2 ^ 64`. -/
def IsWord (n : Int) : Prop :=
  -9223372036854775808 ≤ n ∧ n < 18446744073709551616

instance (n : Int) : Decidable (IsWord n) :=
  inferInstanceAs (Decidable (_ ∧ _))

/-- A JSON number. -/
inductive Number
  | integer (value : Int) (isWord : IsWord value)
  | float (value : Double.Finite)
  deriving DecidableEq

/-- Doubles in documents are written without an exponent while the leading digit stands between
the fifth place after the point and the sixteenth before it. -/
def numberStyle : Double.Style := ⟨-5, 15, "+", true⟩

namespace Number

theorem isWord_toInt (value : Int64) : IsWord value.toInt :=
  ⟨Int64.le_toInt value, Int.lt_of_lt_of_le (Int64.toInt_lt value) (by decide)⟩

/-- A signed word as a number. -/
def ofInt64 (value : Int64) : Number :=
  integer value.toInt (isWord_toInt value)

/-- A double as a number, if it is finite. -/
def ofDouble? (value : Double) : Option Number :=
  value.finite?.map float

/-- The double nearest to the number. -/
def toDouble : Number → Double
  | integer value _ => .ofInt value
  | float value => .finite value

/-- The integer of the number, if it is written as one and is a signed word. -/
def toInt64? : Number → Option Int64
  | integer value _ => if Double.FitsInt64 value then some (Int64.ofInt value) else none
  | float _ => none

/-- A number is the word of its integer form. -/
theorem toInt64?_eq_some_iff {n : Number} {i : Int64} : n.toInt64? = some i ↔ n = .ofInt64 i := by
  cases n with
  | float x => simp [toInt64?, ofInt64]
  | integer value isWord =>
    simp only [toInt64?, ofInt64, integer.injEq]
    constructor
    · intro h
      split at h
      case isTrue hfits =>
        obtain rfl := Option.some.inj h
        exact (Int64.toInt_ofInt_of_le hfits.1 hfits.2).symm
      case isFalse => cases h
    · rintro rfl
      rw [if_pos ⟨Int64.le_toInt i, Int64.toInt_lt i⟩, Int64.ofInt_toInt]

/-- The text of the number. -/
def text : Number → String
  | integer value _ => toString value
  | float value => numberStyle.ofFinite value

/-- The number with a negative zero made positive. -/
def canonical : Number → Number
  | integer value isWord => integer value isWord
  | float value => float value.withoutNegativeZero

end Number

end Stockroom.Json
