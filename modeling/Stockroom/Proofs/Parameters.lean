import Stockroom.Proofs.Clauses
import Stockroom.Query.Compile

/-!
# What a search parameter asks for

A parameter of a known type asks that a stored value be a certain text, or a number that equals its
text or lies between its limits. This file says so without conditions and literals, and proves that
the condition compiled from a valid parameter accepts exactly the values that it asks for.
-/

namespace Stockroom

namespace Double

/-- The order of two numbers seen from the other side. -/
theorem compare?_eq_gt_iff (x y : Double) : x.compare? y = some .gt ↔ y.below x = true := by
  rw [below, beq_iff_eq]
  cases x <;> cases y <;> simp [compare?, Std.OrientedCmp.gt_iff_lt]

end Double

namespace Json.Number

/-- Whether a number equals a signed word: an integer that is one exactly, any other number as a
double. -/
def EqualsWord (n : Number) (i : Int64) : Prop :=
  n = .ofInt64 i ∨ n.toInt64? = none ∧ n.toDouble.equals (.ofInt i.toInt) = true

instance (n : Number) (i : Int64) : Decidable (n.EqualsWord i) :=
  inferInstanceAs (Decidable (_ ∨ _))

/-- A signed word equals itself and no other word. -/
theorem equalsWord_ofInt64 {i j : Int64} : (ofInt64 i).EqualsWord j ↔ i = j := by
  have hword : (ofInt64 i).toInt64? = some i := toInt64?_eq_some_iff.mpr rfl
  rw [EqualsWord, ← toInt64?_eq_some_iff, hword]
  simp

end Json.Number

namespace ParamType

/-- A name has the type of that name. -/
theorem ofName?_eq_some_iff {name : String} {type : ParamType} :
    ofName? name = some type ↔ name = type.name := by
  constructor
  · intro h
    have hfound := List.find?_some h
    exact (beq_iff_eq.mp hfound).symm
  · rintro rfl
    cases type <;> decide

end ParamType

namespace SearchParam

/-- Whether a limit of a parameter is set. A limit of zero is none. -/
def Limited (param : SearchParam) : Prop :=
  param.lowerLimit.isZero = false ∨ param.upperLimit.isZero = false

instance (param : SearchParam) : Decidable param.Limited :=
  inferInstanceAs (Decidable (_ ∨ _))

/-- A text to be equal to is given if it is not empty. -/
theorem hasEqual_eq_true_iff {param : SearchParam} : param.hasEqual = true ↔ param.equal ≠ "" :=
  bne_iff_ne

/-- No text to be equal to is given if it is empty. -/
theorem hasEqual_eq_false_iff {param : SearchParam} : param.hasEqual = false ↔ param.equal = "" :=
  bne_eq_false_iff_eq

/-- Limits are given if one of them is set. -/
theorem hasLimits_eq_true_iff {param : SearchParam} : param.hasLimits = true ↔ param.Limited := by
  rw [hasLimits, Bool.or_eq_true, Bool.not_eq_true', Bool.not_eq_true', Limited]

/-- Either a text or limits are given if there is a text just where no limit is set. -/
theorem hasEqual_eq_not_hasLimits_iff {param : SearchParam} :
    (param.hasEqual = !param.hasLimits) ↔ (param.equal ≠ "" ↔ ¬ param.Limited) := by
  rw [← hasEqual_eq_true_iff, ← hasLimits_eq_true_iff]
  cases param.hasEqual <;> cases param.hasLimits <;> simp

/-- The type of a parameter, nothing for an unknown one. -/
def type? (param : SearchParam) : Option ParamType :=
  ParamType.ofName? param.kind

/-- The number that the text of a parameter writes. -/
def equalNumber? (param : SearchParam) : Option Double :=
  (Text.readDouble (Text.trim param.equal)).toOption

/-- The signed word that the text of a parameter writes. -/
def equalWord? (param : SearchParam) : Option Int64 :=
  (Text.readInt64 (Text.trim param.equal)).toOption

/-- Whether a number lies strictly between the limits of a parameter, a limit of zero being unset
and any other one converted first. -/
def Within (param : SearchParam) (convert : Double → Double) (x : Double) : Prop :=
  (param.lowerLimit.isZero = false → (convert param.lowerLimit).below x = true) ∧
    (param.upperLimit.isZero = false → x.below (convert param.upperLimit) = true)

instance (param : SearchParam) (convert : Double → Double) (x : Double) :
    Decidable (param.Within convert x) :=
  inferInstanceAs (Decidable ((_ → _) ∧ (_ → _)))

/-- A limit as a signed word: the fraction cut off, the range cut to that of words, and zero for
what is not a number. -/
def wordLimit (limit : Double) : Double :=
  .ofInt limit.clampInt64.toInt

/-- Whether a number is what a parameter of a type asks for. -/
def AdmitsNumber (param : SearchParam) (n : Json.Number) : ParamType → Prop
  | .text => False
  | .float =>
    (param.equal ≠ "" → ∃ x ∈ param.equalNumber?, n.toDouble.equals x = true) ∧
      (param.equal = "" → param.Within id n.toDouble)
  | .int =>
    (param.equal ≠ "" → ∃ i ∈ param.equalWord?, n.EqualsWord i) ∧
      (param.equal = "" → param.Within wordLimit n.toDouble)

instance (param : SearchParam) (n : Json.Number) :
    (type : ParamType) → Decidable (param.AdmitsNumber n type)
  | .text => inferInstanceAs (Decidable False)
  | .float => inferInstanceAs (Decidable ((_ → _) ∧ (_ → _)))
  | .int => inferInstanceAs (Decidable ((_ → _) ∧ (_ → _)))

/-- Whether a stored value, if there is one, is what a parameter of a type asks for. -/
def Admits (param : SearchParam) (type : ParamType) : Option Json → Prop
  | some (.string s) => type = .text ∧ s = param.equal
  | some (.number n) => param.AdmitsNumber n type
  | _ => False

instance (param : SearchParam) (type : ParamType) :
    (found : Option Json) → Decidable (param.Admits type found)
  | some (.string _) => inferInstanceAs (Decidable (_ ∧ _))
  | some (.number _) => inferInstanceAs (Decidable (AdmitsNumber ..))
  | none => inferInstanceAs (Decidable False)
  | some .null => inferInstanceAs (Decidable False)
  | some (.bool _) => inferInstanceAs (Decidable False)
  | some (.array _) => inferInstanceAs (Decidable False)
  | some (.object _) => inferInstanceAs (Decidable False)

/-- Whether the text or the limits of a parameter suit a type: a text type has a text, and the text
of a number type writes a finite number or a signed word. -/
def Suits (param : SearchParam) : ParamType → Prop
  | .text => param.equal ≠ ""
  | .float => param.equal ≠ "" → ∃ x ∈ param.equalNumber?, x.isFinite = true
  | .int => param.equal ≠ "" → param.equalWord?.isSome = true

instance (param : SearchParam) : (type : ParamType) → Decidable (param.Suits type)
  | .text => inferInstanceAs (Decidable (_ ≠ _))
  | .float => inferInstanceAs (Decidable (_ → _))
  | .int => inferInstanceAs (Decidable (_ → _))

/-- Whether nothing is wrong with a parameter: it names a type and a field, it has either a text or
limits, and they suit the type if it is a known one. -/
def Valid (param : SearchParam) : Prop :=
  param.kind ≠ "" ∧ param.field ≠ "" ∧ (param.equal ≠ "" ↔ ¬ param.Limited) ∧
    ∀ type ∈ param.type?, param.Suits type

instance (param : SearchParam) : Decidable param.Valid :=
  inferInstanceAs (Decidable (_ ∧ _ ∧ _ ∧ _))

/-- A valid parameter gives either a text or limits. -/
theorem Valid.bounds {param : SearchParam} (h : param.Valid) :
    param.hasEqual = !param.hasLimits :=
  hasEqual_eq_not_hasLimits_iff.mpr h.2.2.1

end SearchParam

namespace Literal

/-- A text equals that very string and nothing else. -/
theorem equals_text (s : String) (found : Json) :
    (text s).equals found = true ↔ found = .string s := by
  cases found with
  | string t =>
    simp only [equals, beq_iff_eq, Json.string.injEq]
    exact eq_comm
  | _ => simp [equals]

/-- A double equals the numbers whose double it is. -/
theorem equals_float (x : Double) (found : Json) :
    (float x).equals found = true ↔ ∃ n, found = .number n ∧ n.toDouble.equals x = true := by
  cases found <;> simp [equals]

/-- A signed word equals the numbers that equal the word. -/
theorem equals_int (i : Int64) (found : Json) :
    (int i).equals found = true ↔ ∃ n, found = .number n ∧ n.EqualsWord i := by
  cases found with
  | number n =>
    simp only [equals, Json.number.injEq, exists_eq_left', Json.Number.EqualsWord,
      ← Json.Number.toInt64?_eq_some_iff]
    cases n.toInt64? with
    | none => simp
    | some j =>
      simp only [beq_iff_eq, Option.some.injEq, reduceCtorEq, false_and, or_false]
      exact eq_comm
  | _ => simp [equals]

/-- A literal that is a number is compared with numbers only, as a double. -/
theorem compareFound_of_toDouble? {literal : Literal} {x : Double}
    (h : literal.toDouble? = some x) (found : Json) :
    literal.compareFound found = found.toDouble?.bind fun y => y.compare? x := by
  cases literal <;> cases found <;> simp_all [compareFound, toDouble?, Json.toDouble?]

end Literal

namespace SearchParam

/-- The range between the limits of a parameter accepts the numbers between them, whatever the
literals that stand for the limits. -/
theorem accepts_range {param : SearchParam} {literal : Double → Literal}
    {convert : Double → Double} (hliteral : ∀ x, (literal x).toDouble? = some (convert x))
    (hlimits : param.hasLimits = true) (found : Json) :
    (param.range literal).accepts found = true ↔
      ∃ n, found = .number n ∧ param.Within convert n.toDouble := by
  have hcompare (limit : Double) := Literal.compareFound_of_toDouble? (hliteral limit) found
  simp only [range, Condition.accepts, Range.contains, Bool.and_eq_true]
  cases found with
  | number n =>
    simp only [Json.number.injEq, exists_eq_left', Within, limit?]
    cases param.lowerLimit.isZero <;> cases param.upperLimit.isZero <;>
      simp [hcompare, Json.toDouble?, Double.compare?_eq_gt_iff, Double.below]
  | _ =>
    -- A value that is no number fails at the limit that is set.
    simp only [hasLimits, Bool.or_eq_true, Bool.not_eq_true'] at hlimits
    rcases hlimits with h | h <;> simp [h, limit?, hcompare, Json.toDouble?]

/-- The text of a parameter is read as the finite number that it writes. -/
theorem readFloat_eq_ok_iff {param : SearchParam} {x : Double} :
    param.readFloat = .ok x ↔ param.equalNumber? = some x ∧ x.isFinite = true := by
  unfold readFloat equalNumber?
  cases Text.readDouble (Text.trim param.equal) with
  | error reason => simp [Except.toOption]
  | ok value =>
    by_cases hfinite : value.isFinite = true
    · simp only [if_pos hfinite, Except.ok.injEq, Except.toOption, Option.some.injEq]
      exact ⟨fun h => ⟨h, h ▸ hfinite⟩, And.left⟩
    · simp only [if_neg hfinite, reduceCtorEq, Except.toOption, Option.some.injEq, false_iff]
      rintro ⟨rfl, h⟩
      exact hfinite h

/-- The text of a parameter is read as the signed word that it writes. -/
theorem readInt_eq_ok_iff {param : SearchParam} {i : Int64} :
    param.readInt = .ok i ↔ param.equalWord? = some i := by
  unfold readInt equalWord?
  cases Text.readInt64 (Text.trim param.equal) <;> simp [Except.toOption]

/-- A parameter that suits a type has a condition of that type. -/
theorem Suits.exists_typedCondition {param : SearchParam} {type : ParamType}
    (h : param.Suits type) (index : Nat) :
    ∃ condition, param.typedCondition index type = .ok condition := by
  cases type with
  | text => exact ⟨_, if_pos (hasEqual_eq_true_iff.mpr h)⟩
  | float =>
    rw [typedCondition]
    by_cases hequal : param.hasEqual = true
    · obtain ⟨x, hx, hfinite⟩ := h (hasEqual_eq_true_iff.mp hequal)
      rw [if_pos hequal, readFloat_eq_ok_iff.mpr ⟨hx, hfinite⟩]
      exact ⟨_, rfl⟩
    · exact ⟨_, if_neg hequal⟩
  | int =>
    rw [typedCondition]
    by_cases hequal : param.hasEqual = true
    · obtain ⟨i, hi⟩ := Option.isSome_iff_exists.mp (h (hasEqual_eq_true_iff.mp hequal))
      rw [if_pos hequal, readInt_eq_ok_iff.mpr hi]
      exact ⟨_, rfl⟩
    · exact ⟨_, if_neg hequal⟩

/-- The conditions that the types of a parameter can have. -/
inductive Compiles (param : SearchParam) : ParamType → Condition → Prop
  | text (hequal : param.hasEqual = true) : Compiles param .text (.eq (.text param.equal))
  | float (hequal : param.hasEqual = true) {x : Double} (hread : param.readFloat = .ok x) :
      Compiles param .float (.eq (.float x))
  | int (hequal : param.hasEqual = true) {i : Int64} (hread : param.readInt = .ok i) :
      Compiles param .int (.eq (.int i))
  | floatRange (hequal : param.hasEqual = false) : Compiles param .float (param.range .float)
  | intRange (hequal : param.hasEqual = false) :
      Compiles param .int (param.range fun limit => .int limit.clampInt64)

/-- A condition of a type is one of those that the type can have. -/
theorem compiles_of_typedCondition {param : SearchParam} {index : Nat} {type : ParamType}
    {condition : Condition} (h : param.typedCondition index type = .ok condition) :
    param.Compiles type condition := by
  cases type with
  | text =>
    rw [typedCondition] at h
    split at h
    case isTrue hequal =>
      obtain rfl := Except.ok.inj h
      exact .text hequal
    case isFalse => cases h
  | float =>
    rw [typedCondition] at h
    split at h
    case isTrue hequal =>
      split at h
      case h_1 hread =>
        obtain rfl := Except.ok.inj h
        exact .float hequal hread
      case h_2 => cases h
    case isFalse hequal =>
      obtain rfl := Except.ok.inj h
      exact .floatRange (eq_false_of_ne_true hequal)
  | int =>
    rw [typedCondition] at h
    split at h
    case isTrue hequal =>
      split at h
      case h_1 hread =>
        obtain rfl := Except.ok.inj h
        exact .int hequal hread
      case h_2 => cases h
    case isFalse hequal =>
      obtain rfl := Except.ok.inj h
      exact .intRange (eq_false_of_ne_true hequal)

/-- A parameter that has a condition of a type suits the type. -/
theorem suits_of_typedCondition {param : SearchParam} {index : Nat} {type : ParamType}
    {condition : Condition} (h : param.typedCondition index type = .ok condition) :
    param.Suits type := by
  cases compiles_of_typedCondition h with
  | text hequal => exact hasEqual_eq_true_iff.mp hequal
  | float _ hread => exact fun _ => ⟨_, readFloat_eq_ok_iff.mp hread⟩
  | int _ hread =>
    exact fun _ => Option.isSome_iff_exists.mpr ⟨_, readInt_eq_ok_iff.mp hread⟩
  | floatRange hunset => exact fun hequal => absurd (hasEqual_eq_false_iff.mp hunset) hequal
  | intRange hunset => exact fun hequal => absurd (hasEqual_eq_false_iff.mp hunset) hequal

/-- Of a member that may be absent, only a number is a number. -/
theorem getD_null_eq_number_iff {found : Option Json} {n : Json.Number} :
    found.getD .null = .number n ↔ found = some (.number n) := by
  cases found <;> simp

/-- A type other than text asks for a number. -/
theorem admits_iff_number {param : SearchParam} {type : ParamType} (htype : type ≠ .text)
    (found : Option Json) :
    param.Admits type found ↔ ∃ n, found = some (.number n) ∧ param.AdmitsNumber n type := by
  rcases found with _ | found
  · simp [Admits]
  · cases found <;> simp [Admits, htype]

/-- The condition of a parameter accepts exactly the values that the parameter asks for. -/
theorem accepts_typedCondition {param : SearchParam} {index : Nat} {type : ParamType}
    {condition : Condition} (hbounds : param.hasEqual = !param.hasLimits)
    (h : param.typedCondition index type = .ok condition) (found : Option Json) :
    condition.accepts (found.getD .null) = true ↔ param.Admits type found := by
  cases compiles_of_typedCondition h with
  | text hequal =>
    rw [Condition.accepts, Literal.equals_text]
    rcases found with _ | found
    · simp [Admits]
    · cases found <;> simp [Admits, AdmitsNumber]
  | float hequal hread =>
    rw [admits_iff_number (by decide), Condition.accepts, Literal.equals_float]
    simp [getD_null_eq_number_iff, AdmitsNumber, hasEqual_eq_true_iff.mp hequal,
      (readFloat_eq_ok_iff.mp hread).1]
  | int hequal hread =>
    rw [admits_iff_number (by decide), Condition.accepts, Literal.equals_int]
    simp [getD_null_eq_number_iff, AdmitsNumber, hasEqual_eq_true_iff.mp hequal,
      readInt_eq_ok_iff.mp hread]
  | floatRange hunset =>
    have hlimits : param.hasLimits = true := by simpa [hunset] using hbounds
    have hliteral (x : Double) : (Literal.float x).toDouble? = some (id x) := rfl
    rw [admits_iff_number (by decide), accepts_range hliteral hlimits]
    simp [getD_null_eq_number_iff, AdmitsNumber, hasEqual_eq_false_iff.mp hunset]
  | intRange hunset =>
    have hlimits : param.hasLimits = true := by simpa [hunset] using hbounds
    have hliteral (x : Double) : (Literal.int x.clampInt64).toDouble? = some (wordLimit x) := rfl
    rw [admits_iff_number (by decide), accepts_range hliteral hlimits]
    simp [getD_null_eq_number_iff, AdmitsNumber, hasEqual_eq_false_iff.mp hunset]

end SearchParam

end Stockroom
