import Stockroom.Proofs.Compilation
import Stockroom.Proofs.NumberGrammar

/-!
# Why parameters are refused

A parameter can have several faults at once, and so can several parameters. This file lists the
faults without the compiler, the texts of numbers by their grammar, and ranks them in the order in
which they are reported. Main statement: a list is refused if one of its parameters has a fault, and
the error is the first fault of the first such parameter, whatever stands behind it.
-/

namespace Stockroom

namespace SearchParam

/-- What can be wrong with a parameter. -/
inductive Fault
  | noType
  | noField
  | noBound
  | mixedBounds
  | textLimits
  | badFloat
  | badInt
  deriving DecidableEq

/-- The place of a fault in the order of checks. Faults of one rank exclude each other. -/
def Fault.rank : Fault → Nat
  | noType => 0
  | noField => 1
  | noBound | mixedBounds => 2
  | textLimits | badFloat | badInt => 3

/-- Whether a parameter has a fault. -/
def Has (param : SearchParam) : Fault → Prop
  | .noType => param.kind = ""
  | .noField => param.field = ""
  | .noBound => param.equal = "" ∧ ¬ param.Limited
  | .mixedBounds => param.equal ≠ "" ∧ param.Limited
  | .textLimits => param.kind = "string" ∧ param.equal = "" ∧ param.Limited
  | .badFloat =>
    param.kind = "float" ∧ param.equal ≠ "" ∧
      ¬ Text.WritesFinite (Text.trimChars param.equal.toList)
  | .badInt =>
    param.kind = "int" ∧ param.equal ≠ "" ∧
      ¬ Text.WritesWord (Text.trimChars param.equal.toList)

/-- Whether a fault is the one of the parameter that comes first in the order of checks. -/
def HasFirst (param : SearchParam) (fault : Fault) : Prop :=
  param.Has fault ∧ ∀ other, param.Has other → fault.rank ≤ other.rank

/-- The error that reports a fault of the parameter at an index. It carries the index, the field and
what else there is to say. -/
inductive Fault.Reports (param : SearchParam) (index : Nat) : Fault → ValidationError → Prop
  | noType : Reports param index .noType (.missingType index)
  | noField : Reports param index .noField (.missingField index)
  | noBound : Reports param index .noBound (.missingBound index param.field)
  | mixedBounds : Reports param index .mixedBounds (.conflictingBounds index param.field)
  | textLimits : Reports param index .textLimits (.textRange index param.field)
  | badFloat {reason : FloatRefusal} (hread : param.readFloat = .error reason) :
      Reports param index .badFloat (.badFloat index param.field param.equal reason)
  | badInt {reason : Text.IntegerError} (hread : param.readInt = .error reason) :
      Reports param index .badInt (.badInt index param.field param.equal reason)

/-- Whether a parameter has no fault. -/
def Faultless (param : SearchParam) : Prop :=
  ∀ fault, ¬ param.Has fault

/-! ### Faults and validity -/

/-- A finite double is read from a parameter if its text without blanks writes one. -/
theorem exists_readFloat_iff {param : SearchParam} : (∃ x, param.readFloat = .ok x) ↔
    Text.WritesFinite (Text.trimChars param.equal.toList) := by
  have htext : (Text.trim param.equal).toList = Text.trimChars param.equal.toList :=
    String.toList_ofList
  rw [← htext, ← Text.exists_finite_readDouble_iff]
  simp only [readFloat_eq_ok_iff, equalNumber?]
  cases Text.readDouble (Text.trim param.equal) <;> simp [Except.toOption]

/-- A signed word is read from a parameter if its text without blanks writes one. -/
theorem exists_readInt_iff {param : SearchParam} : (∃ i, param.readInt = .ok i) ↔
    Text.WritesWord (Text.trimChars param.equal.toList) := by
  have htext : (Text.trim param.equal).toList = Text.trimChars param.equal.toList :=
    String.toList_ofList
  rw [← htext, ← Text.exists_readInt64_iff]
  rfl

/-- A parameter suits numbers if its text, where there is one, writes a finite number. -/
theorem suits_float_iff {param : SearchParam} : param.Suits .float ↔
    (param.equal ≠ "" → Text.WritesFinite (Text.trimChars param.equal.toList)) := by
  rw [← exists_readFloat_iff]
  simp only [readFloat_eq_ok_iff]
  rfl

/-- A parameter suits words if its text, where there is one, writes a word. -/
theorem suits_int_iff {param : SearchParam} : param.Suits .int ↔
    (param.equal ≠ "" → Text.WritesWord (Text.trimChars param.equal.toList)) := by
  rw [← exists_readInt_iff]
  simp only [readInt_eq_ok_iff, ← Option.isSome_iff_exists]
  rfl

/-- A parameter without a text and limits is told by what it gives. -/
theorem has_noBound_iff {param : SearchParam} :
    param.Has .noBound ↔ (!param.hasEqual && !param.hasLimits) = true := by
  rw [Has, ← hasEqual_eq_false_iff, ← hasLimits_eq_true_iff]
  simp

/-- A parameter with a text and limits is told by what it gives. -/
theorem has_mixedBounds_iff {param : SearchParam} :
    param.Has .mixedBounds ↔ (param.hasEqual && param.hasLimits) = true := by
  rw [Has, ← hasEqual_eq_true_iff, ← hasLimits_eq_true_iff, Bool.and_eq_true]

/-- A parameter has either a text or limits if it has neither none nor both. -/
theorem bounds_iff {param : SearchParam} : (param.equal ≠ "" ↔ ¬ param.Limited) ↔
    ¬ param.Has .noBound ∧ ¬ param.Has .mixedBounds := by
  simp only [Has]
  by_cases hequal : param.equal = "" <;> by_cases hlimited : param.Limited <;>
    simp [hequal, hlimited]

/-- A valid parameter has no fault. -/
theorem Valid.faultless {param : SearchParam} (h : param.Valid) : param.Faultless := by
  intro fault
  obtain ⟨hkind, hfield, hbounds, hsuits⟩ := h
  have htyped {type : ParamType} (hname : param.kind = type.name) : param.Suits type :=
    hsuits type (ParamType.ofName?_eq_some_iff.mpr hname)
  obtain ⟨hneither, hboth⟩ := bounds_iff.mp hbounds
  cases fault with
  | noType => exact hkind
  | noField => exact hfield
  | noBound => exact hneither
  | mixedBounds => exact hboth
  | textLimits =>
    rintro ⟨hname, hnone, -⟩
    have hequal : param.Suits .text := htyped hname
    exact hequal hnone
  | badFloat =>
    rintro ⟨hname, hequal, hbad⟩
    exact hbad (suits_float_iff.mp (htyped hname) hequal)
  | badInt =>
    rintro ⟨hname, hequal, hbad⟩
    exact hbad (suits_int_iff.mp (htyped hname) hequal)

/-! ### The first fault -/

/-- Faults of one rank exclude each other. -/
theorem Has.eq_of_rank_eq {param : SearchParam} {one two : Fault} (hone : param.Has one)
    (htwo : param.Has two) (hrank : one.rank = two.rank) : one = two := by
  -- Faults of the values belong to different types, and those of the bounds to different bounds.
  cases one <;> cases two <;> simp_all [Fault.rank, Has]

/-- A parameter has one first fault at most. -/
theorem HasFirst.unique {param : SearchParam} {one two : Fault} (hone : param.HasFirst one)
    (htwo : param.HasFirst two) : one = two :=
  hone.1.eq_of_rank_eq htwo.1 (Nat.le_antisymm (hone.2 two htwo.1) (htwo.2 one hone.1))

/-- A fault is reported in one way at most. -/
theorem Fault.Reports.unique {param : SearchParam} {index : Nat} {fault : Fault}
    {one two : ValidationError} (hone : fault.Reports param index one)
    (htwo : fault.Reports param index two) : one = two := by
  cases hone with
  | badFloat hread =>
    cases htwo with
    | badFloat hother => rw [Except.error.inj (hread.symm.trans hother)]
  | badInt hread =>
    cases htwo with
    | badInt hother => rw [Except.error.inj (hread.symm.trans hother)]
  | _ =>
    cases htwo
    rfl

/-- The report of a fault carries the index of the parameter. -/
theorem Fault.Reports.index_eq {param : SearchParam} {index : Nat} {fault : Fault}
    {e : ValidationError} (h : fault.Reports param index e) : e.index = index := by
  cases h <;> rfl

/-- If the values of a parameter are refused, it has a fault of the last rank, which the error
reports. -/
theorem exists_has_of_typedCondition_eq_error {param : SearchParam} {index : Nat}
    {type : ParamType} {e : ValidationError} (hkind : param.kind = type.name)
    (hbounds : param.equal ≠ "" ↔ ¬ param.Limited)
    (h : param.typedCondition index type = .error e) :
    ∃ fault, fault.rank = 3 ∧ param.Has fault ∧ fault.Reports param index e := by
  cases type with
  | text =>
    rw [typedCondition] at h
    split at h
    case isTrue => cases h
    case isFalse hequal =>
      obtain rfl := Except.error.inj h
      have hnone : param.equal = "" := hasEqual_eq_false_iff.mp (Bool.not_eq_true _ ▸ hequal)
      have hlimited : param.Limited := by simpa [hnone] using hbounds
      exact ⟨.textLimits, rfl, ⟨hkind, hnone, hlimited⟩, .textLimits⟩
  | float =>
    rw [typedCondition] at h
    split at h
    case isFalse => cases h
    case isTrue hequal =>
      split at h
      case h_1 => cases h
      case h_2 reason hread =>
        obtain rfl := Except.error.inj h
        refine ⟨.badFloat, rfl, ⟨hkind, hasEqual_eq_true_iff.mp hequal, ?_⟩, .badFloat hread⟩
        rw [← exists_readFloat_iff, hread]
        rintro ⟨x, ⟨⟩⟩
  | int =>
    rw [typedCondition] at h
    split at h
    case isFalse => cases h
    case isTrue hequal =>
      split at h
      case h_1 => cases h
      case h_2 reason hread =>
        obtain rfl := Except.error.inj h
        refine ⟨.badInt, rfl, ⟨hkind, hasEqual_eq_true_iff.mp hequal, ?_⟩, .badInt hread⟩
        rw [← exists_readInt_iff, hread]
        rintro ⟨i, ⟨⟩⟩

/-- A fault comes first if there is none of a lower rank. -/
theorem Has.first {param : SearchParam} {fault : Fault} (hhas : param.Has fault)
    (hearlier : ∀ other, other.rank < fault.rank → ¬ param.Has other) : param.HasFirst fault := by
  refine ⟨hhas, fun other hother => ?_⟩
  by_contra hlower
  exact hearlier other (Nat.lt_of_not_le hlower) hother

/-- If a parameter without faults of its type, its field and its bounds is refused, the error
reports a fault of its values. -/
theorem exists_has_of_bounds {param : SearchParam} {index : Nat} {e : ValidationError}
    (hkind : param.kind ≠ "") (hfield : param.field ≠ "")
    (hbounds : param.equal ≠ "" ↔ ¬ param.Limited) (h : param.condition index = .error e) :
    ∃ fault, fault.rank = 3 ∧ param.Has fault ∧ fault.Reports param index e := by
  rw [condition_eq_of_bounds hkind hfield (hasEqual_eq_not_hasLimits_iff.mpr hbounds)] at h
  cases htype : param.type? with
  | none =>
    rw [htype] at h
    cases h
  | some type =>
    rw [htype] at h
    cases hcondition : param.typedCondition index type with
    | ok condition => simp [hcondition, Except.map] at h
    | error cause =>
      simp only [hcondition, Except.map] at h
      obtain rfl := Except.error.inj h
      exact exists_has_of_typedCondition_eq_error (ParamType.ofName?_eq_some_iff.mp htype) hbounds
        hcondition

/-- A refused parameter has a first fault, which the error reports. -/
theorem exists_first_of_condition_eq_error {param : SearchParam} {index : Nat}
    {e : ValidationError} (h : param.condition index = .error e) :
    ∃ fault, param.HasFirst fault ∧ fault.Reports param index e := by
  -- The checks run in the order of the ranks: each one that passes excludes the faults of its rank.
  by_cases hkind : param.kind = ""
  · rw [condition, if_pos hkind] at h
    obtain rfl := Except.error.inj h
    have hhas : param.Has .noType := hkind
    exact ⟨.noType, hhas.first fun other hlower => absurd hlower (Nat.not_lt_zero _), .noType⟩
  by_cases hfield : param.field = ""
  · rw [condition, if_neg hkind, if_pos hfield] at h
    obtain rfl := Except.error.inj h
    have hhas : param.Has .noField := hfield
    refine ⟨.noField, hhas.first fun other hlower => ?_, .noField⟩
    cases other with
    | noType => exact hkind
    | _ => exact absurd hlower (by decide)
  have hearlier : ∀ other : Fault, other.rank < 2 → ¬ param.Has other := by
    intro other hlower
    cases other with
    | noType => exact hkind
    | noField => exact hfield
    | _ => exact absurd hlower (by decide)
  by_cases hnone : (!param.hasEqual && !param.hasLimits) = true
  · rw [condition, if_neg hkind, if_neg hfield, if_pos hnone] at h
    obtain rfl := Except.error.inj h
    have hhas : param.Has .noBound := has_noBound_iff.mpr hnone
    exact ⟨.noBound, hhas.first hearlier, .noBound⟩
  by_cases hmixed : (param.hasEqual && param.hasLimits) = true
  · rw [condition, if_neg hkind, if_neg hfield, if_neg hnone, if_pos hmixed] at h
    obtain rfl := Except.error.inj h
    have hhas : param.Has .mixedBounds := has_mixedBounds_iff.mpr hmixed
    exact ⟨.mixedBounds, hhas.first hearlier, .mixedBounds⟩
  have hneither : ¬ param.Has .noBound := mt has_noBound_iff.mp hnone
  have hboth : ¬ param.Has .mixedBounds := mt has_mixedBounds_iff.mp hmixed
  have hbounds := bounds_iff.mpr ⟨hneither, hboth⟩
  obtain ⟨fault, hrank, hhas, hreports⟩ := exists_has_of_bounds hkind hfield hbounds h
  refine ⟨fault, hhas.first fun other hlower => ?_, hreports⟩
  cases other with
  | noBound => exact hneither
  | mixedBounds => exact hboth
  | noType => exact hkind
  | noField => exact hfield
  | _ => exact absurd (hrank ▸ hlower) (by decide)

/-- A parameter is valid if it has no fault. -/
theorem valid_iff_faultless {param : SearchParam} : param.Valid ↔ param.Faultless := by
  constructor
  · exact Valid.faultless
  · intro h
    cases hcondition : param.condition 0 with
    | ok result => exact valid_of_condition_eq_ok hcondition
    | error e =>
      obtain ⟨fault, hfirst, -⟩ := exists_first_of_condition_eq_error hcondition
      exact absurd hfirst.1 (h fault)

/-- A parameter is refused with the report of its first fault. -/
theorem condition_eq_error_iff {param : SearchParam} {index : Nat} {e : ValidationError} :
    param.condition index = .error e ↔
      ∃ fault, param.HasFirst fault ∧ fault.Reports param index e := by
  constructor
  · exact exists_first_of_condition_eq_error
  · rintro ⟨fault, hfirst, hreports⟩
    cases hcondition : param.condition index with
    | ok result => exact absurd hfirst.1 ((valid_of_condition_eq_ok hcondition).faultless fault)
    | error cause =>
      obtain ⟨other, hother, hcause⟩ := exists_first_of_condition_eq_error hcondition
      obtain rfl := hfirst.unique hother
      rw [hcause.unique hreports]

/-- A parameter is refused if it has a fault. -/
theorem exists_condition_eq_error_iff {param : SearchParam} {index : Nat} :
    (∃ e, param.condition index = .error e) ↔ ∃ fault, param.Has fault := by
  constructor
  · rintro ⟨e, he⟩
    obtain ⟨fault, hfirst, -⟩ := condition_eq_error_iff.mp he
    exact ⟨fault, hfirst.1⟩
  · rintro ⟨fault, hhas⟩
    cases hcondition : param.condition index with
    | error e => exact ⟨e, rfl⟩
    | ok result => exact absurd hhas ((valid_of_condition_eq_ok hcondition).faultless fault)

/-- A parameter of an unknown type has no faults of its values. -/
theorem exists_has_iff_of_unknown {param : SearchParam} (hkind : param.kind ≠ "")
    (hunknown : ∀ type : ParamType, param.kind ≠ type.name) : (∃ fault, param.Has fault) ↔
      param.Has .noField ∨ param.Has .noBound ∨ param.Has .mixedBounds := by
  constructor
  · rintro ⟨fault, hhas⟩
    cases fault with
    | noType => exact absurd hhas hkind
    | noField => exact .inl hhas
    | noBound => exact .inr (.inl hhas)
    | mixedBounds => exact .inr (.inr hhas)
    | textLimits => exact absurd hhas.1 (hunknown .text)
    | badFloat => exact absurd hhas.1 (hunknown .float)
    | badInt => exact absurd hhas.1 (hunknown .int)
  · rintro (hhas | hhas | hhas)
    · exact ⟨.noField, hhas⟩
    · exact ⟨.noBound, hhas⟩
    · exact ⟨.mixedBounds, hhas⟩

end SearchParam

open SearchParam

namespace Filter

/-! ### Lists of parameters -/

/-- A parameter that is not refused leaves the refusal to those behind it. -/
theorem exists_addParams_cons {param : SearchParam} {index : Nat} {result : Option Condition}
    (h : param.condition index = .ok result) (filter : Filter) (rest : List SearchParam) :
    ∃ next : Filter, filter.addParams index (param :: rest) = next.addParams (index + 1) rest := by
  rw [addParams, h]
  cases result with
  | none => exact ⟨filter, rfl⟩
  | some condition => exact ⟨filter.insert param.field condition, rfl⟩

/-- Parameters are refused if one of them is, after a beginning of valid ones; what stands behind it
is not looked at. -/
theorem addParams_eq_error_iff {params : List SearchParam} {index : Nat} {filter : Filter}
    {e : ValidationError} : filter.addParams index params = .error e ↔
      ∃ before param after, params = before ++ param :: after ∧
        (∀ earlier ∈ before, earlier.Valid) ∧
        param.condition (index + before.length) = .error e := by
  induction params generalizing index filter with
  | nil =>
    constructor
    · intro h
      cases h
    · rintro ⟨before, param, after, hsplit, -⟩
      cases before <;> cases hsplit
  | cons first rest ih =>
    simp only [List.cons_eq_append_iff]
    cases hfirst : first.condition index with
    | error cause =>
      rw [addParams, hfirst]
      constructor
      · intro h
        obtain rfl := Except.error.inj h
        exact ⟨[], first, rest, .inl ⟨rfl, rfl⟩, List.forall_mem_nil _, hfirst⟩
      · rintro ⟨before, param, after, ⟨rfl, hhead⟩ | ⟨tail, rfl, -⟩, hbefore, herror⟩
        · obtain ⟨rfl, -⟩ := List.cons_eq_cons.mp hhead
          obtain rfl := Except.error.inj (hfirst.symm.trans herror)
          rfl
        · have hvalid := (hbefore first List.mem_cons_self).condition_eq_ok index
          rw [hfirst] at hvalid
          cases hvalid
    | ok result =>
      obtain ⟨next, hnext⟩ := exists_addParams_cons hfirst filter rest
      rw [hnext, ih]
      have hplace (tail : List SearchParam) :
          index + (first :: tail).length = index + 1 + tail.length := by
        rw [List.length_cons]
        omega
      constructor
      · rintro ⟨before, param, after, hsplit, hbefore, herror⟩
        refine ⟨first :: before, param, after, .inr ⟨before, rfl, hsplit⟩, ?_, ?_⟩
        · exact List.forall_mem_cons.mpr ⟨valid_of_condition_eq_ok hfirst, hbefore⟩
        · rw [hplace]
          exact herror
      · rintro ⟨before, param, after, ⟨rfl, hhead⟩ | ⟨tail, rfl, hsplit⟩, hbefore, herror⟩
        · obtain ⟨rfl, -⟩ := List.cons_eq_cons.mp hhead
          rw [List.length_nil, Nat.add_zero, hfirst] at herror
          cases herror
        · rw [hplace] at herror
          exact ⟨tail, param, after, hsplit, (List.forall_mem_cons.mp hbefore).2, herror⟩

/-- Parameters are refused with the report of the first fault of the first one that has a fault. -/
theorem ofParams_eq_error_iff {params : List SearchParam} {e : ValidationError} :
    ofParams params = .error e ↔ ∃ before param after fault,
      params = before ++ param :: after ∧ (∀ earlier ∈ before, earlier.Faultless) ∧
        param.HasFirst fault ∧ fault.Reports param before.length e := by
  rw [ofParams, addParams_eq_error_iff]
  simp only [Nat.zero_add, condition_eq_error_iff, valid_iff_faultless, exists_and_left]

/-- Parameters are refused if one of them has a fault. -/
theorem exists_ofParams_eq_error_iff {params : List SearchParam} :
    (∃ e, ofParams params = .error e) ↔ ∃ param ∈ params, ∃ fault, param.Has fault := by
  constructor
  · rintro ⟨e, he⟩
    obtain ⟨before, param, after, fault, rfl, -, hfirst, -⟩ := ofParams_eq_error_iff.mp he
    exact ⟨param, by simp, fault, hfirst.1⟩
  · rintro ⟨param, hmem, fault, hhas⟩
    cases hresult : ofParams params with
    | error e => exact ⟨e, rfl⟩
    | ok filter =>
      have hvalid := valid_of_addParams_eq_ok hresult param hmem
      exact absurd hhas (hvalid.faultless fault)

/-- The places of a list have one parameter each. -/
theorem split_unique {before other after rest : List SearchParam} {param found : SearchParam}
    (h : before ++ param :: after = other ++ found :: rest)
    (hlength : before.length = other.length) : before = other ∧ param = found := by
  obtain ⟨hbefore, hrest⟩ := List.append_inj h hlength
  exact ⟨hbefore, (List.cons.inj hrest).1⟩

/-- If the error points at a parameter, those before it have no fault and the error reports its
first one. -/
theorem reports_of_index_eq {before after : List SearchParam} {param : SearchParam}
    {e : ValidationError} (h : ofParams (before ++ param :: after) = .error e)
    (hindex : e.index = before.length) : (∀ earlier ∈ before, earlier.Faultless) ∧
      ∃ fault, param.HasFirst fault ∧ fault.Reports param before.length e := by
  obtain ⟨other, found, rest, fault, hsplit, hbefore, hfirst, hreports⟩ :=
    ofParams_eq_error_iff.mp h
  have hlength : before.length = other.length := hindex.symm.trans hreports.index_eq
  obtain ⟨rfl, rfl⟩ := split_unique hsplit hlength
  exact ⟨hbefore, fault, hfirst, hreports⟩

/-- After parameters without faults, the error points at the next one if it has a fault. -/
theorem exists_error_at_iff {before : List SearchParam}
    (hbefore : ∀ earlier ∈ before, earlier.Faultless) (param : SearchParam)
    (after : List SearchParam) :
    (∃ e, ofParams (before ++ param :: after) = .error e ∧ e.index = before.length) ↔
      ∃ fault, param.Has fault := by
  constructor
  · rintro ⟨e, he, hindex⟩
    obtain ⟨-, fault, hfirst, -⟩ := reports_of_index_eq he hindex
    exact ⟨fault, hfirst.1⟩
  · intro hhas
    obtain ⟨e, he⟩ := exists_condition_eq_error_iff.mpr hhas
    obtain ⟨fault, hfirst, hreports⟩ := condition_eq_error_iff.mp he
    exact ⟨e, ofParams_eq_error_iff.mpr ⟨before, param, after, fault, rfl, hbefore, hfirst,
      hreports⟩, hreports.index_eq⟩

/-- A list of parameters is refused if one of them has a fault. The error reports the first fault of
the first parameter that has one and carries its index. A parameter of an unknown type is refused
for its field and its bounds only, and the parameters behind the one that the error points at have
no part in it. -/
theorem ofParams_refuses_first_fault :
    (∀ params, (∃ e, ofParams params = .error e) ↔ ∃ param ∈ params, ∃ fault, param.Has fault) ∧
    (∀ params e, ofParams params = .error e ↔ ∃ before param after fault,
      params = before ++ param :: after ∧ (∀ earlier ∈ before, earlier.Faultless) ∧
        param.HasFirst fault ∧ fault.Reports param before.length e ∧ e.index = before.length) ∧
    (∀ before param after, (∀ earlier ∈ before, earlier.Faultless) → param.kind ≠ "" →
      (∀ type : ParamType, param.kind ≠ type.name) →
      ((∃ e, ofParams (before ++ param :: after) = .error e ∧ e.index = before.length) ↔
        param.Has .noField ∨ param.Has .noBound ∨ param.Has .mixedBounds)) ∧
    ∀ before param after others e, ofParams (before ++ param :: after) = .error e →
      e.index = before.length → ofParams (before ++ param :: others) = .error e := by
  refine ⟨fun params => exists_ofParams_eq_error_iff, fun params e => ?_, ?_, ?_⟩
  · rw [ofParams_eq_error_iff]
    constructor
    · rintro ⟨before, param, after, fault, hsplit, hbefore, hfirst, hreports⟩
      exact ⟨before, param, after, fault, hsplit, hbefore, hfirst, hreports, hreports.index_eq⟩
    · rintro ⟨before, param, after, fault, hsplit, hbefore, hfirst, hreports, -⟩
      exact ⟨before, param, after, fault, hsplit, hbefore, hfirst, hreports⟩
  · intro before param after hbefore hkind hunknown
    rw [exists_error_at_iff hbefore, exists_has_iff_of_unknown hkind hunknown]
  · intro before param after others e he hindex
    obtain ⟨hbefore, fault, hfirst, hreports⟩ := reports_of_index_eq he hindex
    exact ofParams_eq_error_iff.mpr ⟨before, param, others, fault, rfl, hbefore, hfirst, hreports⟩

/-- The second parameter has an unknown type, no field, and both a text and a limit. The third has a
text that is no word. The error is the missing field of the second, whatever the third is. -/
theorem ofParams_refuses_first_fault_unknown :
    let sound : SearchParam := ⟨"upc", "int", " +42 ", .zero, .zero⟩
    let unknown : SearchParam := ⟨"", "date", "May", .infinite false, .zero⟩
    let wordless : SearchParam := ⟨"upc", "int", "1e3", .zero, .zero⟩
    sound.Faultless ∧ unknown.Has .mixedBounds ∧ unknown.HasFirst .noField ∧
      (∃ e, ofParams [sound, unknown, wordless] = .error e ∧ e.index = 1) ∧
      ofParams [sound, unknown, wordless] = .error (.missingField 1) ∧
      ofParams [sound, unknown] = .error (.missingField 1) ∧
      wordless.Has .badInt ∧ ∃ e, ofParams [sound, wordless] = .error e := by
  intro sound unknown wordless
  have hsound : sound.Faultless := valid_iff_faultless.mp (by decide)
  have hbefore : ∀ earlier ∈ [sound], earlier.Faultless := List.forall_mem_singleton.mpr hsound
  have hkind : unknown.kind ≠ "" := by decide
  have hunknown : ∀ type : ParamType, unknown.kind ≠ type.name := by
    intro type
    cases type <;> decide
  have hfirst : unknown.HasFirst .noField := by
    refine ⟨rfl, fun other hother => ?_⟩
    cases other with
    | noType => exact absurd hother hkind
    | _ => decide
  have hrefused : ofParams [sound, unknown, wordless] = .error (.missingField 1) :=
    (ofParams_refuses_first_fault.2.1 _ _).mpr
      ⟨[sound], unknown, [wordless], .noField, rfl, hbefore, hfirst, .noField, rfl⟩
  have hwordless : wordless.Has .badInt := by
    refine ⟨rfl, by decide, ?_⟩
    rw [← exists_readInt_iff]
    rintro ⟨i, hi⟩
    have herror : wordless.readInt = .error .invalidDigit := by decide
    cases herror.symm.trans hi
  refine ⟨hsound, ⟨by decide, by decide⟩, hfirst, ?_, hrefused, ?_, hwordless, ?_⟩
  · exact (ofParams_refuses_first_fault.2.2.1 [sound] unknown [wordless] hbefore hkind
      hunknown).mpr (.inl rfl)
  · exact ofParams_refuses_first_fault.2.2.2 [sound] unknown [wordless] [] _ hrefused rfl
  · exact (ofParams_refuses_first_fault.1 _).mpr ⟨wordless, by simp, .badInt, hwordless⟩

end Filter

end Stockroom
