import Stockroom.Proofs.Parameters

/-!
# What a compiled filter selects

Of several parameters on one field the last one of a known type counts. This file proves that the
filter of a list of valid parameters has exactly the conditions of these last parameters, so that
it accepts exactly the documents that satisfy each of them.
-/

namespace Stockroom

namespace SearchParam

/-- The condition that a parameter denotes on its own, nothing for an unknown type. -/
def denoted? (param : SearchParam) : Option Condition :=
  param.type?.bind fun type => (param.typedCondition 0 type).toOption

/-- The condition of a type does not depend on the place of the parameter. -/
theorem toOption_typedCondition (param : SearchParam) (index : Nat) (type : ParamType) :
    (param.typedCondition index type).toOption = (param.typedCondition 0 type).toOption := by
  cases type with
  | text =>
    rw [typedCondition, typedCondition]
    split <;> rfl
  | float =>
    rw [typedCondition, typedCondition]
    split
    · cases param.readFloat <;> rfl
    · rfl
  | int =>
    rw [typedCondition, typedCondition]
    split
    · cases param.readInt <;> rfl
    · rfl

/-- A parameter that is not refused has the condition that it denotes. -/
theorem condition_eq_denoted? {param : SearchParam} {index : Nat} {result : Option Condition}
    (h : param.condition index = .ok result) : result = param.denoted? := by
  unfold condition at h
  iterate 4 (split at h; case isTrue => cases h)
  rw [denoted?, type?]
  cases htype : ParamType.ofName? param.kind with
  | none =>
    rw [htype] at h
    exact (Except.ok.inj h).symm
  | some type =>
    rw [htype] at h
    dsimp only at h
    rw [Option.bind_some, ← toOption_typedCondition param index]
    cases hcondition : param.typedCondition index type with
    | error e =>
      rw [hcondition] at h
      cases h
    | ok condition =>
      rw [hcondition] at h
      exact (Except.ok.inj h).symm

/-- A parameter with a type, a field and either a text or limits is left to its type. -/
theorem condition_eq_of_bounds {param : SearchParam} (hkind : param.kind ≠ "")
    (hfield : param.field ≠ "") (hbounds : param.hasEqual = !param.hasLimits) (index : Nat) :
    param.condition index = match param.type? with
      | none => .ok none
      | some type => (param.typedCondition index type).map some := by
  have hneither : ¬ (!param.hasEqual && !param.hasLimits) = true := by
    cases hlimits : param.hasLimits <;> simp [hbounds, hlimits]
  have hboth : ¬ (param.hasEqual && param.hasLimits) = true := by
    cases hlimits : param.hasLimits <;> simp [hbounds, hlimits]
  rw [condition, if_neg hkind, if_neg hfield, if_neg hneither, if_neg hboth]
  rfl

/-- A valid parameter is not refused. -/
theorem Valid.condition_eq_ok {param : SearchParam} (h : param.Valid) (index : Nat) :
    param.condition index = .ok param.denoted? := by
  obtain ⟨hkind, hfield, hbounds, hsuits⟩ := h
  have hok : ∃ result, param.condition index = .ok result := by
    rw [condition_eq_of_bounds hkind hfield (hasEqual_eq_not_hasLimits_iff.mpr hbounds)]
    cases htype : param.type? with
    | none => exact ⟨none, rfl⟩
    | some type =>
      obtain ⟨condition, hcondition⟩ := (hsuits type htype).exists_typedCondition index
      exact ⟨some condition, by simp only [hcondition, Except.map]⟩
  obtain ⟨result, hresult⟩ := hok
  rw [hresult, condition_eq_denoted? hresult]

/-- A parameter that is not refused is valid. -/
theorem valid_of_condition_eq_ok {param : SearchParam} {index : Nat} {result : Option Condition}
    (h : param.condition index = .ok result) : param.Valid := by
  have hkind : param.kind ≠ "" := by
    intro heq
    rw [condition, if_pos heq] at h
    cases h
  have hfield : param.field ≠ "" := by
    intro heq
    rw [condition, if_neg hkind, if_pos heq] at h
    cases h
  have hneither : ¬((!param.hasEqual && !param.hasLimits) = true) := by
    intro heq
    rw [condition, if_neg hkind, if_neg hfield, if_pos heq] at h
    cases h
  have hboth : ¬((param.hasEqual && param.hasLimits) = true) := by
    intro heq
    rw [condition, if_neg hkind, if_neg hfield, if_neg hneither, if_pos heq] at h
    cases h
  have hbounds : param.hasEqual = !param.hasLimits := by
    cases hequal : param.hasEqual <;> cases hlimits : param.hasLimits <;>
      simp [hequal, hlimits] at hneither hboth ⊢
  refine ⟨hkind, hfield, hasEqual_eq_not_hasLimits_iff.mp hbounds, fun type htype => ?_⟩
  have hknown : ParamType.ofName? param.kind = some type := htype
  rw [condition, if_neg hkind, if_neg hfield, if_neg hneither, if_neg hboth, hknown] at h
  cases hcondition : param.typedCondition index type with
  | error cause =>
    simp [hcondition, Except.map] at h
  | ok condition => exact suits_of_typedCondition hcondition

/-- The condition that a valid parameter denotes accepts exactly what the parameter asks for. -/
theorem Valid.accepts_of_denoted? {param : SearchParam} (h : param.Valid) {type : ParamType}
    (htype : param.type? = some type) :
    ∃ condition, param.denoted? = some condition ∧ ∀ found : Option Json,
      condition.accepts (found.getD .null) = true ↔ param.Admits type found := by
  obtain ⟨condition, hcondition⟩ := (h.2.2.2 type htype).exists_typedCondition 0
  refine ⟨condition, ?_, accepts_typedCondition h.bounds hcondition⟩
  rw [denoted?, htype, Option.bind_some, hcondition]
  rfl

/-- The last parameter of a known type on a field, with its type. -/
def lastTyped? (params : List SearchParam) (field : String) : Option (SearchParam × ParamType) :=
  params.reverse.findSome? fun param =>
    if param.field = field then param.type?.map (param, ·) else none

/-- A later parameter of a known type comes before an earlier one. -/
theorem lastTyped?_cons (param : SearchParam) (rest : List SearchParam) (field : String) :
    lastTyped? (param :: rest) field = (lastTyped? rest field).or
      (if param.field = field then param.type?.map (param, ·) else none) := by
  simp [lastTyped?, List.findSome?_append]

/-- The last parameter on a field is one of the parameters, on that field and of its type. -/
theorem mem_of_lastTyped?_eq_some {params : List SearchParam} {field : String}
    {param : SearchParam} {type : ParamType}
    (h : lastTyped? params field = some (param, type)) :
    param ∈ params ∧ param.field = field ∧ param.type? = some type := by
  obtain ⟨found, hmem, hfound⟩ := List.exists_of_findSome?_eq_some h
  split at hfound
  case isFalse => cases hfound
  case isTrue hfield =>
    obtain ⟨_, htype, heq⟩ := Option.map_eq_some_iff.mp hfound
    obtain ⟨rfl, rfl⟩ := Prod.mk.inj heq
    exact ⟨List.mem_reverse.mp hmem, hfield, htype⟩

/-- If no field is named twice, every parameter is the last one on its field. -/
theorem lastTyped?_eq_some {params : List SearchParam}
    (hnodup : (params.map SearchParam.field).Nodup) {param : SearchParam} {type : ParamType}
    (hmem : param ∈ params) (htype : param.type? = some type) :
    lastTyped? params param.field = some (param, type) := by
  induction params with
  | nil => cases hmem
  | cons first rest ih =>
    obtain ⟨hfirst, hrest⟩ := List.nodup_cons.mp hnodup
    rw [lastTyped?_cons]
    rcases List.mem_cons.mp hmem with rfl | hlater
    · have hnone : lastTyped? rest param.field = none := by
        rw [Option.eq_none_iff_forall_ne_some]
        rintro ⟨other, _⟩ hother
        obtain ⟨hmem, hfield, -⟩ := mem_of_lastTyped?_eq_some hother
        exact hfirst (List.mem_map.mpr ⟨other, hmem, hfield⟩)
      rw [hnone, if_pos rfl, htype]
      rfl
    · rw [ih hrest hlater, Option.some_or]

end SearchParam

open SearchParam

/-- Whether a document satisfies, for every field that a parameter of a known type names, the last
such parameter. -/
def Document.Satisfies (doc : Document) (params : List SearchParam) : Prop :=
  ∀ param ∈ params, ∀ last ∈ lastTyped? params param.field,
    last.1.Admits last.2 (doc.get? param.field)

instance (doc : Document) (params : List SearchParam) : Decidable (doc.Satisfies params) :=
  inferInstanceAs (Decidable (∀ _ ∈ params, ∀ _ ∈ _, _))

/-- If no field is named twice, a document satisfies parameters if each parameter of a known type
admits the value of its field. -/
theorem Document.satisfies_iff_of_nodup {params : List SearchParam}
    (hnodup : (params.map SearchParam.field).Nodup) (doc : Document) :
    doc.Satisfies params ↔
      ∀ param ∈ params, ∀ type ∈ param.type?, param.Admits type (doc.get? param.field) := by
  constructor
  · intro h param hmem type htype
    exact h param hmem (param, type) (lastTyped?_eq_some hnodup hmem htype)
  · rintro h param - ⟨last, type⟩ hlast
    obtain ⟨hmem, hfield, htype⟩ := mem_of_lastTyped?_eq_some hlast
    rw [← hfield]
    exact h last hmem type htype

namespace Filter

/-- Adding valid parameters leads to a filter. -/
theorem exists_addParams {params : List SearchParam} (hvalid : ∀ param ∈ params, param.Valid)
    (index : Nat) (filter : Filter) : ∃ result, filter.addParams index params = .ok result := by
  induction params generalizing index filter with
  | nil => exact ⟨filter, rfl⟩
  | cons param rest ih =>
    have hrest := ih fun p hp => hvalid p (List.mem_cons_of_mem _ hp)
    rw [addParams, (hvalid param List.mem_cons_self).condition_eq_ok index]
    cases param.denoted? with
    | none => exact hrest _ _
    | some condition => exact hrest _ _

/-- Parameters that lead to a filter are valid. -/
theorem valid_of_addParams_eq_ok {params : List SearchParam} {index : Nat} {filter result : Filter}
    (h : filter.addParams index params = .ok result) : ∀ param ∈ params, param.Valid := by
  induction params generalizing index filter with
  | nil => exact List.forall_mem_nil _
  | cons param rest ih =>
    rw [addParams] at h
    split at h
    case h_1 => cases h
    case h_2 hcondition =>
      exact List.forall_mem_cons.mpr ⟨valid_of_condition_eq_ok hcondition, ih h⟩
    case h_3 hcondition =>
      exact List.forall_mem_cons.mpr ⟨valid_of_condition_eq_ok hcondition, ih h⟩

/-- Adding parameters keeps the fields distinct. -/
theorem Distinct.addParams {params : List SearchParam} {index : Nat} {filter result : Filter}
    (hfilter : filter.Distinct) (h : filter.addParams index params = .ok result) :
    result.Distinct := by
  induction params generalizing index filter with
  | nil =>
    obtain rfl := Except.ok.inj h
    exact hfilter
  | cons param rest ih =>
    rw [Filter.addParams] at h
    split at h
    case h_1 => cases h
    case h_2 => exact ih hfilter h
    case h_3 condition _ => exact ih (hfilter.insert param.field condition) h

/-- The condition on a field after parameters have been added: that of the last one which denotes a
condition on the field, and without such a parameter the one that was there. -/
theorem get?_addParams {params : List SearchParam} {index : Nat} {filter result : Filter}
    (h : filter.addParams index params = .ok result) (field : String) :
    result.get? field = (params.reverse.findSome? fun param =>
      if param.field = field then param.denoted? else none).or (filter.get? field) := by
  induction params generalizing index filter with
  | nil =>
    obtain rfl := Except.ok.inj h
    rfl
  | cons param rest ih =>
    rw [Filter.addParams] at h
    simp only [List.reverse_cons, List.findSome?_append, List.findSome?_singleton]
    split at h
    case h_1 => cases h
    case h_2 hcondition =>
      rw [ih h, ← condition_eq_denoted? hcondition]
      simp
    case h_3 condition hcondition =>
      rw [ih h, ← condition_eq_denoted? hcondition, Option.or_assoc]
      by_cases hfield : param.field = field
      · subst hfield
        simp
      · rw [get?_insert_of_ne filter (Ne.symm hfield), if_neg hfield, Option.none_or]

/-- The condition on a field in the filter of parameters is the one that the last parameter of
a known type on the field denotes. -/
theorem get?_ofParams {params : List SearchParam} {filter : Filter}
    (h : ofParams params = .ok filter) (field : String) :
    filter.get? field = (lastTyped? params field).bind fun last => last.1.denoted? := by
  have hvalid := valid_of_addParams_eq_ok h
  rw [get?_addParams h field, get?_empty, Option.or_none]
  clear h
  induction params with
  | nil => rfl
  | cons param rest ih =>
    have hrest := fun p hp => hvalid p (List.mem_cons_of_mem _ hp)
    rw [lastTyped?_cons, List.reverse_cons, List.findSome?_append, ih hrest,
      List.findSome?_singleton]
    cases hlast : lastTyped? rest field with
    | none =>
      simp only [Option.bind_none, Option.none_or]
      by_cases hfield : param.field = field
      · rw [if_pos hfield, if_pos hfield]
        cases htype : param.type? <;> simp [denoted?, htype]
      · rw [if_neg hfield, if_neg hfield, Option.bind_none]
    | some last =>
      obtain ⟨hmem, -, htype⟩ := mem_of_lastTyped?_eq_some hlast
      obtain ⟨condition, hcondition, -⟩ := (hrest _ hmem).accepts_of_denoted? htype
      simp [hcondition]

/-- The filter of parameters accepts exactly the documents that satisfy them. -/
theorem accepts_ofParams {params : List SearchParam} {filter : Filter}
    (h : ofParams params = .ok filter) (doc : Document) :
    filter.accepts doc = true ↔ doc.Satisfies params := by
  have hvalid := valid_of_addParams_eq_ok h
  have haccepts (last : SearchParam × ParamType) {field : String}
      (hlast : lastTyped? params field = some last) : ∃ condition,
        filter.get? field = some condition ∧
          (condition.accepts ((doc.get? field).getD .null) = true ↔
            last.1.Admits last.2 (doc.get? field)) := by
    obtain ⟨hmem, -, htype⟩ := mem_of_lastTyped?_eq_some hlast
    obtain ⟨condition, hdenoted, hadmits⟩ := (hvalid _ hmem).accepts_of_denoted? htype
    exact ⟨condition, by rw [get?_ofParams h, hlast, Option.bind_some, hdenoted],
      hadmits _⟩
  rw [(distinct_empty.addParams h).accepts_iff]
  constructor
  · intro hall param _ last hlast
    obtain ⟨condition, hget, hiff⟩ := haccepts last hlast
    exact hiff.mp (hall _ _ hget)
  · intro hsat field condition hget
    rw [get?_ofParams h, Option.bind_eq_some_iff] at hget
    obtain ⟨last, hlast, hdenoted⟩ := hget
    obtain ⟨hmem, hfield, -⟩ := mem_of_lastTyped?_eq_some hlast
    obtain ⟨found, hfound, hiff⟩ := haccepts last hlast
    rw [get?_ofParams h, hlast, Option.bind_some, hdenoted] at hfound
    obtain rfl := Option.some.inj hfound
    subst hfield
    exact hiff.mpr (hsat last.1 hmem last hlast)

end Filter

end Stockroom
