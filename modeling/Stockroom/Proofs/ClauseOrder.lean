import Mathlib.Data.List.Basic
import Mathlib.Data.List.Induction
import Stockroom.Proofs.Compilation

/-!
# The clauses of a compiled filter

A parameter of a known type appends a clause on its field, or takes the place of the clause that is
there. So the place of a clause comes from the first such parameter on its field and the condition
from the last one. Main statement: the clauses are those, and compiling one list after another puts
the clauses of the second filter into the first.
-/

namespace Stockroom

namespace Entries

variable {α : Type}

/-- What has been put under a name is there. -/
theorem mem_names_put (name : String) (value : α) (entries : Entries α) :
    name ∈ (put name value entries).names := by
  rw [names_put]
  split
  case isTrue h => exact h
  case isFalse => exact List.mem_append_right _ List.mem_cons_self

/-- Putting an entry keeps the names that are there. -/
theorem mem_names_put_of_mem {name : String} {entries : Entries α} (h : name ∈ entries.names)
    (other : String) (value : α) : name ∈ (put other value entries).names := by
  rw [names_put]
  split
  case isTrue => exact h
  case isFalse => exact List.mem_append_left _ h

/-- Of two values put under one name only the second one counts. -/
theorem put_put_self (name : String) (old value : α) (entries : Entries α) :
    put name value (put name old entries) = put name value entries := by
  induction entries with
  | nil => exact if_pos rfl
  | cons entry rest ih =>
    obtain ⟨n, v⟩ := entry
    by_cases h : n = name
    · simp only [put, h, if_true]
    · simp only [put, if_neg h, ih]

/-- A value under a name that is there may be put before or after one under another name. -/
theorem put_comm_of_mem {name other : String} (hne : other ≠ name) {entries : Entries α}
    (hmem : name ∈ entries.names) (value later : α) :
    put name value (put other later entries) = put other later (put name value entries) := by
  induction entries with
  | nil => cases hmem
  | cons entry rest ih =>
    obtain ⟨n, v⟩ := entry
    by_cases hname : n = name
    · subst hname
      simp only [put, if_neg hne.symm, if_true]
    · have hrest : name ∈ names rest := by
        simpa [names, Ne.symm hname] using hmem
      by_cases hother : n = other
      · subst hother
        simp only [put, if_neg hname, if_true]
      · simp only [put, if_neg hname, if_neg hother, ih hrest]

/-- A value under a name that is there may be put before or after entries with other names. -/
theorem put_putAll_of_not_mem {name : String} {others : Entries α} (hothers : name ∉ others.names)
    {entries : Entries α} (hmem : name ∈ entries.names) (value : α) :
    put name value (entries.putAll others) = (put name value entries).putAll others := by
  induction others generalizing entries with
  | nil => rfl
  | cons entry rest ih =>
    obtain ⟨other, later⟩ := entry
    obtain ⟨hne, hrest⟩ : name ≠ other ∧ name ∉ names rest := by
      simpa [names] using hothers
    have hstep := ih hrest (mem_names_put_of_mem hmem other later)
    rw [put_comm_of_mem hne.symm hmem] at hstep
    exact hstep

/-- Entries with distinct names that are put one after the other may get one more entry before or
after that. -/
theorem put_putAll {others : Entries α} (hnodup : others.names.Nodup) (entries : Entries α)
    (name : String) (value : α) :
    put name value (entries.putAll others) = entries.putAll (put name value others) := by
  induction others generalizing entries with
  | nil => rfl
  | cons entry rest ih =>
    obtain ⟨n, old⟩ := entry
    obtain ⟨hn, hrest⟩ := List.nodup_cons.mp hnodup
    by_cases h : n = name
    · subst h
      have hlater := put_putAll_of_not_mem hn (mem_names_put n old entries) value
      rw [put_put_self] at hlater
      rw [put, if_pos rfl]
      exact hlater
    · rw [put, if_neg h]
      exact ih hrest _

end Entries

namespace SearchParam

/-- Whether the type of a parameter is a known one. -/
def isTyped (param : SearchParam) : Bool :=
  param.type?.isSome

/-- The fields of the parameters of a known type, in the order of the parameters. -/
def typedFields (params : List SearchParam) : List String :=
  (params.filter isTyped).map field

/-- A valid parameter denotes a condition if its type is a known one. -/
theorem Valid.isSome_denoted? {param : SearchParam} (h : param.Valid) :
    param.denoted?.isSome = param.isTyped := by
  rw [isTyped]
  cases htype : param.type? with
  | none => simp [denoted?, htype]
  | some type =>
    obtain ⟨condition, hcondition, -⟩ := h.accepts_of_denoted? htype
    simp [hcondition]

/-- The last parameter on a field has no parameter of a known type on the field behind it. -/
theorem exists_split_of_lastTyped? {params : List SearchParam} {field : String}
    {param : SearchParam} {type : ParamType} (h : lastTyped? params field = some (param, type)) :
    ∃ before after, params = before ++ param :: after ∧
      ∀ later ∈ after, later.isTyped = true → later.field ≠ field := by
  obtain ⟨after, found, before, hsplit, hfound, hafter⟩ := List.findSome?_eq_some_iff.mp h
  split at hfound
  case isFalse => cases hfound
  case isTrue =>
    obtain ⟨_, -, heq⟩ := Option.map_eq_some_iff.mp hfound
    obtain ⟨rfl, rfl⟩ := Prod.mk.inj heq
    refine ⟨before.reverse, after.reverse, ?_, ?_⟩
    · rw [← List.reverse_reverse params, hsplit]
      simp
    · intro later hmem htyped hfield
      have hnone := hafter later (List.mem_reverse.mp hmem)
      rw [if_pos hfield, Option.map_eq_none_iff] at hnone
      rw [isTyped, hnone] at htyped
      cases htyped

end SearchParam

open SearchParam

namespace Filter

/-- The filter with the clauses of a later one, each in place of the clause on its field or last. -/
def update (filter later : Filter) : Filter :=
  ⟨filter.clauses.putAll later.clauses⟩

/-- The filter after a parameter; one that denotes no condition leaves it as it is. -/
def addParam (filter : Filter) (param : SearchParam) : Filter :=
  match param.denoted? with
  | none => filter
  | some condition => filter.insert param.field condition

/-- Parameters lead to a filter if all of them are valid, and then they are added one by one. -/
theorem addParams_eq_ok_iff {params : List SearchParam} {index : Nat} {filter result : Filter} :
    filter.addParams index params = .ok result ↔
      (∀ param ∈ params, param.Valid) ∧ params.foldl addParam filter = result := by
  induction params generalizing index filter with
  | nil => simp [addParams]
  | cons param rest ih =>
    have hstep : param.Valid → filter.addParams index (param :: rest) =
        (filter.addParam param).addParams (index + 1) rest := by
      intro hvalid
      rw [addParams, hvalid.condition_eq_ok, addParam]
      cases param.denoted? <;> rfl
    constructor
    · intro h
      have hvalid := valid_of_addParams_eq_ok h
      rw [hstep (hvalid param List.mem_cons_self)] at h
      exact ⟨hvalid, (ih.mp h).2⟩
    · rintro ⟨hvalid, hresult⟩
      obtain ⟨hparam, hrest⟩ := List.forall_mem_cons.mp hvalid
      rw [hstep hparam]
      exact ih.mpr ⟨hrest, hresult⟩

/-- Parameters compile if all of them are valid, and then they are added one by one. -/
theorem ofParams_eq_ok_iff {params : List SearchParam} {filter : Filter} :
    ofParams params = .ok filter ↔
      (∀ param ∈ params, param.Valid) ∧ params.foldl addParam empty = filter :=
  addParams_eq_ok_iff

/-- A condition may be inserted before or after the clauses of a filter are put into another. -/
theorem insert_update {later : Filter} (h : later.Distinct) (filter : Filter) (field : String)
    (condition : Condition) :
    (filter.update later).insert field condition = filter.update (later.insert field condition) :=
  congrArg Filter.mk (Entries.put_putAll h filter.clauses field condition)

/-- Adding a parameter keeps the fields distinct. -/
theorem Distinct.addParam {filter : Filter} (h : filter.Distinct) (param : SearchParam) :
    (filter.addParam param).Distinct := by
  rw [Filter.addParam]
  split
  case h_1 => exact h
  case h_2 condition _ => exact h.insert param.field condition

/-- A parameter may be added before or after the clauses of a filter are put into another. -/
theorem addParam_update {later : Filter} (h : later.Distinct) (filter : Filter)
    (param : SearchParam) :
    (filter.update later).addParam param = filter.update (later.addParam param) := by
  rw [addParam, addParam]
  cases param.denoted? with
  | none => rfl
  | some condition => exact insert_update h filter param.field condition

/-- Parameters may be added before or after the clauses of a filter are put into another. -/
theorem foldl_addParam_update {later : Filter} (h : later.Distinct) (filter : Filter)
    (params : List SearchParam) :
    params.foldl addParam (filter.update later) = filter.update (params.foldl addParam later) := by
  induction params generalizing later with
  | nil => rfl
  | cons param rest ih =>
    rw [List.foldl_cons, List.foldl_cons, addParam_update h]
    exact ih (h.addParam param)

/-- One list after another compiles if both do, and leads to the filter of the first with the
clauses of the second. -/
theorem ofParams_append_eq_ok_iff {first second : List SearchParam} {filter : Filter} :
    ofParams (first ++ second) = .ok filter ↔ ∃ one two,
      ofParams first = .ok one ∧ ofParams second = .ok two ∧ filter = one.update two := by
  have hfold : (first ++ second).foldl addParam empty =
      (first.foldl addParam empty).update (second.foldl addParam empty) := by
    rw [List.foldl_append]
    exact foldl_addParam_update distinct_empty _ second
  simp only [ofParams_eq_ok_iff, hfold, List.forall_mem_append]
  constructor
  · rintro ⟨⟨hfirst, hsecond⟩, rfl⟩
    exact ⟨_, _, ⟨hfirst, rfl⟩, ⟨hsecond, rfl⟩, rfl⟩
  · rintro ⟨one, two, ⟨hfirst, rfl⟩, ⟨hsecond, rfl⟩, rfl⟩
    exact ⟨⟨hfirst, hsecond⟩, rfl⟩

/-- The fields of the clauses are those of the parameters of a known type, each once and in the
order of their first occurrence. -/
theorem names_foldl_addParam {params : List SearchParam}
    (hvalid : ∀ param ∈ params, param.Valid) :
    (params.foldl addParam empty).clauses.names = (typedFields params).eraseDups := by
  induction params using List.reverseRecOn with
  | nil => rfl
  | append_singleton params param ih =>
    obtain ⟨hparams, hparam⟩ := List.forall_mem_append.mp hvalid
    have hdenoted := (List.forall_mem_singleton.mp hparam).isSome_denoted?
    rw [List.foldl_append, List.foldl_cons, List.foldl_nil, addParam, typedFields,
      List.filter_append, List.map_append]
    cases hcondition : param.denoted? with
    | none =>
      rw [hcondition] at hdenoted
      simp [← hdenoted, ih hparams, typedFields]
    | some condition =>
      rw [hcondition] at hdenoted
      have hfields : (([param].filter isTyped).map field) = [param.field] := by
        simp [← hdenoted]
      rw [hfields]
      change (Entries.put param.field condition _).names = _
      rw [Entries.names_put, ih hparams, if_congr List.mem_eraseDups rfl rfl]
      exact (eraseDups_concat _ _).symm

/-- A filter of parameters names no field twice. -/
theorem distinct_of_ofParams {params : List SearchParam} {filter : Filter}
    (h : ofParams params = .ok filter) : filter.Distinct :=
  distinct_empty.addParams h

/-- A single valid parameter that denotes a condition compiles to that condition on its field. -/
theorem ofParams_singleton {param : SearchParam} (hvalid : param.Valid) {condition : Condition}
    (hdenoted : param.denoted? = some condition) :
    ofParams [param] = .ok ⟨[(param.field, condition)]⟩ := by
  refine ofParams_eq_ok_iff.mpr ⟨List.forall_mem_singleton.mpr hvalid, ?_⟩
  rw [List.foldl_cons, List.foldl_nil, addParam, hdenoted]
  rfl

/-- A clause stems from the last parameter of a known type on its field, whose only condition it
has. -/
theorem exists_source_of_mem_clauses {params : List SearchParam} {filter : Filter}
    (h : ofParams params = .ok filter) {field : String} {condition : Condition}
    (hmem : (field, condition) ∈ filter.clauses) :
    ∃ before param after, params = before ++ param :: after ∧
      param.field = field ∧ param.isTyped = true ∧
      (∀ later ∈ after, later.isTyped = true → later.field ≠ field) ∧
      ofParams [param] = .ok ⟨[(field, condition)]⟩ := by
  have hget : filter.get? field = some condition :=
    Entries.get?_eq_some_of_mem (distinct_of_ofParams h) hmem
  rw [get?_ofParams h, Option.bind_eq_some_iff] at hget
  obtain ⟨⟨param, type⟩, hlast, hdenoted⟩ := hget
  obtain ⟨hparam, hfield, htype⟩ := mem_of_lastTyped?_eq_some hlast
  obtain ⟨before, after, hsplit, hafter⟩ := exists_split_of_lastTyped? hlast
  have hvalid := (ofParams_eq_ok_iff.mp h).1 param hparam
  refine ⟨before, param, after, hsplit, hfield, by rw [isTyped, htype]; rfl, hafter, ?_⟩
  rw [← hfield]
  exact ofParams_singleton hvalid hdenoted

/-- Parameters of an unknown type may be left out. -/
theorem ofParams_filter_isTyped {params : List SearchParam} {filter : Filter}
    (h : ofParams params = .ok filter) : ofParams (params.filter isTyped) = .ok filter := by
  obtain ⟨hvalid, rfl⟩ := ofParams_eq_ok_iff.mp h
  refine ofParams_eq_ok_iff.mpr ⟨fun param hmem => hvalid param (List.mem_filter.mp hmem).1, ?_⟩
  rw [List.foldl_filter]
  refine List.foldl_ext _ _ _ fun filter param hmem => ?_
  have hdenoted := (hvalid param hmem).isSome_denoted?
  split
  case isTrue => rfl
  case isFalse hunknown =>
    rw [Bool.not_eq_true] at hunknown
    rw [hunknown, Option.isSome_eq_false_iff, Option.isNone_iff_eq_none] at hdenoted
    rw [addParam, hdenoted]

/-- The clauses of a compiled filter are on the fields of the parameters of a known type, each field
once and in the order of first occurrence, and each has the only condition of the last such
parameter on its field. Parameters of an unknown type contribute nothing. One list after another
compiles to the filter of the first, updated in place with the clauses of the second. -/
theorem compiledClauses_ordered :
    (∀ (params : List SearchParam) (filter : Filter), ofParams params = .ok filter →
      filter.clauses.names = (typedFields params).eraseDups ∧ filter.clauses.names.Nodup ∧
      (∀ field condition, (field, condition) ∈ filter.clauses →
        ∃ before param after, params = before ++ param :: after ∧
          param.field = field ∧ param.isTyped = true ∧
          (∀ later ∈ after, later.isTyped = true → later.field ≠ field) ∧
          ofParams [param] = .ok ⟨[(field, condition)]⟩) ∧
      ofParams (params.filter isTyped) = .ok filter) ∧
    ∀ (first second : List SearchParam) (filter : Filter),
      ofParams (first ++ second) = .ok filter ↔ ∃ one two,
        ofParams first = .ok one ∧ ofParams second = .ok two ∧ filter = one.update two := by
  refine ⟨fun params filter h => ⟨?_, distinct_of_ofParams h, ?_, ofParams_filter_isTyped h⟩,
    fun first second filter => ofParams_append_eq_ok_iff⟩
  · obtain ⟨hvalid, rfl⟩ := ofParams_eq_ok_iff.mp h
    exact names_foldl_addParam hvalid
  · exact fun field condition hmem => exists_source_of_mem_clauses h hmem

/-- The second parameter on the name takes the place of the first, and the one of an unknown type
takes none, also if the parameters are compiled in two lists. -/
theorem compiledClauses_ordered_replaced :
    let first : List SearchParam := [⟨"name", "string", "Kiwi", .zero, .zero⟩,
      ⟨"flag", "bool", "yes", .zero, .zero⟩, ⟨"upc", "int", " 42", .zero, .zero⟩]
    let second : List SearchParam := [⟨"lot", "string", "L", .zero, .zero⟩,
      ⟨"name", "string", "Mango", .zero, .zero⟩, ⟨"upc", "bool", "no", .zero, .zero⟩]
    let filter : Filter :=
      ⟨[("name", .eq (.text "Mango")), ("upc", .eq (.int 42)), ("lot", .eq (.text "L"))]⟩
    ofParams (first ++ second) = .ok filter ∧
      filter.clauses.names = (typedFields (first ++ second)).eraseDups ∧
      (∃ before param after, first ++ second = before ++ param :: after ∧
        param.field = "name" ∧ param.isTyped = true ∧
        (∀ later ∈ after, later.isTyped = true → later.field ≠ "name") ∧
        ofParams [param] = .ok ⟨[("name", .eq (.text "Mango"))]⟩) ∧
      ∃ one two, ofParams first = .ok one ∧ ofParams second = .ok two ∧
        filter = one.update two := by
  intro first second filter
  have hcompiles : ofParams (first ++ second) = .ok filter := by decide
  obtain ⟨hnames, -, hsource, -⟩ := compiledClauses_ordered.1 _ _ hcompiles
  exact ⟨hcompiles, hnames, hsource "name" _ List.mem_cons_self,
    (compiledClauses_ordered.2 first second filter).mp hcompiles⟩

end Filter

end Stockroom
