import Stockroom.Proofs.ClauseOrder

/-!
# No clause is idle

A range without bounds would hold every value, an absent one included. The compiler checks that a
limit is set before it knows what the limit will become: not a number, or a fraction that is cut to
zero. This file proves that no clause is lost on the way. Main statement: a filter has a clause on
the field of each parameter of a known type, and a document that it accepts has there a value of the
kind that the type compares.
-/

namespace Stockroom

namespace ParamType

/-- Whether a type compares values of this kind: texts, or numbers. -/
def Compares : ParamType → Json → Prop
  | text, found => ∃ s, found = .string s
  | float, found => ∃ n, found = .number n
  | int, found => ∃ n, found = .number n

end ParamType

namespace Condition

/-- Whether a condition is an equality or a range with a bound. -/
def Restricts : Condition → Prop
  | eq _ => True
  | oneOf _ => False
  | range bounds => bounds.gt.isSome = true ∨ bounds.lt.isSome = true

end Condition

namespace SearchParam

/-- A parameter of a known type has the name of a type for its kind. -/
theorem isTyped_eq_true_iff {param : SearchParam} :
    param.isTyped = true ↔ ∃ type : ParamType, param.kind = type.name := by
  rw [isTyped, Option.isSome_iff_exists]
  simp only [type?, ParamType.ofName?_eq_some_iff]

/-- The range of a parameter with limits has a bound. -/
theorem restricts_range {param : SearchParam} (hlimits : param.hasLimits = true)
    (literal : Double → Literal) : (param.range literal).Restricts := by
  rw [hasLimits, Bool.or_eq_true, Bool.not_eq_true', Bool.not_eq_true'] at hlimits
  rcases hlimits with hlower | hupper
  · left
    simp [limit?, hlower]
  · right
    simp [limit?, hupper]

/-- The condition that a parameter denotes is one of those that its type can have. -/
theorem compiles_of_denoted? {param : SearchParam} {condition : Condition}
    (h : param.denoted? = some condition) :
    ∃ type, param.type? = some type ∧ param.Compiles type condition := by
  obtain ⟨type, htype, hcondition⟩ := Option.bind_eq_some_iff.mp h
  refine ⟨type, htype, ?_⟩
  cases htyped : param.typedCondition 0 type with
  | error e =>
    rw [htyped] at hcondition
    cases hcondition
  | ok found =>
    rw [htyped] at hcondition
    obtain rfl := Option.some.inj hcondition
    exact compiles_of_typedCondition htyped

/-- A valid parameter denotes a condition that restricts. -/
theorem Valid.restricts_of_denoted? {param : SearchParam} (h : param.Valid) {condition : Condition}
    (hdenoted : param.denoted? = some condition) : condition.Restricts := by
  obtain ⟨type, -, hcompiles⟩ := compiles_of_denoted? hdenoted
  have hbounds := h.bounds
  cases hcompiles with
  | text => trivial
  | float => trivial
  | int => trivial
  | floatRange hequal => exact restricts_range (by simpa [hequal] using hbounds) _
  | intRange hequal => exact restricts_range (by simpa [hequal] using hbounds) _

/-- What a parameter asks for is a value of the kind that its type compares. -/
theorem Admits.exists_compares {param : SearchParam} {type : ParamType} {found : Option Json}
    (h : param.Admits type found) : ∃ value, found = some value ∧ type.Compares value := by
  cases type with
  | text =>
    rcases found with _ | found
    · cases h
    · cases found with
      | string s => exact ⟨.string s, rfl, s, rfl⟩
      | _ => cases h
  | float =>
    obtain ⟨n, rfl, -⟩ := (admits_iff_number (by decide) found).mp h
    exact ⟨.number n, rfl, n, rfl⟩
  | int =>
    obtain ⟨n, rfl, -⟩ := (admits_iff_number (by decide) found).mp h
    exact ⟨.number n, rfl, n, rfl⟩

/-- The condition of a valid parameter accepts only values of the kind that its type compares. -/
theorem Valid.exists_compares_of_accepts {param : SearchParam} (h : param.Valid) {type : ParamType}
    (hkind : param.kind = type.name) {condition : Condition}
    (hdenoted : param.denoted? = some condition) {found : Option Json}
    (haccepts : condition.accepts (found.getD .null) = true) :
    ∃ value, found = some value ∧ type.Compares value := by
  have htype : param.type? = some type := ParamType.ofName?_eq_some_iff.mpr hkind
  obtain ⟨other, hother, hadmits⟩ := h.accepts_of_denoted? htype
  obtain rfl := Option.some.inj (hdenoted.symm.trans hother)
  exact ((hadmits found).mp haccepts).exists_compares

end SearchParam

open SearchParam

namespace Filter

variable {params : List SearchParam} {filter : Filter}

/-- The fields of a compiled filter are those of the parameters of a known type. -/
theorem exists_mem_clauses_iff (h : ofParams params = .ok filter) {field : String} :
    (∃ condition, (field, condition) ∈ filter.clauses) ↔
      ∃ param ∈ params, param.isTyped = true ∧ param.field = field := by
  obtain ⟨hvalid, rfl⟩ := ofParams_eq_ok_iff.mp h
  have hnames := names_foldl_addParam hvalid
  have hmem : (∃ condition, (field, condition) ∈ (params.foldl addParam empty).clauses) ↔
      field ∈ (params.foldl addParam empty).clauses.names := by
    simp [Entries.names]
  rw [hmem, hnames, List.mem_eraseDups, typedFields]
  simp [and_assoc]

/-- A compiled filter has no clauses if no parameter has a known type. -/
theorem eq_empty_iff (h : ofParams params = .ok filter) :
    filter = empty ↔ ∀ param ∈ params, ¬ param.isTyped = true := by
  constructor
  · rintro rfl param hmem htyped
    obtain ⟨condition, hclause⟩ := (exists_mem_clauses_iff h).mpr ⟨param, hmem, htyped, rfl⟩
    cases hclause
  · intro hunknown
    obtain ⟨clauses⟩ := filter
    cases clauses with
    | nil => rfl
    | cons clause rest =>
      obtain ⟨field, condition⟩ := clause
      obtain ⟨param, hmem, htyped, -⟩ :=
        (exists_mem_clauses_iff h).mp ⟨condition, List.mem_cons_self⟩
      exact absurd htyped (hunknown param hmem)

/-- A single parameter that compiles to a clause is valid and denotes the condition of the
clause. -/
theorem denoted?_of_ofParams_singleton {param : SearchParam} {condition : Condition}
    (h : ofParams [param] = .ok ⟨[(param.field, condition)]⟩) :
    param.Valid ∧ param.denoted? = some condition := by
  obtain ⟨hvalid, hfilter⟩ := ofParams_eq_ok_iff.mp h
  refine ⟨List.forall_mem_singleton.mp hvalid, ?_⟩
  rw [List.foldl_cons, List.foldl_nil, addParam] at hfilter
  cases hdenoted : param.denoted? with
  | none =>
    rw [hdenoted] at hfilter
    cases hfilter
  | some found =>
    rw [hdenoted] at hfilter
    cases hfilter
    rfl

/-- A compiled filter has no clauses if no parameter has a known type, and otherwise a clause on the
field of each parameter of a known type. Each clause is an equality or a range with a bound, and
comes from the last parameter of a known type on its field. The documents that the filter accepts
have a value there, of the kind that this type compares. -/
theorem compiledClauses_restrict (h : ofParams params = .ok filter) :
    (filter = empty ↔ ∀ param ∈ params, ∀ type : ParamType, param.kind ≠ type.name) ∧
    (∀ param ∈ params, ∀ type : ParamType, param.kind = type.name →
      ∃ condition, (param.field, condition) ∈ filter.clauses) ∧
    ∀ field condition, (field, condition) ∈ filter.clauses →
      condition.Restricts ∧
      ∃ before param after type, params = before ++ param :: after ∧
        param.field = field ∧ param.kind = ParamType.name type ∧
        (∀ later ∈ after, later.isTyped = true → later.field ≠ field) ∧
        ofParams [param] = .ok ⟨[(field, condition)]⟩ ∧
        ∀ doc : Document, filter.accepts doc = true →
          ∃ value, doc.get? field = some value ∧ type.Compares value := by
  refine ⟨?_, ?_, ?_⟩
  · rw [eq_empty_iff h]
    simp only [isTyped_eq_true_iff, not_exists, ne_eq]
  · intro param hmem type hkind
    exact (exists_mem_clauses_iff h).mpr ⟨param, hmem, isTyped_eq_true_iff.mpr ⟨type, hkind⟩, rfl⟩
  · intro field condition hclause
    obtain ⟨before, param, after, hsplit, rfl, htyped, hafter, hsingle⟩ :=
      exists_source_of_mem_clauses h hclause
    obtain ⟨type, hkind⟩ := isTyped_eq_true_iff.mp htyped
    obtain ⟨hvalid, hdenoted⟩ := denoted?_of_ofParams_singleton hsingle
    refine ⟨hvalid.restricts_of_denoted? hdenoted, before, param, after, type, hsplit, rfl, hkind,
      hafter, hsingle, ?_⟩
    intro doc haccepts
    have hcondition : condition.accepts ((doc.get? param.field).getD .null) = true :=
      List.all_eq_true.mp haccepts _ hclause
    exact hvalid.exists_compares_of_accepts hkind hdenoted hcondition

/-- A limit that is not a number bounds words by zero, and doubles so that nothing is accepted. In
either case the clause is there and asks for a number. -/
theorem compiledClauses_restrict_not_a_number :
    let params : List SearchParam := [⟨"upc", "int", "", .nan, .zero⟩,
      ⟨"flag", "bool", "yes", .zero, .zero⟩, ⟨"weight", "float", "", .zero, .nan⟩]
    let words : Filter := ⟨[("upc", .range ⟨some (.int 0), none⟩)]⟩
    let filter : Filter := ⟨words.clauses ++ [("weight", .range ⟨none, some (.float .nan)⟩)]⟩
    let doc : Document := .ofEntries [("upc", .ofInt64 5), ("weight", .ofInt64 5)]
    ofParams params = .ok filter ∧ ofParams (params.take 2) = .ok words ∧
      words.accepts doc = true ∧ filter.accepts doc = false ∧
      filter ≠ empty ∧ (∃ condition, ("weight", condition) ∈ filter.clauses) ∧
      (Condition.range ⟨none, some (.float .nan)⟩).Restricts ∧
      ∃ value type, doc.get? "upc" = some value ∧ ParamType.Compares type value := by
  intro params words filter doc
  have hfilter : ofParams params = .ok filter := by decide
  have hwords : ofParams (params.take 2) = .ok words := by decide
  have haccepts : words.accepts doc = true := by decide +kernel
  obtain ⟨hempty, hfields, hclauses⟩ := compiledClauses_restrict hfilter
  have hne : filter ≠ empty := fun heq => hempty.mp heq _ (.head _) .int rfl
  obtain ⟨hrestricts, -⟩ := hclauses "weight" _ (.tail _ (.head _))
  obtain ⟨-, _, _, _, type, _, _, _, _, _, hvalues⟩ :=
    (compiledClauses_restrict hwords).2.2 "upc" _ (.head _)
  obtain ⟨value, hvalue, hcompares⟩ := hvalues doc haccepts
  refine ⟨hfilter, hwords, haccepts, by decide +kernel, hne, ?_, hrestricts, value, type, hvalue,
    hcompares⟩
  exact hfields _ (.tail _ (.tail _ (.head _))) .float rfl

end Filter

end Stockroom
