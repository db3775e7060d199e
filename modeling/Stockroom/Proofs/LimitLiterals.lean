import Stockroom.Proofs.IntegerRanges

/-!
# Limits that a type cannot hold

The text of a parameter is refused if it writes no number of the type of the parameter. A limit is
compared with zero and nothing else, so it may be infinite, not a number, or beyond the range of
words. Main statement: no limit is ever a reason to refuse a parameter. The literals of a filter are
finite, and its document form has no `null`, just as far as the limits for doubles are finite; and a
limit for words is cut to its whole part just if the reader of stored integers would accept it.
-/

namespace Stockroom

namespace Double

/-- Whether a word is what is left of a number without its fraction. -/
def CutsTo (x : Double) (i : Int64) : Prop :=
  ∃ value, x = finite value ∧ i.toInt = value.trunc

/-- Zeros are finite. -/
theorem isFinite_of_isZero {x : Double} (h : x.isZero = true) : x.isFinite = true := by
  cases x with
  | finite value => rfl
  | nan => cases h
  | infinite negative => cases h

/-- The integer that is read from a number is what is left of it without its fraction. -/
theorem toInt64?_eq_some_iff {x : Double} {i : Int64} : x.toInt64? = some i ↔ x.CutsTo i := by
  constructor
  · intro h
    obtain ⟨value, hfinite, hi⟩ := Option.bind_eq_some_iff.mp h
    split at hi
    case isFalse => cases hi
    case isTrue hfits =>
      obtain rfl := Option.some.inj hi
      cases x with
      | finite found =>
        obtain rfl := Option.some.inj hfinite
        exact ⟨found, rfl, Int64.toInt_ofInt_of_le hfits.1 hfits.2⟩
      | nan => cases hfinite
      | infinite negative => cases hfinite
  · rintro ⟨value, rfl, hi⟩
    have hfits : FitsInt64 value.trunc := hi ▸ ⟨Int64.le_toInt i, Int64.toInt_lt i⟩
    have hword : Int64.ofInt value.trunc = i := hi ▸ Int64.ofInt_toInt i
    simp [toInt64?, finite?, hfits, hword]

/-- A number that is cut to the range of words is cut to its whole part if an integer is read from
it. -/
theorem cutsTo_clampInt64_iff {x : Double} :
    x.CutsTo x.clampInt64 ↔ x.toInt64?.isSome = true := by
  rw [Option.isSome_iff_exists]
  constructor
  · intro h
    exact ⟨x.clampInt64, toInt64?_eq_some_iff.mpr h⟩
  · rintro ⟨i, hi⟩
    obtain ⟨value, rfl, htrunc⟩ := toInt64?_eq_some_iff.mp hi
    have hleast := Int64.le_toInt i
    have hgreatest := Int64.toInt_lt i
    refine ⟨value, rfl, ?_⟩
    rw [value.toInt_clampInt64]
    omega

end Double

namespace Json

/-- Whether a `null` stands somewhere in a value. -/
inductive HasNull : Json → Prop
  | null : HasNull null
  | item {items : List Json} {value : Json} (hmem : value ∈ items) (h : HasNull value) :
      HasNull (array items)
  | member {members : List (String × Json)} {name : String} {value : Json}
      (hmem : (name, value) ∈ members) (h : HasNull value) : HasNull (object members)

/-- A `null` in an array stands in one of its items. -/
theorem hasNull_array_iff {items : List Json} :
    (array items).HasNull ↔ ∃ value ∈ items, value.HasNull := by
  constructor
  · rintro (_ | ⟨hmem, h⟩)
    exact ⟨_, hmem, h⟩
  · rintro ⟨value, hmem, h⟩
    exact .item hmem h

/-- A `null` in an object stands in the value of one of its members. -/
theorem hasNull_object_iff {members : List (String × Json)} :
    (object members).HasNull ↔ ∃ member ∈ members, member.2.HasNull := by
  constructor
  · rintro (_ | _ | ⟨hmem, h⟩)
    exact ⟨_, hmem, h⟩
  · rintro ⟨⟨name, value⟩, hmem, h⟩
    exact .member hmem h

end Json

namespace Literal

/-- Whether a literal is no double beyond the finite ones. -/
def IsFinite : Literal → Prop
  | float x => x.isFinite = true
  | text _ => True
  | int _ => True

/-- The JSON form of a literal is `null` if the literal is not finite. -/
theorem hasNull_toJson_iff {literal : Literal} : literal.toJson.HasNull ↔ ¬ literal.IsFinite := by
  cases literal with
  | text s => exact iff_of_false nofun (not_not_intro trivial)
  | int i => exact iff_of_false nofun (not_not_intro trivial)
  | float x =>
    cases x with
    | finite value => exact iff_of_false nofun (not_not_intro rfl)
    | nan => exact iff_of_true .null nofun
    | infinite negative => exact iff_of_true .null nofun

end Literal

namespace Condition

/-- The literals of a condition. -/
def literals : Condition → List Literal
  | eq literal => [literal]
  | oneOf literals => literals
  | range ⟨gt, lt⟩ => gt.toList ++ lt.toList

/-- The JSON form of a condition has a `null` for each literal that is not finite. -/
theorem hasNull_toJson_iff {condition : Condition} :
    condition.toJson.HasNull ↔ ∃ literal ∈ condition.literals, ¬ literal.IsFinite := by
  cases condition with
  | eq literal =>
    simp [toJson, literals, Json.hasNull_object_iff, Literal.hasNull_toJson_iff]
  | oneOf items =>
    simp [toJson, literals, Json.hasNull_object_iff, Json.hasNull_array_iff,
      Literal.hasNull_toJson_iff]
  | range bounds =>
    obtain ⟨gt, lt⟩ := bounds
    cases gt <;> cases lt <;>
      simp [toJson, literals, Json.hasNull_object_iff, Literal.hasNull_toJson_iff]

end Condition

namespace SearchParam

/-- The parameter with its limits changed. -/
def mapLimits (change : Double → Double) (param : SearchParam) : SearchParam :=
  { param with lowerLimit := change param.lowerLimit, upperLimit := change param.upperLimit }

/-- A valid parameter stays valid if its limits are changed and those that are set stay so. -/
theorem Valid.mapLimits {param : SearchParam} (h : param.Valid) {change : Double → Double}
    (hzero : ∀ x, (change x).isZero = x.isZero) : (param.mapLimits change).Valid := by
  obtain ⟨hkind, hfield, hbounds, hsuits⟩ := h
  have hlimited : (param.mapLimits change).Limited ↔ param.Limited := by
    simp only [Limited, SearchParam.mapLimits, hzero]
  refine ⟨hkind, hfield, hbounds.trans (not_congr hlimited.symm), fun type htype => ?_⟩
  -- What a type makes of the text does not depend on the limits.
  have hsame := hsuits type htype
  cases type <;> exact hsame

/-- The literals of a parameter for doubles are finite if its limits are. -/
theorem Compiles.isFinite_iff {param : SearchParam} (hvalid : param.Valid) {condition : Condition}
    (h : param.Compiles .float condition) : (∀ literal ∈ condition.literals, literal.IsFinite) ↔
      param.lowerLimit.isFinite = true ∧ param.upperLimit.isFinite = true := by
  cases h with
  | float hequal hread =>
    have hunset : param.lowerLimit.isZero = true ∧ param.upperLimit.isZero = true := by
      simpa [hequal, hasLimits] using hvalid.bounds
    have hfinite := (readFloat_eq_ok_iff.mp hread).2
    simp [Condition.literals, Literal.IsFinite, hfinite, Double.isFinite_of_isZero hunset.1,
      Double.isFinite_of_isZero hunset.2]
  | floatRange hequal =>
    have hlimit (limit : Double) : (∀ literal ∈ ((limit? limit).map Literal.float).toList,
        literal.IsFinite) ↔ limit.isFinite = true := by
      rw [limit?]
      cases hzero : limit.isZero with
      | false => simp [Literal.IsFinite]
      | true => simp [Double.isFinite_of_isZero hzero]
    rw [range, Condition.literals, List.forall_mem_append, hlimit, hlimit]

/-- The literals of a parameter for texts or words are finite. -/
theorem Compiles.isFinite {param : SearchParam} {type : ParamType} (htype : type ≠ .float)
    {condition : Condition} (h : param.Compiles type condition) :
    ∀ literal ∈ condition.literals, literal.IsFinite := by
  cases h with
  | text => simp [Condition.literals, Literal.IsFinite]
  | int => simp [Condition.literals, Literal.IsFinite]
  | intRange =>
    simp only [range, Condition.literals, List.mem_append, Option.mem_toList,
      Option.map_eq_some_iff]
    rintro literal (⟨limit, -, rfl⟩ | ⟨limit, -, rfl⟩) <;> trivial
  | float => exact absurd rfl htype
  | floatRange => exact absurd rfl htype

/-- Whether a bound stands for a limit: none if the limit is unset, and otherwise a word, which is
the limit without its fraction just if an integer would be read from the limit. -/
def WordBound (limit : Double) (bound : Option Literal) : Prop :=
  (limit.isZero = true ∧ bound = none) ∨
    (limit.isZero = false ∧ ∃ i, bound = some (.int i) ∧
      (limit.CutsTo i ↔ limit.toInt64?.isSome = true))

/-- A limit for words becomes a bound that stands for it. -/
theorem wordBound_limit? (limit : Double) :
    WordBound limit ((limit? limit).map fun limit => .int limit.clampInt64) := by
  rw [limit?]
  cases hzero : limit.isZero with
  | true => exact .inl ⟨hzero, rfl⟩
  | false => exact .inr ⟨hzero, limit.clampInt64, rfl, Double.cutsTo_clampInt64_iff⟩

end SearchParam

open SearchParam

namespace Filter

variable {params : List SearchParam} {filter : Filter}

/-- The literals of a filter. -/
def literals (filter : Filter) : List Literal :=
  filter.clauses.flatMap fun (_, condition) => condition.literals

/-- The member of a document form that stands for a clause. -/
def clauseMember (clause : String × Condition) : String × Json :=
  (clause.1, clause.2.toJson)

/-- The document form has a member for each clause. -/
theorem Distinct.members_toDocument (h : filter.Distinct) :
    filter.toDocument.members = filter.clauses.map clauseMember := by
  have hnames : Entries.names (filter.clauses.map clauseMember) = filter.clauses.names := by
    simp [Entries.names, clauseMember]
  exact (Document.members_ofEntries _).trans (Entries.putAll_nil_eq_self (hnames.symm ▸ h))

/-- The document form of a filter has a `null` for each literal that is not finite. -/
theorem Distinct.hasNull_toDocument_iff (h : filter.Distinct) :
    filter.toDocument.toJson.HasNull ↔ ∃ literal ∈ filter.literals, ¬ literal.IsFinite := by
  rw [Document.toJson, h.members_toDocument, Json.hasNull_object_iff]
  simp only [clauseMember, literals, List.mem_map, List.mem_flatMap, exists_exists_and_eq_and,
    Condition.hasNull_toJson_iff]
  constructor
  · rintro ⟨clause, hclause, literal, hliteral, hinfinite⟩
    exact ⟨literal, ⟨clause, hclause, hliteral⟩, hinfinite⟩
  · rintro ⟨literal, ⟨clause, hclause, hliteral⟩, hinfinite⟩
    exact ⟨clause, hclause, literal, hliteral, hinfinite⟩

/-- A clause of a compiled filter is a condition that the type of the last parameter on its field
can have. -/
theorem exists_lastTyped?_of_mem_clauses (h : ofParams params = .ok filter) {field : String}
    {condition : Condition} (hclause : (field, condition) ∈ filter.clauses) :
    ∃ param type, lastTyped? params field = some (param, type) ∧
      param.Compiles type condition := by
  have hget : filter.get? field = some condition :=
    Entries.get?_eq_some_of_mem (distinct_of_ofParams h) hclause
  rw [get?_ofParams h, Option.bind_eq_some_iff] at hget
  obtain ⟨⟨param, type⟩, hlast, hdenoted⟩ := hget
  obtain ⟨-, -, htype⟩ := mem_of_lastTyped?_eq_some hlast
  obtain ⟨found, hfound, hcompiles⟩ := compiles_of_denoted? hdenoted
  obtain rfl := Option.some.inj (htype.symm.trans hfound)
  exact ⟨param, type, hlast, hcompiles⟩

/-- The last parameter of a known type on a field has a clause there. -/
theorem exists_get?_of_lastTyped? (h : ofParams params = .ok filter) {field : String}
    {param : SearchParam} {type : ParamType}
    (hlast : lastTyped? params field = some (param, type)) :
    param.Valid ∧ ∃ condition, filter.get? field = some condition ∧
      param.Compiles type condition := by
  obtain ⟨hmem, -, htype⟩ := mem_of_lastTyped?_eq_some hlast
  have hvalid := (ofParams_eq_ok_iff.mp h).1 param hmem
  obtain ⟨condition, hdenoted, -⟩ := hvalid.accepts_of_denoted? htype
  obtain ⟨found, hfound, hcompiles⟩ := compiles_of_denoted? hdenoted
  obtain rfl := Option.some.inj (htype.symm.trans hfound)
  refine ⟨hvalid, condition, ?_, hcompiles⟩
  rw [get?_ofParams h, hlast, Option.bind_some, hdenoted]

/-- The literals of a filter are finite if the limits of the parameters for doubles are. -/
theorem isFinite_literals_iff (h : ofParams params = .ok filter) :
    (∀ literal ∈ filter.literals, literal.IsFinite) ↔
      ∀ field param, lastTyped? params field = some (param, .float) →
        param.lowerLimit.isFinite = true ∧ param.upperLimit.isFinite = true := by
  constructor
  · intro hfinite field param hlast
    obtain ⟨hvalid, condition, hget, hcompiles⟩ := exists_get?_of_lastTyped? h hlast
    have hclause : (field, condition) ∈ filter.clauses := Entries.mem_of_get?_eq_some hget
    refine (hcompiles.isFinite_iff hvalid).mp fun literal hliteral => hfinite literal ?_
    exact List.mem_flatMap.mpr ⟨_, hclause, hliteral⟩
  · intro hlimits literal hliteral
    obtain ⟨⟨field, condition⟩, hclause, hcondition⟩ := List.mem_flatMap.mp hliteral
    obtain ⟨param, type, hlast, hcompiles⟩ := exists_lastTyped?_of_mem_clauses h hclause
    by_cases htype : type = .float
    · subst htype
      obtain ⟨hvalid, -⟩ := exists_get?_of_lastTyped? h hlast
      exact (hcompiles.isFinite_iff hvalid).mpr (hlimits field param hlast) literal hcondition
    · exact hcompiles.isFinite htype literal hcondition

/-- Parameters compile, whatever the limits that are set. -/
theorem exists_ofParams_mapLimits (h : ofParams params = .ok filter) {change : Double → Double}
    (hzero : ∀ x, (change x).isZero = x.isZero) :
    ∃ other, ofParams (params.map (mapLimits change)) = .ok other := by
  refine ⟨_, ofParams_eq_ok_iff.mpr ⟨List.forall_mem_map.mpr fun param hmem => ?_, rfl⟩⟩
  exact ((ofParams_eq_ok_iff.mp h).1 param hmem).mapLimits hzero

/-- No limit is a reason to refuse a parameter. The literals of a compiled filter are finite just if
the limits for doubles are, and its document form has a `null` just if a literal is not finite. The
bounds of a range of words are its limits without their fractions just as far as an integer would be
read from them. -/
theorem limits_never_refused (h : ofParams params = .ok filter) :
    (∀ change : Double → Double, (∀ x, (change x).isZero = x.isZero) →
      ∃ other, ofParams (params.map (mapLimits change)) = .ok other) ∧
    ((∀ literal ∈ filter.literals, literal.IsFinite) ↔
      ∀ field param, lastTyped? params field = some (param, .float) →
        param.lowerLimit.isFinite = true ∧ param.upperLimit.isFinite = true) ∧
    (filter.toDocument.toJson.HasNull ↔ ∃ literal ∈ filter.literals, ¬ literal.IsFinite) ∧
    ∀ field param, lastTyped? params field = some (param, .int) → param.equal = "" →
      ∃ gt lt, filter.get? field = some (.range ⟨gt, lt⟩) ∧
        WordBound param.lowerLimit gt ∧ WordBound param.upperLimit lt := by
  refine ⟨fun change hzero => exists_ofParams_mapLimits h hzero, isFinite_literals_iff h,
    (distinct_of_ofParams h).hasNull_toDocument_iff, ?_⟩
  intro field param hlast hequal
  obtain ⟨-, condition, hget, hcompiles⟩ := exists_get?_of_lastTyped? h hlast
  cases hcompiles with
  | int hgiven => exact absurd hequal (hasEqual_eq_true_iff.mp hgiven)
  | intRange => exact ⟨_, _, hget, wordBound_limit? _, wordBound_limit? _⟩

/-- A limit that is not a number stays, and one beyond the range of words is cut to its end. With
infinite limits in their place the parameters compile too. -/
theorem limits_never_refused_extreme :
    let widen : Double → Double := fun x => if x.isZero then x else .infinite true
    let params : List SearchParam := [⟨"weight", "float", "", .nan, .zero⟩,
      ⟨"upc", "int", "", .zero, .infinite false⟩]
    let filter : Filter := ⟨[("weight", .range ⟨some (.float .nan), none⟩),
      ("upc", .range ⟨none, some (.int Int64.maxValue)⟩)]⟩
    ofParams params = .ok filter ∧
      (∃ other, ofParams (params.map (mapLimits widen)) = .ok other) ∧
      ¬ (∀ literal ∈ filter.literals, literal.IsFinite) ∧
      filter.toDocument.toJson.HasNull ∧
      ∃ gt lt, filter.get? "upc" = some (.range ⟨gt, lt⟩) ∧
        WordBound .zero gt ∧ WordBound (.infinite false) lt := by
  intro widen params filter
  have hcompiles : ofParams params = .ok filter := by decide
  obtain ⟨hchange, hfinite, hnull, hwords⟩ := limits_never_refused hcompiles
  have hwiden : ∀ x, (widen x).isZero = x.isZero := by
    intro x
    by_cases hzero : x.isZero = true
    · simp only [widen, if_pos hzero]
    · have hset : x.isZero = false := by simpa using hzero
      rw [hset]
      simp only [widen, if_neg hzero]
      rfl
  have hbad : ¬ (∀ literal ∈ filter.literals, literal.IsFinite) := by
    intro hall
    have hlast : lastTyped? params "weight" = some (⟨"weight", "float", "", .nan, .zero⟩, .float) :=
      by decide
    cases (hfinite.mp hall "weight" _ hlast).1
  refine ⟨hcompiles, hchange widen hwiden, hbad, ?_, ?_⟩
  · rw [hnull]
    simpa using hbad
  · exact hwords "upc" ⟨"upc", "int", "", .zero, .infinite false⟩ (by decide) rfl

/-- Limits are not refused where texts are: not a number is no text of a finite number, but a limit
for doubles, so that the document form has a `null`; and ten to the nineteenth is no text of a word,
but a limit for words, cut to the greatest word. -/
theorem limits_accepted_beyond_texts :
    let huge : Double.Finite := ⟨false, 10000000000000000000 * Double.one, by decide +kernel⟩
    let doubles : Filter := ⟨[("weight", .range ⟨some (.float .nan), none⟩)]⟩
    let words : Filter := ⟨[("upc", .range ⟨some (.int Int64.maxValue), none⟩)]⟩
    (ofParams [⟨"weight", "float", "NaN", .zero, .zero⟩] =
        .error (.badFloat 0 "weight" "NaN" .notFinite) ∧
      ofParams [⟨"weight", "float", "", .nan, .zero⟩] = .ok doubles ∧
      doubles.toDocument.toJson.HasNull) ∧
    ofParams [⟨"upc", "int", "10000000000000000000", .zero, .zero⟩] =
        .error (.badInt 0 "upc" "10000000000000000000" .tooLarge) ∧
      ofParams [⟨"upc", "int", "", .finite huge, .zero⟩] = .ok words ∧
      (Double.finite huge).toInt64? = none ∧ ¬ (Double.finite huge).CutsTo Int64.maxValue := by
  intro huge doubles words
  have hunread : (Double.finite huge).toInt64? = none := by decide +kernel
  refine ⟨⟨by decide, by decide, ?_⟩, by decide, by decide +kernel, hunread, ?_⟩
  · exact .member (.head _) (.member (.head _) .null)
  · rw [← Double.toInt64?_eq_some_iff, hunread]
    exact nofun

end Filter

end Stockroom
